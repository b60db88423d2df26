import SecretScan.Checkout
import SecretScan.Proofs.Files.Schedule
import SecretScan.Proofs.History.Schedule

/-!
# The candidates of a scan

What a scan of files and history is to find: a candidate for every detector that is selected for the
text of a file, or for an added line, and makes a hit in it. Verification may annotate a candidate,
so findings are compared without what it can add.
-/

namespace SecretScan

/-- A hit less what verification can add. -/
def Hit.plain (h : Hit) : Hit := { h with verified := false, details := [] }

/-- A finding less what verification can add. -/
def Finding.plain (f : Finding) : Finding := { f with hit := f.hit.plain }

/-- The core of a hit is all that is left of it. -/
theorem Hit.map_plain (hits : List Hit) : hits.map Hit.plain =
    (hits.map Hit.core).map fun c => ⟨c.1, c.2.1, false, c.2.2, []⟩ := by
  rw [List.map_map]
  rfl

theorem Files.map_plain_findingsOf (path : String) (text : List Char) (hits : List Hit) :
    (findingsOf path text hits).map Finding.plain = findingsOf path text (hits.map Hit.plain) := by
  rw [findingsOf, findingsOf, List.map_map, List.map_map]
  rfl

theorem History.map_plain_inCommit (path : String) (commit : Commit) (hits : List Hit) :
    (hits.map fun h => Finding.inCommit h path commit).map Finding.plain =
      (hits.map Hit.plain).map fun h => Finding.inCommit h path commit := by
  rw [List.map_map, List.map_map]
  rfl

/-- How a finding is kept and shown does not depend on what verification has added to it. -/
theorem Sink.plain_viewOf (s : Sink) (f : Finding) :
    (s.viewOf f).plain = (s.viewOf f.plain).plain := by
  rw [viewOf, viewOf, present, present]
  split <;> rfl

theorem Sink.map_plain_viewOf (s : Sink) (fs : List Finding) :
    (fs.map s.viewOf).map Finding.plain =
      ((fs.map Finding.plain).map s.viewOf).map Finding.plain := by
  rw [List.map_map, List.map_map, List.map_map]
  exact List.map_congr_left fun f _ => s.plain_viewOf f

namespace Checkout

/-- The added lines in the log of a past, if there is one. -/
def addedIn (o : ScanOptions) (past : Option Past) : List AddedLine :=
  match past with
  | some ⟨_, .ok run⟩ => (DiffParser.new o.exclusions.paths).addedLines (Git.linesOf run.output)
  | _ => []

/-- The candidates in the files that a walk has read, and in the added lines of a past. -/
def candidates (e : Engine) (o : ScanOptions) (outcomes : List Files.Outcome)
    (past : Option Past) : List Finding :=
  (outcomes.filterMap Files.Outcome.file?).flatMap (Files.findingsInFile e) ++
    (addedIn o past).flatMap (History.findingsIn e)

theorem candidates_ne_nil_iff (e : Engine) (o : ScanOptions) (outcomes : List Files.Outcome)
    (past : Option Past) : candidates e o outcomes past ≠ [] ↔
      (∃ path content, .scanned path content ∈ outcomes ∧ e.hits (Files.textOf content) ≠ []) ∨
        ∃ a ∈ addedIn o past, e.hits a.line.toList ≠ [] := by
  have hfiles : (outcomes.filterMap Files.Outcome.file?).flatMap (Files.findingsInFile e) ≠ [] ↔
      ∃ path content, .scanned path content ∈ outcomes ∧ e.hits (Files.textOf content) ≠ [] := by
    constructor
    · intro hne
      obtain ⟨f, hf⟩ := List.exists_mem_of_ne_nil _ hne
      obtain ⟨⟨path, content⟩, hfile, hfound⟩ := List.mem_flatMap.mp hf
      obtain ⟨x, hx, hxfile⟩ := List.mem_filterMap.mp hfile
      cases x with
      | scanned p c =>
          obtain ⟨rfl, rfl⟩ := Prod.mk.inj (Option.some.inj hxfile)
          refine ⟨p, c, hx, fun hnil => ?_⟩
          simp [Files.findingsInFile, Files.findingsOf, hnil] at hfound
      | _ => cases hxfile
    · rintro ⟨path, content, hx, hhits⟩ hnil
      have hfile : (path, content) ∈ outcomes.filterMap Files.Outcome.file? :=
        List.mem_filterMap.mpr ⟨_, hx, rfl⟩
      have hnone := List.flatMap_eq_nil_iff.mp hnil (path, content) hfile
      exact hhits (List.map_eq_nil_iff.mp hnone)
  have hlines : (addedIn o past).flatMap (History.findingsIn e) ≠ [] ↔
      ∃ a ∈ addedIn o past, e.hits a.line.toList ≠ [] := by
    simp [List.flatMap_eq_nil_iff, History.findingsIn]
  rw [candidates, ne_eq, List.append_eq_nil_iff, not_and_or]
  exact or_congr hfiles hlines

/-- Can there be as many permits as the limits ask for? The limit for the log is not asked for
unless git has been started. -/
def LimitsFit (o : ScanOptions) (past : Option Past) : Prop :=
  max o.maxOpenFiles 1 ≤ maxPermits ∧
    ∀ p ∈ past, p.run.isOk = true → max o.maxPendingLines 1 ≤ maxPermits

/-- Can the log be read to its end? With checks the program breaks down where the count of lines
runs over. -/
def CountFits (b : Build) (o : ScanOptions) (past : Option Past) : Prop :=
  ∀ p ∈ past, ∀ run, p.run = .ok run →
    (DiffParser.new o.exclusions.paths).Fits b (Git.linesOf run.output)

theorem countFits_none (b : Build) (o : ScanOptions) : CountFits b o none := nofun

theorem countFits_of_unstarted (b : Build) (o : ScanOptions) {range : Git.Range}
    {err : SystemError} : CountFits b o (some ⟨range, .error err⟩) := by
  rintro _ ⟨⟩ run hrun
  cases hrun

theorem countFits_of_run {b : Build} {o : ScanOptions} {range : Git.Range} {run : Git.Run} :
    CountFits b o (some ⟨range, .ok run⟩) ↔
      (DiffParser.new o.exclusions.paths).Fits b (Git.linesOf run.output) := by
  constructor
  · exact fun h => h _ rfl run rfl
  · rintro h _ ⟨⟩ run' hrun
    obtain rfl := Except.ok.inj hrun
    exact h

/-- Has git been started, and ended well? -/
def IsWell (p : Past) : Prop := ∃ run, p.run = .ok run ∧ run.status = .exited 0

/-- Is there nothing that ends a scan before its end? The root can be walked, with these outcomes,
and git ends well if it is asked for a log. -/
def GoesWell (o : ScanOptions) (root : String) (found : Except SystemError Entry)
    (past : Option Past) (outcomes : List Files.Outcome) : Prop :=
  Files.walk o root found = .ok outcomes ∧ ∀ p ∈ past, IsWell p

end Checkout

end SecretScan
