import SecretScan.History.Schedule
import SecretScan.Proofs.Engine
import SecretScan.Proofs.History.LookBack
import SecretScan.Proofs.History.Overflow
import SecretScan.Proofs.Schedule
import SecretScan.Proofs.Text.Pieces
import Mathlib.Algebra.GroupWithZero.Nat
import Mathlib.Data.List.Flatten
import Mathlib.Logic.Relation

/-!
# Every schedule of a scan of history

The findings that a scan has emitted, those that its tasks owe and those in the lines that it has
not read stay the same, but for their order, with every step. So whatever order the tasks take, a
scan that is over has emitted the same findings. A scan that is not over can go on, unless the
program breaks down, and none goes on forever.
-/

namespace SecretScan.History

/-! ## The lines of an output -/

/-- The parts of an output between line feeds. Behind a line feed at the end there is none. -/
def linePieces (output : List UInt8) : List (List UInt8) :=
  let pieces := output.splitOn 0x0A
  if pieces.getLast? = some [] then pieces.dropLast else pieces

/-- The text of a line: decoded by itself, less one carriage return at its end. -/
def lineText (bytes : List UInt8) : List Char :=
  let text := Text.Utf8.decodeLossy bytes
  if text.getLast? = some '\r' then text.dropLast else text

theorem linesOf_eq (output : List UInt8) :
    Git.linesOf output = (linePieces output).map lineText := by
  rw [Git.linesOf, Text.segments_eq_splitOn]
  rfl

/-! ## What is to be found -/

/-- The findings in an added line, one for each selected detector that makes a hit in it. -/
def findingsIn (e : Engine) (a : AddedLine) : List Finding :=
  (e.hits a.line.toList).map fun h => .inCommit h a.path a.commit

theorem scanLines_off {m : Type → Type} [Monad m] [LawfulMonad m] (e : Engine) (ask : Inquiry m)
    (as : List AddedLine) : scanLines e ask false as = pure (as.flatMap (findingsIn e)) := by
  have hscan : scanLine e ask false = fun a => pure (findingsIn e a) := by
    funext a
    rw [scanLine, Engine.scanText_off, pure_bind]
    rfl
  rw [scanLines, hscan, List.mapM_pure, pure_bind, List.flatMap_def]

namespace LineTask

/-- The findings that a task still owes. -/
def due (t : LineTask) : List Finding :=
  (t.hits ++ t.pending.filterMap (·.find? t.added.line.toList)).map t.finding

/-- A bound for the number of steps that a task still takes. -/
def work (t : LineTask) : Nat := 2 * t.pending.length + t.hits.length + 1

end LineTask

namespace Progress

variable {b : Build} {e : Engine} {s t : Progress}

/-- What a scan has emitted, what its tasks and the waiting line owe, and what it has not read. -/
def outcome (e : Engine) (s : Progress) : List Finding :=
  s.emitted ++ (s.tasks.flatMap LineTask.due ++
    (s.waiting.toList.flatMap (fun w => LineTask.due ⟨w.1, e.candidates w.2, []⟩) ++
      (s.parser.addedLines s.unread).flatMap (findingsIn e)))

theorem due_new (e : Engine) (a : AddedLine) :
    LineTask.due ⟨a, e.candidates (e.prefilter.select a.line.toList), []⟩ = findingsIn e a := rfl

theorem findingsIn_eq_nil {e : Engine} {a : AddedLine}
    (h : e.prefilter.select a.line.toList = []) : findingsIn e a = [] := by
  simp [findingsIn, Engine.hits, Engine.candidates, h]

/-- A candidate that is done leaves its hit, if it makes one, in its place. -/
theorem due_finish_perm (t : LineTask) {before after : List Detector} {d : Detector}
    (hpending : t.pending = before ++ d :: after) :
    ({ t with
        pending := before ++ after
        hits := t.hits ++ (d.find? t.added.line.toList).toList } : LineTask).due.Perm t.due := by
  simp only [LineTask.due, hpending, List.append_assoc]
  refine List.Perm.map _ (List.Perm.append_left _ ?_)
  rw [List.filterMap_append, List.filterMap_append, ← List.append_assoc]
  cases hfind : d.find? t.added.line.toList with
  | none => simp [hfind]
  | some h =>
      simpa [hfind] using List.perm_middle.symm

theorem Next.outcome_perm (h : Next b e s t) : (t.outcome e).Perm (s.outcome e) := by
  cases h with
  | pass waiting unread fed =>
      have hfeed := (DiffParser.feed?_eq_ok_iff.mp fed).2
      simp [outcome, waiting, unread, DiffParser.addedLines_cons, hfeed]
  | count waiting unread fed selected =>
      have hfeed := (DiffParser.feed?_eq_ok_iff.mp fed).2
      simp [outcome, waiting, unread, DiffParser.addedLines_cons, hfeed,
        findingsIn_eq_nil selected]
  | await waiting unread fed selected =>
      have hfeed := (DiffParser.feed?_eq_ok_iff.mp fed).2
      simp [outcome, waiting, unread, DiffParser.addedLines_cons, hfeed, due_new]
  | spawn waiting permit =>
      simp [outcome, waiting]
  | finish tasks pending =>
      refine List.Perm.append_left _ (List.Perm.append_right _ ?_)
      rw [tasks, List.flatMap_append, List.flatMap_append, List.flatMap_cons, List.flatMap_cons]
      exact List.Perm.append_left _ (List.Perm.append_right _ (due_finish_perm _ pending))
  | @emit front back task hit rest tasks pending hits =>
      have hdue : task.due = task.finding hit :: LineTask.due { task with hits := rest } := by
        simp [LineTask.due, LineTask.finding, pending, hits]
      simp only [outcome, tasks, List.flatMap_append, List.flatMap_cons, hdue, List.append_assoc,
        List.cons_append, List.nil_append]
      exact List.Perm.append_left _ List.perm_middle.symm
  | leave tasks pending hits =>
      simp [outcome, tasks, LineTask.due, pending, hits]

/-! ## What is counted -/

/-- The number of added lines in the whole log. -/
def lineCount (s : Progress) : Nat := s.linesScanned + (s.parser.addedLines s.unread).length

/-- The commits in the whole log. -/
def commitCount (s : Progress) : Nat := (s.parser.feedAll s.unread).1.commitsSeen

theorem Next.lineCount_eq (h : Next b e s t) : t.lineCount = s.lineCount := by
  cases h with
  | pass waiting unread fed =>
      have hfeed := (DiffParser.feed?_eq_ok_iff.mp fed).2
      simp [lineCount, unread, DiffParser.addedLines_cons, hfeed]
  | count waiting unread fed | await waiting unread fed =>
      have hfeed := (DiffParser.feed?_eq_ok_iff.mp fed).2
      simp only [lineCount, unread, DiffParser.addedLines_cons, hfeed, List.length_append,
        Option.toList_some, List.length_singleton]
      omega
  | _ => rfl

theorem Next.commitCount_eq (h : Next b e s t) : t.commitCount = s.commitCount := by
  cases h with
  | pass waiting unread fed | count waiting unread fed | await waiting unread fed =>
      have hfeed := (DiffParser.feed?_eq_ok_iff.mp fed).2
      simp [commitCount, unread, DiffParser.feedAll_cons, hfeed]
  | _ => rfl

/-- No step changes whether the log can be read to its end. -/
theorem Next.fits_iff (h : Next b e s t) :
    t.parser.Fits b t.unread ↔ s.parser.Fits b s.unread := by
  cases h with
  | pass waiting unread fed | count waiting unread fed | await waiting unread fed =>
      rw [unread]
      exact (DiffParser.fits_iff_of_feed? fed).symm
  | _ => rfl

/-- Every permit is free or held by a task. -/
theorem Next.permits_eq (h : Next b e s t) :
    t.free + t.tasks.length = s.free + s.tasks.length := by
  cases h with
  | spawn waiting permit =>
      simp only [List.length_append, List.length_singleton]
      omega
  | finish tasks pending => simp [tasks]
  | emit tasks pending hits => simp [tasks]
  | leave tasks pending hits =>
      simp only [tasks, List.length_append, List.length_cons]
      omega
  | _ => rfl

/-! ## Coming to an end -/

/-- A bound for the number of steps that a scan still takes. -/
def work (e : Engine) (s : Progress) : Nat :=
  s.unread.length * (2 * e.prefilter.size + 3) +
    (s.waiting.elim 0 fun w => 2 * (e.candidates w.2).length + 2) +
      (s.tasks.map LineTask.work).sum

theorem Next.work_lt (h : Next b e s t) : t.work e < s.work e := by
  cases h with
  | pass waiting unread fed | count waiting unread fed =>
      simp only [work, unread, List.length_cons, Nat.succ_mul]
      omega
  | @await line rest parser a waiting unread fed =>
      -- A line that is read may be given to as many detectors as there are.
      have hle := e.length_candidates_select_le a.line.toList
      simp only [work, unread, waiting, List.length_cons, Nat.succ_mul, Option.elim_some,
        Option.elim_none]
      omega
  | spawn waiting permit =>
      simp only [work, waiting, LineTask.work, List.map_append, List.map_cons, List.map_nil,
        List.sum_append, List.sum_cons, List.sum_nil, List.length_nil, Option.elim_some,
        Option.elim_none]
      omega
  | @finish front back task before after d tasks pending =>
      have hle : (d.find? task.added.line.toList).toList.length ≤ 1 := by
        cases d.find? task.added.line.toList <;> simp
      simp only [work, tasks, LineTask.work, pending, List.map_append, List.map_cons,
        List.sum_append, List.sum_cons, List.length_append, List.length_cons]
      omega
  | emit tasks pending hits =>
      simp only [work, tasks, LineTask.work, hits, List.map_append, List.map_cons,
        List.sum_append, List.sum_cons, List.length_cons]
      omega
  | leave tasks pending hits =>
      simp only [work, tasks, LineTask.work, List.map_append, List.map_cons, List.sum_append,
        List.sum_cons]
      omega

/-- A task can always take a step. -/
theorem exists_next_of_task (b : Build) (e : Engine) (h : s.tasks ≠ []) : ∃ t, Next b e s t := by
  obtain ⟨task, back, htasks⟩ := List.exists_cons_of_ne_nil h
  have htasks : s.tasks = [] ++ task :: back := htasks
  cases hpending : task.pending with
  | cons d after =>
      have hpending : task.pending = [] ++ d :: after := hpending
      exact ⟨_, .finish htasks hpending⟩
  | nil =>
      cases hhits : task.hits with
      | cons hit rest => exact ⟨_, .emit htasks hpending hhits⟩
      | nil => exact ⟨_, .leave htasks hpending hhits⟩

/-- The next line is read, or the program breaks down at it. -/
theorem breaksDown_or_exists_next (b : Build) (e : Engine) (hwaiting : s.waiting = none)
    (h : s.unread ≠ []) : (∃ f, s.BreaksDown b f) ∨ ∃ t, Next b e s t := by
  obtain ⟨line, rest, hunread⟩ := List.exists_cons_of_ne_nil h
  cases hfed : s.parser.feed? b line with
  | error f => exact Or.inl ⟨f, hwaiting, line, rest, hunread, hfed⟩
  | ok read =>
      obtain ⟨parser, output⟩ := read
      cases output with
      | none => exact Or.inr ⟨_, .pass hwaiting hunread hfed⟩
      | some a =>
          by_cases hselected : e.prefilter.select a.line.toList = []
          · exact Or.inr ⟨_, .count hwaiting hunread hfed hselected⟩
          · exact Or.inr ⟨_, .await hwaiting hunread hfed hselected⟩

/-- A scan that has permits is over, or can go on, or the program breaks down. -/
theorem isOver_or_exists_next (b : Build) (e : Engine) (h : 0 < s.free + s.tasks.length) :
    s.IsOver ∨ (∃ f, s.BreaksDown b f) ∨ ∃ t, Next b e s t := by
  by_cases htasks : s.tasks = []
  -- Where there are no tasks, all permits are free.
  · cases hwaiting : s.waiting with
    | some w =>
        have hfree : 0 < s.free := by simpa [htasks] using h
        exact Or.inr (Or.inr ⟨_, .spawn hwaiting hfree⟩)
    | none =>
        by_cases hunread : s.unread = []
        · exact Or.inl ⟨hunread, hwaiting, htasks⟩
        · exact Or.inr (breaksDown_or_exists_next b e hwaiting hunread)
  · exact Or.inr (Or.inr (exists_next_of_task b e htasks))

theorem BreaksDown.not_fits {f : Failure} (h : s.BreaksDown b f) :
    f = .overflow ∧ ¬ s.parser.Fits b s.unread := by
  obtain ⟨-, line, rest, hunread, hfed⟩ := h
  rw [hunread]
  exact DiffParser.not_fits_of_feed? hfed rest

theorem IsOver.fits (h : s.IsOver) (b : Build) : s.parser.Fits b s.unread := by
  rw [h.1]
  exact DiffParser.fits_nil b s.parser

/-- Where the log can be read to its end, the program does not break down, and the scan comes to an
end or goes on. -/
theorem isOver_or_exists_next_of_fits (e : Engine) (h : 0 < s.free + s.tasks.length)
    (hfits : s.parser.Fits b s.unread) :
    (∀ f, ¬ s.BreaksDown b f) ∧ (s.IsOver ∨ ∃ t, Next b e s t) := by
  have hbreaks : ∀ f, ¬ s.BreaksDown b f := fun f hbroken => hbroken.not_fits.2 hfits
  refine ⟨hbreaks, ?_⟩
  rcases isOver_or_exists_next b e h with hover | ⟨f, hbroken⟩ | hnext
  · exact Or.inl hover
  · exact absurd hbroken (hbreaks f)
  · exact Or.inr hnext

/-- Otherwise the scan never comes to an end, but goes on until the program breaks down. -/
theorem breaksDown_or_exists_next_of_not_fits (e : Engine) (h : 0 < s.free + s.tasks.length)
    (hfits : ¬ s.parser.Fits b s.unread) :
    ¬ s.IsOver ∧ (s.BreaksDown b .overflow ∨ ∃ t, Next b e s t) := by
  have hover : ¬ s.IsOver := fun hover => hfits (hover.fits b)
  refine ⟨hover, ?_⟩
  rcases isOver_or_exists_next b e h with hover' | ⟨f, hbroken⟩ | hnext
  · exact absurd hover' hover
  · obtain ⟨rfl, -⟩ := hbroken.not_fits
    exact Or.inl hbroken
  · exact Or.inr hnext

/-! ## Whole schedules -/

theorem outcome_perm_of_reaches (h : Relation.ReflTransGen (Next b e) s t) :
    (t.outcome e).Perm (s.outcome e) := by
  induction h with
  | refl => exact List.Perm.refl _
  | tail _ hstep ih => exact hstep.outcome_perm.trans ih

theorem counts_eq_of_reaches (h : Relation.ReflTransGen (Next b e) s t) :
    t.lineCount = s.lineCount ∧ t.commitCount = s.commitCount ∧
      t.free + t.tasks.length = s.free + s.tasks.length := by
  induction h with
  | refl => exact ⟨rfl, rfl, rfl⟩
  | tail _ hstep ih =>
      exact ⟨hstep.lineCount_eq.trans ih.1, hstep.commitCount_eq.trans ih.2.1,
        hstep.permits_eq.trans ih.2.2⟩

theorem fits_iff_of_reaches (h : Relation.ReflTransGen (Next b e) s t) :
    t.parser.Fits b t.unread ↔ s.parser.Fits b s.unread := by
  induction h with
  | refl => rfl
  | tail _ hstep ih => exact hstep.fits_iff.trans ih

@[simp] theorem outcome_start (e : Engine) (exclusions : List String) (permits : Nat)
    (output : List UInt8) :
    (start exclusions permits output).outcome e =
      ((DiffParser.new exclusions).addedLines (Git.linesOf output)).flatMap (findingsIn e) := rfl

@[simp] theorem lineCount_start (exclusions : List String) (permits : Nat) (output : List UInt8) :
    (start exclusions permits output).lineCount =
      ((DiffParser.new exclusions).addedLines (Git.linesOf output)).length := Nat.zero_add _

@[simp] theorem commitCount_start (exclusions : List String) (permits : Nat)
    (output : List UInt8) :
    (start exclusions permits output).commitCount = DiffParser.commitLines (Git.linesOf output) :=
  (DiffParser.tracks_feedAll exclusions (Git.linesOf output)).commitsSeen_eq

theorem IsOver.outcome_eq (h : s.IsOver) (e : Engine) : s.outcome e = s.emitted := by
  obtain ⟨hunread, hwaiting, htasks⟩ := h
  simp [outcome, hunread, hwaiting, htasks]

theorem IsOver.counts_eq (h : s.IsOver) :
    s.lineCount = s.linesScanned ∧ s.commitCount = s.parser.commitsSeen := by
  simp [lineCount, commitCount, h.1]

/-- Along a schedule no permit is lost, and what can be read of the log stays so. Once the scan is
over, everything in the log is accounted for. -/
theorem of_reaches_start {exclusions : List String} {permits : Nat} {output : List UInt8}
    (h : Relation.ReflTransGen (Next b e) (start exclusions permits output) s) :
    let parser := DiffParser.new exclusions
    let lines := Git.linesOf output
    s.free + s.tasks.length = permits ∧ (s.parser.Fits b s.unread ↔ parser.Fits b lines) ∧
      (s.IsOver → s.emitted.Perm ((parser.addedLines lines).flatMap (findingsIn e)) ∧
        s.linesScanned = (parser.addedLines lines).length ∧
        s.parser.commitsSeen = DiffParser.commitLines lines) := by
  intro parser lines
  obtain ⟨hcount, hcommits, hpermits⟩ := counts_eq_of_reaches h
  refine ⟨hpermits, fits_iff_of_reaches h, fun hover => ?_⟩
  have hperm := outcome_perm_of_reaches h
  rw [hover.outcome_eq, outcome_start] at hperm
  rw [hover.counts_eq.1, lineCount_start] at hcount
  rw [hover.counts_eq.2, commitCount_start] at hcommits
  exact ⟨hperm, hcount, hcommits⟩

theorem not_endless (b : Build) (e : Engine) (schedule : ℕ → Progress) :
    ¬ ∀ n, Next b e (schedule n) (schedule (n + 1)) :=
  not_endless_of_work_lt (fun _ => True) (work e) (fun _ _ _ _ => trivial)
    (fun _ _ hnext _ => hnext.work_lt) trivial

end Progress

/-! ## The account of a log -/

theorem resultOf_eq (command : String) (run : Git.Run) (stats : Stats) :
    resultOf command run stats =
      if run.status = .exited 0 then .ok stats
      else .error (.subprocess command
        ("exited with " ++ run.status.text ++ ": " ++ notesOf run.errors)) := by
  simp [resultOf, Git.Status.isSuccess]

section

variable {o : ScanOptions} {run : Git.Run}

theorem readLog_of_fits (hlimit : max o.maxPendingLines 1 ≤ maxPermits)
    (hfits : (DiffParser.new o.exclusions.paths).Fits b (Git.linesOf run.output)) :
    readLog b o run =
      .ok ((DiffParser.new o.exclusions.paths).feedAll (Git.linesOf run.output)) := by
  rw [readLog, permitsFor_of_le hlimit]
  exact DiffParser.feedAll?_of_fits hfits

theorem readLog_of_not_fits (hlimit : max o.maxPendingLines 1 ≤ maxPermits)
    (hfits : ¬ (DiffParser.new o.exclusions.paths).Fits b (Git.linesOf run.output)) :
    readLog b o run = .error .overflow := by
  rw [readLog, permitsFor_of_le hlimit]
  exact DiffParser.feedAll?_of_not_fits hfits

theorem readLog_of_lt (hlimit : maxPermits < max o.maxPendingLines 1) :
    readLog b o run = .error .permits := by
  rw [readLog, permitsFor_of_lt hlimit]
  rfl

end

/-- Nothing in a log is lost or told twice, whatever order the tasks take, as long as there can be
as many permits as the limit asks for and, if the program was built with checks, the count of
lines does not run over. Beyond that limit the scan breaks down before it has read a line, and
where the count runs over it breaks down at that line, in every schedule. -/
theorem every_schedule_accounts_for_the_log {m : Type → Type} [Monad m] [LawfulMonad m]
    (b : Build) (r : Registry) (ask : Inquiry m) (o : ScanOptions) (range : Git.Range)
    (run : Git.Run) (hoff : o.verify = false) :
    let e := Engine.ofRegistry r
    let lines := (linePieces run.output).map lineText
    let parser := DiffParser.new o.exclusions.paths
    let added := parser.addedLines lines
    let findings := added.flatMap (findingsIn e)
    let command := Git.commandLine (Git.logArguments range)
    let result : Except Failure Stats :=
      if run.status = .exited 0 then .ok ⟨DiffParser.commitLines lines, added.length⟩
      else .error (.subprocess command
        ("exited with " ++ run.status.text ++ ": " ++ notesOf run.errors))
    let limit := max o.maxPendingLines 1
    let start := Progress.start o.exclusions.paths limit run.output
    (limit ≤ maxPermits → parser.Fits b lines →
      scan b e ask o range (.ok run) = pure (.ok ⟨added, findings, notesOf run.errors, result⟩) ∧
      ∀ s, Relation.ReflTransGen (Progress.Next b e) start s →
        s.tasks.length ≤ limit ∧ (∀ f, ¬ s.BreaksDown b f) ∧
        (s.IsOver ∨ ∃ t, Progress.Next b e s t) ∧
        (s.IsOver → s.emitted.Perm findings ∧ s.result command run = result)) ∧
    (limit ≤ maxPermits → ¬ parser.Fits b lines →
      scan b e ask o range (.ok run) = pure (.error .overflow) ∧
      ∀ s, Relation.ReflTransGen (Progress.Next b e) start s →
        ¬ s.IsOver ∧ (s.BreaksDown b .overflow ∨ ∃ t, Progress.Next b e s t)) ∧
    (∀ schedule : ℕ → Progress, schedule 0 = start →
      ¬ ∀ n, Progress.Next b e (schedule n) (schedule (n + 1))) ∧
    (maxPermits < limit → scan b e ask o range (.ok run) = pure (.error .permits)) := by
  intro e lines parser added findings command result limit start
  have hseen : (parser.feedAll lines).1.commitsSeen = DiffParser.commitLines lines :=
    (DiffParser.tracks_feedAll o.exclusions.paths lines).commitsSeen_eq
  have hlines : Git.linesOf run.output = lines := linesOf_eq run.output
  have hreached {s : Progress} (hs : Relation.ReflTransGen (Progress.Next b e) start s) :=
    Progress.of_reaches_start hs
  simp only [hlines] at hreached
  have hpermits {s : Progress} (hs : Relation.ReflTransGen (Progress.Next b e) start s) :
      0 < s.free + s.tasks.length := by
    rw [(hreached hs).1]
    exact Nat.lt_of_lt_of_le Nat.one_pos (Nat.le_max_right _ _)
  refine ⟨fun hlimit hfits => ⟨?_, fun s hs => ?_⟩, fun hlimit hfits => ⟨?_, fun s hs => ?_⟩,
    fun schedule _ => Progress.not_endless b e schedule, fun hlimit => ?_⟩
  · have hread : readLog b o run = .ok (parser.feedAll lines) := by
      rw [← hlines] at hfits ⊢
      exact readLog_of_fits hlimit hfits
    simp only [scan, hread, hoff, scanLines_off, pure_bind, resultOf_eq, hseen]
    rfl
  · obtain ⟨hheld, hfitting, hended⟩ := hreached hs
    obtain ⟨hbreaks, hnext⟩ :=
      Progress.isOver_or_exists_next_of_fits e (hpermits hs) (hfitting.mpr hfits)
    refine ⟨?_, hbreaks, hnext, fun hover => ?_⟩
    · rw [← hheld]
      exact Nat.le_add_left _ _
    · obtain ⟨hperm, hcount, hcommits⟩ := hended hover
      refine ⟨hperm, ?_⟩
      rw [Progress.result, resultOf_eq, hcount, hcommits]
  · have hread : readLog b o run = .error .overflow := by
      rw [← hlines] at hfits
      exact readLog_of_not_fits hlimit hfits
    simp only [scan, hread]
  · have hunread := fun h => hfits ((hreached hs).2.1.mp h)
    exact Progress.breaksDown_or_exists_next_of_not_fits e (hpermits hs) hunread
  · simp only [scan, readLog_of_lt hlimit]

theorem account_of_one_added_line :
    let e := Engine.ofRegistry
      ⟨[.custom ⟨"tok", ["tok"], [⟨"default", .group 1 (Pattern.literal "tok".toList)⟩]⟩]⟩
    let run : Git.Run := ⟨Text.Utf8.encode
      "commit 1234567|a|b|c\ndiff --git a/x b/x\n@@ -0,0 +7 @@\n+a tok\n".toList, [], .exited 1⟩
    ∀ b s, Relation.ReflTransGen (Progress.Next b e) (Progress.start [] 256 run.output) s →
      s.IsOver →
      s.emitted.map (fun f => (f.hit.value, f.path, f.line)) = [(some "tok", "x", some 7)] := by
  intro e run b s hs hover
  have haccount := every_schedule_accounts_for_the_log (m := Id) b e.registry
    (fun _ _ => .error .permits) { exclusions := ⟨[], []⟩ } (.latest 1) run rfl
  have hfits : ∀ b, (DiffParser.new []).Fits b ((linePieces run.output).map lineText) := by
    rintro (_ | _)
    · decide +kernel
    · exact DiffParser.fits_wrapping _ _
  obtain ⟨-, hreached⟩ := haccount.1 (by decide) (hfits b)
  obtain ⟨-, -, -, hdone⟩ := hreached s hs
  have hperm := (hdone hover).1.map fun f => (f.hit.value, f.path, f.line)
  have hfound : ((((DiffParser.new []).addedLines ((linePieces run.output).map lineText)).flatMap
      (findingsIn e)).map fun f => (f.hit.value, f.path, f.line)) =
          [(some "tok", "x", some 7)] := by
    decide +kernel
  exact List.perm_singleton.mp (hfound ▸ hperm)

/-- Git ends well on an empty log, and the scan breaks down for its limit alone. -/
theorem scan_breaks_down_at_too_great_a_limit :
    (Git.Run.mk [] [] (.exited 0)).status.isSuccess = true ∧
      ∀ b, (scan (m := Id) b (Engine.ofRegistry ⟨[]⟩) (fun _ _ => .error .permits)
        { maxPendingLines := 2305843009213693952 } (.latest 100)
        (.ok ⟨[], [], .exited 0⟩)).run.map Scan.result = .error .permits := by
  exact ⟨rfl, fun b => rfl⟩

end SecretScan.History
