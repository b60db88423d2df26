import SecretScan.Files.Walk
import SecretScan.Proofs.Files.Keys
import SecretScan.Proofs.History.TwoRuns

/-!
# What both scanners leave out

A walk asks for the key of a file, and the parser of a log for the path in the header of the file.
Both ask for the same excluded paths: the key is the path with a slash in front, but for single
dots at its ends. The parser does not know of excluded extensions.
-/

namespace SecretScan.DiffParser

variable {exclusions : List String}

/-! ## Lines that are left out -/

/-- An added line that is given is not left out, whatever the log. -/
theorem not_mentions_of_mem_addedLines {lines : List (List Char)} {a : AddedLine}
    (h : a ∈ (new exclusions).addedLines lines) :
    ¬ Mentions exclusions ('/' :: a.path.toList) ∧ ¬ Mentions exclusions a.line.toList := by
  rw [(knowsFile_new exclusions).addedLines_eq] at h
  exact (lets_new_iff exclusions a).mp (List.mem_filter.mp h).2

/-- In a stretch of a file every line behind a plus sign is given, unless the path or the line is
left out. -/
theorem exists_given_of_inStretch {before since : List (List Char)} {h : CommitHeader}
    {path : String} {start : List Char} (hin : InStretch before h path start since)
    (text : List Char) (after : List (List Char)) :
    ∃ given, ((new exclusions).feedAll (before ++ ('+' :: text) :: after)).2[before.length]? =
        some given ∧
      (given = none ↔ Mentions exclusions ('/' :: path.toList) ∨ Mentions exclusions text) ∧
      ∀ a, given = some a → a.path = path ∧ a.line = String.ofList text := by
  have hfinds (a : AddedLine) :=
    (tracks_feedAll exclusions before).feed_eq_some_iff (feed_step _ ('+' :: text)) a
  refine ⟨_, getElem?_feedAll _ _ _ _, ?_, ?_⟩
  · rw [Option.eq_none_iff_forall_ne_some]
    constructor
    · intro hnone
      by_contra hneither
      obtain ⟨hpath, htext⟩ := not_or.mp hneither
      exact hnone _ ((hfinds _).mpr
        ⟨h, path, start, since, text, rfl, hin, hpath, htext, rfl⟩)
    · intro hleft a hgiven
      obtain ⟨h', path', start', since', text', heq, hin', hpath, htext, -⟩ := (hfinds a).mp hgiven
      obtain ⟨-, rfl, -, -⟩ := hin.unique hin'
      obtain ⟨-, rfl⟩ := List.cons.inj heq
      exact hleft.elim hpath htext
  · intro a hgiven
    obtain ⟨h', path', start', since', text', heq, hin', -, -, rfl⟩ := (hfinds a).mp hgiven
    obtain ⟨-, rfl, -, -⟩ := hin.unique hin'
    obtain ⟨-, rfl⟩ := List.cons.inj heq
    exact ⟨rfl, rfl⟩

end SecretScan.DiffParser

namespace SecretScan.Exclusions

open SecretScan.Path SecretScan.DiffParser

theorem visit_file_eq_excluded_iff (o : ScanOptions) (root path : String) (passable : Bool)
    (access : Access) (content : List UInt8) :
    Files.visit o root passable path (.file access content) = [.excluded path] ↔
      o.exclusions.excludes (keyOf root path false) = true := by
  rw [Files.visit]
  cases hexcluded : o.exclusions.excludes (keyOf root path false) with
  | true => simp
  | false =>
      cases passable with
      | false => simp
      | true =>
          have hvisit : Files.visitFile o path access content ≠ .excluded path := by
            unfold Files.visitFile
            split_ifs <;> simp
          simpa using hvisit

/-! ## Both scanners -/

/-- A file that a walk leaves out for its path is left out of the history too. A line is left out
of the history just if its text or the path of its file contains an excluded one; of this the path
and its key say the same, unless the first or the last name is a single dot. A walk also leaves
out what ends with an excluded extension, and the history does not. -/
theorem scanners_leave_out_the_same_paths (o : ScanOptions) (root : String) {names : List String}
    (hnames : names ≠ []) (hcomponents : ∀ name ∈ names, IsComponent name)
    (hback : ∀ name ∈ names, '\\' ∉ name.toList) :
    let p := ofNames names
    let path := join root p
    let key := keyOf root path false
    let parser := DiffParser.new o.exclusions.paths
    (∀ passable access content,
      Files.visit o root passable path (.file access content) = [.excluded path] ↔
        o.exclusions.containsPath key = true ∨ o.exclusions.endsExcluded key = true) ∧
    (o.exclusions.containsPath key = true → ∀ lines, ∀ a ∈ parser.addedLines lines, a.path ≠ p) ∧
    (∀ before h start since text after, InStretch before h p start since →
      ∃ given, (parser.feedAll (before ++ ('+' :: text) :: after)).2[before.length]? = some given ∧
        (given = none ↔ Mentions o.exclusions.paths ('/' :: p.toList) ∨
          Mentions o.exclusions.paths text) ∧
        ∀ a, given = some a → a.path = p ∧ a.line = String.ofList text) ∧
    (names.head? ≠ some "." → names.getLast? ≠ some "." →
      (o.exclusions.containsPath key = true ↔ Mentions o.exclusions.paths ('/' :: p.toList))) := by
  intro p path key parser
  obtain ⟨hpart, heq⟩ := keyOf_join root hnames hcomponents hback
  refine ⟨?_, ?_, ?_, ?_⟩
  · intro passable access content
    rw [visit_file_eq_excluded_iff, excludes_eq, Bool.or_eq_true]
  · intro hkey lines a ha hpath
    obtain ⟨excluded, hmem, hne, hstands⟩ := containsPath_iff.mp hkey
    have hgiven := (not_mentions_of_mem_addedLines ha).1
    rw [hpath] at hgiven
    exact hgiven ⟨excluded, hmem, hne, hstands.trans hpart⟩
  · intro before h start since text after hin
    exact exists_given_of_inStretch hin text after
  · intro hfirst hlast
    rw [containsPath_iff, heq hfirst hlast]
    rfl

/-- What is excluded in a walk for its folder is not given, whatever the log. -/
theorem no_line_of_vendor_is_given :
    let o : ScanOptions := { exclusions := ⟨["/vendor/"], [".lock"]⟩ }
    o.exclusions.excludes (keyOf "repo" "repo/vendor/a.env" false) = true ∧
      ∀ lines, ∀ a ∈ (DiffParser.new o.exclusions.paths).addedLines lines,
        a.path ≠ "vendor/a.env" := by
  intro o
  have hname (name : String) (h : name ∈ ["vendor", "a.env"]) :
      name ≠ "" ∧ '/' ∉ name.toList ∧ '\\' ∉ name.toList := by
    revert name
    decide
  have hagree := scanners_leave_out_the_same_paths o "repo" (List.cons_ne_nil "vendor" ["a.env"])
    (fun name h => ⟨(hname name h).1, (hname name h).2.1⟩) fun name h => (hname name h).2.2
  exact ⟨by decide +kernel, hagree.2.1 (by decide +kernel)⟩

/-- By default a walk leaves out what ends with `.lock`, and a log does not. -/
theorem lock_file_is_left_out_of_the_walk_alone :
    let o : ScanOptions := {}
    o.exclusions.excludes (keyOf "." (join "." "deps.lock") false) = true ∧
      (DiffParser.new o.exclusions.paths).addedLines
        (["commit 1234567|a|b|c", "diff --git a/deps.lock b/deps.lock", "@@ -0,0 +1 @@",
          "+x"].map String.toList) =
        [⟨{ hash := "1234567", author := "a", email := "b", title := "c", line := 1 },
          "deps.lock", "x"⟩] := by
  decide

end SecretScan.Exclusions
