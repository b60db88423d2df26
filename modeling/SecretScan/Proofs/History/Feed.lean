import SecretScan.Proofs.History.Headers

/-!
# Feeding the parser of a log

Everything that one line can do to the parser is said once, with what is known of the line and of
the place; several lines are fed one after another.
-/

namespace SecretScan.DiffParser

/-! ## Several lines -/

theorem feedOnto_eq (p : DiffParser) (outputs : List (Option AddedLine))
    (lines : List (List Char)) :
    p.feedOnto outputs lines =
      ((p.feedAll lines).1, (p.feedAll lines).2.reverse ++ outputs) := by
  induction lines generalizing p outputs with
  | nil => simp [feedAll, feedOnto]
  | cons line rest ih =>
      simp only [feedAll, feedOnto] at ih ⊢
      -- Also the run from the empty list has an output in it behind the first line.
      rw [ih, ih _ [(p.feed line).2]]
      simp

@[simp] theorem feedAll_nil (p : DiffParser) : p.feedAll [] = (p, []) := rfl

theorem feedAll_cons (p : DiffParser) (line : List Char) (rest : List (List Char)) :
    p.feedAll (line :: rest) =
      (((p.feed line).1.feedAll rest).1, (p.feed line).2 :: ((p.feed line).1.feedAll rest).2) := by
  conv => lhs; rw [feedAll, feedOnto]
  simp [feedOnto_eq]

theorem feedAll_append (p : DiffParser) (front rest : List (List Char)) :
    p.feedAll (front ++ rest) =
      (((p.feedAll front).1.feedAll rest).1,
        (p.feedAll front).2 ++ ((p.feedAll front).1.feedAll rest).2) := by
  induction front generalizing p with
  | nil => rfl
  | cons line front ih => simp [feedAll_cons, ih]

theorem feedAll_snoc (p : DiffParser) (lines : List (List Char)) (line : List Char) :
    p.feedAll (lines ++ [line]) =
      (((p.feedAll lines).1.feed line).1,
        (p.feedAll lines).2 ++ [((p.feedAll lines).1.feed line).2]) := by
  simp [feedAll_append, feedAll_cons]

@[simp] theorem length_feedAll (p : DiffParser) (lines : List (List Char)) :
    (p.feedAll lines).2.length = lines.length := by
  induction lines generalizing p with
  | nil => rfl
  | cons line rest ih => simp [feedAll_cons, ih]

/-- What is given for a line is what the parser behind the earlier lines gives for it. -/
theorem getElem?_feedAll (p : DiffParser) (before : List (List Char)) (line : List Char)
    (after : List (List Char)) :
    (p.feedAll (before ++ line :: after)).2[before.length]? =
      some ((p.feedAll before).1.feed line).2 := by
  rw [feedAll_append, feedAll_cons, List.getElem?_append_right (by simp)]
  simp

@[simp] theorem addedLines_nil (p : DiffParser) : p.addedLines [] = [] := rfl

theorem addedLines_cons (p : DiffParser) (line : List Char) (rest : List (List Char)) :
    p.addedLines (line :: rest) = (p.feed line).2.toList ++ (p.feed line).1.addedLines rest := by
  rw [addedLines, addedLines, feedAll_cons]
  cases (p.feed line).2 <;> simp

/-! ## One line -/

/-- What a line does: it leaves the parser `q` and gives `o`. -/
inductive Step (p : DiffParser) (line : List Char) : DiffParser → Option AddedLine → Prop
  | commit {h : CommitHeader} (header : IsCommitHeader line h) : Step p line (p.startCommit h) none
  | unread (place : p.place = .noCommit) (no_commit : ∀ h, ¬ IsCommitHeader line h) :
      Step p line p none
  | file {path : String} (place : p.place ≠ .noCommit) (no_commit : ∀ h, ¬ IsCommitHeader line h)
      (header : IsFileHeader line path) : Step p line (p.startFile path) none
  | message (place : p.place = .inCommit) (no_commit : ∀ h, ¬ IsCommitHeader line h)
      (no_file : ∀ path, ¬ IsFileHeader line path) : Step p line p none
  | hunk {start : List Char} (place : p.place = .inFile ∨ p.place = .inHunk)
      (no_commit : ∀ h, ¬ IsCommitHeader line h) (no_file : ∀ path, ¬ IsFileHeader line path)
      (header : IsHunkHeader line start) :
      Step p line { p with place := .inHunk, nextLine := lineNumberOf start } none
  | added {text : List Char} (place : p.place = .inHunk) (line_eq : line = '+' :: text)
      (no_commit : ∀ h, ¬ IsCommitHeader line h) (no_file : ∀ path, ¬ IsFileHeader line path)
      (no_hunk : ∀ start, ¬ IsHunkHeader line start) :
      Step p line p.countLine (p.added? text)
  | other (place : p.place = .inFile ∨ p.place = .inHunk ∧ line.head? ≠ some '+')
      (no_commit : ∀ h, ¬ IsCommitHeader line h) (no_file : ∀ path, ¬ IsFileHeader line path)
      (no_hunk : ∀ start, ¬ IsHunkHeader line start) : Step p line p none

theorem feedChange_step {p : DiffParser} {line : List Char}
    (hplace : p.place = .inFile ∨ p.place = .inHunk)
    (hcommit : ∀ h, ¬ IsCommitHeader line h) (hfile : ∀ path, ¬ IsFileHeader line path) :
    Step p line (p.feedChange line).1 (p.feedChange line).2 := by
  unfold feedChange
  cases hread : hunkHeader? line with
  | some start =>
      exact .hunk hplace hcommit hfile (hunkHeader?_eq_some_iff.mp hread)
  | none =>
      have hhunk : ∀ start, ¬ IsHunkHeader line start := by
        intro start h
        simp [hunkHeader?_eq_some_iff.mpr h] at hread
      simp only
      split
      · rename_i text hin
        exact .added hin rfl hcommit hfile hhunk
      · rename_i hother
        refine .other ?_ hcommit hfile hhunk
        rcases hplace with hin | hin
        · exact Or.inl hin
        · refine Or.inr ⟨hin, ?_⟩
          intro hhead
          obtain ⟨text, rfl⟩ := List.head?_eq_some_iff.mp hhead
          exact hother text hin rfl

theorem feed_step (p : DiffParser) (line : List Char) :
    Step p line (p.feed line).1 (p.feed line).2 := by
  unfold feed
  cases hread : commitHeader? line with
  | some h => exact .commit (commitHeader?_eq_some_iff.mp hread)
  | none =>
      have hcommit : ∀ h, ¬ IsCommitHeader line h := by
        intro h hh
        simp [commitHeader?_eq_some_iff.mpr hh] at hread
      simp only
      split
      · rename_i hplace
        exact .unread hplace hcommit
      · rename_i hplace
        cases hreadFile : fileHeader? line with
        | some path => exact .file hplace hcommit (fileHeader?_eq_some_iff.mp hreadFile)
        | none =>
            have hfile : ∀ path, ¬ IsFileHeader line path := by
              intro path hpath
              simp [fileHeader?_eq_some_iff.mpr hpath] at hreadFile
            simp only
            split
            · rename_i hin
              exact .message hin hcommit hfile
            · rename_i hin
              refine feedChange_step ?_ hcommit hfile
              cases hp : p.place <;> simp_all

/-- A parser has no other step than the one that it takes. -/
theorem Step.feed_eq {p q : DiffParser} {line : List Char} {o : Option AddedLine}
    (h : Step p line q o) : p.feed line = (q, o) := by
  have hcommit (hnone : ∀ h, ¬ IsCommitHeader line h) : commitHeader? line = none :=
    Option.eq_none_iff_forall_ne_some.mpr fun h hread =>
      hnone h (commitHeader?_eq_some_iff.mp hread)
  have hfile (hnone : ∀ path, ¬ IsFileHeader line path) : fileHeader? line = none :=
    Option.eq_none_iff_forall_ne_some.mpr fun path hread =>
      hnone path (fileHeader?_eq_some_iff.mp hread)
  have hhunk (hnone : ∀ start, ¬ IsHunkHeader line start) : hunkHeader? line = none :=
    Option.eq_none_iff_forall_ne_some.mpr fun start hread =>
      hnone start (hunkHeader?_eq_some_iff.mp hread)
  cases h with
  | commit header => rw [feed, commitHeader?_eq_some_iff.mpr header]
  | unread place no_commit => rw [feed, hcommit no_commit, if_pos place]
  | file place no_commit header =>
      rw [feed, hcommit no_commit, if_neg place, fileHeader?_eq_some_iff.mpr header]
  | message place no_commit no_file =>
      simp [feed, hcommit no_commit, hfile no_file, place]
  | hunk place no_commit no_file header =>
      have hread := hunkHeader?_eq_some_iff.mpr header
      rcases place with place | place <;>
        simp [feed, hcommit no_commit, hfile no_file, place, feedChange, hread]
  | added place line_eq no_commit no_file no_hunk =>
      subst line_eq
      simp [feed, hcommit no_commit, hfile no_file, place, feedChange, hhunk no_hunk]
  | other place no_commit no_file no_hunk =>
      rcases place with place | ⟨place, hhead⟩
      · simp [feed, hcommit no_commit, hfile no_file, place, feedChange, hhunk no_hunk]
      · have hline : ∀ text, line ≠ '+' :: text := by
          rintro text rfl
          exact hhead rfl
        simp [feed, hcommit no_commit, hfile no_file, place, feedChange, hhunk no_hunk, hline]

end SecretScan.DiffParser
