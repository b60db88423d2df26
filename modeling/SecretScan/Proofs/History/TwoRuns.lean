import SecretScan.Proofs.History.LookBack

/-!
# Two runs of the parser of a log

A parser is compared with a simpler one that is fed the same lines. One leaves nothing out, and the
parser gives of its added lines just those that the exclusions let through. The other has forgotten
what cannot show any more; at the header of a commit that is all that a parser knows of the lines in
front of it.
-/

namespace SecretScan.DiffParser

/-! ## Leaving nothing out -/

/-- The same parser, but that it leaves nothing out. -/
def unrestricted (p : DiffParser) : DiffParser := { p with exclusions := [], skipping := false }

/-- Do the exclusions of a parser let an added line through? -/
def lets (p : DiffParser) (a : AddedLine) : Bool :=
  !p.excludes ('/' :: a.path.toList) && !p.excludes a.line.toList

/-- Where there is a file, the parser knows whether it leaves the file out. -/
def KnowsFile (p : DiffParser) : Prop :=
  p.place = .inFile ∨ p.place = .inHunk →
    ∃ path, p.path = some path ∧ p.skipping = p.excludes ('/' :: path.toList)

theorem knowsFile_new (exclusions : List String) : (new exclusions).KnowsFile := by
  rintro (h | h) <;> cases h

/-- Of an added line nothing but the exclusions decides whether it is given. -/
theorem KnowsFile.added?_eq {p : DiffParser} (h : p.KnowsFile) (hplace : p.place = .inHunk)
    (text : List Char) : p.added? text = (p.unrestricted.added? text).filter p.lets := by
  obtain ⟨path, hpath, hskip⟩ := h (Or.inr hplace)
  have hadded : p.unrestricted.added? text =
      some ⟨{ p.commit with line := p.nextLine }, p.path.getD "", String.ofList text⟩ := rfl
  rw [hadded, added?, hpath, hskip, Option.filter_some]
  simp only [lets, Option.getD_some, String.toList_ofList]
  cases p.excludes ('/' :: path.toList) <;> cases p.excludes text <;> rfl

variable {p q : DiffParser} {line : List Char} {o : Option AddedLine}

/-- What a line does to a parser it also does to the one that leaves nothing out. -/
theorem Step.unrestricted (h : Step p line q o) (hp : p.KnowsFile) :
    q.KnowsFile ∧ ∃ offered, Step p.unrestricted line q.unrestricted offered ∧
      o = offered.filter p.lets := by
  cases h with
  | @commit h header =>
      have hq : (p.startCommit h).KnowsFile := by
        rintro (hplace | hplace) <;> cases hplace
      exact ⟨hq, none, .commit header, rfl⟩
  | unread place no_commit => exact ⟨hp, none, .unread place no_commit, rfl⟩
  | @file path place no_commit header =>
      exact ⟨fun _ => ⟨path, rfl, rfl⟩, none, .file place no_commit header, rfl⟩
  | message place no_commit no_file => exact ⟨hp, none, .message place no_commit no_file, rfl⟩
  | hunk place no_commit no_file header =>
      exact ⟨fun _ => hp place, none, .hunk place no_commit no_file header, rfl⟩
  | @added text place line_eq no_commit no_file no_hunk =>
      exact ⟨hp, _, .added place line_eq no_commit no_file no_hunk, hp.added?_eq place text⟩
  | other place no_commit no_file no_hunk =>
      exact ⟨hp, none, .other place no_commit no_file no_hunk, rfl⟩

theorem Step.lets_eq (h : Step p line q o) : q.lets = p.lets := by
  cases h <;> rfl

/-- Fed the same lines, a parser gives what one that leaves nothing out gives, less what its
exclusions do not let through. -/
theorem KnowsFile.feedAll_eq (hp : p.KnowsFile) (lines : List (List Char)) :
    (p.feedAll lines).2 = (p.unrestricted.feedAll lines).2.map (Option.filter p.lets) ∧
      (p.feedAll lines).1.unrestricted = (p.unrestricted.feedAll lines).1 := by
  induction lines generalizing p with
  | nil => exact ⟨rfl, rfl⟩
  | cons line rest ih =>
      obtain ⟨hq, offered, hstep, houtput⟩ := (feed_step p line).unrestricted hp
      obtain ⟨houtputs, hstate⟩ := ih hq
      rw [(feed_step p line).lets_eq] at houtputs
      simp only [feedAll_cons, hstep.feed_eq, List.map_cons]
      exact ⟨by rw [houtput, houtputs], hstate⟩

theorem KnowsFile.addedLines_eq (hp : p.KnowsFile) (lines : List (List Char)) :
    p.addedLines lines = (p.unrestricted.addedLines lines).filter p.lets := by
  rw [addedLines, addedLines, (hp.feedAll_eq lines).1, List.filterMap_map,
    ← List.filterMap_eq_filter, List.filterMap_filterMap]
  refine List.filterMap_congr fun given _ => ?_
  cases given with
  | none => rfl
  | some a => simp [Option.filter, Option.guard]

theorem lets_new_iff (exclusions : List String) (a : AddedLine) :
    (new exclusions).lets a = true ↔
      ¬ Mentions exclusions ('/' :: a.path.toList) ∧ ¬ Mentions exclusions a.line.toList := by
  simp [lets, ← excludes_iff (p := new exclusions) rfl]

/-- Exclusions only filter: the added lines are those of a parser that leaves nothing out, with
their commits, paths and numbers, less those whose path or text contains an exclusion. The commits
are counted all the same. -/
theorem exclusions_only_filter (exclusions : List String) (lines : List (List Char)) :
    let keeps (a : AddedLine) : Bool :=
      ¬ Mentions exclusions ('/' :: a.path.toList) ∧ ¬ Mentions exclusions a.line.toList
    ((new exclusions).feedAll lines).2 = ((new []).feedAll lines).2.map (Option.filter keeps) ∧
      (new exclusions).addedLines lines = ((new []).addedLines lines).filter keeps ∧
      ((new exclusions).feedAll lines).1.commitsSeen = ((new []).feedAll lines).1.commitsSeen := by
  intro keeps
  have hlets : (new exclusions).lets = keeps := by
    funext a
    rw [Bool.eq_iff_iff, lets_new_iff, decide_eq_true_iff]
  have hknows := knowsFile_new exclusions
  obtain ⟨houtputs, hstate⟩ := hknows.feedAll_eq lines
  have hseen := congrArg commitsSeen hstate
  rw [← hlets]
  exact ⟨houtputs, hknows.addedLines_eq lines, hseen⟩

/-! ## Forgetting what cannot show -/

/-- The same parser, without what cannot show in its added lines any more: the number of the next
line shows in a stretch alone, and the count of commits nowhere. -/
def visible (p : DiffParser) : DiffParser :=
  { p with nextLine := if p.place = .inHunk then p.nextLine else 0, commitsSeen := 0 }

@[simp] theorem visible_visible (p : DiffParser) : p.visible.visible = p.visible := by
  by_cases hplace : p.place = .inHunk <;> simp [visible, hplace]

/-- What a line does to a parser it also does to the one that has forgotten. -/
theorem Step.visible (h : Step p line q o) :
    ∃ r, Step p.visible line r o ∧ r.visible = q.visible := by
  cases h with
  | commit header => exact ⟨_, .commit header, rfl⟩
  | unread place no_commit => exact ⟨_, .unread place no_commit, visible_visible p⟩
  | file place no_commit header => exact ⟨_, .file place no_commit header, rfl⟩
  | message place no_commit no_file =>
      exact ⟨_, .message place no_commit no_file, visible_visible p⟩
  | hunk place no_commit no_file header => exact ⟨_, .hunk place no_commit no_file header, rfl⟩
  | @added text place line_eq no_commit no_file no_hunk =>
      have hadded : p.visible.added? text = p.added? text := by
        simp [added?, DiffParser.visible, place, excludes]
      have hstep : Step p.visible line p.visible.countLine (p.visible.added? text) :=
        .added place line_eq no_commit no_file no_hunk
      rw [hadded] at hstep
      refine ⟨_, hstep, ?_⟩
      simp [DiffParser.visible, countLine, place]
  | other place no_commit no_file no_hunk =>
      exact ⟨_, .other place no_commit no_file no_hunk, visible_visible p⟩

/-- Parsers that differ in what cannot show give the same for all lines to come. -/
theorem feedAll_eq_of_visible (h : p.visible = q.visible) (lines : List (List Char)) :
    (p.feedAll lines).2 = (q.feedAll lines).2 := by
  induction lines generalizing p q with
  | nil => rfl
  | cons line rest ih =>
      obtain ⟨r, hstep, hr⟩ := (feed_step p line).visible
      obtain ⟨r', hstep', hr'⟩ := (feed_step q line).visible
      rw [h] at hstep
      obtain ⟨rfl, houtput⟩ := Prod.mk.inj (hstep.feed_eq.symm.trans hstep'.feed_eq)
      rw [feedAll_cons, feedAll_cons, houtput, ih (hr.symm.trans hr')]

/-- The header of a commit brings a parser to where it would be at the beginning of the log,
whatever it has been through. -/
theorem feedAll_commitHeader {header : List Char} {h : CommitHeader}
    (hheader : IsCommitHeader header h) (hexcl : p.exclusions = q.exclusions)
    (rest : List (List Char)) :
    (p.feedAll (header :: rest)).2 = (q.feedAll (header :: rest)).2 := by
  have hvisible : (p.startCommit h).visible = (q.startCommit h).visible := by
    simp [DiffParser.visible, startCommit, hexcl]
  rw [feedAll_cons, feedAll_cons, (Step.commit hheader).feed_eq, (Step.commit hheader).feed_eq,
    feedAll_eq_of_visible hvisible]

/-- Commit headers resynchronise: a log that is cut in front of one gives what its parts give by
themselves, and counts the commits of both. Behind the header it makes no difference where a parser
has been. -/
theorem commit_header_resynchronises {header : List Char} {h : CommitHeader}
    (hheader : IsCommitHeader header h) (exclusions : List String)
    (front rest : List (List Char)) :
    let fresh := new exclusions
    (fresh.feedAll (front ++ header :: rest)).2 =
        (fresh.feedAll front).2 ++ (fresh.feedAll (header :: rest)).2 ∧
      fresh.addedLines (front ++ header :: rest) =
        fresh.addedLines front ++ fresh.addedLines (header :: rest) ∧
      (fresh.feedAll (front ++ header :: rest)).1.commitsSeen =
        (fresh.feedAll front).1.commitsSeen + (fresh.feedAll (header :: rest)).1.commitsSeen ∧
      ∀ p : DiffParser, p.exclusions = fresh.exclusions →
        (p.feedAll (header :: rest)).2 = (fresh.feedAll (header :: rest)).2 := by
  intro fresh
  have hanywhere (p : DiffParser) (hexcl : p.exclusions = fresh.exclusions) :
      (p.feedAll (header :: rest)).2 = (fresh.feedAll (header :: rest)).2 :=
    feedAll_commitHeader hheader hexcl rest
  have htracks := tracks_feedAll exclusions
  have houtputs : (fresh.feedAll (front ++ header :: rest)).2 =
      (fresh.feedAll front).2 ++ (fresh.feedAll (header :: rest)).2 := by
    rw [feedAll_append, hanywhere _ (htracks front).exclusions_eq]
  refine ⟨houtputs, ?_, ?_, hanywhere⟩
  · rw [addedLines, houtputs, List.filterMap_append]
    rfl
  · rw [(htracks _).commitsSeen_eq, (htracks _).commitsSeen_eq, (htracks _).commitsSeen_eq,
      commitLines, List.countP_append]
    rfl

/-- The header of the second commit ends the stretch of a file that is left out. -/
theorem second_commit_is_read_afresh :
    let header := "commit 89abcde|d|e|f".toList
    let front := ["commit 1234567|a|b|c", "diff --git a/vendor/x b/vendor/x", "@@ -1 +9 @@",
      "+one"].map String.toList
    let rest := ["+two", "diff --git a/y b/y", "@@ -0,0 +3 @@", "+three"].map String.toList
    IsCommitHeader header ⟨"89abcde", "d|e|f".toList⟩ ∧
      (new ["/vendor/"]).addedLines (front ++ header :: rest) =
        [⟨⟨"89abcde", "d", "e", "f", 3⟩, "y", "three"⟩] := by
  intro header front rest
  have hheader : IsCommitHeader header ⟨"89abcde", "d|e|f".toList⟩ :=
    commitHeader?_eq_some_iff.mp (by decide +kernel)
  refine ⟨hheader, ?_⟩
  rw [(commit_header_resynchronises hheader ["/vendor/"] front rest).2.1]
  decide +kernel

end SecretScan.DiffParser
