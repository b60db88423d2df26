import SecretScan.Proofs.History.Feed
import SecretScan.Proofs.Text.Pieces

/-!
# Looking back from a line of a log

The parser keeps a place, a commit, a path and a number. What it gives for a line is also found
without any of them, by looking back from the line: to the last header of a commit, to the last
header of a file behind that, and to the last header of a stretch behind that.
-/

namespace SecretScan.DiffParser

open SecretScan.Text

/-! ## The last line that says something -/

/-- The last of the lines that says anything says `x`, and the lines `since` follow it. -/
def LastOf {α : Type} (Says : List Char → α → Prop) (lines : List (List Char)) (x : α)
    (since : List (List Char)) : Prop :=
  ∃ older line, lines = older ++ line :: since ∧ Says line x ∧ ∀ l ∈ since, ∀ y, ¬ Says l y

variable {α : Type} {Says : List Char → α → Prop}

theorem LastOf.of_says {line : List Char} {x : α} (older : List (List Char)) (h : Says line x) :
    LastOf Says (older ++ [line]) x [] :=
  ⟨older, line, rfl, h, by simp⟩

theorem LastOf.snoc {lines since : List (List Char)} {line : List Char} {x : α}
    (h : LastOf Says lines x since) (hline : ∀ y, ¬ Says line y) :
    LastOf Says (lines ++ [line]) x (since ++ [line]) := by
  obtain ⟨older, header, rfl, hsaid, hsince⟩ := h
  refine ⟨older, header, by simp, hsaid, ?_⟩
  exact List.forall_mem_append.mpr ⟨hsince, List.forall_mem_singleton.mpr hline⟩

theorem LastOf.not_forall {lines since : List (List Char)} {x : α}
    (h : LastOf Says lines x since) : ¬ ∀ line ∈ lines, ∀ y, ¬ Says line y := by
  obtain ⟨older, line, rfl, hsaid, -⟩ := h
  intro hnone
  exact hnone line (by simp) x hsaid

/-- A list is cut in one way in front of the lines that say nothing. -/
theorem LastOf.unique {lines since since' : List (List Char)} {x y : α}
    (h : LastOf Says lines x since) (h' : LastOf Says lines y since')
    (hsaid : ∀ {line x y}, Says line x → Says line y → x = y) : x = y ∧ since = since' := by
  obtain ⟨older, line, rfl, hx, hsince⟩ := h
  obtain ⟨older', line', heq, hy, hsince'⟩ := h'
  -- If the cuts differ, the line at the later one says something behind the earlier one.
  rcases List.append_eq_append_iff.mp heq with ⟨more, -, hmore⟩ | ⟨more, -, hmore⟩
  · cases more with
    | nil =>
        obtain ⟨rfl, rfl⟩ := List.cons.inj hmore
        exact ⟨hsaid hx hy, rfl⟩
    | cons m more =>
        obtain ⟨rfl, rfl⟩ := List.cons.inj hmore
        exact absurd hy (hsince line' (by simp) y)
  · cases more with
    | nil =>
        obtain ⟨rfl, rfl⟩ := List.cons.inj hmore
        exact ⟨hsaid hx hy, rfl⟩
    | cons m more =>
        obtain ⟨rfl, rfl⟩ := List.cons.inj hmore
        exact absurd hx (hsince' line (by simp) x)

/-- The lines `before` end in a stretch of the file `path` of the commit `h`: its header says
`start`, and the lines `since` follow it. -/
def InStretch (before : List (List Char)) (h : CommitHeader) (path : String) (start : List Char)
    (since : List (List Char)) : Prop :=
  ∃ sinceCommit sinceFile, LastOf IsCommitHeader before h sinceCommit ∧
    LastOf IsFileHeader sinceCommit path sinceFile ∧ LastOf IsHunkHeader sinceFile start since

theorem InStretch.unique {before since since' : List (List Char)} {h h' : CommitHeader}
    {path path' : String} {start start' : List Char} (hin : InStretch before h path start since)
    (hin' : InStretch before h' path' start' since') :
    h = h' ∧ path = path' ∧ start = start' ∧ since = since' := by
  obtain ⟨sinceCommit, sinceFile, hcommit, hfile, hhunk⟩ := hin
  obtain ⟨sinceCommit', sinceFile', hcommit', hfile', hhunk'⟩ := hin'
  obtain ⟨rfl, rfl⟩ := hcommit.unique hcommit' IsCommitHeader.unique
  obtain ⟨rfl, rfl⟩ := hfile.unique hfile' IsFileHeader.unique
  obtain ⟨rfl, rfl⟩ := hhunk.unique hhunk' IsHunkHeader.unique
  exact ⟨rfl, rfl, rfl, rfl⟩

/-! ## What is left out, what is signed and what is counted -/

/-- Does a text contain one of the exclusions that say something? -/
def Mentions (exclusions : List String) (text : List Char) : Prop :=
  ∃ e ∈ exclusions, e ≠ "" ∧ e.toList <:+: text

theorem excludes_iff {exclusions : List String} {p : DiffParser}
    (hp : p.exclusions = exclusions.filter (· ≠ "")) (text : List Char) :
    p.excludes text = true ↔ Mentions exclusions text := by
  rw [excludes, hp, List.any_eq_true]
  simp only [List.mem_filter, decide_eq_true_eq, occursIn_iff, and_assoc]
  rfl

instance (exclusions : List String) (text : List Char) : Decidable (Mentions exclusions text) :=
  decidable_of_iff _ (excludes_iff (p := new exclusions) rfl text)

/-- The commit that a header names. Behind the hash stand the author, the address and the title,
with bars between them; more bars belong to the title, and what is missing is empty. -/
def signatureOf (h : CommitHeader) : Commit :=
  let fields := h.rest.splitOn '|'
  { hash := h.hash
    author := String.ofList (fields.headD [])
    email := String.ofList (fields.getD 1 [])
    title := String.ofList (['|'].intercalate (fields.drop 2)) }

theorem splitOn_of_cut?_eq_some {text before after : List Char}
    (h : cut? '|' text = some (before, after)) :
    text.splitOn '|' = before :: after.splitOn '|' := by
  obtain ⟨rfl, hbefore⟩ := cut?_eq_some_iff.mp h
  exact List.splitOn_append_cons_self_of_not_mem hbefore after

theorem splitOn_of_cut?_eq_none {text : List Char} (h : cut? '|' text = none) :
    text.splitOn '|' = [text] :=
  List.splitOn_eq_singleton (cut?_eq_none_iff.mp h)

theorem commitOf_eq_signatureOf (h : CommitHeader) : commitOf h = signatureOf h := by
  unfold commitOf signatureOf
  cases hcut : cut? '|' h.rest with
  | none => simp [splitOn_of_cut?_eq_none hcut]
  | some parts =>
      obtain ⟨author, rest⟩ := parts
      simp only [splitOn_of_cut?_eq_some hcut]
      cases hcut' : cut? '|' rest with
      | none => simp [splitOn_of_cut?_eq_none hcut']
      | some parts =>
          obtain ⟨email, title⟩ := parts
          simp [splitOn_of_cut?_eq_some hcut', List.intercalate_splitOn]

/-- How many lines begin with a plus sign. -/
def plusLines (lines : List (List Char)) : Nat :=
  lines.countP fun line => decide (line.head? = some '+')

instance (line : List Char) : Decidable (∃ h, IsCommitHeader line h) :=
  decidable_of_iff ((commitHeader? line).isSome = true) <| by
    simp only [Option.isSome_iff_exists, commitHeader?_eq_some_iff]

/-- How many lines begin a commit. -/
def commitLines (lines : List (List Char)) : Nat :=
  lines.countP fun line => decide (∃ h, IsCommitHeader line h)

/-! ## What the parser knows of the lines in front of it -/

/-- What the place, the commit, the path and the number say of the lines in front of the parser. -/
def Standing (exclusions : List String) (before : List (List Char)) (p : DiffParser) : Prop :=
  match p.place with
  | .noCommit => ∀ line ∈ before, ∀ h, ¬ IsCommitHeader line h
  | .inCommit =>
    ∃ h sinceCommit, LastOf IsCommitHeader before h sinceCommit ∧ p.commit = signatureOf h ∧
      ∀ line ∈ sinceCommit, ∀ path, ¬ IsFileHeader line path
  | .inFile =>
    ∃ h sinceCommit path sinceFile, LastOf IsCommitHeader before h sinceCommit ∧
      p.commit = signatureOf h ∧ LastOf IsFileHeader sinceCommit path sinceFile ∧
      p.path = some path ∧ (p.skipping = true ↔ Mentions exclusions ('/' :: path.toList)) ∧
      ∀ line ∈ sinceFile, ∀ start, ¬ IsHunkHeader line start
  | .inHunk =>
    ∃ h path start since, InStretch before h path start since ∧ p.commit = signatureOf h ∧
      p.path = some path ∧ (p.skipping = true ↔ Mentions exclusions ('/' :: path.toList)) ∧
      p.nextLine = (lineNumberOf start + plusLines since) % Decimal.twoTo 64

/-- The parser stands behind the lines `before`. -/
structure Tracks (exclusions : List String) (before : List (List Char)) (p : DiffParser) :
    Prop where
  exclusions_eq : p.exclusions = exclusions.filter (· ≠ "")
  commitsSeen_eq : p.commitsSeen = commitLines before
  standing : Standing exclusions before p

theorem tracks_new (exclusions : List String) : Tracks exclusions [] (new exclusions) :=
  ⟨rfl, rfl, by simp [Standing, new]⟩

@[simp] theorem commitLines_snoc (before : List (List Char)) (line : List Char) :
    commitLines (before ++ [line]) =
      commitLines before + if ∃ h, IsCommitHeader line h then 1 else 0 := by
  simp [commitLines, List.countP_append, List.countP_cons]

@[simp] theorem plusLines_snoc (lines : List (List Char)) (line : List Char) :
    plusLines (lines ++ [line]) = plusLines lines + if line.head? = some '+' then 1 else 0 := by
  simp [plusLines, List.countP_append, List.countP_cons]

theorem lineNumberOf_lt (start : List Char) : lineNumberOf start < Decimal.twoTo 64 := by
  unfold lineNumberOf
  split
  · split
    · assumption
    · decide
  · decide

theorem InStretch.snoc {before since : List (List Char)} {h : CommitHeader} {path : String}
    {start line : List Char} (hin : InStretch before h path start since)
    (hcommit : ∀ h, ¬ IsCommitHeader line h) (hfile : ∀ path, ¬ IsFileHeader line path)
    (hhunk : ∀ start, ¬ IsHunkHeader line start) :
    InStretch (before ++ [line]) h path start (since ++ [line]) := by
  obtain ⟨sinceCommit, sinceFile, hc, hf, hh⟩ := hin
  exact ⟨_, _, hc.snoc hcommit, hf.snoc hfile, hh.snoc hhunk⟩

theorem commitLines_snoc_of_not {before : List (List Char)} {line : List Char}
    (hcommit : ∀ h, ¬ IsCommitHeader line h) :
    commitLines (before ++ [line]) = commitLines before := by
  simp [hcommit]

/-- In every place but the first the parser remembers the last commit. -/
theorem Standing.exists_commit {exclusions : List String} {before : List (List Char)}
    {p : DiffParser} (h : Standing exclusions before p) (hplace : p.place ≠ .noCommit) :
    ∃ header sinceCommit, LastOf IsCommitHeader before header sinceCommit ∧
      p.commit = signatureOf header := by
  cases hp : p.place with
  | noCommit => exact absurd hp hplace
  | inCommit =>
      simp only [Standing, hp] at h
      obtain ⟨header, sinceCommit, hlast, hsign, -⟩ := h
      exact ⟨header, sinceCommit, hlast, hsign⟩
  | inFile =>
      simp only [Standing, hp] at h
      obtain ⟨header, sinceCommit, -, -, hlast, hsign, -⟩ := h
      exact ⟨header, sinceCommit, hlast, hsign⟩
  | inHunk =>
      simp only [Standing, hp] at h
      obtain ⟨header, -, -, -, ⟨sinceCommit, -, hlast, -⟩, hsign, -⟩ := h
      exact ⟨header, sinceCommit, hlast, hsign⟩

/-- Behind the header of a file the parser remembers the last file of the last commit. -/
theorem Standing.exists_file {exclusions : List String} {before : List (List Char)}
    {p : DiffParser} (h : Standing exclusions before p)
    (hplace : p.place = .inFile ∨ p.place = .inHunk) :
    ∃ header sinceCommit path sinceFile, LastOf IsCommitHeader before header sinceCommit ∧
      LastOf IsFileHeader sinceCommit path sinceFile ∧ p.commit = signatureOf header ∧
      p.path = some path ∧ (p.skipping = true ↔ Mentions exclusions ('/' :: path.toList)) := by
  rcases hplace with hp | hp
  · simp only [Standing, hp] at h
    obtain ⟨header, sinceCommit, path, sinceFile, hc, hsign, hf, hpath, hskip, -⟩ := h
    exact ⟨header, sinceCommit, path, sinceFile, hc, hf, hsign, hpath, hskip⟩
  · simp only [Standing, hp] at h
    obtain ⟨header, path, -, -, ⟨sinceCommit, sinceFile, hc, hf, -⟩, hsign, hpath, hskip, -⟩ := h
    exact ⟨header, sinceCommit, path, sinceFile, hc, hf, hsign, hpath, hskip⟩

/-- What the parser knows of the lines in front of it, it still knows behind the next line. -/
theorem Tracks.step {exclusions : List String} {before : List (List Char)} {line : List Char}
    {p q : DiffParser} {o : Option AddedLine} (ht : Tracks exclusions before p)
    (hstep : Step p line q o) : Tracks exclusions (before ++ [line]) q := by
  obtain ⟨hexcl, hseen, hstand⟩ := ht
  cases hstep with
  | @commit h header =>
      refine ⟨hexcl, ?_, ?_⟩
      · simp [startCommit, hseen, show ∃ h, IsCommitHeader line h from ⟨h, header⟩]
      · exact ⟨h, [], LastOf.of_says before header, commitOf_eq_signatureOf h, by simp⟩
  | unread place no_commit =>
      refine ⟨hexcl, by rw [hseen, commitLines_snoc_of_not no_commit], ?_⟩
      simp only [Standing, place] at hstand ⊢
      exact List.forall_mem_append.mpr ⟨hstand, List.forall_mem_singleton.mpr no_commit⟩
  | @file path place no_commit header =>
      refine ⟨hexcl, by simp [startFile, hseen, no_commit], ?_⟩
      have hskip := excludes_iff hexcl ('/' :: path.toList)
      obtain ⟨h, sinceCommit, hc, hsign⟩ := hstand.exists_commit place
      exact ⟨h, _, path, [], hc.snoc no_commit, hsign, LastOf.of_says sinceCommit header, rfl,
        hskip, by simp⟩
  | message place no_commit no_file =>
      refine ⟨hexcl, by rw [hseen, commitLines_snoc_of_not no_commit], ?_⟩
      simp only [Standing, place] at hstand ⊢
      obtain ⟨h, sinceCommit, hc, hsign, hnone⟩ := hstand
      refine ⟨h, _, hc.snoc no_commit, hsign, ?_⟩
      exact List.forall_mem_append.mpr ⟨hnone, List.forall_mem_singleton.mpr no_file⟩
  | @hunk start place no_commit no_file header =>
      refine ⟨hexcl, by simp [hseen, no_commit], ?_⟩
      have hnumber : lineNumberOf start =
          (lineNumberOf start + plusLines []) % Decimal.twoTo 64 :=
        (Nat.mod_eq_of_lt (lineNumberOf_lt start)).symm
      obtain ⟨h, _, path, sinceFile, hc, hf, hsign, hpath, hskip⟩ := hstand.exists_file place
      exact ⟨h, path, start, [], ⟨_, _, hc.snoc no_commit, hf.snoc no_file,
        LastOf.of_says sinceFile header⟩, hsign, hpath, hskip, hnumber⟩
  | added place line_eq no_commit no_file no_hunk =>
      refine ⟨hexcl, by simp [countLine, hseen, no_commit], ?_⟩
      simp only [Standing, countLine, place] at hstand ⊢
      obtain ⟨h, path, start, since, hin, hsign, hpath, hskip, hnext⟩ := hstand
      refine ⟨h, path, start, _, hin.snoc no_commit no_file no_hunk, hsign, hpath, hskip, ?_⟩
      rw [hnext, plusLines_snoc, line_eq, Nat.mod_add_mod, Nat.add_assoc]
      rfl
  | other place no_commit no_file no_hunk =>
      refine ⟨hexcl, by rw [hseen, commitLines_snoc_of_not no_commit], ?_⟩
      rcases place with hp | ⟨hp, hhead⟩
      · simp only [Standing, hp] at hstand ⊢
        obtain ⟨h, sinceCommit, path, sinceFile, hc, hsign, hf, hpath, hskip, hnone⟩ := hstand
        refine ⟨h, _, path, _, hc.snoc no_commit, hsign, hf.snoc no_file, hpath, hskip, ?_⟩
        exact List.forall_mem_append.mpr ⟨hnone, List.forall_mem_singleton.mpr no_hunk⟩
      · simp only [Standing, hp] at hstand ⊢
        obtain ⟨h, path, start, since, hin, hsign, hpath, hskip, hnext⟩ := hstand
        exact ⟨h, path, start, _, hin.snoc no_commit no_file no_hunk, hsign, hpath, hskip,
          by simpa [hhead] using hnext⟩

theorem tracks_feedAll (exclusions : List String) (before : List (List Char)) :
    Tracks exclusions before ((new exclusions).feedAll before).1 := by
  induction before using List.reverseRecOn with
  | nil => exact tracks_new exclusions
  | append_singleton before line ih =>
      rw [feedAll_snoc]
      exact ih.step (feed_step _ line)

/-! ## Added lines, looking back -/

/-- The added line that looking back from `line` finds. The number is kept in 64 bits. -/
def Finds (exclusions : List String) (before : List (List Char)) (line : List Char)
    (a : AddedLine) : Prop :=
  ∃ h path start since text, line = '+' :: text ∧ InStretch before h path start since ∧
    ¬ Mentions exclusions ('/' :: path.toList) ∧ ¬ Mentions exclusions text ∧
    a = ⟨{ signatureOf h with
          line := (lineNumberOf start + plusLines since) % Decimal.twoTo 64 },
        path, String.ofList text⟩

theorem added?_eq_some_iff {p : DiffParser} {text : List Char} {a : AddedLine} :
    p.added? text = some a ↔ p.skipping = false ∧ p.excludes text = false ∧
      a = ⟨{ p.commit with line := p.nextLine }, p.path.getD "", String.ofList text⟩ := by
  unfold added?
  cases p.skipping <;> cases p.excludes text <;> simp [eq_comm]

/-- A parser inside a stretch gives a line behind a plus sign as looking back finds it. -/
theorem added?_iff_finds {exclusions : List String} {before since : List (List Char)}
    {p : DiffParser} {h : CommitHeader} {path : String} {start text : List Char}
    (hexcl : p.exclusions = exclusions.filter (· ≠ ""))
    (hin : InStretch before h path start since) (hsign : p.commit = signatureOf h)
    (hpath : p.path = some path)
    (hskip : p.skipping = true ↔ Mentions exclusions ('/' :: path.toList))
    (hnext : p.nextLine = (lineNumberOf start + plusLines since) % Decimal.twoTo 64)
    (a : AddedLine) : p.added? text = some a ↔ Finds exclusions before ('+' :: text) a := by
  have hline := excludes_iff hexcl text
  rw [added?_eq_some_iff, ← Bool.not_eq_true, ← Bool.not_eq_true, hskip, hline, hsign, hpath,
    hnext]
  constructor
  · rintro ⟨hfile, htext, rfl⟩
    exact ⟨h, path, start, since, text, rfl, hin, hfile, htext, rfl⟩
  · rintro ⟨h', path', start', since', text', heq, hin', hfile, htext, rfl⟩
    obtain ⟨-, rfl⟩ := List.cons.inj heq
    obtain ⟨rfl, rfl, rfl, rfl⟩ := hin.unique hin'
    exact ⟨hfile, htext, rfl⟩

/-- Nothing is found from a line that does not stand behind all three headers. -/
theorem Tracks.inHunk_of_finds {exclusions : List String} {before : List (List Char)}
    {line : List Char} {p : DiffParser} {a : AddedLine} (ht : Tracks exclusions before p)
    (hfinds : Finds exclusions before line a) : p.place = .inHunk := by
  obtain ⟨h, path, start, since, text, -, ⟨sinceCommit, sinceFile, hc, hf, hh⟩, -⟩ := hfinds
  have hstand := ht.standing
  unfold Standing at hstand
  -- In any other place one of the three headers has not been seen since the one above it.
  split at hstand
  · exact absurd hstand hc.not_forall
  · obtain ⟨h', sinceCommit', hc', -, hnone⟩ := hstand
    obtain ⟨rfl, rfl⟩ := hc.unique hc' IsCommitHeader.unique
    exact absurd hnone hf.not_forall
  · obtain ⟨h', sinceCommit', path', sinceFile', hc', -, hf', -, -, hnone⟩ := hstand
    obtain ⟨rfl, rfl⟩ := hc.unique hc' IsCommitHeader.unique
    obtain ⟨rfl, rfl⟩ := hf.unique hf' IsFileHeader.unique
    exact absurd hnone hh.not_forall
  · assumption

theorem Tracks.feed_eq_some_iff {exclusions : List String} {before : List (List Char)}
    {line : List Char} {p q : DiffParser} {o : Option AddedLine}
    (ht : Tracks exclusions before p) (hstep : Step p line q o) (a : AddedLine) :
    o = some a ↔ Finds exclusions before line a := by
  -- Only in a stretch, and only behind a plus sign, is a line given or found.
  have hnothing (hline : p.place = .inHunk → ∀ text, line ≠ '+' :: text) :
      none = some a ↔ Finds exclusions before line a := by
    constructor
    · exact nofun
    · intro hfinds
      have hin := ht.inHunk_of_finds hfinds
      obtain ⟨-, -, -, -, text, heq, -⟩ := hfinds
      exact absurd heq (hline hin text)
  cases hstep with
  | @commit h header =>
      refine hnothing ?_
      rintro - text rfl
      exact not_commitHeader_of_plus text h header
  | unread place =>
      refine hnothing ?_
      simp [place]
  | @file path _ _ header =>
      refine hnothing ?_
      rintro - text rfl
      exact not_fileHeader_of_plus text path header
  | message place =>
      refine hnothing ?_
      simp [place]
  | @hunk start _ _ _ header =>
      refine hnothing ?_
      rintro - text rfl
      exact not_hunkHeader_of_plus text start header
  | added place line_eq =>
      have hstand := ht.standing
      simp only [Standing, place] at hstand
      obtain ⟨h, path, start, since, hin, hsign, hpath, hskip, hnext⟩ := hstand
      rw [line_eq]
      exact added?_iff_finds ht.exclusions_eq hin hsign hpath hskip hnext a
  | other place =>
      refine hnothing ?_
      rintro hin text rfl
      rcases place with hfile | ⟨-, hhead⟩
      · simp [hin] at hfile
      · exact hhead rfl

end SecretScan.DiffParser
