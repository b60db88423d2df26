import SecretScan.Proofs.History.Exclusions
import Mathlib.Data.Nat.Find

/-!
# The files that added lines are credited to

An added line belongs to the file whose header stands last in front of it. The parser passes over
the headers that it cannot read, those with a path in quotes among them, and then credits the
lines to the file before. Of a header that it reads it takes the path behind the first ` b/`,
which is the path of the file unless that has such a stretch within it.
-/

namespace SecretScan.DiffParser

variable {exclusions : List String}

/-! ## Headers that are passed over -/

/-- The line that begins the changes of a file, whatever follows. -/
def changesLine (rest : List Char) : List Char := "diff --git ".toList ++ rest

theorem not_commitHeader_changesLine (rest : List Char) (h : CommitHeader) :
    ¬ IsCommitHeader (changesLine rest) h := by
  rw [← commitHeader?_eq_some_iff]
  exact nofun

theorem not_hunkHeader_changesLine (rest start : List Char) :
    ¬ IsHunkHeader (changesLine rest) start := by
  rw [← hunkHeader?_eq_some_iff]
  exact nofun

/-- A text that can be cut can be cut first. -/
theorem exists_isFirstCut {text old path : List Char} (hold : old ≠ [])
    (htext : text = old ++ (" b/".toList ++ path)) :
    ∃ old' path', IsFirstCut text old' path' ∧ path.length ≤ path'.length := by
  have hcuts : ∃ n, ∃ old' path' : List Char, old' ≠ [] ∧ old'.length = n ∧
      text = old' ++ (" b/".toList ++ path') := ⟨_, old, path, hold, rfl, htext⟩
  classical
  obtain ⟨old', path', hne, hlength, htext'⟩ := Nat.find_spec hcuts
  have hfirst (front back : List Char) (hfront : front ≠ [])
      (hcut : text = front ++ (" b/".toList ++ back)) : old'.length ≤ front.length :=
    hlength ▸ Nat.find_min' hcuts ⟨front, back, hfront, rfl, hcut⟩
  refine ⟨old', path', ⟨htext', hne, hfirst⟩, ?_⟩
  have hle := hfirst old path hold htext
  have hsizes := congrArg List.length (htext.symm.trans htext')
  simp only [List.length_append] at hsizes
  omega

/-- A header is read just if it names two paths, behind `a/` and ` b/`. -/
theorem exists_isFileHeader_iff {rest : List Char} :
    (∃ path, IsFileHeader (changesLine rest) path) ↔
      '\n' ∉ rest ∧ ∃ old path, old ≠ [] ∧ path ≠ [] ∧
        rest = "a/".toList ++ (old ++ (" b/".toList ++ path)) := by
  constructor
  · rintro ⟨path, text, old, hline, ⟨rfl, hold, -⟩, hpath, hfeed⟩
    have hrest : rest = "a/".toList ++ (old ++ (" b/".toList ++ path.toList)) :=
      List.append_cancel_left hline
    refine ⟨?_, old, path.toList, hold, by simpa using hpath, hrest⟩
    rw [hrest, List.mem_append, not_or]
    exact ⟨by decide, hfeed⟩
  · rintro ⟨hfeed, old, path, hold, hpath, rfl⟩
    obtain ⟨old', path', hcut, hle⟩ := exists_isFirstCut hold rfl
    refine ⟨String.ofList path', _, old', rfl, by simpa using hcut, ?_, ?_⟩
    · rintro hempty
      have hnil : path' = [] := by simpa using congrArg String.toList hempty
      rw [hnil, List.length_nil, Nat.le_zero] at hle
      exact hpath (List.length_eq_zero_iff.mp hle)
    · exact fun hmem => hfeed (List.mem_append_right _ hmem)

theorem not_fileHeader_of_quote (rest : List Char) (path : String) :
    ¬ IsFileHeader (changesLine ('"' :: rest)) path := by
  intro h
  obtain ⟨-, old, path, -, -, heq⟩ := exists_isFileHeader_iff.mp ⟨path, h⟩
  exact absurd (List.cons.inj heq).1 (by decide)

/-- A header that cannot be read leaves a parser as it is, wherever it stands. -/
theorem feed_changesLine {rest : List Char}
    (hunread : ∀ path, ¬ IsFileHeader (changesLine rest) path)
    (p : DiffParser) : p.feed (changesLine rest) = (p, none) := by
  have hcommit := not_commitHeader_changesLine rest
  have hhunk := not_hunkHeader_changesLine rest
  cases hplace : p.place with
  | noCommit => exact (Step.unread hplace hcommit).feed_eq
  | inCommit => exact (Step.message hplace hcommit hunread).feed_eq
  | inFile => exact (Step.other (Or.inl hplace) hcommit hunread hhunk).feed_eq
  | inHunk =>
      have hhead : (changesLine rest).head? ≠ some '+' := by
        show some 'd' ≠ some '+'
        decide
      exact (Step.other (Or.inr ⟨hplace, hhead⟩) hcommit hunread hhunk).feed_eq

/-! ## What lines are credited to -/

section LastOf

variable {α : Type} {Says : List Char → α → Prop} {front rest since : List (List Char)} {x : α}

theorem LastOf.mem (h : LastOf Says rest x since) : ∃ line ∈ rest, Says line x := by
  obtain ⟨older, line, rfl, hsaid, -⟩ := h
  exact ⟨line, by simp, hsaid⟩

theorem LastOf.since_subset (h : LastOf Says rest x since) : since ⊆ rest := by
  obtain ⟨older, line, rfl, -, -⟩ := h
  intro l hl
  simp [hl]

theorem LastOf.append (h : LastOf Says front x since) (hrest : ∀ line ∈ rest, ∀ y, ¬ Says line y) :
    LastOf Says (front ++ rest) x (since ++ rest) := by
  obtain ⟨older, line, rfl, hsaid, hsince⟩ := h
  exact ⟨older, line, by simp, hsaid, List.forall_mem_append.mpr ⟨hsince, hrest⟩⟩

/-- The last line that says something stands in the last part that says anything. -/
theorem LastOf.of_append (h : LastOf Says (front ++ rest) x since) :
    LastOf Says rest x since ∨ (∀ line ∈ rest, ∀ y, ¬ Says line y) ∧
      ∃ sinceFront, LastOf Says front x sinceFront ∧ since = sinceFront ++ rest := by
  obtain ⟨older, line, heq, hsaid, hsince⟩ := h
  rcases List.append_eq_append_iff.mp heq with ⟨more, rfl, hrest⟩ | ⟨more, hfront, hmore⟩
  · exact Or.inl ⟨more, line, hrest, hsaid, hsince⟩
  · cases more with
    | nil => exact Or.inl ⟨[], line, hmore.symm, hsaid, hsince⟩
    | cons m more =>
        obtain ⟨rfl, rfl⟩ := List.cons.inj hmore
        obtain ⟨hsinceFront, hnone⟩ := List.forall_mem_append.mp hsince
        exact Or.inr ⟨hnone, more, ⟨older, line, hfront, hsaid, hsinceFront⟩, rfl⟩

end LastOf

/-- Behind `line`, and up to the next commit, an added line is credited to a file whose header is
`line` or stands behind it, and is given only behind the header of a stretch that stands behind it
too. -/
def CreditsBehind (exclusions : List String) (before : List (List Char)) (line : List Char) :
    Prop :=
  ∀ more : List (List Char), (∀ l ∈ more, ∀ h, ¬ IsCommitHeader l h) →
    let seen := before ++ line :: more
    ∀ (next : List Char) (after : List (List Char)) (a : AddedLine),
      ((new exclusions).feedAll (seen ++ next :: after)).2[seen.length]? = some (some a) →
        (∃ header ∈ line :: more, IsFileHeader header a.path) ∧
          ∃ mark ∈ more, ∃ start, IsHunkHeader mark start

/-- An added line is given for a file that is not left out. -/
theorem exists_inStretch_of_given {before after : List (List Char)} {line : List Char}
    {a : AddedLine}
    (h : ((new exclusions).feedAll (before ++ line :: after)).2[before.length]? = some (some a)) :
    ∃ header start since, InStretch before header a.path start since ∧
      ¬ Mentions exclusions ('/' :: a.path.toList) := by
  rw [getElem?_feedAll, Option.some_inj] at h
  obtain ⟨header, path, start, since, text, -, hin, hpath, -, rfl⟩ :=
    ((tracks_feedAll exclusions before).feed_eq_some_iff (feed_step _ line) a).mp h
  exact ⟨header, start, since, hin, hpath⟩

variable {before sinceCommit : List (List Char)} {h : CommitHeader}

/-- Behind a commit no line is credited back, if the header is read or no file is open that could be
given lines. -/
theorem creditsBehind_of_read_or_closed (hcommit : LastOf IsCommitHeader before h sinceCommit)
    {rest : List Char} (hclosed : (∃ path, IsFileHeader (changesLine rest) path) ∨
      ∀ path sinceFile, LastOf IsFileHeader sinceCommit path sinceFile →
        Mentions exclusions ('/' :: path.toList)) :
    CreditsBehind exclusions before (changesLine rest) := by
  intro more hmore seen next after a hgiven
  obtain ⟨h', start, since, ⟨sinceCommit', sinceFile, hcommit', hfile, hhunk⟩, hout⟩ :=
    exists_inStretch_of_given hgiven
  have hbehind : ∀ l ∈ changesLine rest :: more, ∀ h, ¬ IsCommitHeader l h :=
    List.forall_mem_cons.mpr ⟨not_commitHeader_changesLine rest, hmore⟩
  obtain ⟨-, rfl⟩ := (hcommit.append hbehind).unique hcommit' IsCommitHeader.unique
  rcases hfile.of_append with hfile | ⟨hnone, sinceFront, hfront, -⟩
  · refine ⟨hfile.mem, ?_⟩
    -- The header of the stretch stands behind that of the file, so it is none of `line`.
    obtain ⟨mark, hmark, hstart⟩ := hhunk.mem
    rcases List.mem_cons.mp (hfile.since_subset hmark) with rfl | hmem
    · exact absurd hstart (not_hunkHeader_changesLine rest start)
    · exact ⟨mark, hmem, start, hstart⟩
  · rcases hclosed with ⟨path, hread⟩ | hclosed
    · exact absurd hread (hnone _ List.mem_cons_self path)
    · exact absurd (hclosed _ _ hfront) hout

/-- A file that is open behind a header that cannot be read is credited with the next line. -/
theorem not_creditsBehind_of_open (hcommit : LastOf IsCommitHeader before h sinceCommit)
    {rest : List Char} (hunread : ∀ path, ¬ IsFileHeader (changesLine rest) path) {path : String}
    {sinceFile : List (List Char)} (hfile : LastOf IsFileHeader sinceCommit path sinceFile)
    (hopen : ¬ Mentions exclusions ('/' :: path.toList)) :
    ¬ CreditsBehind exclusions before (changesLine rest) := by
  intro hcredits
  let mark := "@@ -1 +1 @@".toList
  have hmark : IsHunkHeader mark ['1'] := hunkHeader?_eq_some_iff.mp (by decide)
  have hmarkCommit : ∀ h, ¬ IsCommitHeader mark h := by
    intro h
    rw [← commitHeader?_eq_some_iff]
    exact nofun
  have hmarkFile : ∀ path, ¬ IsFileHeader mark path := by
    intro path
    rw [← fileHeader?_eq_some_iff]
    exact nofun
  have hcommits : ∀ l ∈ [changesLine rest, mark], ∀ h, ¬ IsCommitHeader l h := by
    simp [hmarkCommit, not_commitHeader_changesLine]
  have hfiles : ∀ l ∈ [changesLine rest, mark], ∀ path, ¬ IsFileHeader l path := by
    simp [hmarkFile, hunread]
  have hin : InStretch (before ++ [changesLine rest, mark]) h path ['1'] [] :=
    ⟨_, _, hcommit.append hcommits, hfile.append hfiles,
      sinceFile ++ [changesLine rest], mark, by simp, hmark, by simp⟩
  obtain ⟨given, hgiven, hnone, hpath⟩ := exists_given_of_inStretch hin [] []
  have hline : ¬ Mentions exclusions [] := by
    rintro ⟨e, -, hne, hinfix⟩
    exact hne (by simpa using hinfix)
  cases given with
  | none => exact (hnone.mp rfl).elim hopen hline
  | some a =>
      obtain ⟨⟨header, hheader, hread⟩, -⟩ :=
        hcredits [mark] (by simpa using hmarkCommit) ['+'] [] a hgiven
      exact hfiles header hheader _ hread

/-- Behind the header of a file no added line is credited back to an earlier one, nor given before
the next stretch, just if the header is read or no file is open that could be given lines. A
header is read just if it names two paths behind `a/` and ` b/`; a path in quotes is not. One that
is not read leaves the parser as it is. -/
theorem changes_credited_behind_header_iff_read (exclusions : List String)
    (hcommit : LastOf IsCommitHeader before h sinceCommit) (rest : List Char) :
    let read := ∃ path, IsFileHeader (changesLine rest) path
    (CreditsBehind exclusions before (changesLine rest) ↔
      read ∨ ∀ path sinceFile, LastOf IsFileHeader sinceCommit path sinceFile →
        Mentions exclusions ('/' :: path.toList)) ∧
    (read ↔ '\n' ∉ rest ∧ ∃ old path, old ≠ [] ∧ path ≠ [] ∧
      rest = "a/".toList ++ (old ++ (" b/".toList ++ path))) ∧
    (rest.head? = some '"' → ¬ read) ∧
    (¬ read → ∀ p : DiffParser, p.feed (changesLine rest) = (p, none)) := by
  intro read
  refine ⟨⟨?_, creditsBehind_of_read_or_closed hcommit⟩, exists_isFileHeader_iff, ?_, ?_⟩
  · intro hcredits
    by_contra hneither
    obtain ⟨hunread, hopen⟩ := not_or.mp hneither
    push Not at hopen
    obtain ⟨path, sinceFile, hfile, hout⟩ := hopen
    exact not_creditsBehind_of_open hcommit (not_exists.mp hunread) hfile hout hcredits
  · intro hquote
    obtain ⟨tail, rfl⟩ := List.head?_eq_some_iff.mp hquote
    exact not_exists.mpr (not_fileHeader_of_quote tail)
  · intro hunread
    exact feed_changesLine (not_exists.mp hunread)

/-- The header of the second file is read, and so is the second file credited with its lines. -/
theorem second_file_has_its_own_lines :
    let before := ["commit 1234567|a|b|c", "diff --git a/x b/x", "@@ -0,0 +1 @@", "+one"].map
      String.toList
    LastOf IsCommitHeader before ⟨"1234567", "a|b|c".toList⟩ before.tail ∧
      CreditsBehind [] before (changesLine "a/y b/y".toList) := by
  intro before
  have hcommit : LastOf IsCommitHeader before ⟨"1234567", "a|b|c".toList⟩ before.tail := by
    have hnone : ∀ l ∈ before.tail, commitHeader? l = none := by decide +kernel
    refine ⟨[], _, rfl, commitHeader?_eq_some_iff.mp (by decide +kernel), ?_⟩
    intro l hl h hheader
    rw [← commitHeader?_eq_some_iff, hnone l hl] at hheader
    simp at hheader
  obtain ⟨hcredits, hread, -⟩ :=
    changes_credited_behind_header_iff_read [] hcommit "a/y b/y".toList
  refine ⟨hcommit, hcredits.mpr (Or.inl (hread.mpr ⟨by decide, ?_⟩))⟩
  exact ⟨['y'], ['y'], by decide, by decide, by decide⟩

/-- A name in quotes, as git writes one with other letters than those of ASCII: the lines of its
file are credited to the file before, its header `+++` among them. -/
theorem quoted_header_credits_lines_back :
    (new []).addedLines
      (["commit 1234567|a|b|c", "diff --git a/x b/x", "@@ -0,0 +1 @@", "+one",
        r#"diff --git "a/\303\244" "b/\303\244""#, "--- /dev/null", r#"+++ "b/\303\244""#,
        "@@ -0,0 +1 @@", "+two"].map String.toList) =
      [⟨⟨"1234567", "a", "b", "c", 1⟩, "x", "one"⟩,
       ⟨⟨"1234567", "a", "b", "c", 2⟩, "x", r#"++ "b/\303\244""#⟩,
       ⟨⟨"1234567", "a", "b", "c", 1⟩, "x", "two"⟩] := by
  decide

/-! ## The path in a header -/

/-- The header of a file that has the same path on both sides. -/
def fileLine (path : String) : List Char :=
  changesLine ("a/".toList ++ (path.toList ++ (" b/".toList ++ path.toList)))

/-- A stretch ` b/` that begins within a text ends within it too, if another one follows the text.
-/
theorem exists_cut_of_lt {text back front behind : List Char}
    (h : text ++ (" b/".toList ++ back) = front ++ (" b/".toList ++ behind))
    (hlt : front.length < text.length) : ∃ rest, text = front ++ (" b/".toList ++ rest) := by
  obtain ⟨excess, rfl⟩ : front <+: text :=
    List.prefix_of_prefix_length_le ⟨_, h.symm⟩ (List.prefix_append _ _) hlt.le
  rw [List.append_assoc, List.append_cancel_left_eq] at h
  -- Each of the first two characters of ` b/` differs from those that would fall on it.
  match excess, h with
  | [], _ => simp at hlt
  | [c], h =>
      have h : c :: ' ' :: 'b' :: '/' :: back = ' ' :: 'b' :: '/' :: behind := h
      simp at h
  | [c, d], h =>
      have h : c :: d :: ' ' :: 'b' :: '/' :: back = ' ' :: 'b' :: '/' :: behind := h
      simp at h
  | c :: d :: e :: rest, h =>
      have h : c :: d :: e :: (rest ++ (" b/".toList ++ back)) = ' ' :: 'b' :: '/' :: behind := h
      simp only [List.cons.injEq] at h
      obtain ⟨rfl, rfl, rfl, -⟩ := h
      exact ⟨rest, rfl⟩

/-- The first cut of a text stays the first when another one follows the text. -/
theorem IsFirstCut.append {text old path : List Char} (h : IsFirstCut text old path)
    (back : List Char) :
    IsFirstCut (text ++ (" b/".toList ++ back)) old (path ++ (" b/".toList ++ back)) := by
  obtain ⟨rfl, hold, hfirst⟩ := h
  refine ⟨by simp only [List.append_assoc], hold, ?_⟩
  intro front behind hfront hcut
  by_contra hlt
  have hlt : front.length < (old ++ (" b/".toList ++ path)).length := by
    simp only [List.length_append]
    omega
  obtain ⟨rest, hrest⟩ := exists_cut_of_lt hcut hlt
  have hle := hfirst front rest hfront hrest
  omega

/-- A text that cannot be cut itself is what stands in front of the first cut. -/
theorem isFirstCut_of_not_isInfix {text : List Char} (hne : text ≠ [])
    (huncut : ¬ " b/".toList <:+: text.tail) (back : List Char) :
    IsFirstCut (text ++ (" b/".toList ++ back)) text back := by
  refine ⟨rfl, hne, ?_⟩
  intro front behind hfront hcut
  by_contra hlt
  obtain ⟨rest, rfl⟩ := exists_cut_of_lt hcut (Nat.lt_of_not_le hlt)
  obtain ⟨c, front, rfl⟩ := List.exists_cons_of_ne_nil hfront
  exact huncut ⟨front, rest, by simp⟩

theorem exists_isFirstCut_of_isInfix {text : List Char} (h : " b/".toList <:+: text.tail) :
    ∃ front back, IsFirstCut text front back := by
  cases text with
  | nil => simp at h
  | cons c text =>
      obtain ⟨front, back, rfl⟩ := h
      have htext : c :: (front ++ " b/".toList ++ back) =
          (c :: front) ++ (" b/".toList ++ back) := by
        simp only [List.cons_append, List.append_assoc]
      obtain ⟨old, path, hcut, -⟩ := exists_isFirstCut (List.cons_ne_nil c front) htext
      exact ⟨old, path, hcut⟩

/-- The header of a path names what stands behind the first ` b/`. -/
theorem isFileHeader_fileLine_iff {path named : String} (hpath : path ≠ "")
    (hfeed : '\n' ∉ path.toList) :
    IsFileHeader (fileLine path) named ↔
      ∃ old, IsFirstCut (path.toList ++ (" b/".toList ++ path.toList)) old named.toList := by
  have hne : path.toList ≠ [] := by simpa using hpath
  constructor
  · rintro ⟨text, old, hline, hcut, -, -⟩
    have hline : "diff --git a/".toList ++ (path.toList ++ (" b/".toList ++ path.toList)) =
        "diff --git a/".toList ++ text := hline
    obtain rfl := List.append_cancel_left hline
    exact ⟨old, hcut⟩
  · rintro ⟨old, hcut⟩
    refine ⟨_, old, rfl, hcut, ?_, ?_⟩
    · rintro rfl
      have hle := hcut.first _ _ hne rfl
      have hsizes := congrArg List.length hcut.text_eq
      simp only [String.toList_empty, List.length_append, List.length_nil] at hsizes
      have hpos := List.length_pos_iff.mpr hne
      omega
    · simp only [List.mem_append, not_or]
      exact ⟨hfeed, by decide, hfeed⟩

theorem IsFirstCut.isFileHeader {path : String} {front back : List Char}
    (h : IsFirstCut path.toList front back) (hpath : path ≠ "") (hfeed : '\n' ∉ path.toList) :
    IsFileHeader (fileLine path) (String.ofList (back ++ (" b/".toList ++ path.toList))) := by
  refine (isFileHeader_fileLine_iff hpath hfeed).mpr ⟨front, ?_⟩
  exact (String.toList_ofList (l := back ++ (" b/".toList ++ path.toList))).symm ▸
    h.append path.toList

/-- The path that the header of a path names. It ends with the path, and is the path just if that
cannot be cut. -/
theorem exists_isFileHeader_fileLine {path : String} (hpath : path ≠ "")
    (hfeed : '\n' ∉ path.toList) :
    ∃ named : String, IsFileHeader (fileLine path) named ∧
      (named = path ↔ ¬ " b/".toList <:+: path.toList.tail) ∧
      (∀ front back, IsFirstCut path.toList front back →
        named = String.ofList (back ++ (" b/".toList ++ path.toList))) ∧
      '/' :: path.toList <:+ '/' :: named.toList := by
  by_cases hcut : " b/".toList <:+: path.toList.tail
  · obtain ⟨front, back, hfirst⟩ := exists_isFirstCut_of_isInfix hcut
    have hheader := hfirst.isFileHeader hpath hfeed
    refine ⟨_, hheader, iff_of_false ?_ (not_not.mpr hcut), ?_, ?_⟩
    · intro heq
      have hsizes := congrArg (fun s => s.toList.length) heq
      simp only [String.toList_ofList, List.length_append] at hsizes
      have hmark : " b/".toList.length = 3 := rfl
      omega
    · intro front' back' hfirst'
      exact hheader.unique (hfirst'.isFileHeader hpath hfeed)
    · rw [String.toList_ofList]
      exact ⟨'/' :: (back ++ [' ', 'b']), by simp⟩
  · have hne : path.toList ≠ [] := by simpa using hpath
    have hheader : IsFileHeader (fileLine path) path :=
      (isFileHeader_fileLine_iff hpath hfeed).mpr ⟨_, isFirstCut_of_not_isInfix hne hcut _⟩
    refine ⟨path, hheader, iff_of_true rfl hcut, ?_, List.suffix_refl _⟩
    intro front back hfirst
    exact hheader.unique (hfirst.isFileHeader hpath hfeed)

/-- A line behind a plus sign in a stretch behind the header of a file. -/
theorem inStretch_behind_header {before sinceCommit more since : List (List Char)}
    {h : CommitHeader} {header start : List Char} {named : String}
    (hcommit : LastOf IsCommitHeader before h sinceCommit) (hheader : IsFileHeader header named)
    (hnone : ∀ l ∈ header :: more, ∀ h, ¬ IsCommitHeader l h)
    (hfiles : ∀ l ∈ more, ∀ path, ¬ IsFileHeader l path)
    (hhunk : LastOf IsHunkHeader more start since) :
    InStretch (before ++ header :: more) h named start since :=
  ⟨_, more, hcommit.append hnone, ⟨sinceCommit, header, rfl, hheader, hfiles⟩, hhunk⟩

/-- The header of a path is read, whatever the path, and all added lines behind it are credited to
what it names: the path itself, unless ` b/` stands in it behind its first character, and then what
follows there with the header's second path behind it. A line is left out just if that or the line
contains an exclusion, so no line is given that the path leaves out. -/
theorem header_names_path_unless_cut (exclusions : List String) {path : String} (hpath : path ≠ "")
    (hfeed : '\n' ∉ path.toList) :
    ∃ named : String,
      (named = path ↔ ¬ " b/".toList <:+: path.toList.tail) ∧
      (∀ front back, IsFirstCut path.toList front back →
        named = String.ofList (back ++ (" b/".toList ++ path.toList))) ∧
      (Mentions exclusions ('/' :: path.toList) → Mentions exclusions ('/' :: named.toList)) ∧
      ∀ before h sinceCommit more start since text after,
        LastOf IsCommitHeader before h sinceCommit →
        (∀ l ∈ more, (∀ h, ¬ IsCommitHeader l h) ∧ ∀ path, ¬ IsFileHeader l path) →
        LastOf IsHunkHeader more start since →
        let seen := before ++ fileLine path :: more
        ∃ given, ((new exclusions).feedAll (seen ++ ('+' :: text) :: after)).2[seen.length]? =
            some given ∧
          (given = none ↔ Mentions exclusions ('/' :: named.toList) ∨ Mentions exclusions text) ∧
          ∀ a, given = some a → a.path = named ∧ a.line = String.ofList text := by
  obtain ⟨named, hheader, hnamed, hcut, hsuffix⟩ := exists_isFileHeader_fileLine hpath hfeed
  refine ⟨named, hnamed, hcut, ?_, ?_⟩
  · rintro ⟨e, he, hne, hinfix⟩
    exact ⟨e, he, hne, hinfix.trans hsuffix.isInfix⟩
  · intro before h sinceCommit more start since text after hcommit hmore hhunk seen
    have hnone : ∀ l ∈ fileLine path :: more, ∀ h, ¬ IsCommitHeader l h :=
      List.forall_mem_cons.mpr ⟨not_commitHeader_changesLine _, fun l hl => (hmore l hl).1⟩
    exact exists_given_of_inStretch
      (inStretch_behind_header hcommit hheader hnone (fun l hl => (hmore l hl).2) hhunk) text after

/-- Blanks, and a ` b/` at the beginning, do no harm. -/
theorem path_with_blanks_is_named :
    let path := " b/my notes/b"
    let seen := ["commit 1234567|a|b|c".toList] ++ fileLine path :: ["@@ -0,0 +1 @@".toList]
    path ≠ "" ∧ '\n' ∉ path.toList ∧
      ∀ text, ∃ a, ((new []).feedAll (seen ++ ['+' :: text])).2[seen.length]? = some (some a) ∧
        a.path = path := by
  intro path seen
  have hpath : path ≠ "" := by decide
  have hfeed : '\n' ∉ path.toList := by decide
  refine ⟨hpath, hfeed, fun text => ?_⟩
  obtain ⟨named, hnamed, -, -, hgiven⟩ := header_names_path_unless_cut [] hpath hfeed
  obtain rfl : named = path := hnamed.mpr (by decide)
  have hcommit : LastOf IsCommitHeader ["commit 1234567|a|b|c".toList]
      ⟨"1234567", "a|b|c".toList⟩ [] :=
    LastOf.of_says [] (commitHeader?_eq_some_iff.mp (by decide +kernel))
  have hhunk : LastOf IsHunkHeader ["@@ -0,0 +1 @@".toList] ['1'] [] :=
    LastOf.of_says [] (hunkHeader?_eq_some_iff.mp (by decide +kernel))
  have hmore : ∀ l ∈ ["@@ -0,0 +1 @@".toList],
      (∀ h, ¬ IsCommitHeader l h) ∧ ∀ path, ¬ IsFileHeader l path := by
    simp only [← commitHeader?_eq_some_iff, ← fileHeader?_eq_some_iff]
    rintro l hl
    obtain rfl := List.mem_singleton.mp hl
    exact ⟨nofun, nofun⟩
  obtain ⟨given, hseen, hnone, hpath⟩ := hgiven _ _ _ _ _ _ text [] hcommit hmore hhunk
  have hnothing (line : List Char) : ¬ Mentions [] line := by rintro ⟨e, he, -⟩; simp at he
  cases given with
  | none => exact absurd (hnone.mp rfl) (not_or.mpr ⟨hnothing _, hnothing _⟩)
  | some a => exact ⟨a, hseen, (hpath a rfl).1⟩

/-- A folder whose name ends with a blank and `b` is taken for the end of the first path. -/
theorem folder_that_ends_in_b_cuts_path :
    (new []).addedLines
      (["commit 1234567|a|b|c", "diff --git a/docs b/readme b/docs b/readme", "@@ -0,0 +1 @@",
        "+one"].map String.toList) =
      [⟨⟨"1234567", "a", "b", "c", 1⟩, "readme b/docs b/readme", "one"⟩] := by
  decide

end SecretScan.DiffParser
