import SecretScan.History.DiffParser
import SecretScan.Proofs.Text.Occurrence

/-!
# The headers of a log

Each kind of header is described by how its line is put together, and its reader is shown to
accept just the lines of that form and to give the parts of them. The three kinds begin with
different characters, none of which is a plus sign.
-/

namespace SecretScan.DiffParser

open SecretScan.Text

/-! ## Headers of commits -/

/-- A line `commit <hash>|<rest>`: the hash has 7 to 64 digits, and the rest goes to the end of the
line. -/
structure IsCommitHeader (line : List Char) (h : CommitHeader) : Prop where
  line_eq : line = "commit ".toList ++ (h.hash.toList ++ '|' :: h.rest)
  digits : ∀ c ∈ h.hash.toList, isHash c = true
  least : 7 ≤ h.hash.toList.length
  most : h.hash.toList.length ≤ 64
  no_feed : '\n' ∉ h.rest

theorem commitHeader?_eq_some_iff {line : List Char} {h : CommitHeader} :
    commitHeader? line = some h ↔ IsCommitHeader line h := by
  have hbar : isHash '|' = false := by decide
  constructor
  · intro hread
    unfold commitHeader? at hread
    cases htext : dropPrefix? ['c', 'o', 'm', 'm', 'i', 't', ' '] line with
    | none => simp [htext] at hread
    | some text =>
        rw [htext] at hread
        obtain rfl := dropPrefix?_eq_some_iff.mp htext
        cases hspan : text.span isHash with
        | mk hash behind =>
            obtain ⟨rfl, hdigits, -⟩ := span_eq_iff.mp hspan
            simp only [hspan] at hread
            split at hread
            · rename_i hash' rest heq
              obtain ⟨rfl, rfl⟩ := Prod.mk.inj heq
              split at hread
              · rename_i hsize
                simp only [Bool.and_eq_true, decide_eq_true_eq, Bool.not_eq_true',
                  List.contains_eq_mem, decide_eq_false_iff_not] at hsize
                obtain rfl := Option.some.inj hread
                refine ⟨?_, ?_, ?_, ?_, hsize.2⟩
                · simp only [String.toList_ofList]
                  rfl
                · simpa using hdigits
                · simpa using hsize.1.1
                · simpa using hsize.1.2
              · simp at hread
            · simp at hread
  · rintro ⟨rfl, hdigits, hleast, hmost, hfeed⟩
    have hspan : (h.hash.toList ++ '|' :: h.rest).span isHash = (h.hash.toList, '|' :: h.rest) :=
      span_append hdigits (by simp [hbar])
    have hdrop : dropPrefix? ['c', 'o', 'm', 'm', 'i', 't', ' ']
        ("commit ".toList ++ (h.hash.toList ++ '|' :: h.rest)) =
          some (h.hash.toList ++ '|' :: h.rest) :=
      dropPrefix?_append _ _
    unfold commitHeader?
    simp only [hdrop, hspan]
    simp [hleast, hmost, hfeed]

theorem IsCommitHeader.unique {line : List Char} {h h' : CommitHeader}
    (hh : IsCommitHeader line h) (hh' : IsCommitHeader line h') : h = h' := by
  rw [← commitHeader?_eq_some_iff] at hh hh'
  exact Option.some.inj (hh.symm.trans hh')

/-! ## Headers of files -/

/-- A text `<old> b/<path>` cut at the first ` b/` that has something in front of it. -/
structure IsFirstCut (text old path : List Char) : Prop where
  text_eq : text = old ++ (" b/".toList ++ path)
  old_ne : old ≠ []
  first : ∀ old' path' : List Char, old' ≠ [] → text = old' ++ (" b/".toList ++ path') →
    old.length ≤ old'.length

/-- A line `diff --git a/<old> b/<path>`, where `<old>` is as short as it can be. -/
def IsFileHeader (line : List Char) (path : String) : Prop :=
  ∃ text old, line = "diff --git a/".toList ++ text ∧ IsFirstCut text old path.toList ∧
    path ≠ "" ∧ '\n' ∉ text

/-- Behind the first character, the cut is the first of all. -/
theorem newPath?_false_eq_some_iff {text path : List Char} :
    newPath? false text = some path ↔
      ∃ old, text = old ++ (" b/".toList ++ path) ∧
        ∀ old' path' : List Char, text = old' ++ (" b/".toList ++ path') →
          old.length ≤ old'.length := by
  induction text with
  | nil => simp [newPath?]
  | cons c rest ih =>
      rw [newPath?, if_neg (by simp)]
      cases hdrop : dropPrefix? [' ', 'b', '/'] (c :: rest) with
      | some found =>
          have hfound : c :: rest = " b/".toList ++ found := dropPrefix?_eq_some_iff.mp hdrop
          constructor
          · intro h
            obtain rfl := Option.some.inj h
            exact ⟨[], hfound, fun _ _ _ => Nat.zero_le _⟩
          · rintro ⟨old, hold, hfirst⟩
            have hlen : old.length ≤ 0 := hfirst [] found hfound
            obtain rfl := List.length_eq_zero_iff.mp (Nat.le_zero.mp hlen)
            have heq : " b/".toList ++ found = " b/".toList ++ path := hfound.symm.trans hold
            rw [List.append_cancel_left heq]
      | none =>
          -- The cut does not stand here, so the text in front of it begins with `c`.
          have hne : ∀ tail, c :: rest ≠ " b/".toList ++ tail := by
            intro tail h
            have hsome := hdrop.symm.trans (dropPrefix?_eq_some_iff.mpr h)
            simp at hsome
          rw [ih]
          constructor
          · rintro ⟨old, rfl, hfirst⟩
            refine ⟨c :: old, rfl, ?_⟩
            intro old' path' h
            cases old' with
            | nil => exact absurd h (hne path')
            | cons d old' =>
                exact Nat.succ_le_succ (hfirst old' path' (List.cons.inj h).2)
          · rintro ⟨old, hold, hfirst⟩
            cases old with
            | nil => exact absurd hold (hne path)
            | cons d old =>
                obtain ⟨rfl, rfl⟩ := List.cons.inj hold
                refine ⟨old, rfl, ?_⟩
                intro old' path' h
                have hle := hfirst (c :: old') path' (by rw [h, List.cons_append])
                simpa using hle

theorem newPath?_true_eq_some_iff {text path : List Char} :
    newPath? true text = some path ↔ ∃ old, IsFirstCut text old path := by
  cases text with
  | nil =>
      constructor
      · intro h
        simp [newPath?] at h
      · rintro ⟨old, ⟨htext, -, -⟩⟩
        simp at htext
  | cons c rest =>
      rw [newPath?, if_pos rfl, newPath?_false_eq_some_iff]
      constructor
      · rintro ⟨old, rfl, hfirst⟩
        refine ⟨c :: old, rfl, List.cons_ne_nil c old, ?_⟩
        intro old' path' hne h
        cases old' with
        | nil => exact absurd rfl hne
        | cons d old' =>
            exact Nat.succ_le_succ (hfirst old' path' (List.cons.inj h).2)
      · rintro ⟨old, ⟨htext, hne, hfirst⟩⟩
        cases old with
        | nil => exact absurd rfl hne
        | cons d old =>
            obtain ⟨rfl, rfl⟩ := List.cons.inj htext
            refine ⟨old, rfl, ?_⟩
            intro old' path' h
            have hle :=
              hfirst (c :: old') path' (List.cons_ne_nil c old') (by rw [h, List.cons_append])
            simpa using hle

theorem fileHeader?_eq_some_iff {line : List Char} {path : String} :
    fileHeader? line = some path ↔ IsFileHeader line path := by
  constructor
  · intro hread
    unfold fileHeader? at hread
    split at hread
    · simp at hread
    · rename_i text htext
      obtain rfl := dropPrefix?_eq_some_iff.mp htext
      split at hread
      · rename_i found hfound
        split at hread
        · simp at hread
        · rename_i hgood
          simp only [Bool.or_eq_true, List.isEmpty_iff, List.contains_eq_mem, decide_eq_true_eq,
            not_or] at hgood
          obtain rfl := Option.some.inj hread
          obtain ⟨old, hcut⟩ := newPath?_true_eq_some_iff.mp hfound
          refine ⟨text, old, rfl, by simpa using hcut, ?_, hgood.2⟩
          intro hempty
          exact hgood.1 (by simpa using congrArg String.toList hempty)
      · simp at hread
  · rintro ⟨text, old, rfl, hcut, hpath, hfeed⟩
    have hfound : newPath? true text = some path.toList := newPath?_true_eq_some_iff.mpr ⟨old, hcut⟩
    have hne : path.toList ≠ [] := by simpa using hpath
    unfold fileHeader?
    rw [dropPrefix?_append]
    simp [hfound, hne, hfeed]

theorem IsFileHeader.unique {line : List Char} {path path' : String}
    (hh : IsFileHeader line path) (hh' : IsFileHeader line path') : path = path' := by
  rw [← fileHeader?_eq_some_iff] at hh hh'
  exact Option.some.inj (hh.symm.trans hh')

/-! ## Headers of stretches -/

/-- Digits of any script, at least one. -/
def IsNumeral (text : List Char) : Prop :=
  text ≠ [] ∧ ∀ c ∈ text, Unicode.isDigit c = true

/-- Nothing, or a numeral behind a comma. -/
def IsCount (text : List Char) : Prop :=
  text = [] ∨ ∃ digits, IsNumeral digits ∧ text = ',' :: digits

/-- A line `@@ -<old>,<count> +<start>,<count> @@`, where either count may be missing and anything
may follow. -/
def IsHunkHeader (line start : List Char) : Prop :=
  ∃ old oldCount count rest,
    line = "@@ -".toList ++ (old ++ (oldCount ++ (" +".toList ++
      (start ++ (count ++ (" @@".toList ++ rest)))))) ∧
    IsNumeral old ∧ IsCount oldCount ∧ IsNumeral start ∧ IsCount count

theorem exists_count_of_dropCount {text rest : List Char} (h : dropCount text = rest) :
    ∃ count, IsCount count ∧ text = count ++ rest := by
  subst h
  unfold dropCount
  split
  · rename_i rest
    split
    -- A comma without digits behind it is no count, and stays.
    · exact ⟨[], Or.inl rfl, rfl⟩
    · rename_i digits behind hne hspan
      obtain ⟨rfl, hdigits, -⟩ := span_eq_iff.mp hspan
      have hnumeral : IsNumeral digits := by
        refine ⟨?_, hdigits⟩
        rintro rfl
        exact hne rfl
      exact ⟨',' :: digits, Or.inr ⟨digits, hnumeral, rfl⟩, rfl⟩
  · exact ⟨[], Or.inl rfl, rfl⟩

theorem dropCount_append {count rest : List Char} (hcount : IsCount count) :
    dropCount (count ++ ' ' :: rest) = ' ' :: rest := by
  rcases hcount with rfl | ⟨digits, ⟨hne, hdigits⟩, rfl⟩
  · rfl
  · have hspan : (digits ++ ' ' :: rest).span Unicode.isDigit = (digits, ' ' :: rest) :=
      span_append hdigits (by simp [show Unicode.isDigit ' ' = false by decide])
    cases digits with
    | nil => exact absurd rfl hne
    | cons d digits =>
        simp only [List.cons_append] at hspan
        simp only [dropCount, List.cons_append, hspan]

/-- The digits at the beginning of a text, before something that is not one. -/
theorem span_digits {digits : List Char} (hdigits : IsNumeral digits) {rest : List Char}
    (hrest : ∀ c ∈ rest.head?, Unicode.isDigit c = false) :
    (digits ++ rest).span Unicode.isDigit = (digits, rest) :=
  span_append hdigits.2 hrest

/-- What stands behind digits in a header does not begin with a digit. -/
theorem head_not_digit {count : List Char} (hcount : IsCount count) (rest : List Char) :
    ∀ c ∈ (count ++ ' ' :: rest).head?, Unicode.isDigit c = false := by
  rcases hcount with rfl | ⟨digits, -, rfl⟩
  · intro c hc
    obtain rfl : ' ' = c := by simpa using hc
    decide
  · intro c hc
    obtain rfl : ',' = c := by simpa using hc
    decide

theorem hunkHeader?_eq_some_iff {line start : List Char} :
    hunkHeader? line = some start ↔ IsHunkHeader line start := by
  constructor
  · intro hread
    unfold hunkHeader? at hread
    simp only [Option.bind_eq_bind, Option.bind_eq_some_iff, Option.bind_none,
      Option.ite_none_left_eq_some, List.isEmpty_iff, Option.pure_def, Option.some.injEq] at hread
    obtain ⟨behindMark, hmark, hold, behindPlus, hplus, hstart, rest, hend, rfl⟩ := hread
    cases hspanOld : behindMark.span Unicode.isDigit with
    | mk old behindOld =>
    cases hspanStart : behindPlus.span Unicode.isDigit with
    | mk start behindStart =>
    simp only [hspanOld, hspanStart] at hold hplus hstart hend ⊢
    obtain ⟨rfl, holdDigits, -⟩ := span_eq_iff.mp hspanOld
    obtain ⟨rfl, hstartDigits, -⟩ := span_eq_iff.mp hspanStart
    obtain ⟨oldCount, holdCount, rfl⟩ :=
      exists_count_of_dropCount (dropPrefix?_eq_some_iff.mp hplus)
    obtain ⟨count, hcount, rfl⟩ := exists_count_of_dropCount (dropPrefix?_eq_some_iff.mp hend)
    exact ⟨old, oldCount, count, rest, dropPrefix?_eq_some_iff.mp hmark, ⟨hold, holdDigits⟩,
      holdCount, ⟨hstart, hstartDigits⟩, hcount⟩
  · rintro ⟨old, oldCount, count, rest, rfl, hold, holdCount, hstart, hcount⟩
    have hspanStart := span_digits hstart (head_not_digit hcount ('@' :: '@' :: rest))
    have hdropStart : dropCount (count ++ ' ' :: '@' :: '@' :: rest) = ' ' :: '@' :: '@' :: rest :=
      dropCount_append hcount
    have hspanOld := span_digits hold (head_not_digit holdCount
      ('+' :: (start ++ (count ++ ' ' :: '@' :: '@' :: rest))))
    have hdropOld :
        dropCount (oldCount ++ ' ' :: '+' :: (start ++ (count ++ ' ' :: '@' :: '@' :: rest))) =
          ' ' :: '+' :: (start ++ (count ++ ' ' :: '@' :: '@' :: rest)) :=
      dropCount_append holdCount
    have hmark : dropPrefix? ['@', '@', ' ', '-'] ("@@ -".toList ++ (old ++ (oldCount ++
        (" +".toList ++ (start ++ (count ++ (" @@".toList ++ rest))))))) =
          some (old ++
            (oldCount ++ ' ' :: '+' :: (start ++ (count ++ ' ' :: '@' :: '@' :: rest)))) :=
      dropPrefix?_append _ _
    have hplus (text : List Char) : dropPrefix? [' ', '+'] (' ' :: '+' :: text) = some text :=
      dropPrefix?_append [' ', '+'] text
    have hend (text : List Char) :
        dropPrefix? [' ', '@', '@'] (' ' :: '@' :: '@' :: text) = some text :=
      dropPrefix?_append [' ', '@', '@'] text
    unfold hunkHeader?
    simp only [hmark, hspanOld, hdropOld, hplus, hspanStart, hdropStart, hend,
      Option.bind_eq_bind, Option.bind_some, List.isEmpty_iff, hold.1, hstart.1, if_false,
      Option.pure_def]

theorem IsHunkHeader.unique {line start start' : List Char} (hh : IsHunkHeader line start)
    (hh' : IsHunkHeader line start') : start = start' := by
  rw [← hunkHeader?_eq_some_iff] at hh hh'
  exact Option.some.inj (hh.symm.trans hh')

/-! ## Added lines are no headers -/

theorem not_commitHeader_of_plus (text : List Char) (h : CommitHeader) :
    ¬ IsCommitHeader ('+' :: text) h := by
  rw [← commitHeader?_eq_some_iff]
  exact nofun

theorem not_fileHeader_of_plus (text : List Char) (path : String) :
    ¬ IsFileHeader ('+' :: text) path := by
  rw [← fileHeader?_eq_some_iff]
  exact nofun

theorem not_hunkHeader_of_plus (text start : List Char) :
    ¬ IsHunkHeader ('+' :: text) start := by
  rw [← hunkHeader?_eq_some_iff]
  exact nofun

end SecretScan.DiffParser
