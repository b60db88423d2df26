import SecretScan.Proofs.Json.Numbers
import Mathlib.Tactic.IntervalCases
import Mathlib.Tactic.SplitIfs

/-!
# What a number takes of a text

A number is read from digits, signs, points and the letter of an exponent, and what is read depends
on nothing that follows. So a text of such characters is read to its end, or something of it is left
that cannot stand behind a number.
-/

namespace SecretScan.Json

open SecretScan.Decimal

/-- The characters that a number is written with. -/
def numberChars : List Char := "0123456789+-.eE".toList

theorem mem_numberChars_of_isDigit {c : Char} (h : isDigit c = true) : c ∈ numberChars := by
  rw [isDigit, Bool.and_eq_true, decide_eq_true_eq, decide_eq_true_eq] at h
  have hlow : 48 ≤ c.toNat := h.1
  have hhigh : c.toNat ≤ 57 := h.2
  rw [← Char.ofNat_toNat c]
  interval_cases c.toNat <;> decide

/-- A number with a point or an exponent, or one that is out of range. -/
def IsFloating (d : Document) : Prop := d = .fault ∨ ∃ x, d = .float x

theorem isFloating_floatOf (negative : Bool) (d : Digits) (exponent : Int) :
    IsFloating (floatOf negative d exponent) := by
  unfold floatOf
  split
  · exact Or.inr ⟨_, rfl⟩
  · exact Or.inl rfl

theorem isFloating_floatWithExponent (negative : Bool) (d : Digits) (minus : Bool)
    (exponent : Nat) : IsFloating (floatWithExponent negative d minus exponent) := by
  unfold floatWithExponent
  split
  · exact isFloating_floatOf negative d _
  · split
    · exact Or.inl rfl
    · exact Or.inr ⟨_, rfl⟩

variable {text left : List Char}

theorem span_isDigit_eq {digits : List Char} (h : text.span isDigit = (digits, left)) :
    text = digits ++ left ∧ (∀ c ∈ digits, c ∈ numberChars) ∧
      digits.span isDigit = (digits, []) := by
  obtain ⟨rfl, hdigits, -⟩ := Text.span_eq_iff.mp h
  refine ⟨rfl, fun c hc => mem_numberChars_of_isDigit (hdigits c hc), ?_⟩
  exact Text.span_eq_iff.mpr ⟨(List.append_nil _).symm, hdigits, by simp⟩

/-- Reads the digits of an exponent with this sign. -/
def readDigits (negative : Bool) (text : List Char) : Option (Bool × Nat × List Char) :=
  match text.span isDigit with
  | ([], _) => none
  | (digits, rest) => some (negative, valueOf digits, rest)

theorem readExponent_minus (rest : List Char) :
    readExponent ('-' :: rest) = readDigits true rest := rfl

theorem readExponent_plus (rest : List Char) :
    readExponent ('+' :: rest) = readDigits false rest := rfl

theorem readExponent_of_unsigned {text : List Char}
    (h : ∀ c ∈ text.head?, c ≠ '-' ∧ c ≠ '+') : readExponent text = readDigits false text := by
  cases text with
  | nil => rfl
  | cons c rest =>
      obtain ⟨hminus, hplus⟩ := h c rfl
      unfold readExponent
      split
      rename_i heq
      split at heq
      · rename_i hcons
        exact absurd (List.cons.inj hcons).1 hminus
      · rename_i hcons
        exact absurd (List.cons.inj hcons).1 hplus
      · obtain ⟨rfl, rfl⟩ := Prod.mk.inj heq
        rfl

theorem readDigits_eq_some {negative negative' : Bool} {exponent : Nat}
    (h : readDigits negative text = some (negative', exponent, left)) :
    ∃ taken, text = taken ++ left ∧ taken ≠ [] ∧ (∀ c ∈ taken, c ∈ numberChars) ∧
      readDigits negative taken = some (negative', exponent, []) := by
  unfold readDigits at h
  split at h
  · simp at h
  · rename_i digits rest hne hspan
    obtain ⟨htext, hchars, hdigits⟩ := span_isDigit_eq hspan
    obtain ⟨rfl, hvalue⟩ := Prod.mk.inj (Option.some.inj h)
    obtain ⟨rfl, rfl⟩ := Prod.mk.inj hvalue
    obtain ⟨c, digits, rfl⟩ := List.exists_cons_of_ne_nil hne
    refine ⟨c :: digits, htext, List.cons_ne_nil c digits, hchars, ?_⟩
    rw [readDigits, hdigits]

/-- An exponent is read from what it takes alone. -/
theorem readExponent_eq_some {negative : Bool} {exponent : Nat}
    (h : readExponent text = some (negative, exponent, left)) :
    ∃ taken, text = taken ++ left ∧ (∀ c ∈ taken, c ∈ numberChars) ∧
      readExponent taken = some (negative, exponent, []) := by
  have hsigned {sign : Char} {rest : List Char} {negative' : Bool} (hsign : sign ∈ numberChars)
      (hread : ∀ text, readExponent (sign :: text) = readDigits negative' text)
      (h : readExponent (sign :: rest) = some (negative, exponent, left)) :
      ∃ taken, sign :: rest = taken ++ left ∧ (∀ c ∈ taken, c ∈ numberChars) ∧
        readExponent taken = some (negative, exponent, []) := by
    rw [hread] at h
    obtain ⟨taken, rfl, -, hchars, htaken⟩ := readDigits_eq_some h
    exact ⟨sign :: taken, rfl, List.forall_mem_cons.mpr ⟨hsign, hchars⟩, by rw [hread, htaken]⟩
  by_cases hunsigned : ∀ c ∈ text.head?, c ≠ '-' ∧ c ≠ '+'
  · rw [readExponent_of_unsigned hunsigned] at h
    obtain ⟨taken, rfl, hne, hchars, htaken⟩ := readDigits_eq_some h
    refine ⟨taken, rfl, hchars, ?_⟩
    rwa [readExponent_of_unsigned]
    obtain ⟨c, taken, rfl⟩ := List.exists_cons_of_ne_nil hne
    exact hunsigned
  · push Not at hunsigned
    obtain ⟨c, hc, hsign⟩ := hunsigned
    obtain ⟨rest, rfl⟩ := List.head?_eq_some_iff.mp hc
    by_cases hminus : c = '-'
    · subst hminus
      exact hsigned (by decide) readExponent_minus h
    · obtain rfl := hsign hminus
      exact hsigned (by decide) readExponent_plus h

/-- Reads an exponent and makes a number of it. -/
def readPower (negative : Bool) (d : Digits) (text : List Char) :
    Option (Document × List Char) :=
  (readExponent text).map fun (minus, e, rest) => (floatWithExponent negative d minus e, rest)

theorem readPower_eq_some {negative : Bool} {d : Digits} {doc : Document}
    (h : readPower negative d text = some (doc, left)) :
    ∃ taken, text = taken ++ left ∧ (∀ c ∈ taken, c ∈ numberChars) ∧
      readPower negative d taken = some (doc, []) ∧ IsFloating doc := by
  obtain ⟨⟨minus, e, rest⟩, hread, heq⟩ := Option.map_eq_some_iff.mp h
  obtain ⟨rfl, rfl⟩ := Prod.mk.inj heq
  obtain ⟨taken, rfl, hchars, htaken⟩ := readExponent_eq_some hread
  refine ⟨taken, rfl, hchars, ?_, isFloating_floatWithExponent _ _ _ _⟩
  rw [readPower, htaken]
  rfl

/-- Reads what follows the digits behind the point. -/
def readBehindPlaces (negative : Bool) (d : Digits) (text : List Char) :
    Option (Document × List Char) :=
  match text with
  | 'e' :: rest => readPower negative d rest
  | 'E' :: rest => readPower negative d rest
  | _ => some (floatOf negative d ((d.dropped : Int) - d.places), text)

theorem readBehindPlaces_eq_some {negative : Bool} {d : Digits} {doc : Document}
    (h : readBehindPlaces negative d text = some (doc, left)) :
    ∃ taken, text = taken ++ left ∧ (∀ c ∈ taken, c ∈ numberChars) ∧
      readBehindPlaces negative d taken = some (doc, []) ∧ IsFloating doc ∧
      ∀ c ∈ taken.head?, isDigit c = false := by
  unfold readBehindPlaces at h
  split at h
  · obtain ⟨taken, rfl, hchars, htaken, hfloating⟩ := readPower_eq_some h
    exact ⟨'e' :: taken, rfl, List.forall_mem_cons.mpr ⟨by decide, hchars⟩, htaken, hfloating,
      by simp [show isDigit 'e' = false by decide]⟩
  · obtain ⟨taken, rfl, hchars, htaken, hfloating⟩ := readPower_eq_some h
    exact ⟨'E' :: taken, rfl, List.forall_mem_cons.mpr ⟨by decide, hchars⟩, htaken, hfloating,
      by simp [show isDigit 'E' = false by decide]⟩
  · obtain ⟨rfl, rfl⟩ := Prod.mk.inj (Option.some.inj h)
    exact ⟨[], rfl, nofun, rfl, isFloating_floatOf _ _ _, nofun⟩

/-- Reads the digits behind the point and what follows them. -/
def readPlaces (negative : Bool) (d : Digits) (text : List Char) :
    Option (Document × List Char) :=
  match text.span isDigit with
  | ([], _) => none
  | (digits, rest) => readBehindPlaces negative (d.fraction digits) rest

theorem readPlaces_eq_some {negative : Bool} {d : Digits} {doc : Document}
    (h : readPlaces negative d text = some (doc, left)) :
    ∃ taken, text = taken ++ left ∧ (∀ c ∈ taken, c ∈ numberChars) ∧
      readPlaces negative d taken = some (doc, []) ∧ IsFloating doc := by
  unfold readPlaces at h
  split at h
  · simp at h
  · rename_i digits rest hne hspan
    obtain ⟨rfl, hdigits, -⟩ := Text.span_eq_iff.mp hspan
    obtain ⟨taken, rfl, hchars, htaken, hfloating, hhead⟩ := readBehindPlaces_eq_some h
    refine ⟨digits ++ taken, by rw [List.append_assoc], ?_, ?_, hfloating⟩
    · exact List.forall_mem_append.mpr
        ⟨fun c hc => mem_numberChars_of_isDigit (hdigits c hc), hchars⟩
    · obtain ⟨c, digits, rfl⟩ := List.exists_cons_of_ne_nil hne
      rw [readPlaces, Text.span_append hdigits hhead]
      exact htaken

theorem readNumberTail_point (negative : Bool) (d : Digits) (rest : List Char) :
    readNumberTail negative d ('.' :: rest) = readPlaces negative d rest := by
  rw [readNumberTail, readPlaces]
  rcases rest.span isDigit with ⟨_ | ⟨c, digits⟩, behind⟩ <;> rfl

/-- Behind the digits before the point a number ends, or goes on as one that is not whole. -/
theorem readNumberTail_eq_some {negative : Bool} {d : Digits} {doc : Document}
    (hdigit : ∀ c ∈ text.head?, isDigit c = false)
    (h : readNumberTail negative d text = some (doc, left)) :
    ∃ taken, text = taken ++ left ∧ (∀ c ∈ taken, c ∈ numberChars) ∧
      readNumberTail negative d taken = some (doc, []) ∧ (taken = [] ∨ IsFloating doc) ∧
      ∀ c ∈ taken.head?, isDigit c = false := by
  by_cases hends : Ends text
  · rw [readNumberTail_of_ends negative d hends] at h
    obtain ⟨rfl, rfl⟩ := Prod.mk.inj (Option.some.inj h)
    exact ⟨[], rfl, nofun, rfl, Or.inl rfl, nofun⟩
  · have hgoes : ∃ c rest, text = c :: rest ∧ (c = '.' ∨ c = 'e' ∨ c = 'E') := by
      cases text with
      | nil => exact absurd nofun hends
      | cons c rest =>
          refine ⟨c, rest, rfl, ?_⟩
          by_contra hnone
          simp only [not_or] at hnone
          refine hends fun x hx => ?_
          obtain rfl := Option.some.inj hx
          exact ⟨hdigit _ rfl, hnone⟩
    obtain ⟨c, rest, rfl, rfl | rfl | rfl⟩ := hgoes
    · rw [readNumberTail_point] at h
      obtain ⟨taken, rfl, hchars, htaken, hfloating⟩ := readPlaces_eq_some h
      exact ⟨'.' :: taken, rfl, List.forall_mem_cons.mpr ⟨by decide, hchars⟩,
        by rw [readNumberTail_point, htaken], Or.inr hfloating,
        by simp [show isDigit '.' = false by decide]⟩
    · obtain ⟨taken, rfl, hchars, htaken, hfloating⟩ := readPower_eq_some h
      exact ⟨'e' :: taken, rfl, List.forall_mem_cons.mpr ⟨by decide, hchars⟩, htaken,
        Or.inr hfloating, by simp [show isDigit 'e' = false by decide]⟩
    · obtain ⟨taken, rfl, hchars, htaken, hfloating⟩ := readPower_eq_some h
      exact ⟨'E' :: taken, rfl, List.forall_mem_cons.mpr ⟨by decide, hchars⟩, htaken,
        Or.inr hfloating, by simp [show isDigit 'E' = false by decide]⟩

theorem readNumber_zero (negative : Bool) {rest : List Char}
    (h : ∀ c ∈ rest.head?, isDigit c = false) :
    readNumber negative ('0' :: rest) = readNumberTail negative ⟨0, 0, 0, false⟩ rest := by
  cases rest with
  | nil => rfl
  | cons c rest =>
      have hc := h c rfl
      simp only [readNumber, hc, Bool.false_eq_true, if_false]

theorem readNumber_digits (negative : Bool) {c : Char} {digits rest : List Char}
    (hdigits : ∀ x ∈ c :: digits, isDigit x = true) (hc : c ≠ '0')
    (h : ∀ c ∈ rest.head?, isDigit c = false) :
    readNumber negative (c :: digits ++ rest) =
      readNumberTail negative (Digits.whole ⟨0, 0, 0, false⟩ (c :: digits)) rest := by
  have hspan := Text.span_append hdigits h
  unfold readNumber
  split
  · rename_i heq
    exact absurd (List.cons.inj heq).1 hc
  · rw [hspan]

/-- Where digits in front are read off whatever may follow them, a number takes these digits and
what the rest of it takes. -/
theorem readNumber_append_eq_some {negative : Bool} {front rest : List Char} {d : Digits}
    {doc : Document} (hfront : ∀ c ∈ front, isDigit c = true) (hne : front ≠ [])
    (hrest : ∀ c ∈ rest.head?, isDigit c = false)
    (hread : ∀ behind : List Char, (∀ c ∈ behind.head?, isDigit c = false) →
      readNumber negative (front ++ behind) = readNumberTail negative d behind)
    (h : readNumber negative (front ++ rest) = some (doc, left)) :
    ∃ taken, front ++ rest = taken ++ left ∧ taken ≠ [] ∧ (∀ c ∈ taken, c ∈ numberChars) ∧
      readNumber negative taken = some (doc, []) ∧
      ((∀ c ∈ taken, isDigit c = true) ∨ IsFloating doc) := by
  rw [hread rest hrest] at h
  obtain ⟨taken, rfl, hchars, htaken, hkind, hhead⟩ := readNumberTail_eq_some hrest h
  refine ⟨front ++ taken, by rw [List.append_assoc], by simp [hne], ?_, ?_, ?_⟩
  · exact List.forall_mem_append.mpr
      ⟨fun c hc => mem_numberChars_of_isDigit (hfront c hc), hchars⟩
  · rw [hread taken hhead, htaken]
  · rcases hkind with rfl | hfloating
    · exact Or.inl (by simpa using hfront)
    · exact Or.inr hfloating

/-- No digit stands behind a zero that begins a number. -/
theorem isDigit_head?_of_readNumber_zero {negative : Bool} {rest : List Char}
    (h : (readNumber negative ('0' :: rest)).isSome = true) :
    ∀ c ∈ rest.head?, isDigit c = false := by
  cases rest with
  | nil => exact nofun
  | cons c rest =>
      rintro x hx
      obtain rfl := Option.some.inj hx
      by_contra hdigit
      simp [readNumber, Bool.eq_true_of_not_eq_false hdigit] at h

/-- A number begins with a digit. -/
theorem exists_digits_of_readNumber {negative : Bool}
    (h : (readNumber negative text).isSome = true) :
    ∃ c digits rest, text = c :: digits ++ rest ∧ (∀ x ∈ c :: digits, isDigit x = true) ∧
      ∀ x ∈ rest.head?, isDigit x = false := by
  cases hspan : text.span isDigit with
  | mk digits rest =>
      obtain ⟨rfl, hdigits, hrest⟩ := Text.span_eq_iff.mp hspan
      cases digits with
      | nil =>
          exfalso
          unfold readNumber at h
          split at h
          · rename_i heq
            rw [List.nil_append] at heq
            subst heq
            exact absurd (hrest '0' rfl) (by decide)
          · rw [hspan] at h
            cases h
      | cons c digits => exact ⟨c, digits, rest, rfl, hdigits, hrest⟩

/-- A number is read from what it takes alone: digits, or what makes a number that is not whole. -/
theorem readNumber_eq_some {negative : Bool} {doc : Document}
    (h : readNumber negative text = some (doc, left)) :
    ∃ taken, text = taken ++ left ∧ taken ≠ [] ∧ (∀ c ∈ taken, c ∈ numberChars) ∧
      readNumber negative taken = some (doc, []) ∧
      ((∀ c ∈ taken, isDigit c = true) ∨ IsFloating doc) := by
  have hsome : (readNumber negative text).isSome = true := Option.isSome_of_eq_some h
  obtain ⟨c, digits, rest, rfl, hdigits, hrest⟩ := exists_digits_of_readNumber hsome
  by_cases hc : c = '0'
  · -- A zero is a number by itself, so no other digit is in front of the rest.
    subst hc
    have hnone := isDigit_head?_of_readNumber_zero hsome
    have hzero : ∀ c ∈ ['0'], isDigit c = true := List.forall_mem_singleton.mpr rfl
    rw [List.cons_append, ← List.singleton_append] at h ⊢
    exact readNumber_append_eq_some hzero (by decide) hnone
      (fun behind hbehind => readNumber_zero negative hbehind) h
  · exact readNumber_append_eq_some hdigits (List.cons_ne_nil c digits) hrest
      (fun behind hbehind => readNumber_digits negative hdigits hc hbehind) h

/-! ## Written numbers -/

theorem mem_numberChars_of_mem_intDigits {n : Int} : ∀ c ∈ intDigits n, c ∈ numberChars := by
  have hdigits (n : Nat) : ∀ c ∈ natDigits n, c ∈ numberChars :=
    fun c hc => mem_numberChars_of_isDigit (isDigit_of_mem_natDigits c hc)
  cases n with
  | ofNat n => exact hdigits n
  | negSucc n => exact List.forall_mem_cons.mpr ⟨by decide, hdigits (n + 1)⟩

theorem mem_numberChars_of_mem_exponentText {n : Int} :
    ∀ c ∈ exponentText n, c ∈ numberChars := by
  unfold exponentText
  refine List.forall_mem_cons.mpr ⟨by decide, ?_⟩
  split
  · exact mem_numberChars_of_mem_intDigits
  · exact List.forall_mem_cons.mpr ⟨by decide, mem_numberChars_of_mem_intDigits⟩

/-- A finite double is written with the characters of numbers, a point or an exponent among them. -/
theorem mem_numberChars_of_mem_text (b : Binary) :
    (∀ c ∈ b.text, c ∈ numberChars) ∧ ('.' ∈ b.text ∨ 'e' ∈ b.text) := by
  have hdigits (n : Nat) : ∀ c ∈ natDigits n, c ∈ numberChars :=
    fun c hc => mem_numberChars_of_isDigit (isDigit_of_mem_natDigits c hc)
  have hzeros (n : Nat) : ∀ c ∈ List.replicate n '0', c ∈ numberChars := by
    intro c hc
    rw [(List.mem_replicate.mp hc).2]
    decide
  have hpoint : ∀ c ∈ ['.', '0'], c ∈ numberChars :=
    List.forall_mem_cons.mpr ⟨by decide, List.forall_mem_singleton.mpr (by decide)⟩
  have hbody {body : List Char} (hchars : ∀ c ∈ body, c ∈ numberChars)
      (hmark : '.' ∈ body ∨ 'e' ∈ body) :
      (∀ c ∈ (if b.negative then '-' :: body else body), c ∈ numberChars) ∧
        ('.' ∈ (if b.negative then '-' :: body else body) ∨
          'e' ∈ (if b.negative then '-' :: body else body)) := by
    split
    · exact ⟨List.forall_mem_cons.mpr ⟨by decide, hchars⟩,
        hmark.imp (List.mem_cons_of_mem _) (List.mem_cons_of_mem _)⟩
    · exact ⟨hchars, hmark⟩
  unfold Binary.text
  refine hbody ?_ ?_
  · split_ifs
    · exact List.forall_mem_cons.mpr ⟨by decide, hpoint⟩
    · exact List.forall_mem_append.mpr ⟨List.forall_mem_append.mpr ⟨hdigits _, hzeros _⟩, hpoint⟩
    · exact List.forall_mem_append.mpr ⟨fun c hc => hdigits _ c (List.mem_of_mem_take hc),
        List.forall_mem_cons.mpr ⟨by decide, fun c hc => hdigits _ c (List.mem_of_mem_drop hc)⟩⟩
    · exact List.forall_mem_cons.mpr ⟨by decide, List.forall_mem_cons.mpr ⟨by decide,
        List.forall_mem_append.mpr ⟨hzeros _, hdigits _⟩⟩⟩
    · exact List.forall_mem_append.mpr ⟨hdigits _, mem_numberChars_of_mem_exponentText⟩
    · exact List.forall_mem_append.mpr ⟨fun c hc => hdigits _ c (List.mem_of_mem_take hc),
        List.forall_mem_cons.mpr ⟨by decide, List.forall_mem_append.mpr
          ⟨fun c hc => hdigits _ c (List.mem_of_mem_drop hc), mem_numberChars_of_mem_exponentText⟩⟩⟩
  · split_ifs <;> simp [exponentText]

end SecretScan.Json
