import SecretScan.Proofs.Pattern.ClosedEscapes

/-!
# Bracketed sets in front of a closing parenthesis

A set ends with its own bracket. So a parenthesis behind a set that is not closed is one more item
of it, and the set is still not closed.
-/

namespace SecretScan.Pattern

open SecretScan.Unicode

variable {n b b' : Nat} {text text' : List Char} {f : Flags}

theorem Flags.skip_nil (f : Flags) : f.skip [] = [] :=
  List.eq_nil_of_length_eq_zero (Nat.le_zero.mp (f.length_skip_le []))

theorem Flags.skip_cons {c : Char} (f : Flags) (hc : isBlank c = false) (hsharp : c ≠ '#')
    (rest : List Char) : f.skip (c :: rest) = c :: rest := by
  rw [Flags.skip]
  split
  · simp [dropBlanks, hc, hsharp]
  · rfl

/-! ## The beginning of a set -/

theorem readHyphens_of_ne {items : List SetPart} (h : text.head? ≠ some '-') :
    readHyphens f b text items = (items, text) := by
  rw [readHyphens]
  rintro bound rest - rfl
  exact h rfl

theorem tail_readHyphens (f : Flags) (items : List SetPart) (h : Tail n text text')
    (hb : text.length ≤ b) (hb' : text'.length ≤ b') :
    (readHyphens f b text items).1 = (readHyphens f b' text' items).1 ∧
      Tail n (readHyphens f b text items).2 (readHyphens f b' text' items).2 := by
  induction b generalizing n items text text' b' with
  | zero =>
      obtain rfl := List.eq_nil_of_length_eq_zero (Nat.le_zero.mp hb)
      have hne' : text'.head? ≠ some '-' := by simp [h.head?_eq_iff]
      rw [readHyphens_of_ne (by simp), readHyphens_of_ne hne']
      exact ⟨rfl, h⟩
  | succ b ih =>
      by_cases hhead : text.head? = some '-'
      · cases h with
        | lost => cases hhead
        | closed => cases hhead
        | @cons n text text' c h =>
            obtain rfl := Option.some.inj hhead
            obtain ⟨b', rfl⟩ := Nat.exists_eq_succ_of_ne_zero
              (Nat.ne_of_gt (Nat.lt_of_lt_of_le (Nat.succ_pos _) hb'))
            exact ih _ ((h.skip f).mono (Nat.le_succ n))
              (Nat.le_trans (f.length_skip_le _) (Nat.le_of_succ_le_succ hb))
              (Nat.le_trans (f.length_skip_le _) (Nat.le_of_succ_le_succ hb'))
      · have hne' : text'.head? ≠ some '-' := by rwa [ne_eq, h.head?_eq_iff (by decide)]
        rw [readHyphens_of_ne hhead, readHyphens_of_ne hne']
        exact ⟨rfl, h⟩

/-- The sign of complement, if it comes first. -/
def readSign (f : Flags) (text : List Char) : Bool × List Char :=
  match f.skip text with
  | '^' :: rest => (true, f.skip rest)
  | _ => (false, f.skip text)

/-- What is left of a beginning behind its hyphens: a closing bracket stands for itself there. -/
def startBehind (f : Flags) (negated : Bool) (items : List SetPart) (text : List Char) :
    Except Fault (Bool × List SetPart × List Char) :=
  match items, text with
  | _, [] => .error .unclosedClass
  | [], ']' :: rest =>
    match f.skip rest with
    | [] => .error .unclosedClass
    | text => .ok (negated, [⟨.single ']', 0⟩], text)
  | _, _ => .ok (negated, items, text)

theorem readSetStart_eq (f : Flags) (text : List Char) :
    readSetStart f text =
      let sign := readSign f text
      let hyphens := readHyphens f sign.2.length sign.2 []
      startBehind f sign.1 hyphens.1 hyphens.2 := rfl

theorem readSign_of_ne (h : (f.skip text).head? ≠ some '^') :
    readSign f text = (false, f.skip text) := by
  rw [readSign]
  split
  · rename_i heq
    exact absurd (congrArg List.head? heq) h
  · rfl

theorem tail_readSign (f : Flags) (h : Tail n text text') :
    (readSign f text).1 = (readSign f text').1 ∧
      Tail n (readSign f text).2 (readSign f text').2 := by
  have hskip := h.skip f
  by_cases hhead : (f.skip text).head? = some '^'
  · rw [readSign, readSign]
    generalize f.skip text = text, f.skip text' = text' at hskip hhead ⊢
    cases hskip with
    | lost => cases hhead
    | closed => cases hhead
    | cons c hrest =>
        obtain rfl := Option.some.inj hhead
        exact ⟨rfl, (hrest.skip f).mono (Nat.le_succ _)⟩
  · have hhead' : (f.skip text').head? ≠ some '^' := by
      rwa [ne_eq, hskip.head?_eq_iff (by decide)]
    rw [readSign_of_ne hhead, readSign_of_ne hhead']
    exact ⟨rfl, hskip⟩

theorem startBehind_of_ne {negated : Bool} {items : List SetPart} {c : Char} {rest : List Char}
    (h : items ≠ [] ∨ c ≠ ']') :
    startBehind f negated items (c :: rest) = .ok (negated, items, c :: rest) := by
  rw [startBehind]
  · nofun
  · rintro rest' rfl heq
    exact h.elim (fun hnil => hnil rfl) fun hc => hc (List.cons.inj heq).1

theorem alike_startBehind (f : Flags) (negated : Bool) (items : List SetPart)
    (h : Tail n text text') :
    Alike (Same₂ n) (fun b => b.2.2 = [')']) (startBehind f negated items text)
      (startBehind f negated items text') := by
  cases h with
  | lost => cases items <;> exact .refused _ _
  | closed =>
      rw [startBehind_of_ne (Or.inr (by decide))]
      cases items <;> exact .late _ rfl
  | @cons n text text' c h =>
      by_cases hc : items ≠ [] ∨ c ≠ ']'
      · rw [startBehind_of_ne hc, startBehind_of_ne hc]
        exact .read ⟨rfl, rfl, .cons c h⟩
      · simp only [not_or, not_not] at hc
        obtain ⟨rfl, rfl⟩ := hc
        rcases h.skip_cases f with ⟨hskip, hskip'⟩ | ⟨hskip, hskip'⟩ |
          ⟨m, c, rest, rest', rfl, hskip, hskip', hrest⟩
        · simp only [startBehind, hskip, hskip']
          exact .refused _ _
        · simp only [startBehind, hskip, hskip']
          exact .late _ rfl
        · simp only [startBehind, hskip, hskip']
          exact .read ⟨rfl, rfl, (hrest.cons c).mono (Nat.le_succ _)⟩

theorem alike_readSetStart (f : Flags) (h : Tail n text text') :
    Alike (Same₂ n) (fun b => b.2.2 = [')']) (readSetStart f text) (readSetStart f text') := by
  obtain ⟨hsign, htail⟩ := tail_readSign f h
  obtain ⟨hitems, htail⟩ := tail_readHyphens f [] htail (Nat.le_refl _) (Nat.le_refl _)
  rw [readSetStart_eq, readSetStart_eq]
  dsimp only
  rw [← hsign, ← hitems]
  exact alike_startBehind f _ _ htail

/-! ## The items of a set -/

/-- An ASCII class, behind its colon and its sign. -/
def asciiClassBehind? (negated : Bool) (text : List Char) : Option (Bool × CharSet × List Char) :=
  match text.span (· != ':') with
  | (name, ':' :: ']' :: rest) =>
    (CharSet.ascii? (String.ofList name)).map fun s => (negated, s, rest)
  | _ => none

theorem asciiClassBehind?_of_ne {negated : Bool} {name rest : List Char} {mark : Char}
    (hspan : text.span (· != ':') = (name, mark :: rest))
    (h : ¬ (mark = ':' ∧ rest.head? = some ']')) : asciiClassBehind? negated text = none := by
  rw [asciiClassBehind?, hspan]
  split
  · rename_i heq
    obtain ⟨hmark, hrest⟩ := List.cons.inj (Prod.mk.inj heq).2
    exact absurd ⟨hmark, congrArg List.head? hrest⟩ h
  · rfl

theorem asciiClassBehind?_of_ends {negated : Bool} {name rest : List Char}
    (hspan : text.span (· != ':') = (name, ':' :: ']' :: rest)) :
    asciiClassBehind? negated text =
      (CharSet.ascii? (String.ofList name)).map fun s => (negated, s, rest) := by
  simp only [asciiClassBehind?, hspan]

theorem readAsciiClass?_negated (rest : List Char) :
    readAsciiClass? (':' :: '^' :: rest) = asciiClassBehind? true rest := by
  rw [readAsciiClass?]
  rfl

theorem readAsciiClass?_plain {rest : List Char} (h : rest.head? ≠ some '^') :
    readAsciiClass? (':' :: rest) = asciiClassBehind? false rest := by
  rw [readAsciiClass?]
  · rfl
  · rintro rest' rfl
    exact h rfl

theorem readAsciiClass?_of_ne (h : text.head? ≠ some ':') : readAsciiClass? text = none := by
  rw [readAsciiClass?]
  rintro rest rfl
  exact h rfl

/-- The same class, with rests that compare as the texts did. -/
def SameClass (n : Nat) (a b : Option (Bool × CharSet × List Char)) : Prop :=
  a = none ∧ b = none ∨ ∃ negated s rest rest', a = some (negated, s, rest) ∧
    b = some (negated, s, rest') ∧ Tail n rest rest'

theorem SameClass.mono {m : Nat} {a b : Option (Bool × CharSet × List Char)} (h : SameClass n a b)
    (hle : n ≤ m) : SameClass m a b := by
  rcases h with hnone | ⟨negated, s, rest, rest', ha, hb, htail⟩
  · exact Or.inl hnone
  · exact Or.inr ⟨negated, s, rest, rest', ha, hb, htail.mono hle⟩

/-- A class ends with its own bracket, so that the parenthesis is no part of it. -/
theorem sameClass_behind (negated : Bool) (h : Tail n text text') :
    SameClass n (asciiClassBehind? negated text) (asciiClassBehind? negated text') := by
  rcases h.span (p := (· != ':')) (by decide) with ⟨hnone, hnone'⟩ |
    ⟨name, mark, rest, rest', hspan, hspan', hrest⟩
  · rw [asciiClassBehind?, asciiClassBehind?]
    generalize text.span (· != ':') = parts, text'.span (· != ':') = parts' at hnone hnone' ⊢
    obtain ⟨name, rest⟩ := parts
    obtain ⟨name', rest'⟩ := parts'
    obtain rfl : rest = [] := hnone
    obtain rfl : rest' = [] := hnone'
    exact Or.inl ⟨rfl, rfl⟩
  · by_cases hends : mark = ':' ∧ rest.head? = some ']'
    · obtain ⟨rfl, hhead⟩ := hends
      cases hrest with
      | lost => cases hhead
      | closed => cases hhead
      | cons c hrest =>
          obtain rfl := Option.some.inj hhead
          rw [asciiClassBehind?_of_ends hspan, asciiClassBehind?_of_ends hspan']
          cases CharSet.ascii? (String.ofList name) with
          | none => exact Or.inl ⟨rfl, rfl⟩
          | some s =>
              exact Or.inr ⟨negated, s, _, _, rfl, rfl, hrest.mono (Nat.le_succ _)⟩
    · have hends' : ¬ (mark = ':' ∧ rest'.head? = some ']') := by
        rwa [hrest.head?_eq_iff (by decide)]
      exact Or.inl ⟨asciiClassBehind?_of_ne hspan hends, asciiClassBehind?_of_ne hspan' hends'⟩

theorem sameClass_readAsciiClass? (h : Tail n text text') :
    SameClass n (readAsciiClass? text) (readAsciiClass? text') := by
  by_cases hhead : text.head? = some ':'
  · cases h with
    | lost => cases hhead
    | closed => cases hhead
    | @cons n text text' c h =>
        obtain rfl := Option.some.inj hhead
        by_cases hsign : text.head? = some '^'
        · cases h with
          | lost => cases hsign
          | closed => cases hsign
          | cons c h =>
              obtain rfl := Option.some.inj hsign
              rw [readAsciiClass?_negated, readAsciiClass?_negated]
              exact (sameClass_behind true h).mono (Nat.le_add_right _ 2)
        · have hsign' : text'.head? ≠ some '^' := by rwa [ne_eq, h.head?_eq_iff (by decide)]
          rw [readAsciiClass?_plain hsign, readAsciiClass?_plain hsign']
          exact (sameClass_behind false h).mono (Nat.le_succ n)
  · have hhead' : text'.head? ≠ some ':' := by rwa [ne_eq, h.head?_eq_iff (by decide)]
    exact Or.inl ⟨readAsciiClass?_of_ne hhead, readAsciiClass?_of_ne hhead'⟩

theorem readSetPrimitive_of_ne {c : Char} (hc : c ≠ '\\') (rest : List Char) :
    readSetPrimitive f (c :: rest) = .ok (.char c false, rest) := by
  rw [readSetPrimitive]
  exact hc

theorem alike_readSetPrimitive (f : Flags) (h : Tail (n + 1) text text') :
    Alike (Same n) (fun b => Spent f b.2) (readSetPrimitive f text) (readSetPrimitive f text') := by
  cases h with
  | lost => exact .refused _ _
  | closed => exact .late _ (Or.inl rfl)
  | cons c h =>
      by_cases hc : c = '\\'
      · subst hc
        exact alike_primitive f h
      · rw [readSetPrimitive_of_ne hc, readSetPrimitive_of_ne hc]
        exact .read ⟨rfl, h⟩

/-- The first character of what is left, or else of the text before. -/
theorem head?_or_eq_iff {whole whole' : List Char} {x : Char} (hx : x ≠ ')')
    (h : Tail n text text') (hwhole : Tail n whole whole') (hstays : whole.head? ≠ some x) :
    text'.head?.or whole'.head? = some x ↔ text.head?.or whole.head? = some x := by
  have hstays' : whole'.head? ≠ some x := by rwa [ne_eq, hwhole.head?_eq_iff hx]
  cases h with
  | lost => simpa using iff_of_false hstays' hstays
  | closed => simpa [hstays] using hx.symm
  | cons c h => exact Iff.rfl

/-- What stands behind a comment sign and the blanks after it, if the sign comes first. -/
def behindSharp (text : List Char) : List Char :=
  match text with
  | '#' :: behind => behind.dropWhile isBlank
  | _ => text

theorem behindSharp_of_ne (h : text.head? ≠ some '#') : behindSharp text = text := by
  rw [behindSharp]
  rintro rest rfl
  exact h rfl

theorem Tail.behindSharp (h : Tail n text text') :
    Tail n (behindSharp text) (Pattern.behindSharp text') := by
  by_cases hhead : text.head? = some '#'
  · cases h with
    | lost => cases hhead
    | closed => cases hhead
    | cons c h =>
        obtain rfl := Option.some.inj hhead
        exact (h.dropWhile (by decide)).mono (Nat.le_succ _)
  · have hhead' : text'.head? ≠ some '#' := by rwa [ne_eq, h.head?_eq_iff (by decide)]
    rwa [behindSharp_of_ne hhead, behindSharp_of_ne hhead']

theorem peekBehind_eq (f : Flags) (text : List Char) :
    peekBehind f text =
      if f.verbose then
        (behindSharp ((text.drop 1).dropWhile isBlank)).head?.or (text.drop 1).head?
      else (text.drop 1).head? := rfl

theorem Tail.drop_one (h : Tail n text text') : Tail n (text.drop 1) (text'.drop 1) := by
  cases h with
  | lost => exact .lost n
  | closed => exact .lost n
  | cons c h => exact h.mono (Nat.le_succ _)

/-- The parenthesis is not among the characters that are looked for behind a hyphen. -/
theorem peekBehind_eq_iff {x : Char} (hx : x ≠ ')') (hblank : isBlank x = false) (hsharp : x ≠ '#')
    (h : Tail n text text') : peekBehind f text' = some x ↔ peekBehind f text = some x := by
  have hrest := h.drop_one
  rw [peekBehind_eq, peekBehind_eq]
  generalize text.drop 1 = rest, text'.drop 1 = rest' at hrest ⊢
  split
  · by_cases hhead : rest.head? = some x
    · -- It comes next, and nothing is skipped.
      cases hrest with
      | lost => cases hhead
      | closed => cases hhead
      | cons c hrest =>
          obtain rfl := Option.some.inj hhead
          have hstays (more : List Char) : behindSharp (c :: more) = c :: more :=
            behindSharp_of_ne (by simpa using hsharp)
          simp [hblank, hstays]
    · exact head?_or_eq_iff hx (hrest.dropWhile (by decide)).behindSharp hrest hhead
  · exact hrest.head?_eq_iff hx

/-! ## Ranges -/

/-- What is made of a first character or class, and of what stands behind it: a range or an item. -/
def rangeBehind (f : Flags) (first : Primitive) (text : List Char) :
    Except Fault (CharSet × List Char) :=
  let rest := f.skip text
  match rest with
  | [] => .error .unclosedClass
  | '-' :: behind =>
    if peekBehind f rest == some ']' || peekBehind f rest == some '-' then
      return (← first.asItem f, rest)
    else do
      let (second, rest) ← readSetPrimitive f (f.skip behind)
      let low ← first.asChar f .badClassRange
      let high ← second.asChar f .badClassRange
      if low ≤ high then return (.range low high, rest) else .error .badClassRange
  | _ => return (← first.asItem f, rest)

theorem readSetRange_eq (f : Flags) (text : List Char) :
    readSetRange f text = (readSetPrimitive f text).bind fun p => rangeBehind f p.1 p.2 := rfl

theorem rangeBehind_of_ne {first : Primitive} {c : Char} {rest : List Char}
    (hskip : f.skip text = c :: rest) (hc : c ≠ '-') :
    rangeBehind f first text = (first.asItem f).bind fun s => .ok (s, c :: rest) := by
  rw [rangeBehind, hskip]
  dsimp only
  split
  · rename_i heq
    cases heq
  · rename_i heq
    exact absurd (List.cons.inj heq).1 hc
  · rfl

/-- Nothing is left but the parenthesis, or not even that, or a brace in front of it. -/
def SetSpent (f : Flags) (text : List Char) : Prop := text = [')'] ∨ Spent f text

theorem alike_rangeBehind (f : Flags) (first : Primitive) (h : Tail n text text') :
    Alike (Same n) (fun b => SetSpent f b.2) (rangeBehind f first text)
      (rangeBehind f first text') := by
  rcases h.skip_cases f with ⟨hskip, hskip'⟩ | ⟨hskip, hskip'⟩ |
    ⟨m, c, rest, rest', rfl, hskip, hskip', hrest⟩
  · simp only [rangeBehind, hskip, hskip']
    exact .refused _ _
  · rw [rangeBehind_of_ne hskip' (by decide)]
    simp only [rangeBehind, hskip]
    exact Alike.bind_late _ _ fun s => .late _ (Or.inl rfl)
  · by_cases hc : c = '-'
    · subst hc
      have hpeek {x : Char} (hx : x ≠ ')') (hblank : isBlank x = false) (hsharp : x ≠ '#') :
          (peekBehind f ('-' :: rest') == some x) = (peekBehind f ('-' :: rest) == some x) :=
        Bool.eq_iff_iff.mpr (by
          simpa using peekBehind_eq_iff hx hblank hsharp (hrest.cons '-'))
      simp only [rangeBehind, hskip, hskip', hpeek (x := ']') (by decide) (by decide) (by decide),
        hpeek (x := '-') (by decide) (by decide) (by decide)]
      split
      · exact Alike.bind_same _ fun s => .read ⟨rfl, hrest.cons '-'⟩
      · refine (alike_readSetPrimitive f ((hrest.skip f).mono (Nat.le_succ m))).bind ?_ ?_
        · rintro ⟨second, rest⟩ ⟨second', rest'⟩ ⟨hsecond, htail⟩
          obtain rfl : second = second' := hsecond
          refine Alike.bind_same _ fun low => Alike.bind_same _ fun high => ?_
          split
          · exact .read ⟨rfl, htail.mono (Nat.le_succ m)⟩
          · exact .refused _ _
        · rintro e ⟨second, rest⟩ hspent
          refine Alike.bind_late e _ fun low => Alike.bind_late e _ fun high => ?_
          split
          · exact .late e (Or.inr hspent)
          · exact .refused _ _
    · rw [rangeBehind_of_ne hskip hc, rangeBehind_of_ne hskip' hc]
      exact Alike.bind_same _ fun s => .read ⟨rfl, hrest.cons c⟩

theorem skip_brace (f : Flags) (more : List Char) : f.skip ('{' :: more) = '{' :: more :=
  f.skip_cons (by decide) (by decide) more

theorem alike_readSetRange (f : Flags) (h : Tail (n + 1) text text') :
    Alike (Same n) (fun b => SetSpent f b.2) (readSetRange f text) (readSetRange f text') := by
  rw [readSetRange_eq, readSetRange_eq]
  refine (alike_readSetPrimitive f h).bind ?_ ?_
  · rintro ⟨first, rest⟩ ⟨first', rest'⟩ ⟨hfirst, htail⟩
    obtain rfl : first = first' := hfirst
    exact alike_rangeBehind f first htail
  · rintro e ⟨first, rest⟩ (rfl | ⟨more, rfl, hmore⟩)
    · rw [rangeBehind, f.skip_nil]
      exact .refused _ _
    · rw [rangeBehind_of_ne (skip_brace f more) (by decide)]
      exact Alike.bind_late e _ fun s => .late e (Or.inr (Or.inr ⟨more, rfl, hmore⟩))

/-! ## Whole sets -/

/-- The operator of a sign that is written twice. -/
def SetOp.ofSign? : Char → Option SetOp
  | '&' => some .inter
  | '-' => some .diff
  | '~' => some .symmDiff
  | _ => none

/-- The rest of a bracketed set behind its first sign, blanks and comments having been skipped. -/
def readSetSign (f : Flags) (b : Nat) (stack : List OpenSet) (items : List SetPart)
    (text : List Char) : Except Fault (SetPart × List Char) :=
  match text, stack with
  | [], _ => .error .unclosedClass
  | _, [] => .error .unclosedClass
  | ']' :: rest, o :: outer => do
    let part := o.joined f items
    let set ← finishSet f o.negated part.set
    let whole : SetPart := ⟨set, part.depth + 1⟩
    match outer with
    | [] => return (whole, rest)
    | _ => readSetRest f b outer (whole :: o.outer) rest
  | '[' :: rest, stack =>
    match readAsciiClass? rest with
    | some (negated, s, rest) => do
      let s ← finishSet f negated s
      readSetRest f b stack (⟨s, 0⟩ :: items) rest
    | none => do
      let (negated, first, rest) ← readSetStart f rest
      readSetRest f b (⟨negated, none, items⟩ :: stack) first rest
  | '&' :: '&' :: rest, o :: outer =>
    readSetRest f b ({ o with left := some (o.joined f items, .inter) } :: outer) [] rest
  | '-' :: '-' :: rest, o :: outer =>
    readSetRest f b ({ o with left := some (o.joined f items, .diff) } :: outer) [] rest
  | '~' :: '~' :: rest, o :: outer =>
    readSetRest f b ({ o with left := some (o.joined f items, .symmDiff) } :: outer) [] rest
  | text, stack => do
    let (s, rest) ← readSetRange f text
    readSetRest f b stack (⟨s, 0⟩ :: items) rest

section Steps

variable {c : Char} {rest : List Char} (o : OpenSet) (outer : List OpenSet) (items : List SetPart)

theorem readSetRest_succ (stack : List OpenSet) (text : List Char) :
    readSetRest f (b + 1) stack items text = readSetSign f b stack items (f.skip text) := rfl

theorem readSetRest_close (hskip : f.skip text = ']' :: rest) :
    readSetRest f (b + 1) (o :: outer) items text =
      (finishSet f o.negated (o.joined f items).set).bind fun s =>
        match outer with
        | [] => .ok (⟨s, (o.joined f items).depth + 1⟩, rest)
        | _ => readSetRest f b outer (⟨s, (o.joined f items).depth + 1⟩ :: o.outer) rest := by
  rw [readSetRest_succ, hskip]
  rfl

theorem readSetRest_open (hskip : f.skip text = '[' :: rest) :
    readSetRest f (b + 1) (o :: outer) items text =
      match readAsciiClass? rest with
      | some (negated, s, rest) =>
        (finishSet f negated s).bind fun s => readSetRest f b (o :: outer) (⟨s, 0⟩ :: items) rest
      | none =>
        (readSetStart f rest).bind fun a =>
          readSetRest f b (⟨a.1, none, items⟩ :: o :: outer) a.2.1 a.2.2 := by
  rw [readSetRest_succ, hskip]
  rfl

theorem readSetRest_operator {op : SetOp} (hskip : f.skip text = c :: c :: rest)
    (hop : SetOp.ofSign? c = some op) :
    readSetRest f (b + 1) (o :: outer) items text =
      readSetRest f b ({ o with left := some (o.joined f items, op) } :: outer) [] rest := by
  rw [readSetRest_succ, hskip]
  rw [SetOp.ofSign?.eq_def] at hop
  split at hop
  · obtain rfl := Option.some.inj hop
    rfl
  · obtain rfl := Option.some.inj hop
    rfl
  · obtain rfl := Option.some.inj hop
    rfl
  · cases hop

theorem readSetRest_range (hskip : f.skip text = c :: rest) (hclose : c ≠ ']') (hopen : c ≠ '[')
    (hop : ¬ ((SetOp.ofSign? c).isSome = true ∧ rest.head? = some c)) :
    readSetRest f (b + 1) (o :: outer) items text =
      (readSetRange f (c :: rest)).bind fun a =>
        readSetRest f b (o :: outer) (⟨a.1, 0⟩ :: items) a.2 := by
  rw [readSetRest_succ, hskip]
  unfold readSetSign
  split
  · rename_i heq
    cases heq
  · rename_i heq _
    cases heq
  · rename_i heq _
    exact absurd (List.cons.inj heq).1 hclose
  · rename_i heq _
    exact absurd (List.cons.inj heq).1 hopen
  · rename_i heq _
    obtain ⟨rfl, rfl⟩ := List.cons.inj heq
    exact absurd ⟨rfl, rfl⟩ hop
  · rename_i heq _
    obtain ⟨rfl, rfl⟩ := List.cons.inj heq
    exact absurd ⟨rfl, rfl⟩ hop
  · rename_i heq _
    obtain ⟨rfl, rfl⟩ := List.cons.inj heq
    exact absurd ⟨rfl, rfl⟩ hop
  · rfl

end Steps

theorem readSetRest_of_nil (hskip : f.skip text = []) (stack : List OpenSet)
    (items : List SetPart) :
    ∃ e, readSetRest f b stack items text = .error e := by
  cases b with
  | zero => exact ⟨_, rfl⟩
  | succ b => exact ⟨.unclosedClass, by rw [readSetRest_succ, hskip]; rfl⟩

theorem readSetRest_of_stack_nil (items : List SetPart) (text : List Char) :
    ∃ e, readSetRest f b [] items text = .error e := by
  cases b with
  | zero => exact ⟨_, rfl⟩
  | succ b =>
      refine ⟨.unclosedClass, ?_⟩
      rw [readSetRest_succ]
      cases f.skip text <;> rfl

/-- Behind the parenthesis the set is not closed either. -/
theorem readSetRest_of_closed (hskip : f.skip text = [')']) (stack : List OpenSet)
    (items : List SetPart) : ∃ e, readSetRest f b stack items text = .error e := by
  cases b with
  | zero => exact ⟨_, rfl⟩
  | succ b =>
      cases stack with
      | nil => exact readSetRest_of_stack_nil items text
      | cons o outer =>
          have hrange : readSetRange f [')'] = .error .unclosedClass := by
            rw [readSetRange_eq, readSetPrimitive_of_ne (by decide)]
            show rangeBehind f _ [] = _
            rw [rangeBehind, f.skip_nil]
          rw [readSetRest_range o outer items hskip (by decide) (by decide) (by simp), hrange]
          exact ⟨_, rfl⟩

/-- Where nothing more is left, the set is never closed. -/
theorem readSetRest_of_setSpent (h : SetSpent f text) (stack : List OpenSet)
    (items : List SetPart) : ∃ e, readSetRest f b stack items text = .error e := by
  rcases h with rfl | rfl | ⟨more, rfl, hmore⟩
  · exact readSetRest_of_closed (f.skip_cons (by decide) (by decide) []) stack items
  · exact readSetRest_of_nil f.skip_nil stack items
  · cases b with
    | zero => exact ⟨_, rfl⟩
    | succ b =>
        cases stack with
        | nil => exact readSetRest_of_stack_nil items _
        | cons o outer =>
            rw [readSetRest_range o outer items (skip_brace f more) (by decide) (by decide)
              (by simp [SetOp.ofSign?]), readSetRange_eq, readSetPrimitive_of_ne (by decide)]
            show ∃ e, (rangeBehind f (.char '{' false) more).bind _ = .error e
            rw [rangeBehind_of_ne hmore (by decide)]
            cases Primitive.asItem f (.char '{' false) with
            | error e => exact ⟨e, rfl⟩
            | ok s => exact readSetRest_of_closed (f.skip_cons (by decide) (by decide) []) _ _

/-- One step in a set is taken alike, if everything behind it is read alike. -/
theorem alike_readSetRest_step (f : Flags) (o : OpenSet) (outer : List OpenSet)
    (items : List SetPart) {m : Nat} {c : Char} {rest rest' : List Char}
    (hskip : f.skip text = c :: rest) (hskip' : f.skip text' = c :: rest') (h : Tail m rest rest')
    (hlater : ∀ {behind behind' : List Char} (stack : List OpenSet) (items : List SetPart),
      Tail m behind behind' → Alike (Same (m + 1)) Never (readSetRest f b stack items behind)
        (readSetRest f b' stack items behind')) :
    Alike (Same (m + 1)) Never (readSetRest f (b + 1) (o :: outer) items text)
      (readSetRest f (b' + 1) (o :: outer) items text') := by
  by_cases hclose : c = ']'
  · subst hclose
    rw [readSetRest_close o outer items hskip, readSetRest_close o outer items hskip']
    refine Alike.bind_same _ fun s => ?_
    cases outer with
    | nil => exact .read ⟨rfl, h.mono (Nat.le_succ m)⟩
    | cons o' outer => exact hlater _ _ h
  by_cases hopen : c = '['
  · subst hopen
    rw [readSetRest_open o outer items hskip, readSetRest_open o outer items hskip']
    rcases sameClass_readAsciiClass? h with ⟨hnone, hnone'⟩ |
      ⟨negated, s, behind, behind', hclass, hclass', hbehind⟩
    · rw [hnone, hnone']
      refine (alike_readSetStart f h).bind ?_ ?_
      · rintro ⟨negated, first, rest⟩ ⟨negated', first', rest'⟩ ⟨hnegated, hfirst, htail⟩
        obtain rfl : negated = negated' := hnegated
        obtain rfl : first = first' := hfirst
        exact hlater _ _ htail
      · rintro e ⟨negated, first, rest⟩ hspent
        exact .of_error e (readSetRest_of_setSpent (Or.inl hspent) _ _)
    · rw [hclass, hclass']
      exact Alike.bind_same _ fun s => hlater _ _ hbehind
  by_cases hop : (SetOp.ofSign? c).isSome = true ∧ rest.head? = some c
  · obtain ⟨hsome, hhead⟩ := hop
    obtain ⟨op, hop⟩ := Option.isSome_iff_exists.mp hsome
    cases h with
    | lost => cases hhead
    | closed => cases hhead
    | cons d h =>
        obtain rfl := Option.some.inj hhead
        rw [readSetRest_operator o outer items hskip hop,
          readSetRest_operator o outer items hskip' hop]
        exact hlater _ _ (h.mono (Nat.le_succ _))
  · have hop' : ¬ ((SetOp.ofSign? c).isSome = true ∧ rest'.head? = some c) := by
      rintro ⟨hsome, hhead⟩
      refine hop ⟨hsome, (h.head?_eq_iff ?_).mp hhead⟩
      rintro rfl
      cases hsome
    rw [readSetRest_range o outer items hskip hclose hopen hop,
      readSetRest_range o outer items hskip' hclose hopen hop']
    refine (alike_readSetRange f (h.cons c)).bind ?_ ?_
    · rintro ⟨s, rest⟩ ⟨s', rest'⟩ ⟨hs, htail⟩
      obtain rfl : s = s' := hs
      exact hlater _ _ htail
    · rintro e ⟨s, rest⟩ hspent
      exact .of_error e (readSetRest_of_setSpent hspent _ _)

/-- The rest of a set is read alike, and if it is not closed it is refused in both texts. -/
theorem alike_readSetRest (f : Flags) (stack : List OpenSet) (items : List SetPart)
    (h : Tail n text text') (hb : n < b) (hb' : n < b') :
    Alike (Same n) Never (readSetRest f b stack items text)
      (readSetRest f b' stack items text') := by
  induction b generalizing n stack items text text' b' with
  | zero => exact absurd hb (Nat.not_lt_zero _)
  | succ b ih =>
      obtain ⟨b', rfl⟩ := Nat.exists_eq_succ_of_ne_zero (Nat.ne_zero_of_lt hb')
      cases stack with
      | nil =>
          obtain ⟨e, he⟩ := readSetRest_of_stack_nil (f := f) (b := b + 1) items text
          rw [he]
          exact .of_error e (readSetRest_of_stack_nil items text')
      | cons o outer =>
          rcases h.skip_cases f with ⟨hskip, hskip'⟩ | ⟨hskip, hskip'⟩ |
            ⟨m, c, rest, rest', rfl, hskip, hskip', hrest⟩
          · obtain ⟨e, he⟩ := readSetRest_of_nil (b := b + 1) hskip (o :: outer) items
            rw [he]
            exact .of_error e (readSetRest_of_nil hskip' _ _)
          · obtain ⟨e, he⟩ := readSetRest_of_nil (b := b + 1) hskip (o :: outer) items
            rw [he]
            exact .of_error e (readSetRest_of_closed hskip' _ _)
          · refine alike_readSetRest_step f o outer items hskip hskip' hrest ?_
            intro behind behind' stack items hbehind
            exact (ih stack items hbehind (Nat.lt_of_succ_lt_succ hb)
              (Nat.lt_of_succ_lt_succ hb')).mono
                (fun _ _ hsame => hsame.mono (Nat.le_succ m)) fun _ => id

theorem readSet_eq (f : Flags) (text : List Char) :
    readSet f text = (readSetStart f text).bind fun a =>
      readSetRest f (a.2.2.length + 1) [⟨a.1, none, []⟩] a.2.1 a.2.2 := rfl

/-- A bracketed set is read alike, and never later. -/
theorem alike_readSet (f : Flags) (h : Tail n text text') :
    Alike (Same n) Never (readSet f text) (readSet f text') := by
  rw [readSet_eq, readSet_eq]
  refine (alike_readSetStart f h).bind ?_ ?_
  · rintro ⟨negated, first, rest⟩ ⟨negated', first', rest'⟩ ⟨hnegated, hfirst, htail⟩
    obtain rfl : negated = negated' := hnegated
    obtain rfl : first = first' := hfirst
    have hle : rest.length < rest'.length + 1 := Nat.lt_succ_of_le htail.length_le_length
    exact (alike_readSetRest f _ _ htail.exact (Nat.lt_succ_self _) hle).mono
      (fun _ _ hsame => hsame.mono htail.length_le) fun _ => id
  · rintro e ⟨negated, first, rest⟩ hspent
    exact .of_error e (readSetRest_of_setSpent (Or.inl hspent) _ _)

end SecretScan.Pattern
