import SecretScan.Proofs.Pattern.Closing

/-!
# Escapes in front of a closing parenthesis
-/

namespace SecretScan.Pattern

open SecretScan.Unicode

variable {n b b' : Nat} {text text' : List Char} {f : Flags}

theorem Flags.length_skip_le (f : Flags) (text : List Char) :
    (f.skip text).length ≤ text.length := by
  have hblanks : ∀ inComment, (dropBlanks inComment text).length ≤ text.length := by
    induction text with
    | nil => exact fun _ => Nat.le_refl 0
    | cons c text ih =>
        intro inComment
        rw [dropBlanks]
        split_ifs
        · exact Nat.le_succ_of_le (ih _)
        · exact Nat.le_succ_of_le (ih _)
        · exact Nat.le_succ_of_le (ih _)
        · exact Nat.le_refl _
  rw [Flags.skip]
  split
  · exact hblanks false
  · exact Nat.le_refl _

/-! ## Code points -/

theorem alike_readHexDigits (f : Flags) (k value : Nat) (h : Tail n text text') :
    Alike (Same n) Never (readHexDigits f k value text) (readHexDigits f k value text') := by
  induction k generalizing n value text text' with
  | zero => exact .read ⟨rfl, h⟩
  | succ k ih =>
      cases h with
      | lost => exact .refused _ _
      | closed =>
          -- What is left is one character or none, and no digit.
          have hdigit : hexValue? ')' = none := by decide
          simp only [readHexDigits, hdigit]
          exact .refused _ _
      | cons c h =>
          rw [readHexDigits, readHexDigits]
          cases hexValue? c with
          | none => exact .refused _ _
          | some d => exact ih _ ((h.skip f).mono (Nat.le_succ _))

/-- The bounds only have to reach as far as the texts. -/
theorem alike_readHexBrace (f : Flags) (value : Option Nat) (h : Tail n text text')
    (hb : text.length < b) (hb' : text'.length < b') :
    Alike (Same n) Never (readHexBrace f b value text) (readHexBrace f b' value text') := by
  induction b generalizing n value text text' b' with
  | zero => exact absurd hb (Nat.not_lt_zero _)
  | succ b ih =>
      obtain ⟨b', rfl⟩ := Nat.exists_eq_succ_of_ne_zero (Nat.ne_zero_of_lt hb')
      cases h with
      | lost => exact .refused _ _
      | closed =>
          have hdigit : hexValue? ')' = none := by decide
          simp [readHexBrace, hdigit]
          exact .refused _ _
      | @cons n text text' c h =>
          have hskip := (h.skip f).mono (Nat.le_succ n)
          simp only [readHexBrace]
          split
          · cases value with
            | none => exact .refused _ _
            | some v => exact .read ⟨rfl, hskip⟩
          · cases hexValue? c with
            | none => exact .refused _ _
            | some d =>
                exact ih _ hskip
                  (Nat.lt_of_le_of_lt (f.length_skip_le _) (Nat.lt_of_succ_lt_succ hb))
                  (Nat.lt_of_le_of_lt (f.length_skip_le _) (Nat.lt_of_succ_lt_succ hb'))

theorem readCodePoint_eq_of_ne {width : Nat} {c : Char} {rest : List Char}
    (hskip : f.skip text = c :: rest) (hc : c ≠ '{') : readCodePoint f width text = (do
      let (n, rest) ← readHexDigits f width 0 (c :: rest)
      return (.char (← charOf? n) (width == 2), rest)) := by
  rw [readCodePoint, hskip]
  split
  · rename_i heq
    cases heq
  · rename_i heq
    exact absurd (List.cons.inj heq).1 hc
  · rfl

theorem alike_readCodePoint (f : Flags) {width : Nat} (hwidth : 0 < width) (h : Tail n text text') :
    Alike (Same n) Never (readCodePoint f width text) (readCodePoint f width text') := by
  -- With or without braces, the number is read first.
  have hchar {a b : Nat × List Char} (hab : Same n a b) (byte : Bool) :
      Alike (Same n) Never
        ((charOf? a.1).bind fun c => .ok (Primitive.char c byte, a.2))
        ((charOf? b.1).bind fun c => .ok (Primitive.char c byte, b.2)) := by
    rw [← hab.1]
    exact Alike.bind_same (charOf? a.1) fun c => .read ⟨rfl, hab.2⟩
  obtain ⟨width, rfl⟩ := Nat.exists_eq_succ_of_ne_zero (Nat.ne_of_gt hwidth)
  rcases h.skip_cases f with ⟨hskip, hskip'⟩ | ⟨hskip, hskip'⟩ |
    ⟨m, c, rest, rest', rfl, hskip, hskip', hrest⟩
  · rw [readCodePoint, readCodePoint, hskip, hskip']
    exact .refused _ _
  · have hdigit : hexValue? ')' = none := by decide
    rw [readCodePoint, hskip, readCodePoint_eq_of_ne hskip' (by decide)]
    simp only [readHexDigits, hdigit]
    exact .refused _ _
  · by_cases hc : c = '{'
    · subst hc
      rw [readCodePoint, readCodePoint, hskip, hskip']
      have hinner := (hrest.skip f).mono (Nat.le_succ m)
      exact (alike_readHexBrace f none hinner (Nat.lt_succ_self _) (Nat.lt_succ_self _)).bind
        (fun a b hab => hchar hab false) nofun
    · rw [readCodePoint_eq_of_ne hskip hc, readCodePoint_eq_of_ne hskip' hc]
      exact (alike_readHexDigits f (width + 1) 0 (.cons c hrest)).bind
        (fun a b hab => hchar hab _) nofun

/-! ## Properties -/

theorem alike_readBraced (f : Flags) (name : List Char) (h : Tail n text text')
    (hb : text.length < b) (hb' : text'.length < b') :
    Alike (Same n) Never (readBraced f b name text) (readBraced f b' name text') := by
  induction b generalizing n name text text' b' with
  | zero => exact absurd hb (Nat.not_lt_zero _)
  | succ b ih =>
      obtain ⟨b', rfl⟩ := Nat.exists_eq_succ_of_ne_zero (Nat.ne_zero_of_lt hb')
      cases h with
      | lost => exact .refused _ _
      | closed =>
          have hnil : f.skip [] = [] :=
            List.eq_nil_of_length_eq_zero (Nat.le_zero.mp (f.length_skip_le []))
          simp only [readBraced, hnil]
          cases b' <;> exact .refused _ _
      | @cons n text text' c h =>
          simp only [readBraced]
          split
          · exact .read ⟨rfl, h.mono (Nat.le_succ n)⟩
          · exact ih _ ((h.skip f).mono (Nat.le_succ n))
              (Nat.lt_of_le_of_lt (f.length_skip_le _) (Nat.lt_of_succ_lt_succ hb))
              (Nat.lt_of_le_of_lt (f.length_skip_le _) (Nat.lt_of_succ_lt_succ hb'))

/-- The class that follows `\\p`, as it is found: in braces, or of one letter. -/
def foundProperty (f : Flags) (text : List Char) :
    Except Fault (Option CharSet × Bool × List Char) :=
  match f.skip text with
  | [] => .error .badEscape
  | '{' :: rest => do
    let inner := f.skip rest
    let (name, rest) ← readBraced f (inner.length + 1) [] inner
    let (found, unequal) := bracedClass? name
    pure (found, unequal, rest)
  | '\\' :: _ => .error .badEscape
  | c :: rest => pure (CharSet.named? [c], false, rest)

theorem foundProperty_of_letter {c : Char} {rest : List Char} (hskip : f.skip text = c :: rest)
    (hbrace : c ≠ '{') (hslash : c ≠ '\\') :
    foundProperty f text = .ok (CharSet.named? [c], false, rest) := by
  rw [foundProperty, hskip]
  split
  all_goals simp_all
  rfl

/-- The set of a class as it was found, or the refusal of it. -/
def ofProperty (f : Flags) (negated : Bool) :
    Option CharSet × Bool × List Char → Except Fault (Primitive × List Char)
  | (found, unequal, rest) =>
      if !f.unicode then .error .notUnicode
      else
        match found with
        | none => .error .unknownProperty
        | some s => do
          let s ← finishSet f (negated != unequal) s
          pure (.set s, rest)

theorem readProperty_eq (f : Flags) (negated : Bool) (text : List Char) :
    readProperty f negated text = foundProperty f text >>= ofProperty f negated := by
  rw [readProperty, foundProperty]
  generalize f.skip text = text
  split
  · rfl
  · exact (bind_assoc _ _ _).symm
  · rfl
  · simp only [pure_bind]
    rfl

theorem alike_foundProperty (f : Flags) (h : Tail n text text') :
    Alike (Same₂ n) (fun b => b.2.2 = []) (foundProperty f text) (foundProperty f text') := by
  rcases h.skip_cases f with ⟨hskip, hskip'⟩ | ⟨hskip, hskip'⟩ |
    ⟨m, c, rest, rest', rfl, hskip, hskip', hrest⟩
  · rw [foundProperty, foundProperty, hskip, hskip']
    exact .refused _ _
  · rw [foundProperty, foundProperty, hskip, hskip']
    exact .late _ rfl
  · by_cases hbrace : c = '{'
    · subst hbrace
      rw [foundProperty, foundProperty, hskip, hskip']
      have hinner := (hrest.skip f).mono (Nat.le_succ m)
      refine (alike_readBraced f [] hinner (Nat.lt_succ_self _) (Nat.lt_succ_self _)).bind
        ?_ nofun
      rintro ⟨name, rest⟩ ⟨name', rest'⟩ ⟨hname, htail⟩
      obtain rfl : name = name' := hname
      exact .read ⟨rfl, rfl, htail⟩
    · by_cases hslash : c = '\\'
      · subst hslash
        rw [foundProperty, foundProperty, hskip, hskip']
        exact .refused _ _
      · rw [foundProperty_of_letter hskip hbrace hslash,
          foundProperty_of_letter hskip' hbrace hslash]
        exact .read ⟨rfl, rfl, hrest.mono (Nat.le_succ m)⟩

theorem alike_readProperty (f : Flags) (negated : Bool) (h : Tail n text text') :
    Alike (Same n) (fun b => b.2 = []) (readProperty f negated text)
      (readProperty f negated text') := by
  rw [readProperty_eq, readProperty_eq]
  refine (alike_foundProperty f h).bind ?_ ?_
  · rintro ⟨found, unequal, rest⟩ ⟨found', unequal', rest'⟩ ⟨hfound, hunequal, htail⟩
    obtain rfl : found = found' := hfound
    obtain rfl : unequal = unequal' := hunequal
    dsimp only [ofProperty]
    split
    · exact .refused _ _
    · cases found with
      | none => exact .refused _ _
      | some s => exact Alike.bind_same _ fun _ => .read ⟨rfl, htail⟩
  · rintro e ⟨found, unequal, rest⟩ hrest
    obtain rfl : rest = [] := hrest
    dsimp only [ofProperty]
    split
    · exact .refused _ _
    · cases found with
      | none => exact .refused _ _
      | some s =>
          dsimp only
          cases finishSet f (negated != unequal) s with
          | error e' => exact .refused _ _
          | ok s => exact .late _ rfl

/-! ## Conditions -/

theorem alike_letters (f : Flags) (name : List Char) (h : Tail n text text')
    (hb : text.length < b) (hb' : text'.length < b') :
    Alike (Same n) Never (readBoundary.letters f b name text)
      (readBoundary.letters f b' name text') := by
  induction b generalizing n name text text' b' with
  | zero => exact absurd hb (Nat.not_lt_zero _)
  | succ b ih =>
      obtain ⟨b', rfl⟩ := Nat.exists_eq_succ_of_ne_zero (Nat.ne_zero_of_lt hb')
      cases h with
      | lost => exact .refused _ _
      | closed =>
          have hletter : (isAsciiLetter ')' || ')' == '-') = false := by decide
          simp only [readBoundary.letters, hletter]
          exact .refused _ _
      | @cons n text text' c h =>
          simp only [readBoundary.letters]
          split_ifs
          · exact ih _ ((h.skip f).mono (Nat.le_succ n))
              (Nat.lt_of_le_of_lt (f.length_skip_le _) (Nat.lt_of_succ_lt_succ hb))
              (Nat.lt_of_le_of_lt (f.length_skip_le _) (Nat.lt_of_succ_lt_succ hb'))
          · exact .read ⟨rfl, h.mono (Nat.le_succ n)⟩
          · exact .refused _ _

/-- An opening brace has been left, and behind it the parenthesis comes next. -/
def BraceLeft (f : Flags) (text : List Char) : Prop :=
  ∃ more, text = '{' :: more ∧ f.skip more = [')']

theorem readBoundary_of_ne {c : Char} (hc : c ≠ '{') (rest : List Char) :
    readBoundary f (c :: rest) = .ok (.wordBoundary (!f.unicode), c :: rest) := by
  rw [readBoundary]
  intro rest' heq
  exact hc (List.cons.inj heq).1

/-- A condition in braces, if a letter comes first in them. -/
theorem readBoundary_brace {c : Char} {rest more : List Char} (hskip : f.skip rest = c :: more) :
    readBoundary f ('{' :: rest) =
      if isAsciiLetter c || c == '-' then do
        let (name, rest) ← readBoundary.letters f (more.length + 2) [] (c :: more)
        match String.ofList name with
        | "start" => .ok (.wordStart (!f.unicode), rest)
        | "end" => .ok (.wordEnd (!f.unicode), rest)
        | "start-half" => .ok (.wordStartHalf (!f.unicode), rest)
        | "end-half" => .ok (.wordEndHalf (!f.unicode), rest)
        | _ => .error .badEscape
      else .ok (.wordBoundary (!f.unicode), '{' :: rest) := by
  simp only [readBoundary, hskip]
  rfl

theorem alike_readBoundary (f : Flags) (h : Tail n text text') :
    Alike (Same n) (fun b => BraceLeft f b.2) (readBoundary f text) (readBoundary f text') := by
  cases h with
  | lost => exact .read ⟨rfl, .lost n⟩
  | closed => exact .read ⟨rfl, .closed n⟩
  | @cons n text text' c h =>
      by_cases hc : c = '{'
      · subst hc
        rcases h.skip_cases f with ⟨hskip, hskip'⟩ | ⟨hskip, hskip'⟩ |
          ⟨m, c, rest, rest', rfl, hskip, hskip', hrest⟩
        · simp only [readBoundary, hskip, hskip']
          exact .refused _ _
        · rw [readBoundary_brace hskip']
          simp only [readBoundary, hskip]
          exact .late _ ⟨text', rfl, hskip'⟩
        · rw [readBoundary_brace hskip, readBoundary_brace hskip']
          split
          · refine (alike_letters f [] (.cons c hrest) (Nat.lt_succ_self _)
              (Nat.lt_succ_self _)).bind ?_ nofun
            rintro ⟨name, rest⟩ ⟨name', rest'⟩ ⟨hname, htail⟩
            obtain rfl : name = name' := hname
            dsimp only
            split
            · exact .read ⟨rfl, htail.mono (Nat.le_succ _)⟩
            · exact .read ⟨rfl, htail.mono (Nat.le_succ _)⟩
            · exact .read ⟨rfl, htail.mono (Nat.le_succ _)⟩
            · exact .read ⟨rfl, htail.mono (Nat.le_succ _)⟩
            · exact .refused _ _
          · exact .read ⟨rfl, .cons '{' h⟩
      · rw [readBoundary_of_ne hc, readBoundary_of_ne hc]
        exact .read ⟨rfl, .cons c h⟩

/-! ## All escapes -/

/-- Nothing is left, or a brace in front of the parenthesis. -/
def Spent (f : Flags) (text : List Char) : Prop := text = [] ∨ BraceLeft f text

theorem alike_primitive (f : Flags) (h : Tail n text text') :
    Alike (Same n) (fun b => Spent f b.2) (Primitive.read f text) (Primitive.read f text') := by
  cases h with
  | lost => exact .refused _ _
  | closed => exact .late _ (Or.inl rfl)
  | @cons n text text' c h =>
      have hmono : Tail (n + 1) text text' := h.mono (Nat.le_succ n)
      simp only [Primitive.read]
      split
      · exact (alike_readCodePoint f (by decide) hmono).mono (fun _ _ => id) nofun
      · exact (alike_readCodePoint f (by decide) hmono).mono (fun _ _ => id) nofun
      · exact (alike_readCodePoint f (by decide) hmono).mono (fun _ _ => id) nofun
      · exact (alike_readProperty f false hmono).mono (fun _ _ => id) fun _ => Or.inl
      · exact (alike_readProperty f true hmono).mono (fun _ _ => id) fun _ => Or.inl
      case h_9 | h_10 | h_11 =>
        split
        · exact .refused _ _
        · exact .read ⟨rfl, hmono⟩
      case h_20 =>
        refine (alike_readBoundary f hmono).map ?_ fun _ => Or.inr
        rintro a b ⟨hlook, htail⟩
        exact ⟨congrArg Primitive.look hlook, htail⟩
      case h_24 =>
        split
        · exact .read ⟨rfl, hmono⟩
        · exact .refused _ _
      -- All others take one character and no more.
      all_goals exact .read ⟨rfl, hmono⟩

end SecretScan.Pattern
