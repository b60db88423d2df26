import SecretScan.Proofs.Text.Lowercase

/-!
# Capital sigmas in a part of a text

The capital sigma is the one character whose lowercase form depends on what stands around it. A
part of a text is lowercased as it is by itself just if each of its sigmas ends a word in the text
exactly if it does so in the part. Where a part decides this by its own characters, whatever
stands before and behind it, its sigmas are settled.
-/

namespace SecretScan.Text

open SecretScan.Unicode

/-! ## Parts of a text -/

/-- Does a sigma between `before`, nearest character first, and `after` stand at the end of a
word? -/
def endsWord (before after : List Char) : Bool := casedFirst before && !casedFirst after

/-- Lowercase form of a part that stands between `before`, nearest character first, and `after`. -/
def lowerWithin (before : List Char) : (part after : List Char) → List Char
  | [], _ => []
  | c :: rest, after => lowerAt before c (rest ++ after) ++ lowerWithin (c :: before) rest after

theorem lowerBehind_part (before part after : List Char) :
    lowerBehind before (part ++ after) =
      lowerWithin before part after ++ lowerBehind (part.reverse ++ before) after := by
  induction part generalizing before with
  | nil => rfl
  | cons c rest ih =>
      rw [List.cons_append, lowerBehind, ih, lowerWithin]
      simp

theorem lower_eq_lowerWithin (part : List Char) : lower part = lowerWithin [] part [] := by
  have h := lowerBehind_part [] part []
  rw [lowerBehind, List.append_nil, List.append_nil] at h
  rw [lower_eq_lowerBehind, h]

/-- The lowercase form of a part stands in that of the text. -/
theorem lower_part (front part back : List Char) :
    lower (front ++ part ++ back) = lowerWithin [] front (part ++ back) ++
      lowerWithin front.reverse part back ++
        lowerWithin (part.reverse ++ front.reverse) back [] := by
  have hback := lowerBehind_part (part.reverse ++ front.reverse) back []
  rw [lowerBehind, List.append_nil, List.append_nil] at hback
  rw [lower_eq_lowerBehind, List.append_assoc, lowerBehind_part, List.append_nil, lowerBehind_part,
    hback, List.append_assoc]

theorem lowerAt_sigma (before after : List Char) :
    lowerAt before capitalSigma after =
      [if endsWord before after then Char.ofNat 0x3C2 else Char.ofNat 0x3C3] :=
  if_pos rfl

theorem lowerAt_eq_iff {before before' after after' : List Char} {c : Char} :
    lowerAt before c after = lowerAt before' c after' ↔
      (c = capitalSigma → endsWord before after = endsWord before' after') := by
  by_cases hc : c = capitalSigma
  · subst hc
    have hforms : Char.ofNat 0x3C2 ≠ Char.ofNat 0x3C3 := by decide
    rw [lowerAt_sigma, lowerAt_sigma]
    cases endsWord before after <;> cases endsWord before' after' <;> simp [hforms, hforms.symm]
  · simp [lowerAt_of_ne hc, hc]

theorem length_lowerAt_eq (before before' after after' : List Char) (c : Char) :
    (lowerAt before c after).length = (lowerAt before' c after').length := by
  by_cases hc : c = capitalSigma
  · subst hc
    rw [lowerAt_sigma, lowerAt_sigma]
    rfl
  · rw [lowerAt_of_ne hc, lowerAt_of_ne hc]

theorem length_lowerWithin_eq (before before' part after after' : List Char) :
    (lowerWithin before part after).length = (lowerWithin before' part after').length := by
  induction part generalizing before before' with
  | nil => rfl
  | cons c rest ih =>
      rw [lowerWithin, lowerWithin, List.length_append, List.length_append, ih (c :: before),
        length_lowerAt_eq before before' _ (rest ++ after')]

/-- Two lowercase forms of a part are equal just if each sigma of it ends a word in both texts or in
neither. -/
theorem lowerWithin_eq_iff {before before' part after after' : List Char} :
    lowerWithin before part after = lowerWithin before' part after' ↔
      ∀ front back, part = front ++ capitalSigma :: back →
        endsWord (front.reverse ++ before) (back ++ after) =
          endsWord (front.reverse ++ before') (back ++ after') := by
  induction part generalizing before before' with
  | nil => simp [lowerWithin]
  | cons c rest ih =>
      have hlength := length_lowerAt_eq before before' (rest ++ after) (rest ++ after') c
      constructor
      · intro h front back heq
        obtain ⟨hhead, hrest⟩ := List.append_inj h hlength
        rw [lowerAt_eq_iff] at hhead
        rw [ih] at hrest
        cases front with
        | nil =>
            obtain ⟨rfl, rfl⟩ := List.cons.inj heq
            exact hhead rfl
        | cons x front =>
            obtain ⟨rfl, rfl⟩ := List.cons.inj heq
            simpa using hrest front back rfl
      · intro h
        rw [lowerWithin, lowerWithin]
        refine congrArg₂ _ (lowerAt_eq_iff.mpr ?_) (ih.mpr ?_)
        · rintro rfl
          exact h [] rest rfl
        · rintro front back rfl
          simpa using h (c :: front) back rfl

/-! ## Settled sigmas -/

/-- Between `before`, nearest character first, and `after` each sigma of a part ends a word just
if it does so in the part by itself. -/
def KeepsSigmas (before part after : List Char) : Prop :=
  ∀ front back, part = front ++ capitalSigma :: back →
    endsWord (front.reverse ++ before) (back ++ after) = endsWord front.reverse back

theorem lowerWithin_eq_lower_iff {before part after : List Char} :
    lowerWithin before part after = lower part ↔ KeepsSigmas before part after := by
  rw [lower_eq_lowerWithin, lowerWithin_eq_iff]
  simp only [List.append_nil]
  rfl

/-- Is the nearest character that is not case ignorable a cased one? None if there is no such. -/
def nearestCased? (text : List Char) : Option Bool :=
  (text.dropWhile isCaseIgnorable).head?.map isCased

theorem casedFirst_eq (text : List Char) : casedFirst text = (nearestCased? text).getD false := by
  rw [casedFirst, nearestCased?]
  cases text.dropWhile isCaseIgnorable with
  | nil => rfl
  | cons c rest => rfl

theorem nearestCased?_append (front back : List Char) :
    nearestCased? (front ++ back) = (nearestCased? front).or (nearestCased? back) := by
  induction front with
  | nil => rfl
  | cons c front ih =>
      by_cases hc : isCaseIgnorable c = true
      · simpa [nearestCased?, hc] using ih
      · simp [nearestCased?, hc]

/-- A sigma that cannot come to end a word, or cease to, by what stands around the part: the text in
front of it in the part has no case, or that behind it has, or each of them says which. -/
def SettledBetween (front back : List Char) : Prop :=
  nearestCased? front.reverse = some false ∨ nearestCased? back = some true ∨
    nearestCased? front.reverse = some true ∧ nearestCased? back = some false

/-- Is each sigma of a part settled by the part itself? -/
def Settled (part : List Char) : Prop :=
  ∀ front back, part = front ++ capitalSigma :: back → SettledBetween front back

theorem settled_of_not_mem {part : List Char} (h : capitalSigma ∉ part) : Settled part := by
  rintro front back rfl
  simp at h

theorem Settled.keepsSigmas {part : List Char} (h : Settled part) (before after : List Char) :
    KeepsSigmas before part after := by
  intro front back heq
  simp only [endsWord, casedFirst_eq, nearestCased?_append]
  rcases h front back heq with hfront | hback | ⟨hfront, hback⟩
  · simp [hfront]
  · simp [hback]
  · simp [hfront, hback]

/-- A sigma that is not settled takes its other form behind a letter or in front of one. -/
theorem endsWord_ne_of_not_settledBetween {front back : List Char} (h : ¬ SettledBetween front back)
    {letter : Char} (hletter : nearestCased? [letter] = some true) :
    endsWord front.reverse (back ++ [letter]) ≠ endsWord front.reverse back ∨
      endsWord (front.reverse ++ [letter]) back ≠ endsWord front.reverse back := by
  simp only [endsWord, casedFirst_eq, nearestCased?_append, hletter]
  unfold SettledBetween at h
  rcases hfront : nearestCased? front.reverse with - | ⟨- | -⟩ <;>
    rcases hback : nearestCased? back with - | ⟨- | -⟩ <;> simp_all

/-- A part whose sigmas are not all settled does not keep them behind a letter, or not in front of
one. -/
theorem not_keepsSigmas_of_not_settled {part : List Char} (h : ¬ Settled part) {letter : Char}
    (hletter : nearestCased? [letter] = some true) :
    ¬ KeepsSigmas [] part [letter] ∨ ¬ KeepsSigmas [letter] part [] := by
  simp only [Settled, not_forall] at h
  obtain ⟨front, back, heq, hsettled⟩ := h
  rcases endsWord_ne_of_not_settledBetween hsettled hletter with hne | hne
  · refine Or.inl fun hkeeps => hne ?_
    simpa using hkeeps front back heq
  · refine Or.inr fun hkeeps => hne ?_
    simpa using hkeeps front back heq

end SecretScan.Text
