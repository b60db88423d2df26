import SecretScan.Proofs.Prefilter
import SecretScan.Proofs.Text.Sigma

/-!
# Keywords that stand in a text

Keywords and texts are lowercased each by itself, so a keyword in a text is noticed if it has the
same lowercase form there. Nothing but a capital sigma can make a difference, and it makes one
just if the keyword leaves open whether the sigma ends a word.
-/

namespace SecretScan

/-! ## Lowercase forms that do not stand in a text -/

/-- A list that is one element shorter stands at the front of another or at its back. -/
theorem not_isInfix_snoc {α : Type} {items front : List α} {last : α}
    (hlength : items.length = front.length) (hne : items ≠ front)
    (hlast : items.getLast? ≠ some last) (hnil : items ≠ []) : ¬ items <:+: front ++ [last] := by
  rintro ⟨before, behind, heq⟩
  cases before with
  | nil =>
      exact hne (List.append_inj_left heq hlength)
  | cons x before =>
      have hcount := congrArg List.length heq
      simp only [List.length_append, List.length_cons, List.length_nil] at hcount
      obtain rfl : behind = [] := List.eq_nil_of_length_eq_zero (by omega)
      have hend := congrArg List.getLast? heq
      rw [List.append_nil, List.getLast?_append_of_ne_nil _ hnil, List.getLast?_concat] at hend
      exact hlast hend

theorem not_isInfix_cons {α : Type} {items back : List α} {first : α}
    (hlength : items.length = back.length) (hne : items ≠ back)
    (hfirst : items.head? ≠ some first) (hnil : items ≠ []) : ¬ items <:+: first :: back := by
  rw [← List.reverse_infix, List.reverse_cons]
  exact not_isInfix_snoc (by simpa using hlength) (by simpa using hne) (by simpa using hfirst)
    (by simpa using hnil)

namespace Text

theorem lowerAt_ne_nil (before : List Char) (c : Char) (after : List Char) :
    lowerAt before c after ≠ [] := by
  unfold lowerAt Unicode.lowerChar
  split_ifs <;> simp

theorem lower_ne_nil {text : List Char} (h : text ≠ []) : lower text ≠ [] := by
  obtain ⟨c, rest, rfl⟩ := List.exists_cons_of_ne_nil h
  rw [lower_eq_lowerWithin, lowerWithin]
  exact List.append_ne_nil_of_left_ne_nil (lowerAt_ne_nil [] c _) _

/-- A small letter that is none of two characters. -/
theorem exists_letter_ne (o o' : Option Char) : ∃ letter, o ≠ some letter ∧ o' ≠ some letter ∧
    nearestCased? [letter] = some true ∧
      ∀ before after, lowerWithin before [letter] after = [letter] := by
  have hletter (letter : Char) (h : letter ∈ ['a', 'b', 'c']) :
      nearestCased? [letter] = some true ∧
        ∀ before after, lowerWithin before [letter] after = [letter] := by
    have hthree : letter = 'a' ∨ letter = 'b' ∨ letter = 'c' := by simpa using h
    have hforms : nearestCased? [letter] = some true ∧ letter ≠ capitalSigma ∧
        Unicode.lowerChar letter = [letter] := by
      rcases hthree with rfl | rfl | rfl <;> decide
    obtain ⟨hcased, hne, hlower⟩ := hforms
    refine ⟨hcased, fun before after => ?_⟩
    rw [lowerWithin, lowerWithin, List.append_nil, lowerAt_of_ne hne, hlower]
  -- Of three letters one is left.
  by_cases ha : o = some 'a' ∨ o' = some 'a'
  · by_cases hb : o = some 'b' ∨ o' = some 'b'
    · refine ⟨'c', ?_, ?_, hletter 'c' (by simp)⟩ <;>
        rcases ha with rfl | rfl <;> rcases hb with hb | hb <;> simp_all
    · exact ⟨'b', fun h => hb (Or.inl h), fun h => hb (Or.inr h), hletter 'b' (by simp)⟩
  · exact ⟨'a', fun h => ha (Or.inl h), fun h => ha (Or.inr h), hletter 'a' (by simp)⟩

/-- A part whose sigmas are not all settled stands in some text in whose lowercase form its own
does not stand. -/
theorem exists_not_isInfix_of_not_settled {part : List Char} (h : ¬ Settled part) :
    ∃ front back, ¬ lower part <:+: lower (front ++ part ++ back) := by
  have hpart : part ≠ [] := by
    rintro rfl
    exact h (settled_of_not_mem List.not_mem_nil)
  have hnil : lower part ≠ [] := lower_ne_nil hpart
  have hlength (before after : List Char) :
      (lower part).length = (lowerWithin before part after).length := by
    rw [lower_eq_lowerWithin]
    exact length_lowerWithin_eq _ _ _ _ _
  have hne {before after : List Char} (hkeeps : ¬ KeepsSigmas before part after) :
      lower part ≠ lowerWithin before part after :=
    fun heq => hkeeps (lowerWithin_eq_lower_iff.mp heq.symm)
  obtain ⟨letter, hfirst, hlast, hcased, hletter⟩ :=
    exists_letter_ne (lower part).head? (lower part).getLast?
  rcases not_keepsSigmas_of_not_settled h hcased with hkeeps | hkeeps
  · refine ⟨[], [letter], ?_⟩
    rw [lower_part, hletter, lowerWithin, List.nil_append, List.reverse_nil]
    exact not_isInfix_snoc (hlength _ _) (hne hkeeps) hlast hnil
  · refine ⟨[letter], [], ?_⟩
    rw [lower_part, hletter, lowerWithin, List.append_nil, List.reverse_singleton,
      List.singleton_append]
    exact not_isInfix_cons (hlength _ _) (hne hkeeps) hfirst hnil

end Text

/-! ## What is selected -/

namespace Prefilter

open Text

/-- A keyword that keeps its sigmas in a text selects its detectors. -/
theorem mem_select_of_keepsSigmas {r : Registry} {i : Nat} {d : Detector} {k : String}
    {front back : List Char} (hd : r.get? i = some d) (hk : k ∈ d.keywords) (hne : k ≠ "")
    (hkeeps : KeepsSigmas front.reverse k.toList back) :
    i ∈ (ofRegistry r).select (front ++ k.toList ++ back) := by
  refine mem_select_iff.mpr ⟨d, hd, k, hk, lower_ne_nil (by simpa using hne), ?_⟩
  rw [lower_part, lowerWithin_eq_lower_iff.mpr hkeeps]
  exact ⟨_, _, rfl⟩

/-- The registry of one detector that has one keyword. -/
def soleKeyword (k : String) : Registry := ⟨[.custom ⟨"sole", [k], []⟩]⟩

theorem mem_select_soleKeyword_iff {k : String} {text : List Char} :
    0 ∈ (ofRegistry (soleKeyword k)).select text ↔
      k ≠ "" ∧ lower k.toList <:+: lower text := by
  rw [mem_select_iff]
  constructor
  · rintro ⟨d, hd, k', hk, hlow, hstands⟩
    obtain rfl : .custom ⟨"sole", [k], []⟩ = d := Option.some.inj hd
    obtain rfl : k' = k := List.mem_singleton.mp hk
    refine ⟨?_, hstands⟩
    rintro rfl
    exact hlow rfl
  · rintro ⟨hne, hstands⟩
    exact ⟨_, rfl, k, List.mem_singleton.mpr rfl, lower_ne_nil (by simpa using hne), hstands⟩

/-- A detector is selected for every text in which one of its keywords stands with the same sigmas
at the ends of words as by itself. A keyword selects its detectors wherever it stands just if it
has characters and its sigmas are settled, which they are in a keyword without any. -/
theorem keyword_selects_unless_sigmas_change (k : String) :
    (∀ (r : Registry) (i : Nat) (d : Detector) (front back : List Char), r.get? i = some d →
      k ∈ d.keywords → k ≠ "" → KeepsSigmas front.reverse k.toList back →
      i ∈ (ofRegistry r).select (front ++ k.toList ++ back)) ∧
    ((∀ (r : Registry) (i : Nat) (d : Detector), r.get? i = some d → k ∈ d.keywords →
      ∀ front back, i ∈ (ofRegistry r).select (front ++ k.toList ++ back)) ↔
      k ≠ "" ∧ Settled k.toList) ∧
    (capitalSigma ∉ k.toList → Settled k.toList) := by
  refine ⟨fun r i d front back hd hk hne hkeeps => mem_select_of_keepsSigmas hd hk hne hkeeps, ?_,
    settled_of_not_mem⟩
  constructor
  · intro h
    have hselected (front back : List Char) :=
      mem_select_soleKeyword_iff.mp
        (h (soleKeyword k) 0 _ rfl (List.mem_singleton.mpr rfl) front back)
    refine ⟨(hselected [] []).1, ?_⟩
    by_contra hsettled
    obtain ⟨front, back, hstands⟩ := exists_not_isInfix_of_not_settled hsettled
    exact hstands (hselected front back).2
  · rintro ⟨hne, hsettled⟩ r i d hd hk front back
    exact mem_select_of_keepsSigmas hd hk hne (hsettled.keepsSigmas _ _)

/-- In its keyword the sigma ends a word, in the text it does not. -/
theorem sigma_hides_keyword :
    let d : Detector := .custom ⟨"sole", ["AΣ"], []⟩
    (Registry.mk [d]).get? 0 = some d ∧ "AΣ" ∈ d.keywords ∧
      "AΣB".toList = [] ++ "AΣ".toList ++ ['B'] ∧
      0 ∉ (ofRegistry ⟨[d]⟩).select "AΣB".toList := by
  refine ⟨rfl, by decide, by decide, by decide +kernel⟩

end Prefilter

end SecretScan
