import SecretScan.Proofs.Pattern.Takes
import SecretScan.Proofs.Pattern.Within

/-!
# Whole words

A pattern of word characters between two word boundaries matches whole words only: no word character
stands before or behind its matches. Two words of one text are the same, or something stands between
them. So two such patterns, of which one only takes words longer than all those of the other, never
match at a common place.
-/

namespace SecretScan

open Unicode

/-! ## Words of a text -/

/-- The characters `w` from one place to another are a word: as many word characters as there are.
-/
structure Cursor.Word (c : Cursor) (w : List Char) (d : Cursor) : Prop where
  spells : c.Spells w d
  ne_nil : w ≠ []
  chars : ∀ x ∈ w, isWord x = true
  before : Look.isWordAt false c.before = false
  after : Look.isWordAt false d.rest.head? = false

/-- Something stands between two stretches, so that they do not even touch. -/
def Span.Apart (s s' : Span) : Prop := s.stop < s'.start ∨ s'.stop < s.start

namespace Cursor

variable {b c c' d d' : Cursor} {u u' v w w' : List Char}

/-- A text goes on from a place in one way only. -/
theorem Spells.eq_target (h : c.Spells w d) (h' : c.Spells w d') : d = d' := by
  obtain ⟨before, offset, rest⟩ := d
  obtain ⟨before', offset', rest'⟩ := d'
  obtain rfl : rest = rest' := List.append_cancel_left (h.rest_eq.symm.trans h'.rest_eq)
  obtain rfl : before = before' := h.before_eq.trans h'.before_eq.symm
  obtain rfl : offset = offset' := h.offset_eq.trans h'.offset_eq.symm
  rfl

/-- Of two places of one text one comes first. -/
theorem Spells.total (h : b.Spells u c) (h' : b.Spells u' c') :
    (∃ v, c.Spells v c') ∨ ∃ v, c'.Spells v c := by
  have hrest : u ++ c.rest = u' ++ c'.rest := h.rest_eq.symm.trans h'.rest_eq
  rcases List.append_eq_append_iff.mp hrest with ⟨v, hu', -⟩ | ⟨v, hu, -⟩
  · subst hu'
    obtain ⟨m, hm, hv⟩ := h'.split
    obtain rfl := h.eq_target hm
    exact Or.inl ⟨v, hv⟩
  · subst hu
    obtain ⟨m, hm, hv⟩ := h.split
    obtain rfl := h'.eq_target hm
    exact Or.inr ⟨v, hv⟩

/-- What begins like a word and goes on does so behind the end of the word. -/
theorem Word.eq_nil_of_append (h : c.Word w d) (h' : c.Word (w ++ v) d') : v = [] := by
  cases v with
  | nil => rfl
  | cons x v =>
      have hall : w ++ d.rest = w ++ (x :: v ++ d'.rest) := by
        rw [← List.append_assoc]
        exact h.spells.rest_eq.symm.trans h'.spells.rest_eq
      have hrest : d.rest = x :: v ++ d'.rest := List.append_cancel_left hall
      have hword : isWord x = true := h'.chars x (by simp)
      have hafter := h.after
      rw [hrest] at hafter
      exact absurd hword (Bool.not_eq_true _ ▸ hafter)

/-- At one place there is one word. -/
theorem Word.unique (h : c.Word w d) (h' : c.Word w' d') : w = w' := by
  have hrest : w ++ d.rest = w' ++ d'.rest := h.spells.rest_eq.symm.trans h'.spells.rest_eq
  rcases List.append_eq_append_iff.mp hrest with ⟨v, rfl, -⟩ | ⟨v, rfl, -⟩
  · rw [h.eq_nil_of_append h', List.append_nil]
  · rw [h'.eq_nil_of_append h, List.append_nil]

/-- A word further on begins behind the end of the first one. -/
theorem Word.lt_of_spells (h : c.Word w d) (h' : c'.Word w' d') (hv : c.Spells v c')
    (hne : v ≠ []) : d.offset < c'.offset := by
  have hrest : w ++ d.rest = v ++ c'.rest := h.spells.rest_eq.symm.trans hv.rest_eq
  rcases List.append_eq_append_iff.mp hrest with ⟨r, rfl, hr⟩ | ⟨r, rfl, hr⟩
  · obtain ⟨m, hm, hr'⟩ := hv.split
    obtain rfl := h.spells.eq_target hm
    by_cases hnil : r = []
    · -- The first character of the second word would stand right behind the first word.
      obtain ⟨x, t, rfl⟩ := List.exists_cons_of_ne_nil h'.ne_nil
      have hafter := h.after
      rw [hr, hnil, List.nil_append, h'.spells.rest_eq] at hafter
      exact absurd (h'.chars x List.mem_cons_self) (Bool.not_eq_true _ ▸ hafter)
    · rw [hr'.offset_eq]
      exact Nat.lt_add_of_pos_right (Text.byteLength_pos hnil)
  · -- The second word would begin behind a character of the first one.
    have hbefore := h'.before
    rw [hv.before_eq, List.getLast?_eq_some_getLast hne, Option.some_or] at hbefore
    have hmem : v.getLast hne ∈ v ++ r := List.mem_append_left r (List.getLast_mem hne)
    exact absurd (h.chars _ hmem) (Bool.not_eq_true _ ▸ hbefore)

/-- Two words of one text are the same, or they are apart. -/
theorem Word.eq_or_apart (hc : b.Spells u c) (h : c.Word w d) (hc' : b.Spells u' c')
    (h' : c'.Word w' d') : w = w' ∨ (Span.mk c d).Apart ⟨c', d'⟩ := by
  rcases hc.total hc' with ⟨v, hv⟩ | ⟨v, hv⟩
  · by_cases hnil : v = []
    · subst hnil
      obtain rfl := hv.eq_of_nil
      exact Or.inl (h.unique h')
    · exact Or.inr (Or.inl (h.lt_of_spells h' hv hnil))
  · by_cases hnil : v = []
    · subst hnil
      obtain rfl := hv.eq_of_nil
      exact Or.inl (h.unique h')
    · exact Or.inr (Or.inr (h'.lt_of_spells h hv hnil))

end Cursor

namespace Pattern

variable {p q : Pattern} {before after : Option Char} {w : List Char}

/-! ## What a match is made of -/

/-- As far as their members can be listed, are all sets of a pattern within another set? -/
def staysWithin (g : CharSet) : Pattern → Bool
  | empty | look _ => true
  | set s => s.within g
  | seq p q | alt p q => p.staysWithin g && q.staysWithin g
  | group _ p | iter p _ _ _ => p.staysWithin g

theorem Takes.mem_of_staysWithin {g : CharSet} (h : p.Takes before w after)
    (hg : p.staysWithin g = true) : ∀ x ∈ w, g.mem x = true := by
  induction p generalizing before w after with
  | empty =>
      obtain rfl : w = [] := h
      exact List.forall_mem_nil _
  | set s =>
      obtain ⟨y, rfl, hy⟩ := h
      exact List.forall_mem_singleton.mpr (CharSet.mem_of_within hg hy)
  | look l =>
      obtain ⟨rfl, -⟩ := h
      exact List.forall_mem_nil _
  | seq p q ihp ihq =>
      obtain ⟨hp, hq⟩ := Bool.and_eq_true_iff.mp hg
      obtain ⟨u, v, rfl, hu, hv⟩ := h
      exact List.forall_mem_append.mpr ⟨ihp hu hp, ihq hv hq⟩
  | alt p q ihp ihq =>
      obtain ⟨hp, hq⟩ := Bool.and_eq_true_iff.mp hg
      rcases h with h | h
      · exact ihp h hp
      · exact ihq h hq
  | group _ p ih => exact ih h hg
  | iter p min max greedy ih =>
      obtain ⟨more, -, h⟩ := h
      exact h.forall_mem fun hp => ih hp hg

/-- At most so many characters are in a match, if there is a bound. Where the bounds of a repetition
contradict each other, the least number counts. -/
def maxLength? : Pattern → Option Nat
  | empty | look _ => some 0
  | set _ => some 1
  | seq p q => p.maxLength?.bind fun m => q.maxLength?.map fun n => m + n
  | alt p q => p.maxLength?.bind fun m => q.maxLength?.map fun n => max m n
  | group _ p => p.maxLength?
  | iter p min max _ => max.bind fun m => p.maxLength?.map fun n => Nat.max min m * n

theorem InTurn.length_le {T : Option Char → List Char → Option Char → Prop} {most n : Nat}
    (hT : ∀ {before w after}, T before w after → w.length ≤ most)
    (h : InTurn T n before w after) : w.length ≤ n * most := by
  induction n generalizing before w with
  | zero =>
      obtain rfl : w = [] := h
      exact Nat.zero_le _
  | succ n ih =>
      obtain ⟨u, v, rfl, hu, hv⟩ := h
      have hfirst := hT hu
      have hrest := ih hv
      rw [List.length_append, Nat.succ_mul]
      omega

theorem Takes.length_le {most : Nat} (h : p.Takes before w after)
    (hmost : p.maxLength? = some most) : w.length ≤ most := by
  induction p generalizing before w after most with
  | empty =>
      obtain rfl : w = [] := h
      exact Nat.zero_le _
  | set s =>
      obtain ⟨x, rfl, -⟩ := h
      obtain rfl := Option.some.inj hmost
      exact Nat.le_refl 1
  | look l =>
      obtain ⟨rfl, -⟩ := h
      exact Nat.zero_le _
  | seq p q ihp ihq =>
      obtain ⟨m, hm, hmost⟩ := Option.bind_eq_some_iff.mp hmost
      obtain ⟨n, hn, rfl⟩ := Option.map_eq_some_iff.mp hmost
      obtain ⟨u, v, rfl, hu, hv⟩ := h
      rw [List.length_append]
      exact Nat.add_le_add (ihp hu hm) (ihq hv hn)
  | alt p q ihp ihq =>
      obtain ⟨m, hm, hmost⟩ := Option.bind_eq_some_iff.mp hmost
      obtain ⟨n, hn, rfl⟩ := Option.map_eq_some_iff.mp hmost
      rcases h with h | h
      · exact Nat.le_trans (ihp h hm) (Nat.le_max_left m n)
      · exact Nat.le_trans (ihq h hn) (Nat.le_max_right m n)
  | group _ p ih => exact ih h hmost
  | iter p min max greedy ih =>
      obtain ⟨m, hm, hmost⟩ := Option.bind_eq_some_iff.mp hmost
      obtain ⟨n, hn, rfl⟩ := Option.map_eq_some_iff.mp hmost
      obtain ⟨more, hmore, h⟩ := h
      have hcount : min + more ≤ Nat.max min m := by
        have hle := hmore m hm
        show min + more ≤ Max.max min m
        omega
      exact Nat.le_trans (h.length_le fun hp => ih hp hn) (Nat.mul_le_mul_right n hcount)

/-! ## Patterns for words -/

/-- A pattern of word characters between word boundaries, which matches nothing empty. -/
structure TakesWords (p : Pattern) : Prop where
  opens : p.opensWith (.wordBoundary false) = true
  closes : p.closesWith (.wordBoundary false) = true
  within : p.staysWithin .word = true
  nonempty : 0 < p.minLength

theorem takesWords_iff : p.TakesWords ↔ p.opensWith (.wordBoundary false) = true ∧
    p.closesWith (.wordBoundary false) = true ∧ p.staysWithin .word = true ∧ 0 < p.minLength :=
  ⟨fun h => ⟨h.opens, h.closes, h.within, h.nonempty⟩,
    fun ⟨opens, closes, within, nonempty⟩ => ⟨opens, closes, within, nonempty⟩⟩

instance (p : Pattern) : Decidable p.TakesWords := decidable_of_iff _ takesWords_iff.symm

/-- Whatever such a pattern matches is a word of the text. -/
theorem TakesWords.word {c d : Cursor} (hp : p.TakesWords) (h : p.Matches c d) :
    ∃ w, c.Word w d ∧ p.Takes c.before w d.rest.head? := by
  obtain ⟨w, hw⟩ := h.spells
  have htakes := (matches_iff_takes hw).mp h
  have hchars : ∀ x ∈ w, isWord x = true := htakes.mem_of_staysWithin hp.within
  have hne : w ≠ [] := by
    rintro rfl
    exact Nat.not_le.mpr hp.nonempty htakes.minLength_le
  refine ⟨w, ⟨hw, hne, hchars, ?_, ?_⟩, htakes⟩
  · -- A boundary in front of a word character has none before it.
    have hopens := htakes.holds_of_opensWith hp.opens
    obtain ⟨x, t, rfl⟩ := List.exists_cons_of_ne_nil hne
    have hx : Look.isWordAt false (some x) = true := hchars x List.mem_cons_self
    rw [List.head?_cons, Option.some_or, Look.holds, hx] at hopens
    simpa using hopens
  · have hcloses := htakes.holds_of_closesWith hp.closes
    have hx : Look.isWordAt false (some (w.getLast hne)) = true :=
      hchars _ (List.getLast_mem hne)
    rw [List.getLast?_eq_some_getLast hne, Option.some_or, Look.holds, hx] at hcloses
    simpa using hcloses

/-- Two patterns for words of different lengths never match at a common place. -/
theorem TakesWords.apart {most : Nat} {text : List Char} {m m' : Match} (hp : p.TakesWords)
    (hq : q.TakesWords) (hmost : p.maxLength? = some most) (hlt : most < q.minLength)
    (h : p.Finds (.atStart text) m) (h' : q.Finds (.atStart text) m') :
    m.whole.Apart m'.whole := by
  obtain ⟨⟨u, hu⟩, hmatches⟩ := h
  obtain ⟨⟨u', hu'⟩, hmatches'⟩ := h'
  obtain ⟨w, hword, htakes⟩ := hp.word hmatches
  obtain ⟨w', hword', htakes'⟩ := hq.word hmatches'
  rcases hword.eq_or_apart hu hu' hword' with rfl | hapart
  · have hle : w.length ≤ most := htakes.length_le hmost
    have hge : q.minLength ≤ w.length := htakes'.minLength_le
    omega
  · exact hapart

end Pattern

end SecretScan
