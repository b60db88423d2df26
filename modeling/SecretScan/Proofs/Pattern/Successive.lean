import SecretScan.Proofs.Pattern.Takes
import Mathlib.Data.List.Basic

/-!
# Successive matches

The successive matches in a text, said place by place: the next one begins at the first place, from
the end of the one before on, where there is a match at all, apart from an empty match at that end.
The search finds these and stops only behind the last of them.
-/

namespace SecretScan

/-! ## The places of a text -/

namespace Cursor

/-- The places of a text from one with these neighbours on. -/
def placesFrom (before : Option Char) (offset : Nat) : List Char → List Cursor
  | [] => [⟨before, offset, []⟩]
  | x :: rest => ⟨before, offset, x :: rest⟩ :: placesFrom (some x) (offset + x.utf8Size) rest

/-- The places of a text from one of them on, in order. -/
def places (c : Cursor) : List Cursor := placesFrom c.before c.offset c.rest

theorem places_nil (before : Option Char) (offset : Nat) :
    places ⟨before, offset, []⟩ = [⟨before, offset, []⟩] := rfl

theorem places_cons (before : Option Char) (offset : Nat) (x : Char) (rest : List Char) :
    places ⟨before, offset, x :: rest⟩ =
      ⟨before, offset, x :: rest⟩ :: places ⟨some x, offset + x.utf8Size, rest⟩ := rfl

/-- All that some characters lead to are the places. -/
theorem mem_places_iff {c d : Cursor} : d ∈ c.places ↔ ∃ w, c.Spells w d := by
  obtain ⟨before, offset, text⟩ := c
  induction text generalizing before offset with
  | nil =>
      rw [places_nil, List.mem_singleton]
      constructor
      · rintro rfl
        exact ⟨[], .refl _⟩
      · rintro ⟨w, hw⟩
        obtain rfl : w = [] := (List.append_eq_nil_iff.mp hw.rest_eq.symm).1
        exact hw.eq_of_nil.symm
  | cons x rest ih =>
      rw [places_cons, List.mem_cons, ih]
      constructor
      · rintro (rfl | ⟨w, hw⟩)
        · exact ⟨[], .refl _⟩
        · exact ⟨x :: w, (Spells.next before offset x rest).trans hw⟩
      · rintro ⟨w, hw⟩
        cases w with
        | nil => exact Or.inl hw.eq_of_nil.symm
        | cons y w =>
            obtain ⟨rfl, hrest⟩ := List.cons.inj hw.rest_eq
            refine Or.inr ⟨w, hrest, ?_, ?_⟩
            · rw [hw.before_eq, List.getLast?_cons]
              cases w.getLast? <;> rfl
            · rw [hw.offset_eq, Text.byteLength_cons, Nat.add_assoc]

theorem Spells.offset_le {c d : Cursor} {w : List Char} (h : c.Spells w d) :
    c.offset ≤ d.offset := by
  rw [h.offset_eq]
  exact Nat.le_add_right _ _

theorem Spells.length_rest_le {c d : Cursor} {w : List Char} (h : c.Spells w d) :
    d.rest.length ≤ c.rest.length := by
  rw [h.rest_eq, List.length_append]
  exact Nat.le_add_left _ _

end Cursor

/-! ## One match after another -/

/-- Is a match passed over behind one that ended at byte `last`? It is if it is empty and ends
there, too. -/
def Match.passedOver (last : Option Nat) (m : Match) : Bool :=
  m.whole.isEmpty && last == some m.whole.stop

namespace Pattern

/-- The match that begins at a place, the first in the order in which the ways to match are tried,
unless it is passed over. -/
def offered? (p : Pattern) (last : Option Nat) (d : Cursor) : Option Match :=
  (p.matchAt? d).filter fun m => !m.passedOver last

/-- From a place on, is a match the leftmost one that is not passed over? -/
def Comes (p : Pattern) (c : Cursor) (last : Option Nat) (m : Match) : Prop :=
  ∃ front back, c.places = front ++ m.whole.first :: back ∧
    p.offered? last m.whole.first = some m ∧ ∀ d ∈ front, p.offered? last d = none

/-- The matches one after the other from a place on, where the one before ended at byte `last`. Each
is the leftmost from the end of the one before on, and behind the last of them there is none. -/
inductive Successive (p : Pattern) : Cursor → Option Nat → List Match → Prop
  | done {c : Cursor} {last : Option Nat} (h : ∀ d ∈ c.places, p.offered? last d = none) :
      Successive p c last []
  | next {c : Cursor} {last : Option Nat} {m : Match} {ms : List Match} (h : p.Comes c last m)
      (hrest : Successive p m.whole.last (some m.whole.stop) ms) : Successive p c last (m :: ms)

variable {p : Pattern} {c d : Cursor} {last : Option Nat} {m : Match} {ms : List Match}

theorem first_of_matchAt? (h : p.matchAt? d = some m) : m.whole.first = d := by
  obtain ⟨r, -, rfl⟩ := Option.map_eq_some_iff.mp h
  rfl

theorem offered?_eq_some_iff :
    p.offered? last d = some m ↔ p.matchAt? d = some m ∧ m.passedOver last = false := by
  rw [offered?, Option.filter_eq_some_iff, Bool.not_eq_true']

theorem offered?_eq_none_iff :
    p.offered? last d = none ↔ ∀ m, p.matchAt? d = some m → m.passedOver last = true := by
  simp [offered?, Option.filter_eq_none_iff]

theorem comes_iff_findSome? : p.Comes c last m ↔ c.places.findSome? (p.offered? last) = some m := by
  rw [List.findSome?_eq_some_iff]
  constructor
  · rintro ⟨front, back, hplaces, hoffered, hfront⟩
    exact ⟨front, m.whole.first, back, hplaces, hoffered, hfront⟩
  · rintro ⟨front, d, back, hplaces, hoffered, hfront⟩
    obtain rfl := first_of_matchAt? (offered?_eq_some_iff.mp hoffered).1
    exact ⟨front, back, hplaces, hoffered, hfront⟩

theorem Comes.unique {m' : Match} (h : p.Comes c last m) (h' : p.Comes c last m') : m = m' :=
  Option.some.inj ((comes_iff_findSome?.mp h).symm.trans (comes_iff_findSome?.mp h'))

/-- A match that comes is not one that ends the search. -/
theorem Comes.not_done (h : p.Comes c last m) : ¬ ∀ d ∈ c.places, p.offered? last d = none := by
  obtain ⟨front, back, hplaces, hoffered, -⟩ := h
  intro hnone
  have hfirst := hnone m.whole.first (by rw [hplaces]; simp)
  rw [hoffered] at hfirst
  cases hfirst

/-- There is one way only in which the matches follow each other. -/
theorem Successive.unique {ms' : List Match} (h : p.Successive c last ms)
    (h' : p.Successive c last ms') : ms = ms' := by
  induction h generalizing ms' with
  | done h =>
      cases h' with
      | done _ => rfl
      | next hnext _ => exact absurd h hnext.not_done
  | next h _ ih =>
      cases h' with
      | done hdone => exact absurd hdone h.not_done
      | next hnext hrest =>
          obtain rfl := h.unique hnext
          exact congrArg _ (ih hrest)

/-! ## What the search finds -/

theorem findAfter?_eq_findSome? (p : Pattern) (c : Cursor) :
    p.findAfter? c = c.places.findSome? p.matchAt? := by
  obtain ⟨before, offset, text⟩ := c
  induction text generalizing before offset with
  | nil =>
      rw [findAfter?_nil, Cursor.places_nil, List.findSome?_singleton]
  | cons x rest ih =>
      rw [findAfter?_cons, Cursor.places_cons, List.findSome?_cons, ih]
      cases p.matchAt? ⟨before, offset, x :: rest⟩ <;> rfl

/-- What begins further on than the match before ended is not passed over. -/
theorem offered?_of_lt {n : Nat} (h : n < d.offset) : p.offered? (some n) d = p.matchAt? d := by
  cases hmatch : p.matchAt? d with
  | none => rw [offered?, hmatch, Option.filter_none]
  | some m =>
      rw [offered?_eq_some_iff]
      refine ⟨hmatch, ?_⟩
      obtain ⟨-, hmatches⟩ := finds_of_matchAt? hmatch
      obtain ⟨w, hw⟩ := hmatches.spells
      have hle := hw.offset_le
      rw [first_of_matchAt? hmatch] at hle
      have hstop : some n ≠ some m.whole.stop := by
        rw [Ne, Option.some.injEq, Span.stop]
        omega
      rw [Match.passedOver, beq_eq_false_iff_ne.mpr hstop, Bool.and_false]

/-- Behind a place come the places that have more bytes before them, and the search that leaves out
one character goes through these. -/
theorem exists_later (p : Pattern) (c : Cursor) : ∃ later, c.places = c :: later ∧
    (∀ d ∈ later, c.offset < d.offset) ∧
      c.next?.bind p.findAfter? = later.findSome? p.matchAt? := by
  obtain ⟨before, offset, text⟩ := c
  cases text with
  | nil => exact ⟨[], rfl, nofun, rfl⟩
  | cons x rest =>
      refine ⟨_, Cursor.places_cons before offset x rest, fun d hd => ?_, ?_⟩
      · obtain ⟨w, hw⟩ := Cursor.mem_places_iff.mp hd
        exact Nat.lt_of_lt_of_le (Nat.lt_add_of_pos_right x.utf8Size_pos) hw.offset_le
      · rw [← findAfter?_eq_findSome?]
        rfl

theorem offered?_none (p : Pattern) : p.offered? none = p.matchAt? := by
  funext d
  cases hmatch : p.matchAt? d <;> simp [offered?, hmatch, Match.passedOver]

theorem nextMatch?_none (p : Pattern) (c : Cursor) :
    p.nextMatch? c none = c.places.findSome? (p.offered? none) := by
  rw [nextMatch?, offered?_none, ← findAfter?_eq_findSome?]
  cases p.findAfter? c <;> simp

/-- Where the match before ended, only an empty match at this very place is passed over, and the
search goes on behind it. -/
theorem nextMatch?_offset (p : Pattern) (c : Cursor) :
    p.nextMatch? c (some c.offset) = c.places.findSome? (p.offered? (some c.offset)) := by
  obtain ⟨later, hplaces, hlater, hnext⟩ := p.exists_later c
  have hsearch : later.findSome? (p.offered? (some c.offset)) = later.findSome? p.matchAt? := by
    rw [← List.head?_filterMap, List.filterMap_congr fun d hd => offered?_of_lt (hlater d hd),
      List.head?_filterMap]
  rw [nextMatch?, findAfter?_eq_findSome?, hplaces, List.findSome?_cons, List.findSome?_cons,
    hsearch, hnext]
  cases hmatch : p.matchAt? c with
  | none =>
      rw [offered?_eq_none_iff.mpr (by simp [hmatch])]
      cases hm : later.findSome? p.matchAt? with
      | none => rfl
      | some m =>
          obtain ⟨d, -, hd⟩ := List.exists_of_findSome?_eq_some (hsearch.trans hm)
          exact if_neg (Bool.not_eq_true _ ▸ (offered?_eq_some_iff.mp hd).2)
  | some m =>
      cases hpassed : m.passedOver (some c.offset) with
      | true =>
          rw [offered?_eq_none_iff.mpr (by simpa [hmatch] using hpassed)]
          exact if_pos hpassed
      | false =>
          rw [offered?_eq_some_iff.mpr ⟨hmatch, hpassed⟩]
          exact if_neg (Bool.not_eq_true _ ▸ hpassed)

/-- The next match is the leftmost one that is not passed over, where there is none before or the
one before ended here. -/
theorem nextMatch?_eq_findSome? (hlast : last = none ∨ last = some c.offset) :
    p.nextMatch? c last = c.places.findSome? (p.offered? last) := by
  rcases hlast with rfl | rfl
  · exact p.nextMatch?_none c
  · exact p.nextMatch?_offset c

theorem nextMatch?_eq_some_iff (hlast : last = none ∨ last = some c.offset) :
    p.nextMatch? c last = some m ↔ p.Comes c last m := by
  rw [nextMatch?_eq_findSome? hlast, comes_iff_findSome?]

theorem nextMatch?_eq_none_iff (hlast : last = none ∨ last = some c.offset) :
    p.nextMatch? c last = none ↔ ∀ d ∈ c.places, p.offered? last d = none := by
  rw [nextMatch?_eq_findSome? hlast, List.findSome?_eq_none_iff]

/-- What stands in front of a match that comes, and what it takes. -/
theorem Comes.spells (h : p.Comes c last m) :
    ∃ v w, c.Spells v m.whole.first ∧ m.whole.first.Spells w m.whole.last := by
  obtain ⟨front, back, hplaces, hoffered, -⟩ := h
  have hplace : m.whole.first ∈ c.places :=
    hplaces ▸ List.mem_append_right front List.mem_cons_self
  obtain ⟨v, hv⟩ := Cursor.mem_places_iff.mp hplace
  obtain ⟨-, hmatches⟩ := finds_of_matchAt? (offered?_eq_some_iff.mp hoffered).1
  obtain ⟨w, hw⟩ := hmatches.spells
  exact ⟨v, w, hv, hw⟩

theorem Comes.length_rest_le (h : p.Comes c last m) :
    m.whole.last.rest.length ≤ c.rest.length := by
  obtain ⟨v, w, hv, hw⟩ := h.spells
  exact Nat.le_trans hw.length_rest_le hv.length_rest_le

/-- Right behind a match, the next one ends further on. -/
theorem Comes.length_rest_lt (h : p.Comes c (some c.offset) m) :
    m.whole.last.rest.length < c.rest.length := by
  obtain ⟨v, w, hv, hw⟩ := h.spells
  refine Nat.lt_of_le_of_ne h.length_rest_le fun heq => ?_
  rw [hv.rest_eq, hw.rest_eq, List.length_append, List.length_append] at heq
  obtain rfl : v = [] := List.eq_nil_of_length_eq_zero (by omega)
  obtain rfl : w = [] := List.eq_nil_of_length_eq_zero (by omega)
  -- It would be empty and stand here, and so be passed over.
  obtain ⟨-, -, -, hoffered, -⟩ := h
  have hpassed := (offered?_eq_some_iff.mp hoffered).2
  have hstop : m.whole.stop = m.whole.start := congrArg Cursor.offset hw.eq_of_nil.symm
  have hstart : m.whole.start = c.offset := congrArg Cursor.offset hv.eq_of_nil.symm
  simp [Match.passedOver, Span.isEmpty, hstop, hstart] at hpassed

/-- The bound of a search is large enough if there is a step for every character, and one more
before the first match. -/
theorem successive_matchesFrom {n : Nat} (found : List Match)
    (hn : last = none ∧ c.rest.length < n ∨ last = some c.offset ∧ c.rest.length ≤ n) :
    ∃ ms, p.matchesFrom n c last found = found.reverse ++ ms ∧ p.Successive c last ms := by
  induction n generalizing c last found with
  | zero =>
      obtain ⟨rfl, hnil⟩ := hn.resolve_left fun h => Nat.not_lt_zero _ h.2
      refine ⟨[], (List.append_nil _).symm, .done ((nextMatch?_eq_none_iff (Or.inr rfl)).mp ?_)⟩
      cases hnext : p.nextMatch? c (some c.offset) with
      | none => rfl
      | some m =>
          have hlt := ((nextMatch?_eq_some_iff (Or.inr rfl)).mp hnext).length_rest_lt
          omega
  | succ n ih =>
      have hlast : last = none ∨ last = some c.offset := hn.imp And.left And.left
      rw [matchesFrom]
      cases hnext : p.nextMatch? c last with
      | none =>
          exact ⟨[], (List.append_nil _).symm, .done ((nextMatch?_eq_none_iff hlast).mp hnext)⟩
      | some m =>
          have hcomes := (nextMatch?_eq_some_iff hlast).mp hnext
          have hrest : m.whole.last.rest.length ≤ n := by
            rcases hn with ⟨-, hlt⟩ | ⟨rfl, hle⟩
            · exact Nat.le_trans hcomes.length_rest_le (Nat.le_of_lt_succ hlt)
            · exact Nat.le_of_lt_succ (Nat.lt_of_lt_of_le hcomes.length_rest_lt hle)
          obtain ⟨ms, hms, hsuccessive⟩ := ih (m :: found) (Or.inr ⟨rfl, hrest⟩)
          refine ⟨m :: ms, hms.trans ?_, .next hcomes hsuccessive⟩
          rw [List.reverse_cons, List.append_assoc]
          rfl

/-- The matches found in a text are its successive matches, all of them. -/
theorem findAll_eq_iff {text : List Char} :
    p.findAll text = ms ↔ p.Successive (.atStart text) none ms := by
  obtain ⟨ms', hms', hsuccessive⟩ :=
    p.successive_matchesFrom [] (Or.inl ⟨rfl, Nat.lt_succ_self (Cursor.atStart text).rest.length⟩)
  have hall : p.findAll text = ms' := hms'
  rw [hall]
  constructor
  · rintro rfl
    exact hsuccessive
  · exact hsuccessive.unique

theorem successive_findAll (p : Pattern) (text : List Char) :
    p.Successive (.atStart text) none (p.findAll text) :=
  findAll_eq_iff.mp rfl

/-- Every one of the successive matches begins at some place further on. -/
theorem Successive.exists_place {c : Cursor} {last : Option Nat} {ms : List Match}
    (h : p.Successive c last ms) (hm : m ∈ ms) :
    ∃ d, (∃ v, c.Spells v d) ∧ p.matchAt? d = some m := by
  induction h with
  | done _ => exact absurd hm List.not_mem_nil
  | @next c last m' ms hcomes _ ih =>
      rcases List.mem_cons.mp hm with rfl | hlater
      · obtain ⟨v, -, hv, -⟩ := hcomes.spells
        obtain ⟨-, -, -, hoffered, -⟩ := hcomes
        exact ⟨m.whole.first, ⟨v, hv⟩, (offered?_eq_some_iff.mp hoffered).1⟩
      · obtain ⟨d, ⟨u, hu⟩, hmatch⟩ := ih hlater
        obtain ⟨v, w, hv, hw⟩ := hcomes.spells
        exact ⟨d, ⟨v ++ w ++ u, (hv.trans hw).trans hu⟩, hmatch⟩

/-- The match found in a text is the first of its successive matches. -/
theorem find?_eq_head? (h : p.Successive (.atStart text) none ms) : p.find? text = ms.head? := by
  have hfind : p.find? text = p.nextMatch? (.atStart text) none := by
    rw [nextMatch?_eq_findSome? (Or.inl rfl), offered?_none, ← findAfter?_eq_findSome?]
    rfl
  rw [hfind]
  cases h with
  | done h => exact (nextMatch?_eq_none_iff (Or.inl rfl)).mpr h
  | next h _ => exact (nextMatch?_eq_some_iff (Or.inl rfl)).mpr h

end Pattern

end SecretScan
