import SecretScan.Proofs.Pattern.Matches
import Mathlib.Data.List.Infix
import Mathlib.Tactic.IntervalCases

/-!
# Sketches of patterns

A sketch is a text with gaps in it. Each pattern has a short list of sketches, and whatever it
matches fits one of them: choices between few characters are followed up, and everything longer
becomes a gap. A text that stands in every sketch of a pattern cannot be missing from a match.
-/

namespace SecretScan

namespace Pattern

/-! ## Texts with gaps -/

/-- A text with gaps: a gap is `none`, and may be filled with any text. -/
abbrev Sketch := List (Option Char)

/-- Does a text fit a sketch? -/
def Fits : Sketch → List Char → Prop
  | [], text => text = []
  | some c :: sketch, text => ∃ rest, text = c :: rest ∧ Fits sketch rest
  | none :: sketch, text => ∃ filling rest, text = filling ++ rest ∧ Fits sketch rest

theorem fits_gap (text : List Char) : Fits [none] text :=
  ⟨text, [], (List.append_nil text).symm, rfl⟩

theorem Fits.append {a b : Sketch} {u v : List Char} (ha : Fits a u) (hb : Fits b v) :
    Fits (a ++ b) (u ++ v) := by
  induction a generalizing u with
  | nil =>
      obtain rfl : u = [] := ha
      exact hb
  | cons unit a ih =>
      cases unit with
      | none =>
          obtain ⟨filling, rest, rfl, hrest⟩ := ha
          exact ⟨filling, rest ++ v, List.append_assoc _ _ _, ih hrest⟩
      | some c =>
          obtain ⟨rest, rfl, hrest⟩ := ha
          exact ⟨rest ++ v, rfl, ih hrest⟩

theorem Fits.exists_of_append {a b : Sketch} {text : List Char} (h : Fits (a ++ b) text) :
    ∃ u v, text = u ++ v ∧ Fits a u ∧ Fits b v := by
  induction a generalizing text with
  | nil => exact ⟨[], text, rfl, rfl, h⟩
  | cons unit a ih =>
      cases unit with
      | none =>
          obtain ⟨filling, rest, rfl, hrest⟩ := h
          obtain ⟨u, v, rfl, hu, hv⟩ := ih hrest
          exact ⟨filling ++ u, v, (List.append_assoc _ _ _).symm, ⟨filling, u, rfl, hu⟩, hv⟩
      | some c =>
          obtain ⟨rest, rfl, hrest⟩ := h
          obtain ⟨u, v, rfl, hu, hv⟩ := ih hrest
          exact ⟨c :: u, v, rfl, ⟨u, rfl, hu⟩, hv⟩

theorem fits_literal_iff {k text : List Char} : Fits (k.map some) text ↔ text = k := by
  induction k generalizing text with
  | nil => rfl
  | cons c k ih =>
      constructor
      · rintro ⟨rest, rfl, hrest⟩
        rw [ih.mp hrest]
      · rintro rfl
        exact ⟨k, rfl, ih.mpr rfl⟩

/-- What stands in a sketch without gaps stands in every text that fits it. -/
theorem Fits.isInfix {k : List Char} {sketch : Sketch} {text : List Char} (h : Fits sketch text)
    (hk : k.map some <:+: sketch) : k <:+: text := by
  obtain ⟨front, back, rfl⟩ := hk
  obtain ⟨u, w, rfl, hu, -⟩ := h.exists_of_append
  obtain ⟨v, k', rfl, -, hk'⟩ := hu.exists_of_append
  obtain rfl := fits_literal_iff.mp hk'
  exact ⟨v, w, rfl⟩

/-- What begins a sketch without gaps begins every text that fits it. -/
theorem Fits.isPrefix {k : List Char} {sketch : Sketch} {text : List Char} (h : Fits sketch text)
    (hk : k.map some <+: sketch) : k <+: text := by
  obtain ⟨back, rfl⟩ := hk
  obtain ⟨u, v, rfl, hu, -⟩ := h.exists_of_append
  obtain rfl := fits_literal_iff.mp hu
  exact List.prefix_append u v

/-! ## The sketches of a pattern -/

end Pattern

/-- The members of a set that is put together from single characters. -/
def CharSet.singles? : CharSet → Option (List Char)
  | single c => some [c]
  | union a b => a.singles?.bind fun xs => b.singles?.map fun ys => xs ++ ys
  | _ => none

theorem CharSet.mem_of_singles? {s : CharSet} {cs : List Char} (h : s.singles? = some cs)
    {c : Char} (hmem : s.mem c = true) : c ∈ cs := by
  induction s generalizing cs with
  | single d =>
      obtain rfl := Option.some.inj h
      exact List.mem_singleton.mpr (beq_iff_eq.mp hmem)
  | union a b iha ihb =>
      obtain ⟨xs, hxs, h⟩ := Option.bind_eq_some_iff.mp h
      obtain ⟨ys, hys, rfl⟩ := Option.map_eq_some_iff.mp h
      rcases Bool.or_eq_true_iff.mp hmem with ha | hb
      · exact List.mem_append_left _ (iha hxs ha)
      · exact List.mem_append_right _ (ihb hys hb)
  | _ => simp [singles?] at h

namespace Pattern

/-- Sketches of which every match fits one. -/
def sketches : Pattern → List Sketch
  | empty => [[]]
  | set s => (s.singles?.map fun cs => cs.map fun c => [some c]).getD [[none]]
  | look _ => [[]]
  | seq p q => p.sketches.flatMap fun a => q.sketches.map fun b => a ++ b
  | alt p q => p.sketches ++ q.sketches
  | group _ p => p.sketches
  | iter p min max _ => if min = 0 ∧ max = some 1 then [] :: p.sketches else [[none]]

/-- A match spells a text that fits a sketch of the pattern. -/
theorem Matches.exists_sketch {p : Pattern} {c d : Cursor} (h : p.Matches c d) :
    ∃ w, c.Spells w d ∧ ∃ sketch ∈ p.sketches, Fits sketch w := by
  induction p generalizing c d with
  | empty =>
      obtain rfl : c = d := h
      exact ⟨[], .refl c, [], List.mem_singleton_self _, rfl⟩
  | set s =>
      obtain ⟨x, hx, hspells⟩ := Cursor.step?_eq_some_iff.mp h
      refine ⟨[x], hspells, ?_⟩
      cases hs : s.singles? with
      | none => exact ⟨[none], by simp [sketches, hs], fits_gap [x]⟩
      | some cs =>
          have hmem := CharSet.mem_of_singles? hs hx
          exact ⟨[some x], by simpa [sketches, hs] using hmem, [], rfl, rfl⟩
  | look l =>
      obtain ⟨-, rfl⟩ := h
      exact ⟨[], .refl c, [], List.mem_singleton_self _, rfl⟩
  | seq p q ihp ihq =>
      obtain ⟨m, hp, hq⟩ := h
      obtain ⟨v, hv, a, ha, hav⟩ := ihp hp
      obtain ⟨w, hw, b, hb, hbw⟩ := ihq hq
      refine ⟨v ++ w, hv.trans hw, a ++ b, ?_, hav.append hbw⟩
      exact List.mem_flatMap.mpr ⟨a, ha, List.mem_map_of_mem hb⟩
  | alt p q ihp ihq =>
      rcases h with hp | hq
      · obtain ⟨w, hw, a, ha, haw⟩ := ihp hp
        exact ⟨w, hw, a, List.mem_append_left _ ha, haw⟩
      · obtain ⟨w, hw, b, hb, hbw⟩ := ihq hq
        exact ⟨w, hw, b, List.mem_append_right _ hb, hbw⟩
  | group _ p ih => exact ih h
  | iter p min max greedy ih =>
      by_cases hopt : min = 0 ∧ max = some 1
      · obtain ⟨rfl, rfl⟩ := hopt
        obtain ⟨more, hmore, h⟩ := h
        have hle : more ≤ 1 := hmore 1 rfl
        -- An optional part matches nothing, or what its body matches.
        interval_cases more
        · obtain rfl : c = d := h
          exact ⟨[], .refl c, [], by simp [sketches], rfl⟩
        · obtain ⟨m, hm, rfl⟩ := h
          obtain ⟨w, hw, a, ha, haw⟩ := ih hm
          exact ⟨w, hw, a, by simp [sketches, ha], haw⟩
      · obtain ⟨w, hw⟩ := Matches.spells h
        exact ⟨w, hw, [none], by simp [sketches, hopt], fits_gap w⟩

/-- Does one of the keywords stand in every sketch of the pattern? -/
def Forces (p : Pattern) (keywords : List (List Char)) : Prop :=
  ∀ sketch ∈ p.sketches, ∃ k ∈ keywords, k.map some <:+: sketch

instance (p : Pattern) (keywords : List (List Char)) : Decidable (p.Forces keywords) :=
  inferInstanceAs (Decidable (∀ sketch ∈ p.sketches, ∃ k ∈ keywords, k.map some <:+: sketch))

theorem Forces.exists_isInfix {p : Pattern} {keywords : List (List Char)} {text : List Char}
    {m : Match} (h : p.Forces keywords) (hfinds : p.Finds (.atStart text) m) :
    ∃ k ∈ keywords, k <:+: text := by
  obtain ⟨⟨v, hv⟩, hmatches⟩ := hfinds
  obtain ⟨w, hw, sketch, hsketch, hfits⟩ := hmatches.exists_sketch
  obtain ⟨k, hk, hstands⟩ := h sketch hsketch
  have hword : w <:+: text := ⟨v, m.whole.last.rest, (hv.trans hw).rest_eq.symm⟩
  exact ⟨k, hk, (hfits.isInfix hstands).trans hword⟩

/-- Does one of these texts begin every sketch of the pattern? -/
def BeginsWith (p : Pattern) (texts : List (List Char)) : Prop :=
  ∀ sketch ∈ p.sketches, ∃ k ∈ texts, k.map some <+: sketch

instance (p : Pattern) (texts : List (List Char)) : Decidable (p.BeginsWith texts) :=
  inferInstanceAs (Decidable (∀ sketch ∈ p.sketches, ∃ k ∈ texts, k.map some <+: sketch))

theorem BeginsWith.exists_isPrefix {p : Pattern} {texts : List (List Char)} {c d : Cursor}
    (h : p.BeginsWith texts) (hmatches : p.Matches c d) :
    ∃ w, c.Spells w d ∧ ∃ k ∈ texts, k <+: w := by
  obtain ⟨w, hw, sketch, hsketch, hfits⟩ := hmatches.exists_sketch
  obtain ⟨k, hk, hbegins⟩ := h sketch hsketch
  exact ⟨w, hw, k, hk, hfits.isPrefix hbegins⟩

end Pattern

end SecretScan
