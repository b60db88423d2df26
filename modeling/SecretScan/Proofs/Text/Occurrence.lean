import SecretScan.Text.Basic
import Mathlib.Data.List.TakeDrop
import Mathlib.Data.List.TakeWhile
import Mathlib.Data.List.Infix

/-!
# Occurrences in a text

The tests for a beginning, an occurrence and a prefix that is taken off say what the relations on
lists say. What does not have some character stands on one side of it.
-/

namespace SecretScan

/-- A character that a stretch does not have stands behind it or before it. -/
theorem append_cons_eq_append {α : Type} {front back a x b : List α} {c : α}
    (h : front ++ c :: back = a ++ (x ++ b)) (hc : c ∉ x) (hx : x ≠ []) :
    (∃ e, front = a ++ (x ++ e) ∧ b = e ++ c :: back) ∨
      ∃ e, a = front ++ c :: e ∧ back = e ++ (x ++ b) := by
  rcases List.append_eq_append_iff.mp h with ⟨e, rfl, hback⟩ | ⟨e, rfl, hxb⟩
  · cases e with
    | nil =>
        obtain ⟨y, x, rfl⟩ := List.exists_cons_of_ne_nil hx
        obtain ⟨rfl, -⟩ := List.cons.inj hback
        exact absurd List.mem_cons_self hc
    | cons y e =>
        obtain ⟨rfl, rfl⟩ := List.cons.inj hback
        exact Or.inr ⟨e, rfl, rfl⟩
  · rcases List.append_eq_append_iff.mp hxb with ⟨f, rfl, hb⟩ | ⟨f, rfl, hback⟩
    · exact Or.inl ⟨f, rfl, hb⟩
    · cases f with
      | nil => exact Or.inl ⟨[], by simp, hback.symm⟩
      | cons y f =>
          obtain ⟨rfl, -⟩ := List.cons.inj hback
          exact absurd (List.mem_append_right _ List.mem_cons_self) hc

namespace Text

theorem startsWith_iff {needle text : List Char} :
    startsWith needle text = true ↔ needle <+: text := by
  induction needle generalizing text with
  | nil => simp [startsWith]
  | cons n needle ih =>
      cases text with
      | nil => simp [startsWith]
      | cons c text =>
          rw [startsWith, Bool.and_eq_true, beq_iff_eq, ih, List.cons_prefix_cons]

theorem occursIn_iff {needle text : List Char} :
    occursIn needle text = true ↔ needle <:+: text := by
  induction text with
  | nil => simp [occursIn]
  | cons c text ih =>
      rw [occursIn, Bool.or_eq_true, startsWith_iff, ih, List.infix_cons_iff]

theorem dropPrefix?_eq_some_iff {needle text rest : List Char} :
    dropPrefix? needle text = some rest ↔ text = needle ++ rest := by
  induction needle generalizing text with
  | nil => simp [dropPrefix?]
  | cons n needle ih =>
      cases text with
      | nil => simp [dropPrefix?]
      | cons c text =>
          by_cases h : n = c
          · rw [dropPrefix?, if_pos h, ih, h, List.cons_append, List.cons_inj_right]
          · simp [dropPrefix?, h, Ne.symm h]

@[simp] theorem dropPrefix?_append (needle rest : List Char) :
    dropPrefix? needle (needle ++ rest) = some rest :=
  dropPrefix?_eq_some_iff.mpr rfl

/-- A span ends in front of the first element that the test refuses. -/
theorem span_eq_iff {α : Type} {p : α → Bool} {items front rest : List α} :
    items.span p = (front, rest) ↔
      items = front ++ rest ∧ (∀ x ∈ front, p x = true) ∧ ∀ x ∈ rest.head?, p x = false := by
  rw [List.span_eq_takeWhile_dropWhile, Prod.mk.injEq]
  constructor
  · rintro ⟨rfl, rfl⟩
    refine ⟨List.takeWhile_append_dropWhile.symm, ?_, ?_⟩
    · intro x hx
      exact List.mem_takeWhile_imp hx
    · intro x hx
      have hne : items.dropWhile p ≠ [] := by
        intro h
        simp [h] at hx
      rw [List.head?_eq_some_head hne, Option.mem_some_iff] at hx
      exact hx ▸ List.head_dropWhile_not p hne
  · rintro ⟨rfl, hfront, hrest⟩
    rw [List.takeWhile_append_of_pos hfront, List.dropWhile_append_of_pos hfront]
    cases rest with
    | nil => simp
    | cons x rest =>
        have hx : p x = false := hrest x rfl
        simp [hx]

/-- The span of a front that the test accepts, before something that it refuses. -/
theorem span_append {α : Type} {p : α → Bool} {front rest : List α}
    (hfront : ∀ x ∈ front, p x = true) (hrest : ∀ x ∈ rest.head?, p x = false) :
    (front ++ rest).span p = (front, rest) :=
  span_eq_iff.mpr ⟨rfl, hfront, hrest⟩

end Text

end SecretScan
