import SecretScan.Text.Lowercase
import Mathlib.Data.List.Infix

/-!
# Lowercase form of parts

Only the capital sigma is lowercased by what stands around it. Every part of a text without one
keeps its lowercase form wherever the part stands.
-/

namespace SecretScan.Text

open SecretScan.Unicode

/-- Lowercase form of a text that stands behind `before`, nearest character first. -/
def lowerBehind (before : List Char) : List Char → List Char
  | [] => []
  | c :: rest => lowerAt before c rest ++ lowerBehind (c :: before) rest

theorem lower_loop_eq (before text done : List Char) :
    lower.loop before text done = done.reverse ++ lowerBehind before text := by
  induction text generalizing before done with
  | nil => simp [lower.loop, lowerBehind]
  | cons c rest ih => simp [lower.loop, lowerBehind, ih]

theorem lower_eq_lowerBehind (text : List Char) : lower text = lowerBehind [] text :=
  lower_loop_eq [] text []

theorem lowerBehind_append_suffix (before front rest : List Char) :
    ∃ low, lowerBehind before (front ++ rest) =
      low ++ lowerBehind (front.reverse ++ before) rest := by
  induction front generalizing before with
  | nil => exact ⟨[], rfl⟩
  | cons c front ih =>
      obtain ⟨low, hlow⟩ := ih (c :: before)
      refine ⟨lowerAt before c (front ++ rest) ++ low, ?_⟩
      rw [List.cons_append, lowerBehind, hlow]
      simp

theorem lowerAt_of_ne {c : Char} (hc : c ≠ capitalSigma) (before after : List Char) :
    lowerAt before c after = lowerChar c :=
  if_neg hc

/-- A part without a capital sigma is lowercased character by character. -/
theorem lowerBehind_append {part : List Char} (hpart : capitalSigma ∉ part)
    (before rest : List Char) :
    lowerBehind before (part ++ rest) =
      part.flatMap lowerChar ++ lowerBehind (part.reverse ++ before) rest := by
  induction part generalizing before with
  | nil => rfl
  | cons c part ih =>
      have hc : c ≠ capitalSigma := by
        rintro rfl
        exact hpart List.mem_cons_self
      have hrest : capitalSigma ∉ part := fun h => hpart (List.mem_cons_of_mem c h)
      rw [List.cons_append, lowerBehind, lowerAt_of_ne hc, ih hrest]
      simp

theorem lower_of_not_mem {part : List Char} (hpart : capitalSigma ∉ part) :
    lower part = part.flatMap lowerChar := by
  have h := lowerBehind_append hpart [] []
  rw [List.append_nil, lowerBehind, List.append_nil] at h
  rw [lower_eq_lowerBehind, h]

theorem lower_isInfix {part text : List Char} (hpart : capitalSigma ∉ part)
    (h : part <:+: text) : lower part <:+: lower text := by
  obtain ⟨front, back, rfl⟩ := h
  obtain ⟨low, hlow⟩ := lowerBehind_append_suffix [] front (part ++ back)
  rw [lower_of_not_mem hpart, lower_eq_lowerBehind, List.append_assoc, hlow,
    lowerBehind_append hpart]
  exact ⟨low, _, List.append_assoc _ _ _⟩

end SecretScan.Text
