import SecretScan.Proofs.Pattern.Stretches
import SecretScan.Redaction.Redactor

/-!
# What rules leave in place

The standard rules match nothing that goes over a quote, a backslash or the marks of a list, take
these for the ends of a text, and put none of them but brackets into it. So they redact what stands
between two such marks by itself.
-/

namespace SecretScan

namespace Pattern

variable {p : Pattern} {replacement : List Char}

theorem replaceAll_nil (hp : 0 < p.minLength) : p.replaceAll replacement [] = [] := by
  rw [replaceAll_eq hp replacement (Nat.lt_succ_self 0)]
  cases hfind : p.findAfter? (.atStart []) with
  | none => exact replaced_of_none hfind
  | some m => exact absurd (length_rest_lt_of_findAfter? hp hfind) (Nat.not_lt_zero _)

theorem replaced_ne_nil (hp : 0 < p.minLength) (hr : replacement ≠ []) {n : Nat} {c : Cursor}
    (hc : c.rest ≠ []) : p.replaced replacement n c ≠ [] := by
  cases hfind : p.findAfter? c with
  | none => rwa [replaced_of_none hfind]
  | some m =>
      cases n with
      | zero => exact hc
      | succ n =>
          obtain ⟨v, w, hv, -, -⟩ := spells_of_findAfter? hp hfind
          rw [replaced_of_some hfind hv]
          simp [hr]

/-- Every character of the result is one of the text or of the replacement. -/
theorem mem_of_mem_replaced (hp : 0 < p.minLength) {n : Nat} {c : Cursor} {x : Char}
    (hx : x ∈ p.replaced replacement n c) : x ∈ c.rest ∨ x ∈ replacement := by
  induction n generalizing c with
  | zero => exact Or.inl hx
  | succ n ih =>
      cases hfind : p.findAfter? c with
      | none =>
          rw [replaced_of_none hfind] at hx
          exact Or.inl hx
      | some m =>
          obtain ⟨v, w, hv, hw, -⟩ := spells_of_findAfter? hp hfind
          rw [replaced_of_some hfind hv, List.mem_append, List.mem_append] at hx
          rw [hv.rest_eq, hw.rest_eq, List.mem_append, List.mem_append]
          rcases hx with hfront | hnew | hlater
          · exact Or.inl (Or.inl hfront)
          · exact Or.inr hnew
          · rcases ih hlater with hrest | hnew
            · exact Or.inl (Or.inr (Or.inr hrest))
            · exact Or.inr hnew

end Pattern

namespace ActiveRule

/-- The marks of a list of strings. -/
def marks : List Char := ['"', '\\', ',', '[', ']']

/-- Does a character stand for itself in a string, so that nothing needs to be escaped? -/
def IsPlain (c : Char) : Prop := c ≠ '"' ∧ c ≠ '\\' ∧ 32 ≤ c.toNat

instance (c : Char) : Decidable (IsPlain c) :=
  inferInstanceAs (Decidable (c ≠ '"' ∧ c ≠ '\\' ∧ 32 ≤ c.toNat))

/-- A rule that stops at marks and replaces what it finds by plain characters. -/
structure StopsAtMarks (r : ActiveRule) : Prop where
  avoids : ∀ x ∈ marks, r.pattern.avoids x = true
  full : 0 < r.pattern.minLength
  replaces : r.replacement.toList ≠ []
  plain : ∀ c ∈ r.replacement.toList, IsPlain c

instance (r : ActiveRule) : Decidable r.StopsAtMarks :=
  decidable_of_iff (marks.all (fun x => r.pattern.avoids x) = true ∧ 0 < r.pattern.minLength ∧
      r.replacement.toList.isEmpty = false ∧
      r.replacement.toList.all (fun c => decide (IsPlain c)) = true) <| by
    simp only [List.all_eq_true, List.isEmpty_eq_false_iff, decide_eq_true_eq]
    exact ⟨fun ⟨ha, hf, hr, hp⟩ => ⟨ha, hf, hr, hp⟩,
      fun h => ⟨h.avoids, h.full, h.replaces, h.plain⟩⟩

variable {rules : List ActiveRule} {text : List Char}

/-! ## Applying rules that stop at marks -/

theorem applyAll_nil (h : ∀ r ∈ rules, r.StopsAtMarks) : applyAll rules [] = [] := by
  induction rules with
  | nil => rfl
  | cons r rules ih =>
      have hr : r.apply [] = [] := Pattern.replaceAll_nil (h r List.mem_cons_self).full
      rw [applyAll, List.foldl_cons, hr]
      exact ih fun r' hr' => h r' (List.mem_cons_of_mem r hr')

theorem applyAll_ne_nil (h : ∀ r ∈ rules, r.StopsAtMarks) (htext : text ≠ []) :
    applyAll rules text ≠ [] := by
  induction rules generalizing text with
  | nil => exact htext
  | cons r rules ih =>
      have hr := h r List.mem_cons_self
      have hstep : r.apply text ≠ [] := by
        rw [apply, Pattern.replaceAll_eq hr.full _ (Nat.lt_succ_self _)]
        exact Pattern.replaced_ne_nil hr.full hr.replaces htext
      exact ih (fun r' hr' => h r' (List.mem_cons_of_mem r hr')) hstep

/-- Rules bring no characters into a text that have to be escaped. -/
theorem mem_or_isPlain_of_mem_applyAll (h : ∀ r ∈ rules, r.StopsAtMarks) {c : Char}
    (hc : c ∈ applyAll rules text) : c ∈ text ∨ IsPlain c := by
  induction rules generalizing text with
  | nil => exact Or.inl hc
  | cons r rules ih =>
      have hr := h r List.mem_cons_self
      rcases ih (fun r' hr' => h r' (List.mem_cons_of_mem r hr')) hc with hold | hplain
      · have hstep : c ∈ r.apply text := hold
        rw [apply, Pattern.replaceAll_eq hr.full _ (Nat.lt_succ_self _)] at hstep
        rcases Pattern.mem_of_mem_replaced hr.full hstep with htext | hnew
        · exact Or.inl htext
        · exact Or.inr (hr.plain c hnew)
      · exact Or.inr hplain

/-- What stands before a character that rules avoid and what stands behind it are redacted by
themselves. -/
theorem applyAll_cut_of_avoids {x : Char}
    (h : ∀ r ∈ rules, r.pattern.avoids x = true ∧ 0 < r.pattern.minLength) (text rest : List Char) :
    applyAll rules (text ++ x :: rest) = applyAll rules text ++ x :: applyAll rules rest := by
  induction rules generalizing text rest with
  | nil => rfl
  | cons r rules ih =>
      obtain ⟨havoids, hfull⟩ := h r List.mem_cons_self
      have hcut : r.apply (text ++ x :: rest) = r.apply text ++ x :: r.apply rest :=
        Pattern.replaceAll_cut havoids hfull _ text rest
      rw [applyAll, List.foldl_cons, hcut]
      exact ih (fun r' hr' => h r' (List.mem_cons_of_mem r hr')) _ _

theorem applyAll_cut (h : ∀ r ∈ rules, r.StopsAtMarks) {x : Char} (hx : x ∈ marks)
    (text rest : List Char) :
    applyAll rules (text ++ x :: rest) = applyAll rules text ++ x :: applyAll rules rest :=
  applyAll_cut_of_avoids (fun r hr => ⟨(h r hr).avoids x hx, (h r hr).full⟩) text rest

theorem applyAll_mark (h : ∀ r ∈ rules, r.StopsAtMarks) {x : Char} (hx : x ∈ marks)
    (rest : List Char) : applyAll rules (x :: rest) = x :: applyAll rules rest := by
  have hcut := applyAll_cut h hx [] rest
  rwa [applyAll_nil h] at hcut

end ActiveRule

end SecretScan
