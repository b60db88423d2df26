import SecretScan.Proofs.Pattern.Stretches

/-!
# What matches can be spelled with

If a pattern needs a character that is not among some given ones, it matches nothing in a text of
these, and leaves such a text as it is.
-/

namespace SecretScan

theorem Cursor.Spells.unique {c d : Cursor} {v w : List Char} (hv : c.Spells v d)
    (hw : c.Spells w d) : v = w :=
  List.append_cancel_right (hv.rest_eq.symm.trans hw.rest_eq)

namespace Pattern

/-- As far as its sets tell, can a match of a pattern be spelled with these characters? -/
def spellable (chars : List Char) : Pattern → Bool
  | empty => true
  | set s => chars.any s.mem
  | look _ => true
  | seq p q => p.spellable chars && q.spellable chars
  | alt p q => p.spellable chars || q.spellable chars
  | group _ p => p.spellable chars
  | iter p min _ _ => min == 0 || p.spellable chars

variable {p : Pattern} {chars : List Char}

theorem Matches.spellable {c d : Cursor} {w : List Char} (h : p.Matches c d) (hw : c.Spells w d)
    (hchars : ∀ x ∈ w, x ∈ chars) : p.spellable chars = true := by
  induction p generalizing c d w with
  | empty => rfl
  | set s =>
      obtain ⟨x, hmem, hx⟩ := Cursor.step?_eq_some_iff.mp h
      obtain rfl := hw.unique hx
      exact List.any_eq_true.mpr ⟨x, hchars x List.mem_cons_self, hmem⟩
  | look l => rfl
  | seq p q ihp ihq =>
      obtain ⟨m, hp, hq⟩ := h
      obtain ⟨v, hv⟩ := hp.spells
      obtain ⟨v', hv'⟩ := hq.spells
      obtain rfl := hw.unique (hv.trans hv')
      obtain ⟨hfront, hback⟩ := List.forall_mem_append.mp hchars
      rw [Pattern.spellable, ihp hp hv hfront, ihq hq hv' hback]
      rfl
  | alt p q ihp ihq =>
      rw [Pattern.spellable, Bool.or_eq_true]
      exact h.imp (fun hp => ihp hp hw hchars) fun hq => ihq hq hw hchars
  | group _ p ih => exact ih h hw hchars
  | iter p least max greedy ih =>
      obtain ⟨more, -, hrepeats⟩ := h
      rw [Pattern.spellable, Bool.or_eq_true, beq_iff_eq]
      rcases Nat.eq_zero_or_pos least with hzero | hpos
      · exact Or.inl hzero
      · obtain ⟨n, hn⟩ := Nat.exists_eq_add_one_of_ne_zero (by omega : least + more ≠ 0)
        rw [hn] at hrepeats
        obtain ⟨m, hfirst, hrest⟩ := hrepeats
        obtain ⟨v, hv⟩ := Matches.spells hfirst
        obtain ⟨v', hv'⟩ := hrest.spells fun _ _ hstep => Matches.spells hstep
        obtain rfl := hw.unique (hv.trans hv')
        exact Or.inr (ih hfirst hv (List.forall_mem_append.mp hchars).1)

theorem occursIn_of_not_spellable (h : p.spellable chars = false) {text : List Char}
    (htext : ∀ x ∈ text, x ∈ chars) : p.occursIn text = false := by
  rw [occursIn, find?, Option.isSome_eq_false_iff, Option.isNone_iff_eq_none]
  refine Option.eq_none_iff_forall_ne_some.mpr fun m hm => ?_
  obtain ⟨⟨v, hv⟩, hmatches⟩ := finds_of_findFrom? hm
  obtain ⟨w, hw⟩ := hmatches.spells
  have hspelled : ∀ x ∈ w, x ∈ chars := by
    intro x hx
    refine htext x ?_
    have htext : text = v ++ (w ++ m.whole.last.rest) := hv.rest_eq.trans (by rw [hw.rest_eq])
    rw [htext]
    simp [hx]
  rw [hmatches.spellable hw hspelled] at h
  cases h

end Pattern

end SecretScan
