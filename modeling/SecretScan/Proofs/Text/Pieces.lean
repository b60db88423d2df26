import SecretScan.Proofs.Text.Occurrence

/-!
# Pieces of a text

Cutting at a mark, once and everywhere, is what the library means by splitting.
-/

namespace SecretScan.Text

theorem pieces_loop_eq {α : Type} [BEq α] (mark : α) (items piece : List α)
    (done : List (List α)) :
    pieces.loop mark items piece done =
      done.reverse ++ items.splitOnPPrepend (· == mark) piece := by
  induction items generalizing piece done with
  | nil => simp [pieces.loop]
  | cons x rest ih =>
      rw [pieces.loop]
      by_cases h : (x == mark) = true
      · rw [if_pos h, ih, List.splitOnPPrepend_cons_eq_if, if_pos h]
        simp
      · rw [if_neg h, ih, List.splitOnPPrepend_cons_eq_if, if_neg h]

theorem pieces_eq_splitOn {α : Type} [BEq α] (mark : α) (items : List α) :
    pieces mark items = items.splitOn mark := by
  rw [pieces, pieces_loop_eq, List.splitOn_eq_splitOnP, List.splitOnP_eq_splitOnPPrepend]
  rfl

/-- The segments are the pieces, less an empty last one. -/
theorem segments_eq_splitOn {α : Type} [DecidableEq α] (mark : α) (items : List α) :
    segments mark items =
      if (items.splitOn mark).getLast? = some [] then (items.splitOn mark).dropLast
      else items.splitOn mark := by
  rw [segments, pieces_eq_splitOn]
  cases (items.splitOn mark).getLast? with
  | none => simp
  | some last => cases last <;> simp

theorem cut?_eq_some_iff {mark : Char} {text before after : List Char} :
    cut? mark text = some (before, after) ↔ text = before ++ mark :: after ∧ mark ∉ before := by
  constructor
  · intro h
    unfold cut? at h
    cases hspan : text.span (· != mark) with
    | mk front rest =>
        obtain ⟨rfl, hfront, hrest⟩ := span_eq_iff.mp hspan
        rw [hspan] at h
        cases rest with
        | nil => simp at h
        | cons c rest =>
            obtain ⟨rfl, rfl⟩ := Prod.mk.inj (Option.some.inj h)
            have hc : c = mark := by simpa using hrest c rfl
            refine ⟨by rw [hc], ?_⟩
            intro hmem
            simpa using hfront mark hmem
  · rintro ⟨rfl, hbefore⟩
    have hspan : (before ++ mark :: after).span (· != mark) = (before, mark :: after) := by
      refine span_append ?_ (by simp)
      intro c hc
      simpa using ne_of_mem_of_not_mem hc hbefore
    unfold cut?
    rw [hspan]

theorem cut?_eq_none_iff {mark : Char} {text : List Char} :
    cut? mark text = none ↔ mark ∉ text := by
  constructor
  · intro h hmem
    obtain ⟨before, after, rfl, hbefore⟩ := List.eq_append_cons_of_mem hmem
    have hsome : cut? mark (before ++ mark :: after) = some (before, after) :=
      cut?_eq_some_iff.mpr ⟨rfl, hbefore⟩
    simp [h] at hsome
  · intro h
    cases hcut : cut? mark text with
    | none => rfl
    | some parts =>
        obtain ⟨rfl, -⟩ := cut?_eq_some_iff.mp hcut
        simp at h

end SecretScan.Text
