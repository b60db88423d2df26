import SecretScan.Proofs.Text.Occurrence
import SecretScan.Proofs.Text.Sigma

/-!
# Lowercase form line by line

The end of a line has no case, and it is not skipped when the neighbours of a letter are looked for.
So no capital sigma sees beyond its line, and the lines of a text in lowercase are its lines in
lowercase.
-/

namespace SecretScan.Text

open SecretScan.Unicode

/-! ## Between marks -/

/-- A text is a line, or a line in front of a mark and more text. So are the bytes of a text. -/
theorem line_induction {α : Type} (mark : α) {P : List α → Prop}
    (single : ∀ line, mark ∉ line → P line)
    (cut : ∀ line rest, mark ∉ line → P rest → P (line ++ mark :: rest)) (text : List α) :
    P text := by
  induction hn : text.length using Nat.strongRecOn generalizing text with
  | ind n ih =>
      by_cases hmem : mark ∈ text
      · obtain ⟨line, rest, rfl, hline⟩ := List.eq_append_cons_of_mem hmem
        rw [List.length_append, List.length_cons] at hn
        exact cut line rest hline (ih rest.length (by omega) rest rfl)
      · exact single text hmem

/-- What does not have the mark stands in a text just if it stands between two marks. -/
theorem isInfix_iff_exists_line {mark : Char} {part text : List Char} (hpart : mark ∉ part) :
    part <:+: text ↔ ∃ line ∈ text.splitOn mark, part <:+: line := by
  induction text using line_induction mark with
  | single line hline => simp [List.splitOn_eq_singleton hline]
  | cut line rest hline ih =>
      rw [List.splitOn_append_cons_self_of_not_mem hline, List.exists_mem_cons_iff, ← ih]
      constructor
      · rintro ⟨front, back, heq⟩
        by_cases hnil : part = []
        · subst hnil
          exact Or.inl List.nil_infix
        · rw [List.append_assoc] at heq
          rcases append_cons_eq_append heq.symm hpart hnil with ⟨e, rfl, -⟩ | ⟨e, -, rfl⟩
          · exact Or.inl ⟨front, e, List.append_assoc _ _ _⟩
          · exact Or.inr ⟨e, back, List.append_assoc _ _ _⟩
      · rintro (h | h)
        · exact h.trans (List.prefix_append _ _).isInfix
        · exact h.trans ((List.suffix_cons mark rest).trans (List.suffix_append line _)).isInfix

/-! ## Lowercase form -/

/-- Where the nearest characters around a part that are not skipped have no case, its sigmas take
the forms that they have in the part by itself. -/
theorem keepsSigmas_of_uncased {before after : List Char}
    (hbefore : nearestCased? before ≠ some true) (hafter : nearestCased? after ≠ some true)
    (part : List Char) : KeepsSigmas before part after := by
  have huncased {text outer : List Char} (houter : nearestCased? outer ≠ some true) :
      casedFirst (text ++ outer) = casedFirst text := by
    rw [casedFirst_eq, casedFirst_eq, nearestCased?_append]
    rcases hnearest : nearestCased? outer with - | ⟨- | -⟩
    · rw [Option.or_none]
    · cases nearestCased? text <;> rfl
    · exact absurd hnearest houter
  intro front back _
  rw [endsWord, endsWord, huncased hbefore, huncased hafter]

/-- The end of a line has no case and is not skipped. -/
theorem nearestCased?_newline (text : List Char) : nearestCased? ('\n' :: text) = some false := by
  have hcons : nearestCased? (['\n'] ++ text) = (nearestCased? ['\n']).or (nearestCased? text) :=
    nearestCased?_append _ _
  have hnewline : nearestCased? ['\n'] = some false := by decide
  rw [hnewline, Option.some_or] at hcons
  exact hcons

theorem lowerAt_newline (before after : List Char) : lowerAt before '\n' after = ['\n'] := by
  rw [lowerAt_of_ne (by decide)]
  decide

theorem nearestCased?_nil : nearestCased? [] ≠ some true := nofun

/-- A text is lowercased line by line. -/
theorem lower_line (line rest : List Char) :
    lower (line ++ '\n' :: rest) = lower line ++ '\n' :: lower rest := by
  have hline : lowerWithin [] line ('\n' :: rest) = lower line := by
    refine lowerWithin_eq_lower_iff.mpr (keepsSigmas_of_uncased nearestCased?_nil ?_ line)
    simp [nearestCased?_newline]
  have hrest : lowerWithin ('\n' :: line.reverse) rest [] = lower rest := by
    refine lowerWithin_eq_lower_iff.mpr (keepsSigmas_of_uncased ?_ nearestCased?_nil rest)
    simp [nearestCased?_newline]
  have hpart := lower_part [] line ('\n' :: rest)
  simp only [List.nil_append, List.reverse_nil, List.append_nil] at hpart
  rw [hpart, hline, lowerWithin, lowerWithin, lowerAt_newline, hrest]
  rfl

/-! ### No end of a line arises -/

/-- No run of the map leads to an end of a line. -/
theorem lowerRuns_beyond_newline : ∀ r ∈ lowerRuns, '\n'.toNat < r.target := by
  have hall : lowerRuns.all (fun r => '\n'.toNat < r.target) = true := by decide
  exact fun r hr => of_decide_eq_true (List.all_eq_true.mp hall r hr)

/-- A greater number is not that of the character, nor is one that is no character's. -/
theorem ofNat_ne_of_lt {c : Char} (hc : c ≠ '\x00') {n : Nat} (h : c.toNat < n) :
    Char.ofNat n ≠ c := by
  by_cases hvalid : n.isValidChar
  · intro heq
    have hn : (Char.ofNat n).toNat = n := by rw [Char.ofNat, dif_pos hvalid]; rfl
    rw [heq] at hn
    omega
  · have hnull : Char.ofNat n = '\x00' := dif_neg hvalid
    rw [hnull]
    exact hc.symm

theorem ofNat_ne_newline {n : Nat} (h : '\n'.toNat < n) : Char.ofNat n ≠ '\n' :=
  ofNat_ne_of_lt (by decide) h

theorem newline_not_mem_lowerChar {c : Char} (hc : c ≠ '\n') : '\n' ∉ lowerChar c := by
  rw [lowerChar]
  split
  · split
    · rw [List.mem_singleton]
      exact (ofNat_ne_newline (Nat.lt_of_lt_of_le (by decide) (Nat.le_add_left 32 _))).symm
    · rw [List.mem_singleton]
      exact hc.symm
  · split
    · decide
    · rw [List.mem_singleton]
      cases hfind : lowerRuns.findSome? (·.image? c.toNat) with
      | none => exact hc.symm
      | some n =>
          obtain ⟨r, hr, himage⟩ := List.exists_of_findSome?_eq_some hfind
          rw [CaseRun.image?, Option.ite_none_right_eq_some] at himage
          obtain rfl := Option.some.inj himage.2
          exact (ofNat_ne_newline
            (Nat.lt_of_lt_of_le (lowerRuns_beyond_newline r hr) (Nat.le_add_right _ _))).symm

theorem newline_not_mem_lower {text : List Char} (h : '\n' ∉ text) : '\n' ∉ lower text := by
  have hbehind : ∀ before, '\n' ∉ lowerBehind before text := by
    induction text with
    | nil => exact fun _ => List.not_mem_nil
    | cons c rest ih =>
        obtain ⟨hc, hrest⟩ := List.ne_and_not_mem_of_not_mem_cons h
        intro before hmem
        rcases List.mem_append.mp hmem with hhere | hlater
        · by_cases hsigma : c = capitalSigma
          · rw [hsigma, lowerAt_sigma, List.mem_singleton] at hhere
            split at hhere <;> exact absurd hhere (by decide)
          · rw [lowerAt_of_ne hsigma] at hhere
            exact newline_not_mem_lowerChar hc.symm hhere
        · exact ih hrest _ hlater
  rw [lower_eq_lowerBehind]
  exact hbehind []

/-- The lines of a text in lowercase are its lines in lowercase. -/
theorem splitOn_lower (text : List Char) :
    (lower text).splitOn '\n' = (text.splitOn '\n').map lower := by
  induction text using line_induction '\n' with
  | single line hline =>
      rw [List.splitOn_eq_singleton hline, List.splitOn_eq_singleton (newline_not_mem_lower hline)]
      rfl
  | cut line rest hline ih =>
      rw [lower_line, List.splitOn_append_cons_self_of_not_mem hline,
        List.splitOn_append_cons_self_of_not_mem (newline_not_mem_lower hline), ih, List.map_cons]

end SecretScan.Text
