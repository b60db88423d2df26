import SecretScan.Prefilter
import SecretScan.Proofs.Text.Occurrence

/-!
# What the prefilter selects

The table of keywords says for every keyword in lowercase which detectors have it, and nothing more.
So a detector is selected for a text just if one of its keywords stands in the text, both taken in
lowercase.
-/

namespace SecretScan.Prefilter

open SecretScan.Text

/-- Does the table say that the detector with an index has a keyword? -/
def Notes (known : List (List Char × List Nat)) (keyword : List Char) (index : Nat) : Prop :=
  ∃ owners, (keyword, owners) ∈ known ∧ index ∈ owners

theorem notes_cons_iff {k keyword : List Char} {owners : List Nat}
    {rest : List (List Char × List Nat)} {i : Nat} :
    Notes ((k, owners) :: rest) keyword i ↔ keyword = k ∧ i ∈ owners ∨ Notes rest keyword i := by
  constructor
  · rintro ⟨found, hfound, hi⟩
    rcases List.mem_cons.mp hfound with heq | hrest
    · obtain ⟨rfl, rfl⟩ := Prod.mk.inj heq
      exact Or.inl ⟨rfl, hi⟩
    · exact Or.inr ⟨found, hrest, hi⟩
  · rintro (⟨rfl, hi⟩ | ⟨found, hrest, hi⟩)
    · exact ⟨owners, List.mem_cons_self, hi⟩
    · exact ⟨found, List.mem_cons_of_mem _ hrest, hi⟩

theorem notes_note_iff {known : List (List Char × List Nat)} {k keyword : List Char} {i j : Nat} :
    Notes (note j k known) keyword i ↔ Notes known keyword i ∨ keyword = k ∧ i = j := by
  induction known with
  | nil => simp [note, Notes]
  | cons entry rest ih =>
      obtain ⟨other, owners⟩ := entry
      rw [note]
      by_cases hk : other = k
      · subst hk
        have howners : (i ∈ if owners.contains j then owners else owners ++ [j]) ↔
            i ∈ owners ∨ i = j := by
          by_cases hj : j ∈ owners
          · rw [if_pos (List.contains_iff_mem.mpr hj)]
            constructor
            · exact Or.inl
            · rintro (hi | rfl)
              · exact hi
              · exact hj
          · rw [if_neg (by simpa using hj), List.mem_append, List.mem_singleton]
        rw [if_pos rfl, notes_cons_iff, notes_cons_iff, howners, and_or_left, or_right_comm]
      · rw [if_neg hk, notes_cons_iff, notes_cons_iff, ih, or_assoc]

/-- Is `low` the lowercase form of one of the keywords, and not empty? -/
def IsLowKeyword (keywords : List String) (low : List Char) : Prop :=
  low ≠ [] ∧ ∃ k ∈ keywords, lower k.toList = low

theorem notes_noteAll_iff {known : List (List Char × List Nat)} {keywords : List String}
    {low : List Char} {i j : Nat} :
    Notes (noteAll known j keywords) low i ↔
      Notes known low i ∨ i = j ∧ IsLowKeyword keywords low := by
  induction keywords generalizing known with
  | nil => simp [noteAll, IsLowKeyword]
  | cons k keywords ih =>
      have hstep : noteAll known j (k :: keywords) =
          noteAll (if (lower k.toList).isEmpty then known else note j (lower k.toList) known) j
            keywords := rfl
      have hcons : IsLowKeyword (k :: keywords) low ↔
          low ≠ [] ∧ lower k.toList = low ∨ IsLowKeyword keywords low := by
        rw [IsLowKeyword, IsLowKeyword, List.exists_mem_cons_iff, and_or_left]
      rw [hstep, ih, hcons]
      by_cases hlow : lower k.toList = []
      · have hne : ¬ (low ≠ [] ∧ lower k.toList = low) := by
          rintro ⟨hne, rfl⟩
          exact hne hlow
        rw [if_pos (List.isEmpty_iff.mpr hlow), or_iff_right hne]
      · rw [if_neg (by simpa using hlow), notes_note_iff]
        have heq : low = lower k.toList ↔ low ≠ [] ∧ lower k.toList = low := by
          constructor
          · rintro rfl
            exact ⟨hlow, rfl⟩
          · rintro ⟨-, rfl⟩
            rfl
        rw [heq, and_comm, or_assoc, ← and_or_left]

theorem notes_collect_iff {known : List (List Char × List Nat)} {detectors : List Detector}
    {low : List Char} {i j : Nat} :
    Notes (collect known j detectors) low i ↔
      Notes known low i ∨ ∃ n d, detectors[n]? = some d ∧ i = j + n ∧
        IsLowKeyword d.keywords low := by
  induction detectors generalizing known j with
  | nil => simp [collect]
  | cons d rest ih =>
      rw [collect, ih, notes_noteAll_iff, or_assoc]
      refine or_congr_right ?_
      constructor
      · rintro (⟨rfl, hlow⟩ | ⟨n, e, he, rfl, hlow⟩)
        · exact ⟨0, d, rfl, rfl, hlow⟩
        · exact ⟨n + 1, e, he, by omega, hlow⟩
      · rintro ⟨n, e, he, rfl, hlow⟩
        cases n with
        | zero =>
            obtain rfl := Option.some.inj he
            exact Or.inl ⟨rfl, hlow⟩
        | succ n => exact Or.inr ⟨n, e, he, by omega, hlow⟩

/-- A detector is selected just if one of its keywords stands in the text, case aside. -/
theorem mem_select_iff {r : Registry} {text : List Char} {i : Nat} :
    i ∈ (ofRegistry r).select text ↔
      ∃ d, r.get? i = some d ∧ ∃ k ∈ d.keywords, lower k.toList ≠ [] ∧
        lower k.toList <:+: lower text := by
  have howned : (∃ low, Notes (collect [] 0 r.detectors) low i ∧ low <:+: lower text) ↔
      ∃ d, r.get? i = some d ∧ ∃ k ∈ d.keywords, lower k.toList ≠ [] ∧
        lower k.toList <:+: lower text := by
    constructor
    · rintro ⟨low, hnotes, hstands⟩
      rcases notes_collect_iff.mp hnotes with ⟨owners, hnil, -⟩ | ⟨n, d, hd, rfl, hne, k, hk, rfl⟩
      · simp at hnil
      · exact ⟨d, by simpa [Registry.get?] using hd, k, hk, hne, hstands⟩
    · rintro ⟨d, hd, k, hk, hne, hstands⟩
      refine ⟨lower k.toList, notes_collect_iff.mpr (Or.inr ⟨i, d, hd, ?_, hne, k, hk, rfl⟩),
        hstands⟩
      exact (Nat.zero_add i).symm
  rw [← howned]
  simp only [select, ofRegistry, List.mem_filter, List.mem_range, List.any_eq_true, occursIn_iff,
    List.contains_iff_mem, Prod.exists]
  constructor
  · rintro ⟨-, low, owners, ⟨hmem, hstands⟩, hi⟩
    exact ⟨low, ⟨owners, hmem, hi⟩, hstands⟩
  · rintro ⟨low, hnotes, hstands⟩
    obtain ⟨d, hd, -⟩ := howned.mp ⟨low, hnotes, hstands⟩
    obtain ⟨owners, hmem, hi⟩ := hnotes
    exact ⟨(List.getElem?_eq_some_iff.mp hd).1, low, owners, ⟨hmem, hstands⟩, hi⟩

end SecretScan.Prefilter
