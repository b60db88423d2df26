import SecretScan.Proofs.History.Feed

/-!
# Running over

A program that was built with checks breaks down at the first line at which the count of lines runs
over. A log without such a line is read alike however the program was built.
-/

namespace SecretScan.DiffParser

variable {b : Build} {p q : DiffParser} {line : List Char} {lines rest : List (List Char)}
  {o : Option AddedLine} {f : Failure}

/-- Is a line counted when the count has come to its end? -/
def Overruns (p : DiffParser) (lines : List (List Char)) : Prop :=
  ∃ front text back, lines = front ++ ('+' :: text) :: back ∧
    (p.feedAll front).1.place = .inHunk ∧
    Decimal.twoTo 64 ≤ (p.feedAll front).1.nextLine + 1

/-- Can all lines be read? Without checks they always can. -/
def Fits (b : Build) (p : DiffParser) (lines : List (List Char)) : Prop :=
  b = .checked → ¬ p.Overruns lines

/-! ## One line -/

theorem runsOver_iff : p.runsOver line = true ↔
    line.head? = some '+' ∧ p.place = .inHunk ∧ Decimal.twoTo 64 ≤ p.nextLine + 1 := by
  simp only [runsOver, Bool.and_eq_true, decide_eq_true_eq, and_assoc, and_left_comm]

/-- Does the program break down at the line? -/
def StopsAt (b : Build) (p : DiffParser) (line : List Char) : Prop :=
  b = .checked ∧ p.runsOver line = true

theorem feed?_of_stopsAt (h : p.StopsAt b line) : p.feed? b line = .error .overflow := by
  obtain ⟨rfl, hover⟩ := h
  rw [feed?, hover]
  rfl

theorem feed?_of_not_stopsAt (h : ¬ p.StopsAt b line) : p.feed? b line = .ok (p.feed line) := by
  rw [feed?, if_neg]
  rw [Bool.and_eq_true, decide_eq_true_eq]
  exact h

/-- If a line is read, then as it is without checks. -/
theorem feed?_eq_ok_iff :
    p.feed? b line = .ok (q, o) ↔ ¬ p.StopsAt b line ∧ p.feed line = (q, o) := by
  by_cases h : p.StopsAt b line
  · rw [feed?_of_stopsAt h]
    exact ⟨nofun, fun hread => absurd h hread.1⟩
  · rw [feed?_of_not_stopsAt h, Except.ok.injEq]
    exact (and_iff_right h).symm

theorem feed?_eq_error_iff : p.feed? b line = .error f ↔ p.StopsAt b line ∧ f = .overflow := by
  by_cases h : p.StopsAt b line
  · rw [feed?_of_stopsAt h, Except.error.injEq, eq_comm]
    exact (and_iff_right h).symm
  · rw [feed?_of_not_stopsAt h]
    exact ⟨nofun, fun hstops => absurd hstops.1 h⟩

/-! ## Several lines -/

theorem not_overruns_nil (p : DiffParser) : ¬ p.Overruns [] := by
  rintro ⟨front, text, back, heq, -⟩
  simp at heq

theorem overruns_cons_iff : p.Overruns (line :: rest) ↔
    line.head? = some '+' ∧ p.place = .inHunk ∧ Decimal.twoTo 64 ≤ p.nextLine + 1 ∨
      (p.feed line).1.Overruns rest := by
  constructor
  · rintro ⟨front, text, back, heq, hplace, hend⟩
    cases front with
    | nil =>
        obtain ⟨rfl, -⟩ := List.cons.inj heq
        exact Or.inl ⟨rfl, hplace, hend⟩
    | cons l front =>
        obtain ⟨rfl, rfl⟩ := List.cons.inj heq
        rw [feedAll_cons] at hplace hend
        exact Or.inr ⟨front, text, back, rfl, hplace, hend⟩
  · rintro (⟨hhead, hplace, hend⟩ | ⟨front, text, back, rfl, hplace, hend⟩)
    · obtain ⟨text, rfl⟩ := List.head?_eq_some_iff.mp hhead
      exact ⟨[], text, rest, rfl, hplace, hend⟩
    · exact ⟨line :: front, text, back, rfl, by rwa [feedAll_cons], by rwa [feedAll_cons]⟩

theorem fits_nil (b : Build) (p : DiffParser) : p.Fits b [] := fun _ => not_overruns_nil p

theorem fits_wrapping (p : DiffParser) (lines : List (List Char)) : p.Fits .wrapping lines := nofun

theorem fits_cons_iff :
    p.Fits b (line :: rest) ↔ ¬ p.StopsAt b line ∧ (p.feed line).1.Fits b rest := by
  simp only [Fits, StopsAt, overruns_cons_iff, ← runsOver_iff]
  cases b <;> simp

/-- Lines at whose first one the program breaks down cannot be read. -/
theorem not_fits_of_feed? (h : p.feed? b line = .error f) (rest : List (List Char)) :
    f = .overflow ∧ ¬ p.Fits b (line :: rest) := by
  obtain ⟨hstops, rfl⟩ := feed?_eq_error_iff.mp h
  exact ⟨rfl, fun hfits => (fits_cons_iff.mp hfits).1 hstops⟩

/-- Where the next line is read, the lines can be read just if those behind it can. -/
theorem fits_iff_of_feed? (h : p.feed? b line = .ok (q, o)) :
    p.Fits b (line :: rest) ↔ q.Fits b rest := by
  obtain ⟨hreads, hfeed⟩ := feed?_eq_ok_iff.mp h
  rw [fits_cons_iff, hfeed]
  exact and_iff_right hreads

theorem feedOnto?_of_fits (h : p.Fits b lines) (outputs : List (Option AddedLine)) :
    p.feedOnto? b outputs lines = .ok (p.feedOnto outputs lines) := by
  induction lines generalizing p outputs with
  | nil => rfl
  | cons line rest ih =>
      obtain ⟨hreads, hrest⟩ := fits_cons_iff.mp h
      rw [feedOnto?, feed?_of_not_stopsAt hreads]
      exact ih hrest _

theorem feedOnto?_of_not_fits (h : ¬ p.Fits b lines) (outputs : List (Option AddedLine)) :
    p.feedOnto? b outputs lines = .error .overflow := by
  induction lines generalizing p outputs with
  | nil => exact absurd (fits_nil b p) h
  | cons line rest ih =>
      rw [feedOnto?]
      by_cases hstops : p.StopsAt b line
      · rw [feed?_of_stopsAt hstops]
      · rw [feed?_of_not_stopsAt hstops]
        exact ih (fun hrest => h (fits_cons_iff.mpr ⟨hstops, hrest⟩)) _

/-- What can be read is read as it is without checks. -/
theorem feedAll?_of_fits (h : p.Fits b lines) : p.feedAll? b lines = .ok (p.feedAll lines) := by
  rw [feedAll?, feedOnto?_of_fits h]
  rfl

theorem feedAll?_of_not_fits (h : ¬ p.Fits b lines) :
    p.feedAll? b lines = .error .overflow := by
  rw [feedAll?, feedOnto?_of_not_fits h]
  rfl

theorem isOk_feedAll?_iff : (p.feedAll? b lines).isOk = true ↔ p.Fits b lines := by
  by_cases h : p.Fits b lines
  · rw [feedAll?_of_fits h]
    exact iff_of_true rfl h
  · rw [feedAll?_of_not_fits h]
    exact iff_of_false nofun h

instance (b : Build) (p : DiffParser) (lines : List (List Char)) : Decidable (p.Fits b lines) :=
  decidable_of_iff _ isOk_feedAll?_iff

end SecretScan.DiffParser
