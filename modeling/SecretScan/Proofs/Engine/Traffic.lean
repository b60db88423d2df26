import SecretScan.Engine.Traffic
import SecretScan.Proofs.Engine.Verification

/-!
# What the gate bounds

Every permit of a gate is free or held by one scan, whatever the scans do and in whatever order, so
there are never more questions with the services than permits. A scan that holds a permit can always
go on and give it back, and so the scans that are under way can always be brought to an end.
-/

namespace SecretScan

theorem Gate.ofLimit_eq_ok_iff {limit : Nat} {gate : Gate} :
    Gate.ofLimit limit = .ok gate ↔ max limit 1 ≤ maxPermits ∧ gate = ⟨max limit 1, 0⟩ := by
  rw [ofLimit]
  by_cases hlimit : max limit 1 ≤ maxPermits
  · simp [permitsFor_of_le hlimit, Except.map, hlimit, eq_comm]
  · simp [permitsFor_of_lt (Nat.lt_of_not_le hlimit), Except.map, hlimit]

theorem Gate.enter?_eq_some_iff {gate gate' : Gate} :
    gate.enter? = some gate' ↔
      0 < gate.available ∧ gate' = ⟨gate.available - 1, gate.held + 1⟩ := by
  rw [enter?]
  split
  · simp [*]
  · simp [Nat.pos_of_ne_zero, *, eq_comm]

/-- Whatever it knows, there is a moment at which it lets one more question pass. -/
def Pacing.Yields {σ : Type} (pacing : Pacing σ) : Prop :=
  ∀ pace, ∃ moment pace', pacing.pass? pace moment = some pace'

namespace Traffic

variable {σ : Type} {pacing : Pacing σ} {r : Registry} {limit : Nat} {s t : Traffic σ}

/-! ## Permits -/

/-- A step of a scan takes a permit from the gate, or gives its own back, or leaves all permits
where they are. -/
theorem Stage.Step.permits {gate gate' : Gate} {pace pace' : σ} {old new : Stage}
    (h : Step pacing gate pace old gate' pace' new) (hheld : old.holds.toNat ≤ gate.held) :
    gate'.available + new.holds.toNat = gate.available + old.holds.toNat ∧
      gate'.held + old.holds.toNat = gate.held + new.holds.toNat := by
  cases h with
  | enter permit =>
      obtain ⟨hfree, rfl⟩ := Gate.enter?_eq_some_iff.mp permit
      exact ⟨Nat.sub_add_cancel hfree, rfl⟩
  | leave =>
      have hpos : 0 < gate.held := hheld
      rw [Gate.leave, if_neg hpos.ne']
      exact ⟨rfl, Nat.sub_add_cancel hpos⟩
  | _ => exact ⟨rfl, rfl⟩

theorem holding_step (gate : Gate) (pace : σ) (front back : List Stage) (stage : Stage) :
    holding ⟨gate, pace, front ++ stage :: back⟩ =
      holding ⟨gate, pace, front ++ back⟩ + stage.holds.toNat := by
  simp only [holding, List.countP_append, List.countP_cons]
  cases stage.holds with
  | false => rfl
  | true => exact (Nat.add_assoc _ _ _).symm

/-- The gate knows how many permits are held, and none gets lost. -/
structure Balanced (limit : Nat) (s : Traffic σ) : Prop where
  held_eq : s.gate.held = s.holding
  total_eq : s.gate.available + s.holding = limit

theorem balanced_start (pacing : Pacing σ) (limit perSecond : Nat) :
    Balanced limit (start pacing ⟨limit, 0⟩ perSecond) := ⟨rfl, rfl⟩

theorem Next.balanced (hnext : Next pacing r s t) (h : Balanced limit s) : Balanced limit t := by
  obtain ⟨hheld, htotal⟩ := h
  cases hnext with
  | begin text detector =>
      have hnew (d : Detector) :
          holding { s with scans := s.scans ++ [.ready (d.scan Asking.inquiry true text)] } =
            s.holding := by simp [holding, Stage.holds]
      exact ⟨by rw [hnew, hheld], by rw [hnew, htotal]⟩
  | @step front back old new gate pace scans step =>
      have hold : s.holding = holding ⟨s.gate, s.pace, front ++ back⟩ + old.holds.toNat := by
        rw [← holding_step, ← scans]
      have hnew : holding ⟨gate, pace, front ++ new :: back⟩ =
          holding ⟨s.gate, s.pace, front ++ back⟩ + new.holds.toNat := holding_step ..
      obtain ⟨havailable, hheld'⟩ := step.permits (by omega)
      exact ⟨by simp only [hnew]; omega, by simp only [hnew]; omega⟩
  | @finish front back hit scans =>
      have hold : s.holding = holding { s with scans := front ++ back } := by
        simp [holding, scans, Stage.holds]
      exact ⟨by rw [← hold, hheld], by rw [← hold, htotal]⟩

theorem balanced_of_reaches (h : Relation.ReflTransGen (Next pacing r) s t)
    (hs : Balanced limit s) :
    Balanced limit t := by
  induction h with
  | refl => exact hs
  | tail _ hnext ih => exact hnext.balanced ih

/-- A service is asked only by a scan that holds a permit. -/
theorem inFlight_le_holding (s : Traffic σ) : s.inFlight ≤ s.holding := by
  refine List.countP_mono_left fun stage _ hasks => ?_
  cases stage <;> simp_all [Stage.asks, Stage.holds]

/-! ## Coming to an end -/

end Traffic

/-- How many steps a computation takes up to its end, if every answer is a failure. -/
def Asking.work {α : Type} : Asking α → Nat
  | done _ => 1
  | ask _ next => (next (.error .permits)).work + 5

namespace Traffic

/-- How many steps a scan takes up to its end, if every answer is a failure. -/
def Stage.work : Stage → Nat
  | ready rest => rest.work
  | entered _ next => (next (.error .permits)).work + 4
  | admitted _ next => (next (.error .permits)).work + 3
  | asking _ next => (next (.error .permits)).work + 2
  | answered rest => rest.work + 1

/-- How many steps the scans that are under way take up to their ends, if every answer is a
failure. -/
def work (s : Traffic σ) : Nat := (s.scans.map Stage.work).sum

theorem work_step (gate : Gate) (pace : σ) (front back : List Stage) (stage : Stage) :
    work ⟨gate, pace, front ++ stage :: back⟩ =
      work ⟨gate, pace, front ++ back⟩ + stage.work := by
  simp only [work, List.map_append, List.map_cons, List.sum_append, List.sum_cons]
  omega

/-- A scan that holds a permit can go on, if the pace yields. -/
theorem Stage.exists_step_of_holds (hyields : pacing.Yields) (gate : Gate) (pace : σ) {old : Stage}
    (hholds : old.holds = true) :
    ∃ gate' pace' new, Step pacing gate pace old gate' pace' new ∧ new.work < old.work := by
  cases old with
  | ready rest => simp [holds] at hholds
  | entered q next =>
      obtain ⟨moment, pace', hpass⟩ := hyields pace
      exact ⟨_, _, _, .pass moment hpass, by simp [work]⟩
  | admitted q next => exact ⟨_, _, _, .ask, by simp [work]⟩
  | asking q next => exact ⟨_, _, _, .answer (.error .permits), by simp [work]⟩
  | answered rest => exact ⟨_, _, _, .leave, by simp [work]⟩

theorem exists_next_of_step {front back : List Stage} {old new : Stage} {gate : Gate} {pace : σ}
    (hscans : s.scans = front ++ old :: back)
    (hstep : Stage.Step pacing s.gate s.pace old gate pace new) (hwork : new.work < old.work) :
    ∃ t, Next pacing r s t ∧ t.work < s.work := by
  have hold : s.work = work ⟨s.gate, s.pace, front ++ back⟩ + old.work := by
    rw [← work_step, ← hscans]
  refine ⟨_, .step hscans hstep, ?_⟩
  rw [work_step, hold]
  exact Nat.add_lt_add_left hwork _

/-- Unless all scans are over, one of them can go on: one that holds a permit, or any one if none
does, since then all permits are free. -/
theorem isOver_or_exists_next (hyields : pacing.Yields) (h : Balanced limit s)
    (hlimit : 0 < limit) :
    s.IsOver ∨ ∃ t, Next pacing r s t ∧ t.work < s.work := by
  by_cases hholder : ∃ stage ∈ s.scans, stage.holds = true
  · obtain ⟨old, hmem, hholds⟩ := hholder
    obtain ⟨front, back, hscans⟩ := List.append_of_mem hmem
    obtain ⟨gate, pace, new, hstep, hwork⟩ :=
      Stage.exists_step_of_holds hyields s.gate s.pace hholds
    exact Or.inr (exists_next_of_step hscans hstep hwork)
  · push Not at hholder
    have hnone : s.holding = 0 := List.countP_eq_zero.mpr hholder
    have hfree : 0 < s.gate.available := by
      have htotal := h.total_eq
      omega
    cases hscans : s.scans with
    | nil => exact Or.inl hscans
    | cons stage back =>
        have hscans : s.scans = [] ++ stage :: back := hscans
        refine Or.inr ?_
        cases stage with
        | ready rest =>
            cases rest with
            | done hit =>
                refine ⟨_, .finish hscans, ?_⟩
                simp [work, hscans, Stage.work, Asking.work]
            | ask q next =>
                have hpermit := Gate.enter?_eq_some_iff.mpr ⟨hfree, rfl⟩
                exact exists_next_of_step hscans (.enter hpermit)
                  (by simp [Stage.work, Asking.work])
        | _ => exact absurd rfl (hholder _ (by rw [hscans]; exact List.mem_cons_self))

theorem exists_isOver_of_balanced (hyields : pacing.Yields) (hlimit : 0 < limit)
    (h : Balanced limit s) : ∃ t, Relation.ReflTransGen (Next pacing r) s t ∧ t.IsOver := by
  induction hwork : s.work using Nat.strong_induction_on generalizing s with
  | _ n ih =>
      rcases isOver_or_exists_next (r := r) hyields h hlimit with hover | ⟨t, hnext, hlt⟩
      · exact ⟨s, .refl, hover⟩
      · obtain ⟨u, hreach, hover⟩ := ih t.work (hwork ▸ hlt) (hnext.balanced h) rfl
        exact ⟨u, .head hnext hreach, hover⟩

/-! ## The gate of a run -/

/-- The detectors of a run share one gate. However many texts are given to them, in whatever order
the scans go on, whatever the services answer and however the pace is kept, there are never more
questions with the services than the limit allows, every permit is free or held by one scan, and
when all scans are over all permits are free. To that they can be brought from wherever they
stand, if the pace lets one more question pass at some moment. -/
theorem gate_bounds_verifications (pacing : Pacing σ) (r : Registry) (perSecond : Nat) {limit : Nat}
    {gate : Gate} (hgate : Gate.ofLimit limit = .ok gate) :
    ∀ s, Relation.ReflTransGen (Next pacing r) (start pacing gate perSecond) s →
      s.inFlight ≤ max limit 1 ∧
      s.gate.available + s.holding = max limit 1 ∧
      (s.IsOver → s.gate.available = max limit 1) ∧
      (pacing.Yields → ∃ t, Relation.ReflTransGen (Next pacing r) s t ∧ t.IsOver) := by
  intro s hs
  obtain ⟨-, rfl⟩ := Gate.ofLimit_eq_ok_iff.mp hgate
  have hbalanced := balanced_of_reaches hs (balanced_start pacing _ perSecond)
  have htotal := hbalanced.total_eq
  have hflight := s.inFlight_le_holding
  refine ⟨by omega, htotal, ?_, ?_⟩
  · intro hover
    have hscans : s.scans = [] := hover
    have hnone : s.holding = 0 := by rw [holding, hscans, List.countP_nil]
    omega
  · intro hyields
    exact exists_isOver_of_balanced hyields (by omega) hbalanced

end Traffic

/-- As many questions as a second allows may come at once, and from then on one with each of its
equal parts. A moment is a number of nanoseconds. -/
def Pacing.even : Pacing (Nat × Nat) where
  start perSecond := (1000000000 / perSecond, 0)
  pass? := fun (part, due) moment =>
    if moment + 1000000000 < due then none else some (part, max moment due + part)

theorem Pacing.yields_even : Pacing.even.Yields := by
  rintro ⟨part, due⟩
  exact ⟨due, _, if_neg (by omega)⟩

namespace Traffic

/-- A limit of nothing is a limit of one: of two scans that find a key one asks about it, and the
other waits. -/
theorem one_question_at_a_time :
    let d : PatternDetector :=
      ⟨{ name := "stripe", keywords := [], pattern := "key" }, Pattern.literal "key".toList, none,
        some .stripe⟩
    let r : Registry := ⟨[.builtin d]⟩
    let begun := start Pacing.even ⟨1, 0⟩ 0
    Gate.ofLimit 0 = .ok ⟨1, 0⟩ ∧
      (∀ s, Relation.ReflTransGen (Next Pacing.even r) begun s →
        s.inFlight ≤ 1 ∧ ∃ t, Relation.ReflTransGen (Next Pacing.even r) s t ∧ t.IsOver) ∧
      ∃ s, Relation.ReflTransGen (Next Pacing.even r) begun s ∧ s.inFlight = 1 ∧
        s.scans.length = 2 ∧ s.gate.available = 0 := by
  intro d r begun
  have hgate : Gate.ofLimit 0 = .ok ⟨1, 0⟩ := by decide
  have hbounds := gate_bounds_verifications Pacing.even r 0 hgate
  refine ⟨hgate, fun s hs => ⟨(hbounds s hs).1, (hbounds s hs).2.2.2 Pacing.yields_even⟩, ?_⟩
  have hfinds : (d.find? "a key".toList).isSome = true := by decide +kernel
  obtain ⟨q, next, hscan⟩ : ∃ q next,
      (Detector.builtin d).scan Asking.inquiry true "a key".toList = .ask q next := by
    rcases (Detector.builtin d).scan_open true "a key".toList with ⟨hit, -, htried⟩ | ⟨q, hit, h, -⟩
    · cases htried with
      | missed find =>
          have find : d.find? "a key".toList = none := find
          rw [find] at hfinds
          simp at hfinds
      | plain find unasked => exact absurd unasked (by decide)
    · exact ⟨q, _, h⟩
  let asked : Stage := .ready (.ask q next)
  have hbegin (s : Traffic (Nat × Nat)) :
      Next Pacing.even r s { s with scans := s.scans ++ [asked] } :=
    (show asked = .ready _ from congrArg Stage.ready hscan.symm) ▸
      .begin "a key".toList (List.mem_singleton_self _)
  have hfirst {gate gate' : Gate} {pace pace' : Nat × Nat} {old new : Stage}
      (hstep : Stage.Step Pacing.even gate pace old gate' pace' new) :
      Next Pacing.even r ⟨gate, pace, [old, asked]⟩ ⟨gate', pace', [new, asked]⟩ := by
    have hscans : [old, asked] = [] ++ old :: [asked] := rfl
    exact Next.step (s := ⟨gate, pace, [old, asked]⟩) hscans hstep
  have henter : Next Pacing.even r ⟨⟨1, 0⟩, begun.pace, [asked, asked]⟩
      ⟨⟨0, 1⟩, begun.pace, [.entered q next, asked]⟩ := hfirst (.enter rfl)
  have hpass : Next Pacing.even r ⟨⟨0, 1⟩, begun.pace, [.entered q next, asked]⟩
      ⟨⟨0, 1⟩, (1000000000, 1000000000), [.admitted q next, asked]⟩ := hfirst (.pass 0 rfl)
  have hbegun := Relation.ReflTransGen.tail (.single (hbegin begun)) (hbegin _)
  exact ⟨_, .tail (.tail (.tail hbegun henter) hpass) (hfirst .ask), rfl, rfl, rfl⟩

end Traffic

end SecretScan
