import Mathlib.Algebra.GroupWithZero.Nat
import Mathlib.Order.WellFounded

/-!
# Schedules

A schedule says of each moment how far things have come. What every step keeps holds all along it,
and where every step leaves less work than there was, it comes to an end.
-/

namespace SecretScan

variable {σ : Type} {Next : σ → σ → Prop} {schedule : ℕ → σ}

theorem holds_along_schedule (Holds : σ → Prop) (hkeep : ∀ s t, Next s t → Holds s → Holds t)
    (h0 : Holds (schedule 0)) (h : ∀ n, Next (schedule n) (schedule (n + 1))) (n : ℕ) :
    Holds (schedule n) := by
  induction n with
  | zero => exact h0
  | succ n ih => exact hkeep _ _ (h n) ih

/-- No schedule goes on forever, if every step keeps what holds at first and leaves less work. -/
theorem not_endless_of_work_lt (Holds : σ → Prop) (work : σ → ℕ)
    (hkeep : ∀ s t, Next s t → Holds s → Holds t)
    (hwork : ∀ s t, Next s t → Holds s → work t < work s) (h0 : Holds (schedule 0)) :
    ¬ ∀ n, Next (schedule n) (schedule (n + 1)) := by
  intro h
  obtain ⟨n, hn⟩ := WellFounded.not_rel_apply_succ (r := (· < ·)) fun n => work (schedule n)
  exact hn (hwork _ _ (h n) (holds_along_schedule Holds hkeep h0 h n))

end SecretScan
