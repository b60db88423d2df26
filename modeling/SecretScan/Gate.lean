import SecretScan.Failure
import SecretScan.Decimal.Power

/-!
# Permits and the verification gate

A number of permits bounds how much happens at a time. The gate through which every verification
passes hands out its permits and takes them back; how fast it does so does not show in its state.
-/

namespace SecretScan

/-- The greatest number of permits that can be asked for. -/
def maxPermits : Nat := (Decimal.twoTo 64 - 1) / 8

/-- The number of permits for a limit: at least one. A limit beyond the greatest number is
refused. -/
def permitsFor (limit : Nat) : Except Failure Nat :=
  if maxPermits < max limit 1 then .error .permits else .ok (max limit 1)

theorem permitsFor_of_le {limit : Nat} (h : max limit 1 ≤ maxPermits) :
    permitsFor limit = .ok (max limit 1) :=
  if_neg (Nat.not_lt.mpr h)

theorem permitsFor_of_lt {limit : Nat} (h : maxPermits < max limit 1) :
    permitsFor limit = .error .permits :=
  if_pos h

/-- A gate with its free permits and those that are held. -/
structure Gate where
  available : Nat
  held : Nat
  deriving DecidableEq, Repr

namespace Gate

/-- The gate for at most so many verifications at a time. -/
def ofLimit (limit : Nat) : Except Failure Gate :=
  (permitsFor limit).map fun n => ⟨n, 0⟩

/-- Takes a permit, if one is free. -/
def enter? (g : Gate) : Option Gate :=
  if g.available = 0 then none else some ⟨g.available - 1, g.held + 1⟩

/-- Gives a permit back, if one is held. -/
def leave (g : Gate) : Gate :=
  if g.held = 0 then g else ⟨g.available + 1, g.held - 1⟩

end Gate

end SecretScan
