import SecretScan.Decimal.Shortest

/-!
# Durations

A duration is shown with two places in the largest unit of which it has at least one.
-/

namespace SecretScan

open SecretScan.Decimal

/-- A span of time in nanoseconds. -/
structure Duration where
  nanos : Nat
  deriving DecidableEq, Repr

namespace Duration

/-- A duration of whole milliseconds. -/
def ofMillis (n : Nat) : Duration := ⟨n * 1000000⟩

/-- The whole milliseconds of a duration. -/
def millis (d : Duration) : Nat := d.nanos / 1000000

/-- The duration in its unit with two places, a half going to the even neighbour. -/
def text (d : Duration) : String :=
  let (unit, name) :=
    if 1000000000 ≤ d.nanos then (1000000000, "s")
    else if 1000000 ≤ d.nanos then (1000000, "ms")
    else if 1000 ≤ d.nanos then (1000, "µs")
    else (1, "ns")
  String.ofList (placesText (roundDiv (d.nanos * 100) unit) 2) ++ name

end Duration

end SecretScan
