import SecretScan.Decimal.Digits
import SecretScan.Decimal.Power

/-!
# Decimal text of floating-point numbers

A finite double is `m · 2 ^ e` for integers `m` and `e`. The reals that round to it form an
interval around it. The shortest decimal of the double is the one in that interval with the
fewest significant digits, and among those the nearest. All of it is decided in exact arithmetic.
-/

namespace SecretScan.Decimal

/-- A finite double: `mantissa · 2 ^ exponent`, negative if the sign says so. `narrow` marks the
powers of two whose lower neighbour is half as far away as the upper one. -/
structure Binary where
  negative : Bool
  mantissa : Nat
  exponent : Int
  narrow : Bool
  deriving DecidableEq, Repr

/-- The parts of a double; `none` for infinities and for what is no number. -/
def Binary.ofFloat? (x : Float) : Option Binary :=
  let bits := x.toBits.toNat
  let fraction : Nat := bits % twoTo 52
  let biased : Nat := bits / twoTo 52 % twoTo 11
  let negative := decide (twoTo 63 ≤ bits)
  if biased = 2047 then none
  else if biased = 0 then some ⟨negative, fraction, -1074, false⟩
  else some ⟨negative, twoTo 52 + fraction, (biased : Int) - 1075, fraction = 0 && 1 < biased⟩

/-- A decimal `digits · 10 ^ exponent`. -/
structure Scaled where
  digits : Nat
  exponent : Int
  deriving DecidableEq, Repr

/-- The value and the ends of the interval that rounds to it, over the common denominator. -/
structure Interval where
  value : Nat
  low : Nat
  high : Nat
  denominator : Nat
  /-- Do the ends themselves round to the value? -/
  closed : Bool

/-- The interval of the reals that round to a positive double. -/
def Interval.ofBinary (b : Binary) : Interval :=
  let up := twoTo b.exponent.toNat
  let down := twoTo (-b.exponent).toNat
  ⟨4 * b.mantissa * up, (4 * b.mantissa - (if b.narrow then 1 else 2)) * up,
    (4 * b.mantissa + 2) * up, 4 * down, b.mantissa % 2 = 0⟩

/-- Does `digits · 10 ^ exponent` lie in the interval? -/
def Interval.holds (i : Interval) (digits : Nat) (exponent : Int) : Bool :=
  let n := digits * tenTo exponent.toNat * i.denominator
  let s := tenTo (-exponent).toNat
  if i.closed then i.low * s ≤ n && n ≤ i.high * s else i.low * s < n && n < i.high * s

/-- The decimal with the given exponent that lies in the interval nearest to its value, a tie
going to even digits. -/
def Interval.nearest? (i : Interval) (exponent : Int) : Option Nat :=
  let unit := tenTo exponent.toNat * i.denominator
  let value := i.value * tenTo (-exponent).toNat
  let below := value / unit
  let twice := 2 * (value % unit)
  let first := if twice < unit || twice == unit && below % 2 == 0 then below else below + 1
  let second := if first = below then below + 1 else below
  if i.holds first exponent then some first
  else if i.holds second exponent then some second
  else none

/-- The position of the first digit: the exponent `e` with `10 ^ e ≤ value < 10 ^ (e + 1)`. -/
def Interval.magnitude (i : Interval) : Int :=
  if i.denominator ≤ i.value then (natDigits (i.value / i.denominator)).length - 1
  else
    let n := (natDigits (i.denominator / i.value)).length
    if tenTo (n - 1) * i.value = i.denominator then 1 - (n : Int) else -(n : Int)

/-- Tries the decimals with one significant digit, two, and so on. -/
def Interval.shortestFrom (i : Interval) (magnitude : Int) : (left : Nat) → Int → Scaled
  | 0, exponent =>
      ⟨i.value * tenTo (-exponent).toNat / (tenTo exponent.toNat * i.denominator), exponent⟩
  | left + 1, exponent =>
    match i.nearest? exponent with
    | some d => ⟨d, exponent⟩
    | none => i.shortestFrom magnitude left (exponent - 1)

/-- The decimal without zeros at the end of its digits. -/
def Scaled.stripped : (fuel : Nat) → Scaled → Scaled
  | 0, s => s
  | fuel + 1, s =>
    if s.digits ≠ 0 && s.digits % 10 = 0 then Scaled.stripped fuel ⟨s.digits / 10, s.exponent + 1⟩
    else s

/-- The shortest decimal that rounds to the size of a double. -/
def shortest (b : Binary) : Scaled :=
  if b.mantissa = 0 then ⟨0, 0⟩
  else
    let i := Interval.ofBinary b
    let m := i.magnitude
    (i.shortestFrom m 17 m).stripped 20

/-- An exponent, which always has a sign. -/
def exponentText (n : Int) : List Char :=
  'e' :: (if n < 0 then intDigits n else '+' :: intDigits n)

/-- The text of a finite double: its shortest decimal, positional from `0.00001` up to below
`10 ^ 16` and else with an exponent. A whole number keeps `.0`. -/
def Binary.text (b : Binary) : List Char :=
  let s := shortest b
  let digits := natDigits s.digits
  let n := digits.length
  let point : Int := n + s.exponent
  let body :=
    if s.digits = 0 then ['0', '.', '0']
    else if 0 ≤ s.exponent && point ≤ 16 then
      digits ++ List.replicate s.exponent.toNat '0' ++ ['.', '0']
    else if 0 < point && point ≤ 16 then
      digits.take point.toNat ++ '.' :: digits.drop point.toNat
    else if -5 < point && point ≤ 0 then
      '0' :: '.' :: (List.replicate (-point).toNat '0' ++ digits)
    else if n = 1 then digits ++ exponentText (point - 1)
    else digits.take 1 ++ '.' :: (digits.drop 1 ++ exponentText (point - 1))
  if b.negative then '-' :: body else body

/-- The numerator and denominator of the size of a double. -/
def Binary.ratio (b : Binary) : Nat × Nat :=
  (b.mantissa * twoTo b.exponent.toNat, twoTo (-b.exponent).toNat)

/-- The quotient rounded to the nearest whole number, a half going to the even neighbour. -/
def roundDiv (numerator denominator : Nat) : Nat :=
  let q := numerator / denominator
  let twice := 2 * (numerator % denominator)
  if twice < denominator || twice == denominator && q % 2 == 0 then q else q + 1

/-- `n / 10 ^ places` with all its places. -/
def placesText (n places : Nat) : List Char :=
  let digits := padLeft '0' (places + 1) (natDigits n)
  let whole := digits.take (digits.length - places)
  let fraction := digits.drop (digits.length - places)
  if places = 0 then whole else whole ++ '.' :: fraction

/-- The text of a double with exactly `places` digits behind the point. -/
def fixedText (places : Nat) (x : Float) : String :=
  match Binary.ofFloat? x with
  | none => if x.isNaN then "NaN" else if x < 0 then "-inf" else "inf"
  | some b =>
    let (n, d) := b.ratio
    let body := placesText (roundDiv (n * tenTo places) d) places
    String.ofList (if b.negative then '-' :: body else body)

example : roundDiv 5 2 = 2 ∧ roundDiv 7 2 = 4 ∧ roundDiv 8 3 = 3 := by decide

end SecretScan.Decimal
