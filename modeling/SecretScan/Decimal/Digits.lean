/-!
# Decimal digits of numbers

Natural numbers and integers written in base ten, and read back.
-/

namespace SecretScan.Decimal

/-- The character of a digit below ten. -/
def digitChar (d : Nat) : Char := Char.ofNat (0x30 + d)

/-- Is the character one of `0` to `9`? -/
def isDigit (c : Char) : Bool := '0' ≤ c && c ≤ '9'

/-- The value of a digit character. -/
def digitValue (c : Char) : Nat := c.toNat - 0x30

/-- The digits of `n`, most significant first, in front of `rest`; `fuel` bounds their number. -/
def digitsOnto : (fuel n : Nat) → List Char → List Char
  | 0, _, rest => rest
  | fuel + 1, n, rest =>
    if n < 10 then digitChar n :: rest
    else digitsOnto fuel (n / 10) (digitChar (n % 10) :: rest)

/-- The digits of `n`, most significant first; `0` has one digit. -/
def natDigits (n : Nat) : List Char := digitsOnto (n.log2 + 1) n []

/-- The digits of an integer behind its sign, if it is negative. -/
def intDigits (n : Int) : List Char :=
  match n with
  | .ofNat n => natDigits n
  | .negSucc n => '-' :: natDigits (n + 1)

/-- The digits as a string. -/
def ofNat (n : Nat) : String := String.ofList (natDigits n)

/-- The value of a list of digits. -/
def valueOf (digits : List Char) : Nat :=
  digits.foldl (fun n c => 10 * n + digitValue c) 0

/-- Reads a number that consists of digits only, at least one of them. -/
def nat? (text : List Char) : Option Nat :=
  if !text.isEmpty && text.all isDigit then some (valueOf text) else none

/-- The text filled up on the left to at least `width` characters. -/
def padLeft (fill : Char) (width : Nat) (text : List Char) : List Char :=
  List.replicate (width - text.length) fill ++ text

example : natDigits 0 = ['0'] ∧ natDigits 907 = ['9', '0', '7'] := by decide

end SecretScan.Decimal
