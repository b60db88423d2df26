/-!
# Range tables

A set of code points kept as ascending, disjoint ranges. Tables of the Unicode standard are
written as text, one hexadecimal code point or range per word (`41-5A AA B5`), and unpacked once.
-/

namespace SecretScan.Unicode

/-- A set of code points; the ranges are ascending and disjoint, ends included. -/
structure RangeTable where
  ranges : Array (Nat × Nat)
  deriving Repr

namespace RangeTable

/-- Value of a hexadecimal digit. -/
def hexDigit (c : Char) : Nat :=
  if c.toNat < 0x3A then c.toNat - 0x30 else c.toNat - 0x37

/-- A range being read: its lower end once the hyphen is seen, the number so far, and whether
any digit of it has been read. -/
structure Unpacking where
  done : Array (Nat × Nat)
  low : Option Nat
  number : Nat
  started : Bool

def Unpacking.close (u : Unpacking) : Unpacking :=
  if u.started then ⟨u.done.push (u.low.getD u.number, u.number), none, 0, false⟩ else u

def Unpacking.step (u : Unpacking) (c : Char) : Unpacking :=
  if c == ' ' || c == '\n' then u.close
  else if c == '-' then { u with low := some u.number, number := 0 }
  else { u with number := 16 * u.number + hexDigit c, started := true }

/-- Reads the written form of a table. -/
def unpack (text : String) : RangeTable :=
  ⟨(text.foldl Unpacking.step ⟨#[], none, 0, false⟩).close.done⟩

/-- Binary search for `n` among the ranges with index from `lo` up to, not including, `hi`. -/
def search (ranges : Array (Nat × Nat)) (n : Nat) : (steps lo hi : Nat) → Bool
  | 0, _, _ => false
  | steps + 1, lo, hi =>
    if lo < hi then
      let mid := (lo + hi) / 2
      let r := ranges.getD mid (0, 0)
      if n < r.1 then search ranges n steps lo mid
      else if r.2 < n then search ranges n steps (mid + 1) hi
      else true
    else false

/-- Is the character in the table? -/
def contains (t : RangeTable) (c : Char) : Bool :=
  search t.ranges c.toNat 32 0 t.ranges.size

end RangeTable

end SecretScan.Unicode
