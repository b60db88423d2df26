import SecretScan.Unicode.Blank
import SecretScan.Unicode.Digit
import SecretScan.Unicode.Word
import SecretScan.Unicode.CaseMap

/-!
# Sets of characters

What a pattern can ask of one character, as an expression over classes and set operations.
Membership is decided by evaluating the expression, so no set is ever written out.
-/

namespace SecretScan

open SecretScan.Unicode

/-- An expression for a set of characters. -/
inductive CharSet where
  | any
  | single (c : Char)
  | range (low high : Char)
  | digit
  | blank
  | word
  | table (t : RangeTable)
  | union (a b : CharSet)
  | inter (a b : CharSet)
  | diff (a b : CharSet)
  | symmDiff (a b : CharSet)
  | compl (a : CharSet)
  /-- Every character that differs from a member only by case. -/
  | ignoreCase (a : CharSet)
  deriving Repr

namespace CharSet

/-- Is the character in the set? -/
def mem : CharSet → Char → Bool
  | any, _ => true
  | single d, c => c == d
  | range low high, c => low ≤ c && c ≤ high
  | digit, c => isDigit c
  | blank, c => isBlank c
  | word, c => isWord c
  | table t, c => t.contains c
  | union a b, c => a.mem c || b.mem c
  | inter a b, c => a.mem c && b.mem c
  | diff a b, c => a.mem c && !b.mem c
  | symmDiff a b, c => a.mem c != b.mem c
  | compl a, c => !a.mem c
  | ignoreCase a, c => (caseVariants c).any a.mem

/-- The set without members. -/
def nothing : CharSet := compl any

/-- The union of several sets. -/
def unions : List CharSet → CharSet
  | [] => nothing
  | [s] => s
  | s :: rest => union s (unions rest)

/-- The set, or its complement. -/
def negatedIf (s : CharSet) (negated : Bool) : CharSet :=
  if negated then compl s else s

/-- The set, closed under change of case where asked. -/
def foldedIf (s : CharSet) (fold : Bool) : CharSet :=
  if fold then ignoreCase s else s

/-- The digits `0` to `9`. -/
def asciiDigit : CharSet := range '0' '9'

/-- The ASCII letters. -/
def asciiLetter : CharSet := union (range 'a' 'z') (range 'A' 'Z')

/-- The ASCII letters and digits and the underscore. -/
def asciiWord : CharSet := union asciiLetter (union asciiDigit (single '_'))

/-- The ASCII white space: tab to carriage return, and the blank. -/
def asciiBlank : CharSet := union (range '\t' '\r') (single ' ')

/-- How many ranges the set is made of, as a measure of its size. -/
def rangeCount : CharSet → Nat
  | any | single _ | range _ _ => 1
  | digit => decimalRanges.length
  | blank => blankRanges.length
  | word => wordTable.ranges.size
  | table t => t.ranges.size
  | union a b | inter a b | diff a b | symmDiff a b => a.rangeCount + b.rangeCount
  | compl a => a.rangeCount + 1
  | ignoreCase a => 2 * a.rangeCount

end CharSet

end SecretScan
