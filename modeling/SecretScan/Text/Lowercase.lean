import SecretScan.Text.Basic
import SecretScan.Unicode.CaseMap
import SecretScan.Unicode.CaseContext

/-!
# Lowercase text

Lowercasing works character by character, but for the capital sigma, which has a form of its own
at the end of a word: it is final when a cased letter stands before it and none after it, case
ignorable characters being skipped on both sides.
-/

namespace SecretScan.Text

open SecretScan.Unicode

/-- The Greek capital sigma, `U+03A3`. -/
def capitalSigma : Char := Char.ofNat 0x3A3

/-- Is the nearest character that is not case ignorable a cased one? -/
def casedFirst (text : List Char) : Bool :=
  match text.dropWhile isCaseIgnorable with
  | [] => false
  | c :: _ => isCased c

/-- Lowercase form of `c` between `before`, nearest character first, and `after`. -/
def lowerAt (before : List Char) (c : Char) (after : List Char) : List Char :=
  if c = capitalSigma then
    [if casedFirst before && !casedFirst after then Char.ofNat 0x3C2 else Char.ofNat 0x3C3]
  else lowerChar c

/-- Lowercase form of a text. -/
def lower (text : List Char) : List Char :=
  loop [] text []
where
  /-- `before` holds the characters already read and `done` their lowercase form, both reversed. -/
  loop (before : List Char) : List Char → List Char → List Char
    | [], done => done.reverse
    | c :: rest, done => loop (c :: before) rest ((lowerAt before c rest).reverse ++ done)

/-- Lowercase form of a string. -/
def lowered (text : String) : String :=
  String.ofList (lower text.toList)

/-- Does the lowercase form of one of `needles` occur in the lowercase form of `text`? -/
def containsAnyIgnoringCase (text : List Char) (needles : List String) : Bool :=
  let low := lower text
  needles.any fun n => occursIn (lower n.toList) low

end SecretScan.Text
