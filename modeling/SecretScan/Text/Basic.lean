import SecretScan.Unicode.Blank

/-!
# Text as a list of characters

Scanned text is a list of characters; offsets into it count bytes of its UTF-8 form. This module
holds searching, cutting and trimming. Functions that walk a whole file keep their result in an
accumulator.
-/

namespace SecretScan.Text

open SecretScan.Unicode

/-- Number of bytes of the UTF-8 form. -/
def byteLength (text : List Char) : Nat :=
  text.foldl (fun n c => n + c.utf8Size) 0

/-- What follows `needle` if the text starts with it. -/
def dropPrefix? : (needle text : List Char) → Option (List Char)
  | [], text => some text
  | _ :: _, [] => none
  | n :: needle, c :: text => if n = c then dropPrefix? needle text else none

/-- Does the text start with `needle`? -/
def startsWith : (needle text : List Char) → Bool
  | [], _ => true
  | _ :: _, [] => false
  | n :: needle, c :: text => n == c && startsWith needle text

/-- Does the text end with `needle`? -/
def endsWith (needle text : List Char) : Bool :=
  startsWith needle.reverse text.reverse

/-- Does `needle` occur in the text, as consecutive characters? -/
def occursIn (needle : List Char) : List Char → Bool
  | [] => needle.isEmpty
  | c :: text => startsWith needle (c :: text) || occursIn needle text

/-- Does the string `needle` occur in the string `text`? -/
def occurs (needle text : String) : Bool :=
  occursIn needle.toList text.toList

/-- Without leading white space. -/
def trimStart (text : List Char) : List Char :=
  text.dropWhile isBlank

/-- Without trailing white space. -/
def trimEnd (text : List Char) : List Char :=
  (text.reverse.dropWhile isBlank).reverse

/-- Without white space at either end. -/
def trim (text : List Char) : List Char :=
  trimEnd (trimStart text)

/-- The string without white space at either end. -/
def trimmed (text : String) : String :=
  String.ofList (trim text.toList)

/-- The pieces between the elements equal to `mark`; one more than there are marks. -/
def pieces {α : Type} [BEq α] (mark : α) (items : List α) : List (List α) :=
  loop items [] []
where
  loop : List α → List α → List (List α) → List (List α)
    | [], piece, done => (piece.reverse :: done).reverse
    | x :: rest, piece, done =>
      if x == mark then loop rest [] (piece.reverse :: done)
      else loop rest (x :: piece) done

/-- The pieces between the marks, without an empty last one: a mark ends a piece. -/
def segments {α : Type} [BEq α] (mark : α) (items : List α) : List (List α) :=
  let all := pieces mark items
  if (all.getLast?.map List.isEmpty).getD false then all.dropLast else all

/-- The part before the first `mark` and the part after it, if there is one. -/
def cut? (mark : Char) (text : List Char) : Option (List Char × List Char) :=
  match text.span (· != mark) with
  | (before, _ :: after) => some (before, after)
  | (_, []) => none

/-- Every occurrence of `old` replaced by `new`. -/
def replaceChar (old new : Char) (text : List Char) : List Char :=
  text.map fun c => if c = old then new else c

/-- ASCII capitals made small, all else kept. -/
def asciiLower (text : String) : String :=
  String.ofList (text.toList.map Char.toLower)

/-- Byte order of strings: the order of their code points. -/
def precedes (a b : String) : Bool :=
  decide (a < b)

/-- The strings joined, with `mark` between each two. -/
def joined (mark : String) (parts : List String) : String :=
  mark.intercalate parts

/-- One-based number of the line that holds byte `offset`; beyond the end, of the last line. -/
def lineNumberAt (text : List Char) (offset : Nat) : Nat :=
  loop text offset 1
where
  loop : List Char → Nat → Nat → Nat
    | [], _, line => line
    | c :: rest, left, line =>
      if left = 0 then line
      else loop rest (left - c.utf8Size) (if c = '\n' then line + 1 else line)

end SecretScan.Text
