import SecretScan.Json.Document
import SecretScan.Decimal.Digits
import SecretScan.Decimal.Power
import SecretScan.Text.Utf8

/-!
# Reading JSON

The reader takes a list of characters and gives a document, or nothing if the text is ill formed.
Lists and objects may nest to a depth of 127; what lies deeper is a fault. Bytes are read without
asking first that all of them are UTF-8: only a string that is looked at has to be.
-/

namespace SecretScan.Json

open SecretScan.Decimal

/-- The characters that may stand between the parts of a text. -/
def isGap (c : Char) : Bool := c == ' ' || c == '\n' || c == '\t' || c == '\r'

/-- The text from its next part on. -/
def dropGap (text : List Char) : List Char := text.dropWhile isGap

/-- How deep lists and objects may nest. -/
def maxDepth : Nat := 127

/-! ## Numbers -/

/-- The largest number that is kept whole. -/
def maxWhole : Nat := Decimal.twoTo 64 - 1

/-- Digits of a number as they are read: the value of those that fit in 64 bits, how many more
stood before the point, and how many of those taken stood behind it. -/
structure Digits where
  value : Nat
  dropped : Nat
  places : Nat
  full : Bool
  deriving DecidableEq, Repr

/-- Takes digits before the point. Once a digit does not fit, all later ones are only counted. -/
def Digits.whole (d : Digits) : List Char → Digits
  | [] => d
  | c :: rest =>
    let v := 10 * d.value + digitValue c
    if d.full || maxWhole < v then
      Digits.whole { d with dropped := d.dropped + 1, full := true } rest
    else Digits.whole { d with value := v } rest

/-- Takes digits behind the point, as long as they fit. -/
def Digits.fraction (d : Digits) : List Char → Digits
  | [] => d
  | c :: rest =>
    let v := 10 * d.value + digitValue c
    if maxWhole < v then d else Digits.fraction { d with value := v, places := d.places + 1 } rest

/-- `value · 10 ^ exponent` by one multiplication or division, none if it is not finite. Divisors
that have no finite value are split. -/
def scale (value : Float) (exponent : Int) : Option Float :=
  if 0 ≤ exponent then
    if exponent ≤ 308 then
      let x := value * Float.ofScientific 1 false exponent.toNat
      if x.isInf then none else some x
    else if value == 0.0 then some value
    else none
  else
    let small := (-exponent).toNat
    some (divide small (small / 308 + 1) value)
where
  divide (left : Nat) : Nat → Float → Float
    | 0, x => x
    | fuel + 1, x =>
      if left ≤ 308 then x / Float.ofScientific 1 false left
      else if x == 0.0 then x
      else divide (left - 308) fuel (x / 1e308)

/-- A number with a point or an exponent. -/
def floatOf (negative : Bool) (d : Digits) (exponent : Int) : Document :=
  match scale d.value.toUInt64.toFloat exponent with
  | some x => .float (if negative then -x else x)
  | none => .fault

/-- A number without point and exponent: whole if it fits in 64 bits. -/
def wholeOf (negative : Bool) (d : Digits) : Document :=
  if d.full then floatOf negative d d.dropped
  else if !negative then .int d.value
  else if d.value = 0 || Decimal.twoTo 63 < d.value then .float (-d.value.toUInt64.toFloat)
  else .int (-(d.value : Int))

/-- Reads an exponent, behind its letter: its sign and digits. -/
def readExponent (text : List Char) : Option (Bool × Nat × List Char) :=
  let (negative, text) :=
    match text with
    | '-' :: rest => (true, rest)
    | '+' :: rest => (false, rest)
    | _ => (false, text)
  match text.span isDigit with
  | ([], _) => none
  | (digits, rest) => some (negative, valueOf digits, rest)

/-- The exponent of ten that digits, and an exponent written behind them, amount to. -/
def floatWithExponent (negative : Bool) (d : Digits) (minus : Bool) (exponent : Nat) : Document :=
  let shift : Int := (d.dropped : Int) - d.places
  if exponent ≤ 2147483647 then
    floatOf negative d (if minus then shift - exponent else shift + exponent)
  else if d.value ≠ 0 && !minus then .fault
  else .float (if negative then -0.0 else 0.0)

/-- Reads what may follow the digits before the point. -/
def readNumberTail (negative : Bool) (d : Digits) (text : List Char) :
    Option (Document × List Char) :=
  match text with
  | '.' :: rest =>
    match rest.span isDigit with
    | ([], _) => none
    | (digits, rest) =>
      let d := d.fraction digits
      match rest with
      | 'e' :: rest | 'E' :: rest =>
        (readExponent rest).map fun (minus, e, rest) => (floatWithExponent negative d minus e, rest)
      | _ => some (floatOf negative d ((d.dropped : Int) - d.places), rest)
  | 'e' :: rest | 'E' :: rest =>
    (readExponent rest).map fun (minus, e, rest) => (floatWithExponent negative d minus e, rest)
  | _ => some (wholeOf negative d, text)

/-- Reads a number behind its sign. A leading zero stands alone. -/
def readNumber (negative : Bool) (text : List Char) : Option (Document × List Char) :=
  match text with
  | '0' :: rest =>
    match rest with
    | c :: _ => if isDigit c then none else readNumberTail negative ⟨0, 0, 0, false⟩ rest
    | [] => readNumberTail negative ⟨0, 0, 0, false⟩ rest
  | _ =>
    match text.span isDigit with
    | ([], _) => none
    | (digits, rest) => readNumberTail negative (Digits.whole ⟨0, 0, 0, false⟩ digits) rest

/-! ## Strings -/

/-- Value of a hexadecimal digit. -/
def hexValue? (c : Char) : Option Nat :=
  if isDigit c then some (digitValue c)
  else if 'a' ≤ c && c ≤ 'f' then some (c.toNat - 0x57)
  else if 'A' ≤ c && c ≤ 'F' then some (c.toNat - 0x37)
  else none

/-- Reads four hexadecimal digits. -/
def readHex4 : List Char → Option (Nat × List Char)
  | a :: b :: c :: d :: rest =>
    match hexValue? a, hexValue? b, hexValue? c, hexValue? d with
    | some a, some b, some c, some d => some (a * 4096 + b * 256 + c * 16 + d, rest)
    | _, _, _, _ => none
  | _ => none

/-- The character of a one-letter escape. -/
def escaped? (c : Char) : Option Char :=
  match c with
  | '"' => some '"'
  | '\\' => some '\\'
  | '/' => some '/'
  | 'b' => some (Char.ofNat 8)
  | 'f' => some (Char.ofNat 12)
  | 'n' => some '\n'
  | 'r' => some '\r'
  | 't' => some '\t'
  | _ => none

/-- Reads a string behind its first quote. `taken` holds what was read so far, latest first, and
is `none` once a surrogate without its partner has been met. -/
def readString : (bound : Nat) → (taken : Option (List Char)) → List Char →
    Option (Option String × List Char)
  | 0, _, _ => none
  | _ + 1, _, [] => none
  | bound + 1, taken, c :: rest =>
    if c = '"' then some (taken.map fun t => String.ofList t.reverse, rest)
    else if c.toNat < 32 then none
    else if c = '\\' then
      match rest with
      | 'u' :: rest =>
        match readHex4 rest with
        | none => none
        | some (n, rest) =>
          if 0xD800 ≤ n && n < 0xDC00 then
            match rest with
            | '\\' :: 'u' :: after =>
              match readHex4 after with
              | none => none
              | some (m, after) =>
                if 0xDC00 ≤ m && m < 0xE000 then
                  let c := Char.ofNat (0x10000 + (n - 0xD800) * 0x400 + (m - 0xDC00))
                  readString bound (taken.map (c :: ·)) after
                else readString bound none rest
            | _ => readString bound none rest
          else if 0xDC00 ≤ n && n < 0xE000 then readString bound none rest
          else readString bound (taken.map (Char.ofNat n :: ·)) rest
      | e :: rest =>
        match escaped? e with
        | none => none
        | some c => readString bound (taken.map (c :: ·)) rest
      | [] => none
    else readString bound (taken.map (c :: ·)) rest

/-! ## Values -/

/-- A list or object inside `level` others. -/
def nested (level : Nat) (d : Document) : Document :=
  if level < maxDepth then d else .fault

mutual

/-- Reads a value whose first character is next, inside `level` lists and objects. -/
def readValue : (fuel level : Nat) → List Char → Option (Document × List Char)
  | 0, _, _ => none
  | fuel + 1, level, text =>
    match text with
    | 'n' :: 'u' :: 'l' :: 'l' :: rest => some (.null, rest)
    | 't' :: 'r' :: 'u' :: 'e' :: rest => some (.bool true, rest)
    | 'f' :: 'a' :: 'l' :: 's' :: 'e' :: rest => some (.bool false, rest)
    | '"' :: rest =>
      (readString fuel (some []) rest).map fun (s, rest) => ((s.map .str).getD .fault, rest)
    | '[' :: rest =>
      match dropGap rest with
      | ']' :: rest => some (nested level (.arr []), rest)
      | rest =>
        (readItems fuel (level + 1) [] rest).map fun (items, rest) =>
          (nested level (.arr items), rest)
    | '{' :: rest =>
      match dropGap rest with
      | '}' :: rest => some (nested level (.obj []), rest)
      | rest =>
        (readMembers fuel (level + 1) [] rest).map fun (members, rest) =>
          (nested level (.obj members), rest)
    | '-' :: rest => readNumber true rest
    | _ => readNumber false text

/-- Reads items from the beginning of one to the end of the list; `done` are those before it. -/
def readItems : (fuel level : Nat) → List Document → List Char →
    Option (List Document × List Char)
  | 0, _, _, _ => none
  | fuel + 1, level, done, text =>
    match readValue fuel level text with
    | none => none
    | some (d, rest) =>
      match dropGap rest with
      | ']' :: rest => some ((d :: done).reverse, rest)
      | ',' :: rest => readItems fuel level (d :: done) (dropGap rest)
      | _ => none

/-- Reads members from the beginning of one to the end of the object. -/
def readMembers : (fuel level : Nat) → List (Option String × Document) → List Char →
    Option (List (Option String × Document) × List Char)
  | 0, _, _, _ => none
  | fuel + 1, level, done, text =>
    match text with
    | '"' :: rest =>
      match readString fuel (some []) rest with
      | none => none
      | some (name, rest) =>
        match dropGap rest with
        | ':' :: rest =>
          match readValue fuel level (dropGap rest) with
          | none => none
          | some (d, rest) =>
            match dropGap rest with
            | '}' :: rest => some (((name, d) :: done).reverse, rest)
            | ',' :: rest => readMembers fuel level ((name, d) :: done) (dropGap rest)
            | _ => none
        | _ => none
    | _ => none

end

/-- The document of a text; none if the text is ill formed. -/
def readDocument? (text : List Char) : Option Document :=
  match readValue (2 * text.length + 2) 0 (dropGap text) with
  | none => none
  | some (d, rest) => if (dropGap rest).isEmpty then some d else none

/-- The JSON value of a text. -/
def parse? (text : List Char) : Option Json :=
  (readDocument? text).bind Document.toJson?

/-! ## Bytes -/

/-- What stands for bytes that are not UTF-8. In a string the surrogate without its partner makes
the string a fault; the character in front of it keeps it apart from a backslash, and makes the text
ill formed anywhere else. -/
def illFormed : List Char := [Char.ofNat 0xFFFD, '\\', 'u', 'd', 'c', '0', '0']

/-- The text of a character, or of a part that is none. -/
def unitText : Option Char → List Char
  | some c => [c]
  | none => illFormed

/-- The text of bytes. -/
def textOf (bytes : List UInt8) : List Char := (Text.Utf8.units bytes).flatMap unitText

/-- The document of bytes; none if they are ill formed. A string that is not UTF-8 is a fault. -/
def readBytes? (bytes : List UInt8) : Option Document := readDocument? (textOf bytes)

end SecretScan.Json
