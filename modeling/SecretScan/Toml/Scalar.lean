import SecretScan.Json.Document
import SecretScan.Json.Reader
import SecretScan.Decimal.Digits
import SecretScan.Decimal.Power
import SecretScan.Time.Calendar

/-!
# Scalars of TOML

Strings of the four kinds, numbers, truth values and dates. A reader takes a list of characters
and gives what it has read with the rest of the list.
-/

namespace SecretScan.Toml

open SecretScan.Decimal

/-- Blanks within a line. -/
def isSpace (c : Char) : Bool := c == ' ' || c == '\t'

/-- May the character stand in a comment or a string that is not written with escapes? -/
def isPlain (c : Char) : Bool := c == '\t' || 0x20 ≤ c.toNat && c.toNat ≠ 0x7F

/-- The text behind the end of a line, if one comes next. -/
def newline? : List Char → Option (List Char)
  | '\n' :: rest => some rest
  | '\r' :: '\n' :: rest => some rest
  | _ => none

/-! ## Strings -/

/-- The character of `n` hexadecimal digits. -/
def readCodePoint : (n : Nat) → (value : Nat) → List Char → Option (Char × List Char)
  | 0, v, rest =>
    if v < 0xD800 || 0xDFFF < v && v < 0x110000 then some (Char.ofNat v, rest) else none
  | n + 1, v, c :: rest => (Json.hexValue? c).bind fun d => readCodePoint n (16 * v + d) rest
  | _ + 1, _, [] => none

/-- Reads an escape behind its backslash. -/
def readEscape : List Char → Option (Char × List Char)
  | 'b' :: rest => some (Char.ofNat 8, rest)
  | 't' :: rest => some ('\t', rest)
  | 'n' :: rest => some ('\n', rest)
  | 'f' :: rest => some (Char.ofNat 12, rest)
  | 'r' :: rest => some ('\r', rest)
  | '"' :: rest => some ('"', rest)
  | '\\' :: rest => some ('\\', rest)
  | 'u' :: rest => readCodePoint 4 0 rest
  | 'U' :: rest => readCodePoint 8 0 rest
  | _ => none

/-- Reads a string in double quotes behind the first of them. -/
def readBasic : (bound : Nat) → List Char → List Char → Option (List Char × List Char)
  | 0, _, _ => none
  | _, _, [] => none
  | bound + 1, taken, c :: rest =>
    if c = '"' then some (taken.reverse, rest)
    else if c = '\\' then (readEscape rest).bind fun (e, rest) => readBasic bound (e :: taken) rest
    else if isPlain c then readBasic bound (c :: taken) rest
    else none

/-- Reads a string in single quotes behind the first of them. -/
def readLiteral : List Char → List Char → Option (List Char × List Char)
  | _, [] => none
  | taken, c :: rest =>
    if c = '\'' then some (taken.reverse, rest)
    else if isPlain c then readLiteral (c :: taken) rest
    else none

/-- The text behind the blanks and line ends that follow a backslash at the end of a line; none if
no line ends there. -/
def dropContinuation? (text : List Char) : Option (List Char) :=
  match newline? (text.dropWhile isSpace) with
  | none => none
  | some rest => some (loop rest)
where
  loop : List Char → List Char
    | '\r' :: '\n' :: rest => loop rest
    | c :: rest => if isSpace c || c = '\n' then loop rest else c :: rest
    | [] => []

/-- Reads a string of several lines behind its three quotes. It ends at three quotes that are not
followed by a fourth, or by a fifth. -/
def readLong (quote : Char) : (bound : Nat) → List Char → List Char →
    Option (List Char × List Char)
  | 0, _, _ => none
  | _, _, [] => none
  | bound + 1, taken, c :: rest =>
    if c = quote then
      let run := rest.takeWhile (· == quote)
      let after := rest.drop run.length
      if run.length < 2 then
        readLong quote bound (List.replicate (run.length + 1) quote ++ taken) after
      else if run.length ≤ 4 then
        some ((List.replicate (run.length - 2) quote ++ taken).reverse, after)
      else some ((List.replicate 2 quote ++ taken).reverse, rest.drop 4)
    else if c = '\\' && quote = '"' then
      match dropContinuation? rest with
      | some rest => readLong quote bound taken rest
      | none => (readEscape rest).bind fun (e, rest) => readLong quote bound (e :: taken) rest
    else
      match newline? (c :: rest) with
      | some rest => readLong quote bound ('\n' :: taken) rest
      | none => if isPlain c then readLong quote bound (c :: taken) rest else none

/-- Reads a string of any kind. -/
def readString (text : List Char) : Option (String × List Char) :=
  let result :=
    match text with
    | '"' :: '"' :: '"' :: rest => readLong '"' text.length [] ((newline? rest).getD rest)
    | '\'' :: '\'' :: '\'' :: rest => readLong '\'' text.length [] ((newline? rest).getD rest)
    | '"' :: rest => readBasic text.length [] rest
    | '\'' :: rest => readLiteral [] rest
    | _ => none
  result.map fun (s, rest) => (String.ofList s, rest)

/-! ## Dates and times -/

/-- Reads exactly `n` digits. -/
def readFixed (n : Nat) (text : List Char) : Option (Nat × List Char) :=
  let digits := text.take n
  if digits.length = n && digits.all isDigit then some (valueOf digits, text.drop n) else none

/-- The text behind a mark, if it comes next. -/
def mark? (c : Char) : List Char → Option (List Char)
  | d :: rest => if c = d then some rest else none
  | [] => none

/-- Reads a date. -/
def readDate (text : List Char) : Option (List Char) := do
  let (year, rest) ← readFixed 4 text
  let (month, rest) ← readFixed 2 (← mark? '-' rest)
  let (day, rest) ← readFixed 2 (← mark? '-' rest)
  if Calendar.isDate year month day then some rest else none

/-- Reads a time of day, with places of the second if there are any. -/
def readTime (text : List Char) : Option (List Char) := do
  let (hour, rest) ← readFixed 2 text
  let (minute, rest) ← readFixed 2 (← mark? ':' rest)
  let (second, rest) ← readFixed 2 (← mark? ':' rest)
  if hour < 24 && minute < 60 && second ≤ 60 then
    match rest with
    | '.' :: places =>
      if (places.head?.map isDigit).getD false then some (places.dropWhile isDigit) else some rest
    | _ => some rest
  else none

/-- The text behind an offset, or where it is if none comes next. -/
def dropOffset (text : List Char) : List Char :=
  match text with
  | 'Z' :: rest | 'z' :: rest => rest
  | sign :: rest =>
    if sign = '+' || sign = '-' then
      (do
        let (hour, rest) ← readFixed 2 rest
        let (minute, rest) ← readFixed 2 (← mark? ':' rest)
        if hour < 24 && minute < 60 then some rest else none).getD text
    else text
  | [] => text

/-- Reads a date, a time, or both. -/
def readDateTime (text : List Char) : Option (List Char) :=
  match readDate text with
  | some rest =>
    match rest with
    | c :: after =>
      if c = 'T' || c = 't' || c = ' ' then
        some (((readTime after).map dropOffset).getD rest)
      else some rest
    | [] => some rest
  | none => readTime text

/-! ## Numbers -/

/-- Takes digits of a base, with single underscores between them. -/
def takeDigits (isBase : Char → Bool) (text : List Char) : Option (List Char × List Char) :=
  match text with
  | c :: rest => if isBase c then loop [c] rest else none
  | [] => none
where
  loop : List Char → List Char → Option (List Char × List Char)
    | taken, '_' :: c :: rest => if isBase c then loop (c :: taken) rest else none
    | taken, c :: rest =>
      if isBase c then loop (c :: taken) rest
      else if c = '_' then none
      else some (taken.reverse, c :: rest)
    | taken, [] => some (taken.reverse, [])

/-- The value of digits in a base. -/
def valueIn (base : Nat) (digits : List Char) : Nat :=
  digits.foldl (fun n c => base * n + (Json.hexValue? c).getD 0) 0

/-- An integer, if it fits in 64 bits with sign. -/
def whole? (n : Int) : Option Document :=
  if -(twoTo 63 : Int) ≤ n && n < (twoTo 63 : Int) then some (.int n) else none

/-- Reads an integer that is not written in base ten, behind its first two characters. -/
def readBase (base : Nat) (text : List Char) : Option (Document × List Char) := do
  let inBase (c : Char) : Bool := (Json.hexValue? c).any (· < base)
  let (digits, rest) ← takeDigits inBase text
  return (← whole? (valueIn base digits), rest)

/-- The value of a decimal with an exponent; none if it is too large. -/
def floatOf? (negative : Bool) (digits : List Char) (exponent : Int) : Option Document :=
  let m := valueOf digits
  let x :=
    if 400 < exponent + digits.length && m ≠ 0 then 1.0 / 0.0
    else if exponent + digits.length < -400 || m = 0 then 0.0
    else if 0 ≤ exponent then Float.ofScientific m false exponent.toNat
    else Float.ofScientific m true (-exponent).toNat
  if x.isInf then none else some (.float (if negative then -x else x))

/-- Reads an exponent behind its letter. -/
def readExponent (text : List Char) : Option (Int × List Char) :=
  let (sign, text) : Int × List Char :=
    match text with
    | '-' :: rest => (-1, rest)
    | '+' :: rest => (1, rest)
    | _ => (1, text)
  (takeDigits isDigit text).map fun (digits, rest) => (sign * (valueOf digits : Int), rest)

/-- Reads a number in base ten behind its sign. -/
def readDecimal (negative : Bool) (text : List Char) : Option (Document × List Char) := do
  let (digits, rest) ←
    match text with
    | '0' :: rest => some (['0'], rest)
    | _ => takeDigits isDigit text
  match rest with
  | '.' :: rest => do
    let (places, rest) ← takeDigits isDigit rest
    let (exponent, rest) ←
      match rest with
      | 'e' :: rest | 'E' :: rest => readExponent rest
      | _ => some (0, rest)
    return (← floatOf? negative (digits ++ places) (exponent - places.length), rest)
  | 'e' :: rest | 'E' :: rest => do
    let (exponent, rest) ← readExponent rest
    return (← floatOf? negative digits exponent, rest)
  | _ => return (← whole? (if negative then -(valueOf digits : Int) else valueOf digits), rest)

/-- Reads a number or a date. -/
def readNumber (text : List Char) : Option (Document × List Char) :=
  match readDateTime text with
  | some rest =>
    some (.obj [(some "$__toml_private_datetime",
      .str (String.ofList (text.take (text.length - rest.length))))], rest)
  | none =>
    match text with
    | '0' :: 'x' :: rest => readBase 16 rest
    | '0' :: 'o' :: rest => readBase 8 rest
    | '0' :: 'b' :: rest => readBase 2 rest
    | '+' :: rest => signed false rest
    | '-' :: rest => signed true rest
    | _ => signed false text
where
  signed (negative : Bool) : List Char → Option (Document × List Char)
    | 'i' :: 'n' :: 'f' :: rest => some (.float (if negative then -1.0 / 0.0 else 1.0 / 0.0), rest)
    | 'n' :: 'a' :: 'n' :: rest => some (.float (0.0 / 0.0), rest)
    | text => readDecimal negative text

end SecretScan.Toml
