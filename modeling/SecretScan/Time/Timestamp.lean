import SecretScan.Time.Calendar
import SecretScan.Decimal.Shortest
import SecretScan.Unicode.Blank
import SecretScan.Json.Decode

/-!
# Timestamps

An instant of universal time, to the nanosecond, with leap seconds. Timestamps are read from the
usual written form, in which blanks are tolerated between the parts, and any offset is allowed;
they are written in universal time, with as many places as are needed, in groups of three.
-/

namespace SecretScan

open SecretScan.Decimal SecretScan.Unicode

/-- An instant of universal time. The second 60 is a leap second. -/
structure Timestamp where
  year : Int
  month : Nat
  day : Nat
  hour : Nat
  minute : Nat
  second : Nat
  nanos : Nat
  deriving DecidableEq, Repr

namespace Timestamp

/-! ## Reading -/

/-- Reads up to `width` digits, at least one. -/
def readDigits (width : Option Nat) (text : List Char) : Option (Nat × List Char) :=
  let digits := text.takeWhile isDigit
  let digits := match width with
    | some w => digits.take w
    | none => digits
  if digits.isEmpty then none else some (valueOf digits, text.drop digits.length)

/-- Reads a number of up to `width` digits behind blanks. -/
def readField (width : Nat) (text : List Char) : Option (Nat × List Char) :=
  readDigits (some width) (text.dropWhile isBlank)

/-- Reads a year behind blanks: four digits, or any number of them behind a sign. -/
def readYear (text : List Char) : Option (Int × List Char) :=
  match text.dropWhile isBlank with
  | '-' :: rest => (readDigits none rest).map fun (n, rest) => (-(n : Int), rest)
  | '+' :: rest => (readDigits none rest).map fun (n, rest) => ((n : Int), rest)
  | text => (readDigits (some 4) text).map fun (n, rest) => ((n : Int), rest)

/-- Reads a mark behind blanks. -/
def readMark (mark : Char) (text : List Char) : Option (List Char) :=
  match text.dropWhile isBlank with
  | c :: rest => if c = mark then some rest else none
  | [] => none

/-- Reads the places of a second, if there are any: nine count and the others are passed over. -/
def readNanos (text : List Char) : Option (Nat × List Char) :=
  match text with
  | '.' :: rest =>
    let digits := rest.takeWhile isDigit
    let taken := digits.take 9
    if digits.isEmpty then none
    else some (valueOf taken * tenTo (9 - taken.length), rest.drop digits.length)
  | _ => some (0, text)

/-- The value of two digits. -/
def twoDigits? : List Char → Option (Nat × List Char)
  | a :: b :: rest =>
    if isDigit a && isDigit b then some (10 * digitValue a + digitValue b, rest) else none
  | _ => none

/-- Reads an offset in minutes: `Z`, `UTC`, or hours and minutes behind a sign. -/
def readOffset (text : List Char) : Option (Int × List Char) :=
  match text with
  | 'Z' :: rest | 'z' :: rest => some (0, rest)
  | a :: b :: c :: rest =>
    if a.toUpper = 'U' && b.toUpper = 'T' && c.toUpper = 'C' then some (0, rest)
    else if a = '+' then behindSign 1 (b :: c :: rest)
    else if a = '-' || a = Char.ofNat 0x2212 then behindSign (-1) (b :: c :: rest)
    else none
  | _ => none
where
  behindSign (sign : Int) (text : List Char) : Option (Int × List Char) := do
    let (hours, rest) ← twoDigits? text
    let (minutes, rest) ← twoDigits? (rest.dropWhile fun c => c == ':' || isBlank c)
    if minutes < 60 && hours < 24 then some (sign * (60 * hours + minutes : Nat), rest) else none

/-- Is the year within the supported range? -/
def isYear (year : Int) : Bool := -262143 ≤ year && year ≤ 262142

/-- The instant with this local time and offset in minutes. -/
def ofLocal? (t : Timestamp) (offset : Int) : Option Timestamp :=
  if isYear t.year && Calendar.isDate t.year t.month t.day &&
      t.hour < 24 && t.minute < 60 && t.second ≤ 60 then
    let minutes := Calendar.dayNumber t.year t.month t.day * 1440 + t.hour * 60 + t.minute - offset
    let (year, month, day) := Calendar.dateOf (minutes / 1440)
    let ofDay := (minutes % 1440).toNat
    if isYear year then
      some { t with year, month, day, hour := ofDay / 60, minute := ofDay % 60 }
    else none
  else none

/-- The instant so many seconds and nanoseconds after the beginning of 1970. -/
def ofUnix (seconds : Int) (nanos : Nat) : Timestamp :=
  let (year, month, day) := Calendar.dateOf (seconds / 86400)
  let ofDay := (seconds % 86400).toNat
  ⟨year, month, day, ofDay / 3600, ofDay / 60 % 60, ofDay % 60, nanos⟩

/-- Reads a timestamp. -/
def parse? (text : List Char) : Option Timestamp := do
  let (year, rest) ← readYear text
  let (month, rest) ← readField 2 (← readMark '-' rest)
  let (day, rest) ← readField 2 (← readMark '-' rest)
  let rest ← match rest with
    | 'T' :: rest | 't' :: rest | ' ' :: rest => some rest
    | _ => none
  let (hour, rest) ← readField 2 rest
  let (minute, rest) ← readField 2 (← readMark ':' rest)
  let (second, rest) ← readField 2 (← readMark ':' rest)
  let (nanos, rest) ← readNanos rest
  let (offset, rest) ← readOffset (rest.dropWhile isBlank)
  if (rest.dropWhile isBlank).isEmpty then
    ofLocal? ⟨year, month, day, hour, minute, second, nanos⟩ offset
  else none

/-- Reads a timestamp from a document. -/
def decode? : Decoder Timestamp := fun d => d.string?.bind fun s => parse? s.toList

/-! ## Writing -/

/-- A number with two digits. -/
def two (n : Nat) : List Char := padLeft '0' 2 (natDigits n)

/-- A year: four digits, behind a sign if it has more or is negative. -/
def yearText (year : Int) : List Char :=
  if 0 ≤ year && year ≤ 9999 then padLeft '0' 4 (natDigits year.toNat)
  else (if year < 0 then '-' else '+') :: padLeft '0' 4 (natDigits year.natAbs)

/-- The places of a second: none, three, six or nine. -/
def nanosText (nanos : Nat) : List Char :=
  if nanos = 0 then []
  else if nanos % 1000000 = 0 then '.' :: padLeft '0' 3 (natDigits (nanos / 1000000))
  else if nanos % 1000 = 0 then '.' :: padLeft '0' 6 (natDigits (nanos / 1000))
  else '.' :: padLeft '0' 9 (natDigits nanos)

/-- The written form. -/
def text (t : Timestamp) : String :=
  String.ofList
    (yearText t.year ++ '-' :: (two t.month ++ '-' :: (two t.day ++ 'T' :: (two t.hour ++
    ':' :: (two t.minute ++ ':' :: (two t.second ++ nanosText t.nanos ++ ['Z']))))))

end Timestamp

end SecretScan
