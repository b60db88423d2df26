/-!
# UTF-8

Bytes are decoded by a machine that remembers an unfinished sequence. Every ill-formed part
yields one marker: a maximal beginning of a well-formed sequence counts as one part, and so does
each byte that can begin none. Lossy decoding shows a marker as `U+FFFD`; strict decoding fails.
-/

namespace SecretScan.Text.Utf8

/-- An unfinished sequence: the value so far, how many bytes are missing, and the bounds of the
next byte. -/
structure Unfinished where
  value : Nat
  missing : Nat
  low : Nat
  high : Nat
  deriving DecidableEq, Repr

/-- What a byte does where a sequence begins: a finished character, a sequence begun, or neither. -/
inductive Start where
  | char (c : Char)
  | unfinished (u : Unfinished)
  | illFormed
  deriving DecidableEq, Repr

/-- The role of a first byte. The bounds of the second byte exclude overlong forms, surrogates
and values beyond `U+10FFFF`. -/
def start (b : Nat) : Start :=
  if b < 0x80 then .char (Char.ofNat b)
  else if b < 0xC2 then .illFormed
  else if b < 0xE0 then .unfinished ⟨b - 0xC0, 1, 0x80, 0xBF⟩
  else if b < 0xF0 then
    .unfinished ⟨b - 0xE0, 2, if b = 0xE0 then 0xA0 else 0x80, if b = 0xED then 0x9F else 0xBF⟩
  else if b < 0xF5 then
    .unfinished ⟨b - 0xF0, 3, if b = 0xF0 then 0x90 else 0x80, if b = 0xF4 then 0x8F else 0xBF⟩
  else .illFormed

/-- The characters read so far, latest first, `none` for an ill-formed part, and the sequence
that is still unfinished. -/
structure Decoding where
  units : List (Option Char)
  pending : Option Unfinished

/-- Reads a byte at which no sequence is unfinished. -/
def begin (units : List (Option Char)) (b : Nat) : Decoding :=
  match start b with
  | .char c => ⟨some c :: units, none⟩
  | .unfinished u => ⟨units, some u⟩
  | .illFormed => ⟨none :: units, none⟩

/-- Reads one byte. A byte that does not continue an unfinished sequence ends it as ill-formed
and is read afresh. -/
def step (d : Decoding) (byte : UInt8) : Decoding :=
  let b := byte.toNat
  match d.pending with
  | none => begin d.units b
  | some u =>
    if u.low ≤ b && b ≤ u.high then
      let value := u.value * 64 + (b - 0x80)
      if u.missing ≤ 1 then ⟨some (Char.ofNat value) :: d.units, none⟩
      else ⟨d.units, some ⟨value, u.missing - 1, 0x80, 0xBF⟩⟩
    else begin (none :: d.units) b

/-- The characters of the bytes in order, `none` for each ill-formed part. -/
def units (bytes : List UInt8) : List (Option Char) :=
  let d := bytes.foldl step ⟨[], none⟩
  (if d.pending.isSome then none :: d.units else d.units).reverse

/-- The text of the bytes, every ill-formed part shown as `U+FFFD`. -/
def decodeLossy (bytes : List UInt8) : List Char :=
  (units bytes).map (·.getD (Char.ofNat 0xFFFD))

/-- The text of the bytes; `none` if any part of them is ill-formed. -/
def decode? (bytes : List UInt8) : Option (List Char) :=
  let us := units bytes
  if us.all Option.isSome then some (us.filterMap id) else none

/-- The bytes of a text. -/
def encode (text : List Char) : List UInt8 :=
  text.flatMap String.utf8EncodeChar

example : decodeLossy [0x61, 0xE2, 0x82, 0x62, 0xFF] =
    ['a', Char.ofNat 0xFFFD, 'b', Char.ofNat 0xFFFD] := by decide

example : decode? [0xC3, 0xA9] = some [Char.ofNat 0xE9] := by decide

end SecretScan.Text.Utf8
