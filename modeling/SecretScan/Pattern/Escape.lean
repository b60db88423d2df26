import SecretScan.Pattern.Basic
import SecretScan.Pattern.Flags
import SecretScan.Pattern.ClassName
import SecretScan.Text.Basic

/-!
# Escapes of the pattern notation

`escape` writes a text as a pattern for just that text. `Primitive.read` reads what follows a
backslash: an escaped character, a code point, a class or a condition.
-/

namespace SecretScan.Pattern

open SecretScan.Unicode

/-- The characters with a meaning of their own in a written pattern. -/
def specialChars : List Char :=
  ['\\', '.', '+', '*', '?', '(', ')', '|', '[', ']', '{', '}', '^', '$', '#', '&', '-', '~']

/-- A text written as a pattern for itself: every special character behind a backslash. -/
def escape (text : List Char) : List Char :=
  text.flatMap fun c => if specialChars.contains c then ['\\', c] else [c]

/-- The smallest unit of a written pattern. -/
inductive Primitive where
  /-- A character; `byte` marks one written as two hexadecimal digits. -/
  | char (c : Char) (byte : Bool)
  | dot
  | look (l : Look)
  | set (s : CharSet)
  deriving Repr

/-- Value of a hexadecimal digit. -/
def hexValue? (c : Char) : Option Nat :=
  if '0' ≤ c && c ≤ '9' then some (c.toNat - 0x30)
  else if 'a' ≤ c && c ≤ 'f' then some (c.toNat - 0x57)
  else if 'A' ≤ c && c ≤ 'F' then some (c.toNat - 0x37)
  else none

/-- The character of a code point, surrogates and values beyond the last one refused. -/
def charOf? (n : Nat) : Except Fault Char :=
  if n < 0xD800 || 0xDFFF < n && n < 0x110000 then .ok (Char.ofNat n) else .error .badCodePoint

/-- Reads exactly `n` hexadecimal digits. -/
def readHexDigits (f : Flags) : (n : Nat) → (value : Nat) → List Char →
    Except Fault (Nat × List Char)
  | 0, value, text => .ok (value, text)
  | _ + 1, _, [] => .error .badEscape
  | n + 1, value, c :: rest =>
    match hexValue? c with
    | none => .error .badEscape
    | some d => readHexDigits f n (16 * value + d) (f.skip rest)

/-- Reads hexadecimal digits up to a closing brace. The text behind the digits read so far comes
with the blanks before it already skipped, so the bound is its length. -/
def readHexBrace (f : Flags) : (bound : Nat) → (value : Option Nat) → List Char →
    Except Fault (Nat × List Char)
  | 0, _, _ => .error .badEscape
  | _, _, [] => .error .badEscape
  | bound + 1, value, c :: rest =>
    if c == '}' then
      match value with
      | none => .error .badEscape
      | some n => .ok (n, f.skip rest)
    else
      match hexValue? c with
      | none => .error .badEscape
      | some d => readHexBrace f bound (some (16 * value.getD 0 + d)) (f.skip rest)

/-- Reads a code point written with `width` digits, or with any number of them in braces. -/
def readCodePoint (f : Flags) (width : Nat) (text : List Char) :
    Except Fault (Primitive × List Char) :=
  match f.skip text with
  | [] => .error .badEscape
  | '{' :: rest => do
    let inner := f.skip rest
    let (n, rest) ← readHexBrace f (inner.length + 1) none inner
    return (.char (← charOf? n) false, rest)
  | text => do
    let (n, rest) ← readHexDigits f width 0 text
    return (.char (← charOf? n) (width == 2), rest)

/-- The name up to a closing brace, blanks being skipped, and what follows the brace. -/
def readBraced (f : Flags) : (bound : Nat) → (name : List Char) → List Char →
    Except Fault (List Char × List Char)
  | 0, _, _ => .error .badEscape
  | _, _, [] => .error .badEscape
  | bound + 1, name, c :: rest =>
    if c == '}' then .ok (name.reverse, rest) else readBraced f bound (c :: name) (f.skip rest)

/-- The class of a name in braces: alone, or a property and a value. The flag tells whether the
two are joined by `!=`. -/
def bracedClass? (name : List Char) : Option CharSet × Bool :=
  match splitUnequal name [] with
  | some (property, value) => (CharSet.valued? property value, true)
  | none =>
    match (Text.cut? ':' name).orElse fun _ => Text.cut? '=' name with
    | some (property, value) => (CharSet.valued? property value, false)
    | none => (CharSet.named? name, false)
where
  splitUnequal : List Char → List Char → Option (List Char × List Char)
    | '!' :: '=' :: value, before => some (before.reverse, value)
    | c :: rest, before => splitUnequal rest (c :: before)
    | [], _ => none

/-- A set as the flags want it: closed under change of case, then complemented, and refused if
without the Unicode flag it has members beyond ASCII. -/
def finishSet (f : Flags) (negated : Bool) (s : CharSet) : Except Fault CharSet :=
  let s := (s.foldedIf f.ignoreCase).negatedIf negated
  if !f.unicode && s.mem (Char.ofNat 0x80) then .error .notUnicode else .ok s

/-- Reads the class that follows `\p` or `\P`. -/
def readProperty (f : Flags) (negated : Bool) (text : List Char) :
    Except Fault (Primitive × List Char) := do
  let (found, unequal, rest) ←
    match f.skip text with
    | [] => .error .badEscape
    | '{' :: rest => do
      let inner := f.skip rest
      let (name, rest) ← readBraced f (inner.length + 1) [] inner
      let (found, unequal) := bracedClass? name
      pure (found, unequal, rest)
    | '\\' :: _ => .error .badEscape
    | c :: rest => pure (CharSet.named? [c], false, rest)
  if !f.unicode then .error .notUnicode
  else
    match found with
    | none => .error .unknownProperty
    | some s => return (.set (← finishSet f (negated != unequal) s), rest)

/-- The class of one of the letters `d`, `s`, `w`. -/
def shorthand (f : Flags) (letter : Char) : CharSet :=
  match letter, f.unicode with
  | 'd', true => .digit
  | 'd', false => .asciiDigit
  | 's', true => .blank
  | 's', false => .asciiBlank
  | _, true => .word
  | _, false => .asciiWord

/-- Reads the name of a condition in braces, as after `\b`. Without a letter at its beginning the
brace is not part of the escape. -/
def readBoundary (f : Flags) (text : List Char) : Except Fault (Look × List Char) :=
  let ascii := !f.unicode
  match text with
  | '{' :: rest =>
    let inner := f.skip rest
    match inner with
    | [] => .error .badEscape
    | c :: _ =>
      if isAsciiLetter c || c == '-' then do
        let (name, rest) ← letters (inner.length + 1) [] inner
        match String.ofList name with
        | "start" => .ok (.wordStart ascii, rest)
        | "end" => .ok (.wordEnd ascii, rest)
        | "start-half" => .ok (.wordStartHalf ascii, rest)
        | "end-half" => .ok (.wordEndHalf ascii, rest)
        | _ => .error .badEscape
      else .ok (.wordBoundary ascii, text)
  | _ => .ok (.wordBoundary ascii, text)
where
  letters : (bound : Nat) → (name : List Char) → List Char →
      Except Fault (List Char × List Char)
    | 0, _, _ => .error .badEscape
    | _, _, [] => .error .badEscape
    | bound + 1, name, c :: rest =>
      if isAsciiLetter c || c == '-' then letters bound (c :: name) (f.skip rest)
      else if c == '}' then .ok (name.reverse, rest)
      else .error .badEscape

/-- Reads what follows a backslash. -/
def Primitive.read (f : Flags) (text : List Char) : Except Fault (Primitive × List Char) :=
  let ascii := !f.unicode
  match text with
  | [] => .error .badEscape
  | c :: rest =>
    match c with
    | 'x' => readCodePoint f 2 rest
    | 'u' => readCodePoint f 4 rest
    | 'U' => readCodePoint f 8 rest
    | 'p' => readProperty f false rest
    | 'P' => readProperty f true rest
    | 'd' | 's' | 'w' => .ok (.set (shorthand f c), rest)
    | 'D' | 'S' | 'W' =>
      if ascii then .error .notUnicode else .ok (.set (.compl (shorthand f c.toLower)), rest)
    | 'a' => .ok (.char (Char.ofNat 7) false, rest)
    | 'f' => .ok (.char (Char.ofNat 0xC) false, rest)
    | 't' => .ok (.char '\t' false, rest)
    | 'n' => .ok (.char '\n' false, rest)
    | 'r' => .ok (.char '\r' false, rest)
    | 'v' => .ok (.char (Char.ofNat 0xB) false, rest)
    | 'A' => .ok (.look .textStart, rest)
    | 'z' => .ok (.look .textEnd, rest)
    | 'b' => (readBoundary f rest).map fun (l, rest) => (.look l, rest)
    | 'B' => .ok (.look (.notWordBoundary ascii), rest)
    | '<' => .ok (.look (.wordStart ascii), rest)
    | '>' => .ok (.look (.wordEnd ascii), rest)
    | _ =>
      if c.toNat < 128 && !isAsciiLetter c && !isAsciiDigit c then .ok (.char c false, rest)
      else .error .badEscape

end SecretScan.Pattern
