import SecretScan.Json.Basic
import SecretScan.Decimal.Shortest

/-!
# Writing JSON

The compact form has no blanks; the indented form puts every item and member on a line of its
own, two blanks deeper than what holds it.
-/

namespace SecretScan.Json

open SecretScan.Decimal

/-- A hexadecimal digit, small letters for the values from ten on. -/
def hexChar (n : Nat) : Char := Char.ofNat (if n < 10 then 0x30 + n else 0x57 + n)

/-- How a character stands in a string: quotes, backslashes and control characters are escaped. -/
def escapeChar (c : Char) : List Char :=
  match c with
  | '"' => ['\\', '"']
  | '\\' => ['\\', '\\']
  | '\n' => ['\\', 'n']
  | '\r' => ['\\', 'r']
  | '\t' => ['\\', 't']
  | _ =>
    if c.toNat = 8 then ['\\', 'b']
    else if c.toNat = 12 then ['\\', 'f']
    else if c.toNat < 32 then ['\\', 'u', '0', '0', hexChar (c.toNat / 16), hexChar (c.toNat % 16)]
    else [c]

/-- The written form of a string. -/
def quoted (s : List Char) : List Char :=
  '"' :: (s.flatMap escapeChar ++ ['"'])

/-- The written form of a floating-point number; infinities and the like are written `null`. -/
def floatText (x : Float) : List Char :=
  match Binary.ofFloat? x with
  | some b => b.text
  | none => ['n', 'u', 'l', 'l']

/-- The written form of a value that holds no others. -/
def scalarText : Json → List Char
  | bool true => ['t', 'r', 'u', 'e']
  | bool false => ['f', 'a', 'l', 's', 'e']
  | int n => intDigits n
  | float x => floatText x
  | str s => quoted s.toList
  | _ => ['n', 'u', 'l', 'l']

mutual

/-- The compact form. -/
def render : Json → List Char
  | arr items => '[' :: renderItems items
  | obj members => '{' :: renderMembers members
  | v => scalarText v

/-- The compact form of the items of a list, to its end. -/
def renderItems : List Json → List Char
  | [] => [']']
  | [v] => render v ++ [']']
  | v :: rest => render v ++ ',' :: renderItems rest

/-- The compact form of the members of an object, to its end. -/
def renderMembers : List (String × Json) → List Char
  | [] => ['}']
  | [(n, v)] => quoted n.toList ++ ':' :: (render v ++ ['}'])
  | (n, v) :: rest => quoted n.toList ++ ':' :: (render v ++ ',' :: renderMembers rest)

end

/-- The compact form as a string. -/
def compact (v : Json) : String := String.ofList v.render

/-- A new line, indented `level` steps. -/
def newLine (level : Nat) : List Char := '\n' :: List.replicate (2 * level) ' '

mutual

/-- The indented form, `level` steps deep. -/
def renderIndented (level : Nat) : Json → List Char
  | arr [] => ['[', ']']
  | arr (v :: items) =>
    '[' :: (newLine (level + 1) ++ renderIndented (level + 1) v ++
      renderIndentedItems (level + 1) items ++ newLine level ++ [']'])
  | obj [] => ['{', '}']
  | obj ((n, v) :: members) =>
    '{' :: (newLine (level + 1) ++ quoted n.toList ++ ':' :: ' ' :: renderIndented (level + 1) v ++
      renderIndentedMembers (level + 1) members ++ newLine level ++ ['}'])
  | v => scalarText v

/-- The indented form of the items after the first. -/
def renderIndentedItems (level : Nat) : List Json → List Char
  | [] => []
  | v :: rest =>
    ',' :: (newLine level ++ renderIndented level v ++ renderIndentedItems level rest)

/-- The indented form of the members after the first. -/
def renderIndentedMembers (level : Nat) : List (String × Json) → List Char
  | [] => []
  | (n, v) :: rest =>
    ',' :: (newLine level ++ quoted n.toList ++ ':' :: ' ' :: renderIndented level v ++
      renderIndentedMembers level rest)

end

/-- The indented form as a string. -/
def indented (v : Json) : String := String.ofList (v.renderIndented 0)

end SecretScan.Json
