import SecretScan.Unicode.Category
import SecretScan.Unicode.Property
import SecretScan.Decimal.Digits

/-!
# Quoted text in messages

Text that is shown in a message stands in double quotes, and characters that cannot be seen are
written as escapes.
-/

namespace SecretScan.Text

open SecretScan.Unicode

/-- The categories of characters that cannot be seen. -/
def hiddenCategories : List Category :=
  [.control, .format, .privateUse, .lineSeparator, .paragraphSeparator, .spaceSeparator]

/-- Can the character be seen by itself? -/
def isShown (c : Char) : Bool :=
  if c.toNat < 128 then 0x20 ≤ c.toNat && c.toNat ≠ 0x7F
  else
    Category.all.any (fun g => !hiddenCategories.contains g && g.table.contains c) &&
      !((propertyTable? "graphemeextend").any (·.contains c))

/-- The hexadecimal digits of a number, without leading zeros, in front of `rest`. -/
def hexOnto : (fuel n : Nat) → List Char → List Char
  | 0, _, rest => rest
  | fuel + 1, n, rest =>
    let d := n % 16
    let rest := Char.ofNat (if d < 10 then 0x30 + d else 0x57 + d) :: rest
    if n < 16 then rest else hexOnto fuel (n / 16) rest

/-- How a character stands in quoted text. -/
def showChar (c : Char) : List Char :=
  match c with
  | '"' => ['\\', '"']
  | '\\' => ['\\', '\\']
  | '\n' => ['\\', 'n']
  | '\r' => ['\\', 'r']
  | '\t' => ['\\', 't']
  | _ =>
    if c.toNat = 0 then ['\\', '0']
    else if isShown c then [c]
    else '\\' :: 'u' :: '{' :: hexOnto 6 c.toNat ['}']

/-- Quoted text. -/
def shown (text : String) : String :=
  String.ofList ('"' :: (text.toList.flatMap showChar ++ ['"']))

end SecretScan.Text
