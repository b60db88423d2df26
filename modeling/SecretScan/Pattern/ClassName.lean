import SecretScan.Pattern.CharSet
import SecretScan.Unicode.Category
import SecretScan.Unicode.Property
import SecretScan.Unicode.Script

/-!
# Named classes

The classes that a pattern names: properties, categories and scripts of characters, and the
ASCII classes of bracketed sets.
-/

namespace SecretScan.CharSet

open SecretScan.Unicode

/-- The form in which names are compared: no case, blanks, hyphens or underscores, and no leading
`is`. -/
def plainName (name : List Char) : String :=
  let (rest, isPrefixed) :=
    match name with
    | a :: b :: rest =>
      if a.toLower == 'i' && b.toLower == 's' then (rest, true) else (name, false)
    | _ => (name, false)
  let plain := (rest.filter fun c => c.toNat < 128 && c != ' ' && c != '_' && c != '-').map
    Char.toLower
  if isPrefixed && plain == ['c'] then "isc" else String.ofList plain

/-- The characters of a list of categories. -/
def ofCategories (cs : List Category) : CharSet :=
  unions (cs.map fun c => table c.table)

/-- The assigned characters. -/
def assigned : CharSet := ofCategories Category.all

/-- The general category, or group of categories, of a plain name. -/
def category? (name : String) : Option CharSet :=
  match name with
  | "any" => some any
  | "ascii" => some (range (Char.ofNat 0) (Char.ofNat 0x7F))
  | "assigned" => some assigned
  | "cn" | "unassigned" => some (compl assigned)
  | "c" | "other" =>
    some (union (ofCategories [.control, .format, .privateUse]) (compl assigned))
  | _ => (Category.named? name).map ofCategories

/-- The class of a name that stands alone: a property, a category or a script. Three names of
categories and scripts are also names of properties and keep their first meaning. -/
def named? (name : List Char) : Option CharSet :=
  let plain := plainName name
  let property := if ["cf", "sc", "lc"].contains plain then none else propertyTable? plain
  (property.map table).or ((category? plain).or ((scriptTable? plain).map table))

/-- The class of a value of a property. -/
def valued? (property value : List Char) : Option CharSet :=
  match plainName property with
  | "gc" | "generalcategory" => category? (plainName value)
  | "sc" | "script" | "scx" | "scriptextensions" => (scriptTable? (plainName value)).map table
  | _ => none

/-- The ASCII class of a name such as `alpha`. -/
def ascii? (name : String) : Option CharSet :=
  match name with
  | "alnum" => some (union asciiLetter asciiDigit)
  | "alpha" => some asciiLetter
  | "ascii" => some (range (Char.ofNat 0) (Char.ofNat 0x7F))
  | "blank" => some (union (single '\t') (single ' '))
  | "cntrl" => some (union (range (Char.ofNat 0) (Char.ofNat 0x1F)) (single (Char.ofNat 0x7F)))
  | "digit" => some asciiDigit
  | "graph" => some (range '!' '~')
  | "lower" => some (range 'a' 'z')
  | "print" => some (range ' ' '~')
  | "punct" =>
      some (unions [range '!' '/', range ':' '@', range '[' (Char.ofNat 0x60), range '{' '~'])
  | "space" => some asciiBlank
  | "upper" => some (range 'A' 'Z')
  | "word" => some asciiWord
  | "xdigit" => some (unions [asciiDigit, range 'a' 'f', range 'A' 'F'])
  | _ => none

end SecretScan.CharSet
