import SecretScan.Json.Basic

/-!
# Documents

A document is what a text in JSON or TOML says, before anything is expected of it: members stand
in the order of the text and may repeat. A part that is well formed but has no value, such as a
number that is too large, is a fault: it does no harm where it is skipped.
-/

namespace SecretScan

/-- A value as it was read. -/
inductive Document where
  | null
  | bool (b : Bool)
  | int (n : Int)
  | float (x : Float)
  | str (s : String)
  | arr (items : List Document)
  /-- A member without a name has a name that is a fault. -/
  | obj (members : List (Option String × Document))
  | fault
  deriving Repr, Inhabited

namespace Document

mutual

/-- The JSON value of a document; none if a part of it is a fault. -/
def toJson? : Document → Option Json
  | null => some .null
  | bool b => some (.bool b)
  | int n => some (.int n)
  | float x => some (.float x)
  | str s => some (.str s)
  | arr items => (toJsonItems? items).map .arr
  | obj members => (toJsonMembers? members).map .ofMembers
  | fault => none

/-- The JSON values of several documents. -/
def toJsonItems? : List Document → Option (List Json)
  | [] => some []
  | d :: rest =>
    match toJson? d, toJsonItems? rest with
    | some v, some vs => some (v :: vs)
    | _, _ => none

/-- The members of an object with their JSON values. -/
def toJsonMembers? : List (Option String × Document) → Option (List (String × Json))
  | [] => some []
  | (n, d) :: rest =>
    match n, toJson? d, toJsonMembers? rest with
    | some n, some v, some vs => some ((n, v) :: vs)
    | _, _, _ => none

end

mutual

/-- A JSON value as a document. -/
def ofJson : Json → Document
  | .null => null
  | .bool b => bool b
  | .int n => int n
  | .float x => float x
  | .str s => str s
  | .arr items => arr (ofJsonItems items)
  | .obj members => obj (ofJsonMembers members)

/-- JSON values as documents. -/
def ofJsonItems : List Json → List Document
  | [] => []
  | v :: rest => ofJson v :: ofJsonItems rest

/-- The members of a JSON object as those of a document. -/
def ofJsonMembers : List (String × Json) → List (Option String × Document)
  | [] => []
  | (n, v) :: rest => (some n, ofJson v) :: ofJsonMembers rest

end

end Document

end SecretScan
