import SecretScan.Text.Basic

/-!
# JSON values

A value is canonical when the members of every object are sorted by name and no name occurs
twice. `Json.ofMembers` builds such objects; a later member replaces an earlier one of its name.
-/

namespace SecretScan

/-- A JSON value. Whole numbers and others are told apart. -/
inductive Json where
  | null
  | bool (b : Bool)
  | int (n : Int)
  | float (x : Float)
  | str (s : String)
  | arr (items : List Json)
  | obj (members : List (String × Json))
  deriving Repr, Inhabited

namespace Json

/-- Adds a member to sorted ones, or replaces the member of that name. -/
def insertMember {α : Type} (name : String) (value : α) : List (String × α) → List (String × α)
  | [] => [(name, value)]
  | (n, v) :: rest =>
    if name < n then (name, value) :: (n, v) :: rest
    else if name = n then (name, value) :: rest
    else (n, v) :: insertMember name value rest

/-- The members sorted by name, the last of each name kept. -/
def sortedMembers {α : Type} (members : List (String × α)) : List (String × α) :=
  members.foldl (fun sorted (n, v) => insertMember n v sorted) []

/-- An object of these members. -/
def ofMembers (members : List (String × Json)) : Json :=
  obj (sortedMembers members)

/-- A record: an object of those members that are present, in the order of its fields. -/
def record (fields : List (String × Option Json)) : Json :=
  obj (fields.filterMap fun (n, v) => v.map fun v => (n, v))

/-- The text of a string. -/
def string? : Json → Option String
  | str s => some s
  | _ => none

/-- A string value, or null. -/
def ofString? : Option String → Json
  | some s => str s
  | none => null

/-- A natural number, or null. -/
def ofNat? : Option Nat → Json
  | some n => int n
  | none => null

/-- A list of strings. -/
def strings (ss : List String) : Json := arr (ss.map str)

mutual

/-- How deep lists and objects nest. -/
def depth : Json → Nat
  | arr items => 1 + depthItems items
  | obj members => 1 + depthMembers members
  | _ => 0

/-- The deepest of several values. -/
def depthItems : List Json → Nat
  | [] => 0
  | v :: rest => max (depth v) (depthItems rest)

/-- The deepest of the values of several members. -/
def depthMembers : List (String × Json) → Nat
  | [] => 0
  | (_, v) :: rest => max (depth v) (depthMembers rest)

end

end Json

end SecretScan
