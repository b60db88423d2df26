import SecretScan.Json.Decode

/-!
# Hits

A hit is what one detector reports for one piece of text: the value it found, where, and details
that depend on the detector.
-/

namespace SecretScan

/-- Details of a hit by name, sorted. -/
abbrev Details := List (String × Json)

/-- Adds the details of `more` to those of `base`, whose entries of the same name give way. -/
def Details.override (base more : Details) : Details :=
  more.foldl (fun all (n, v) => Json.insertMember n v all) base

/-- Adds the details of `more` whose names `base` does not have. -/
def Details.complete (base more : Details) : Details :=
  more.foldl
    (fun all (n, v) => if (all.lookup n).isSome then all else Json.insertMember n v all) base

/-- What a detector reports. -/
structure Hit where
  detector : String
  value : Option String
  verified : Bool
  /-- Byte offset of the value in the text. -/
  position : Option Nat
  details : Details
  deriving Repr

namespace Hit

/-- A hit on `value` that has not been verified. -/
def found (detector : String) (value : List Char) (position : Nat) (details : Details) : Hit :=
  ⟨detector, some (String.ofList value), false, some position, details⟩

/-- The members of the written form. Details are left out if there are none. The order in which they
are written is left open by the program; here it is that of their names. -/
def members (h : Hit) : List (String × Option Json) :=
  [("detector_type", some (.str h.detector)),
   ("raw_value", some (.ofString? h.value)),
   ("verified", some (.bool h.verified)),
   ("position", some (.ofNat? h.position)),
   ("extras", if h.details.isEmpty then none else some (.ofMembers h.details))]

/-- The written form. -/
def toJson (h : Hit) : Json := .record h.members

/-- The names of the fields. -/
def fields : List (List String) :=
  [["detector_type"], ["raw_value"], ["verified"], ["position"], ["extras"]]

/-- A hit from what stands in the places of its fields. -/
def ofSlots? : List Slot → Option Hit
  | [detector, value, verified, position, details] => do
    return {
      detector := ← detector.required Document.string?
      value := ← value.optional Document.string?
      verified := ← verified.required Document.bool?
      position := ← position.optional Document.nat64?
      details := ← details.defaulted Document.jsonMap? [] }
  | _ => none

/-- Reads a hit. -/
def decode? : Decoder Hit := fun d => (d.slots? fields).bind ofSlots?

end Hit

end SecretScan
