import SecretScan.Json.Document
import SecretScan.Decimal.Power

/-!
# Decoding documents

A decoder turns a document into a value of a type, or refuses it. A record may be written as an
object, whose unknown members are skipped and whose known ones may not repeat, or as a list of
its fields in order. `Slot` is what is found in the place of one field.
-/

namespace SecretScan

/-- A decoder for a type. -/
abbrev Decoder (α : Type) := Document → Option α

/-- What stands in the place of a field: nothing in an object, nothing because a list has ended,
or a document. -/
inductive Slot where
  | absent
  | cut
  | given (d : Document)
  deriving Repr

namespace Slot

/-- A field that has to be there. -/
def required {α : Type} (decode : Decoder α) : Slot → Option α
  | given d => decode d
  | _ => none

/-- A field that may be left out of an object, or be null. -/
def optional {α : Type} (decode : Decoder α) : Slot → Option (Option α)
  | absent => some none
  | cut => none
  | given .null => some none
  | given d => (decode d).map some

/-- A field that has a value of its own where it is left out. -/
def defaulted {α : Type} (decode : Decoder α) (value : α) : Slot → Option α
  | given d => decode d
  | _ => some value

/-- A field that may be left out, or be null. -/
def optionalOr {α : Type} (decode : Decoder α) (value : Option α) : Slot → Option (Option α)
  | given .null => some none
  | given d => (decode d).map some
  | _ => some value

end Slot

namespace Document

/-- What an object has for a field that goes by any of these names; none if it stands twice. -/
def slot? (names : List String) (members : List (Option String × Document)) : Option Slot :=
  match members.filter fun m => m.1.any names.contains with
  | [] => some .absent
  | [(_, d)] => some (.given d)
  | _ => none

/-- What a record has for each of its fields. A list may end early but not go on too long. -/
def slots? (fields : List (List String)) : Document → Option (List Slot)
  | obj members =>
    if members.all (·.1.isSome) then fields.mapM fun names => slot? names members else none
  | arr items =>
    if fields.length < items.length then none
    else some (items.map .given ++ List.replicate (fields.length - items.length) .cut)
  | _ => none

/-- A text. -/
def string? : Decoder String
  | str s => some s
  | _ => none

/-- A truth value. -/
def bool? : Decoder Bool
  | bool b => some b
  | _ => none

/-- A whole number within bounds. -/
def within? (low high : Int) : Decoder Int
  | int n => if low ≤ n && n ≤ high then some n else none
  | _ => none

/-- A natural number of at most 64 bits. -/
def nat64? : Decoder Nat := fun d => (d.within? 0 (Decimal.twoTo 64 - 1)).map Int.toNat

/-- A natural number of at most 32 bits. -/
def nat32? : Decoder Nat := fun d => (d.within? 0 (Decimal.twoTo 32 - 1)).map Int.toNat

/-- An integer of 32 bits. -/
def int32? : Decoder Int := fun d => d.within? (-Decimal.twoTo 31) (Decimal.twoTo 31 - 1)

/-- A list. -/
def list? {α : Type} (decode : Decoder α) : Decoder (List α)
  | arr items => items.mapM decode
  | _ => none

/-- A map from names to values, sorted by name; of values of one name the last counts. -/
def map? {α : Type} (decode : Decoder α) : Decoder (List (String × α))
  | obj members =>
    (members.mapM entry?).map Json.sortedMembers
  | _ => none
where
  entry? : Option String × Document → Option (String × α)
    | (some n, d) => (decode d).map fun v => (n, v)
    | (none, _) => none

/-- A map from names to JSON values. -/
def jsonMap? : Decoder (List (String × Json)) := map? toJson?

end Document

end SecretScan
