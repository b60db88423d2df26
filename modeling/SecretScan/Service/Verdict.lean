import SecretScan.Finding.Hit

/-!
# Verdicts

What a service answers when it is asked whether it accepts a key.
-/

namespace SecretScan

/-- A definite answer about a key. -/
structure Verdict where
  valid : Bool
  service : String
  error : Option String
  details : Details
  deriving Repr

namespace Verdict

/-- The key is accepted. -/
def accepted (service : String) (details : Details) : Verdict := ⟨true, service, none, details⟩

/-- The key is rejected. -/
def rejected (service reason : String) : Verdict := ⟨false, service, some reason, []⟩

/-- The written form. -/
def toJson (v : Verdict) : Json :=
  .obj [("valid", .bool v.valid), ("key_type", .str v.service),
    ("error", .ofString? v.error), ("metadata", .ofMembers v.details)]

/-- Reads a verdict. -/
def decode? : Decoder Verdict := fun d => do
  match ← d.slots? [["valid"], ["key_type"], ["error"], ["metadata"]] with
  | [valid, service, error, details] =>
    return {
      valid := ← valid.required Document.bool?
      service := ← service.required Document.string?
      error := ← error.optional Document.string?
      details := ← details.required Document.jsonMap? }
  | _ => none

end Verdict

end SecretScan
