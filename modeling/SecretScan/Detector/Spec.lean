import SecretScan.Finding.Hit

/-!
# Descriptions of detectors

A detector is described by the keywords that make a text worth looking at, the pattern of the
values it looks for, and rules that exclude matches or add details to them.
-/

namespace SecretScan

/-- A second value looked for in the same text, for credentials that have two parts. -/
structure SecondPart where
  /-- The name of the detail that holds the value. -/
  detail : String
  /-- Its first capture is the value. -/
  pattern : String
  /-- Without a second part there is no hit. -/
  required : Bool
  deriving DecidableEq, Repr

/-- What the value of a hit tells about itself. -/
structure Annotation where
  /-- The details that follow from a value. -/
  details : List Char → Details
  /-- They are sorted, and no name occurs twice. -/
  inOrder : ∀ value, (details value).Pairwise fun m m' => m.1 < m'.1

instance : Repr Annotation := ⟨fun _ _ => "details of the value"⟩

/-- The description of a detector. -/
structure Spec where
  name : String
  keywords : List String
  /-- Its first capture, where there is one, is the value, and else the whole match. -/
  pattern : String
  second : Option SecondPart := none
  /-- Texts that exclude a match which contains one of them, in any case. -/
  falsePositives : List String := []
  /-- The least entropy of a value. -/
  minEntropy : Option Float := none
  annotation : Option Annotation := none
  deriving Repr

end SecretScan
