import SecretScan.Detector.Basic
import SecretScan.Detector.Builtin
import SecretScan.Detector.Custom

/-!
# The registry of detectors

The detectors of a run in a fixed order, the built-in ones first. A detector is known by its
index.
-/

namespace SecretScan

/-- A built-in or a configured detector. -/
inductive Detector where
  | builtin (d : PatternDetector)
  | custom (d : CustomDetector)
  deriving Repr

namespace Detector

/-- The name of a detector. -/
def name : Detector → String
  | builtin d => d.spec.name
  | custom d => d.name

/-- The keywords of a detector. -/
def keywords : Detector → List String
  | builtin d => d.spec.keywords
  | custom d => d.keywords

/-- The service that can verify what a detector finds; none for configured detectors. -/
def service? : Detector → Option Service
  | builtin d => d.service
  | custom _ => none

/-- Can what the detector finds be verified? -/
def isVerifiable (d : Detector) : Bool := d.service?.isSome

/-- The first hit in a text, without verification. -/
def find? : Detector → List Char → Option Hit
  | builtin d, text => d.find? text
  | custom d, text => d.find? text

/-- The first hit in a text, verified where `verify` says so and it can be. -/
def scan {m : Type → Type} [Monad m] (d : Detector) (ask : Inquiry m) (verify : Bool)
    (text : List Char) : m (Option Hit) :=
  match d with
  | builtin d => d.scan ask verify text
  | custom d => return d.find? text

end Detector

/-- The detectors of a run. -/
structure Registry where
  detectors : List Detector
  deriving Repr

namespace Registry

/-- The built-in detectors, each with the service of its name. -/
def builtin : Except Failure Registry :=
  match Spec.builtin.mapM fun spec => PatternDetector.ofSpec? spec (Service.named? spec.name) with
  | some ds => .ok ⟨ds.map .builtin⟩
  | none => .error (.pattern "")

/-- The built-in detectors and those of a configuration. -/
def withCustom (entries : List CustomEntry) : Except Failure Registry := do
  let custom ← CustomDetector.buildAll entries
  let registry ← builtin
  return ⟨registry.detectors ++ custom.map .custom⟩

/-- How many detectors there are. -/
def size (r : Registry) : Nat := r.detectors.length

/-- The detector with an index. -/
def get? (r : Registry) (index : Nat) : Option Detector := r.detectors[index]?

end Registry

end SecretScan
