import SecretScan.Detector.Spec
import SecretScan.Pattern.Parser
import SecretScan.Pattern.Search
import SecretScan.Text.Lowercase
import SecretScan.Text.Entropy
import SecretScan.Service.Basic

/-!
# Detectors for described values

A detector goes through the successive matches of its pattern and reports the first that is not
excluded. Where a service can verify the value it may be asked about it; whatever it answers, the
hit stays, and only gains details.
-/

namespace SecretScan

/-- The second part of a credential, with its pattern read. -/
structure SecondDetector where
  detail : String
  pattern : Pattern
  required : Bool
  deriving Repr

/-- The value of the second part in a text: the first capture of the first match. -/
def SecondDetector.value? (s : SecondDetector) (text : List Char) : Option (List Char) :=
  ((s.pattern.find? text).bind (·.group? 1)).map Span.text

/-- A detector for the values that a description describes. -/
structure PatternDetector where
  spec : Spec
  pattern : Pattern
  second : Option SecondDetector
  /-- The service that can verify a value. -/
  service : Option Service
  deriving Repr

namespace PatternDetector

/-- Reads the patterns of a description; none if one of them is refused. -/
def ofSpec? (spec : Spec) (service : Option Service) : Option PatternDetector := do
  let second ← match spec.second with
    | none => some none
    | some s => (Pattern.ofString? s.pattern).map fun p => some ⟨s.detail, p, s.required⟩
  let pattern ← Pattern.ofString? spec.pattern
  return ⟨spec, pattern, second, service⟩

/-- The stretch of a match that is its value: the first capture, or the whole match. -/
def valueSpan (m : Match) : Span := (m.group? 1).getD m.whole

/-- Is a match free of the texts that exclude it, and its value random enough? -/
def qualifies (spec : Spec) (m : Match) : Bool :=
  !Text.containsAnyIgnoringCase m.whole.text spec.falsePositives &&
    match spec.minEntropy with
    | none => true
    | some least => !(Text.entropy (valueSpan m).text < least)

/-- The details of a hit: the second part, and what follows from the value. -/
def details (spec : Spec) (second : Option (String × List Char)) (value : List Char) : Details :=
  Details.override (match second with | some (n, v) => [(n, .str (String.ofList v))] | none => [])
    (match spec.annotation with | some a => a.details value | none => [])

/-- The second part in a text, under its name; the outer option is none if it is required but
missing. -/
def secondIn? (d : PatternDetector) (text : List Char) : Option (Option (String × List Char)) :=
  match d.second with
  | none => some none
  | some s =>
    match s.value? text with
    | some v => some (some (s.detail, v))
    | none => if s.required then none else some none

/-- The hit that a match amounts to, if it qualifies and no required part is missing. -/
def hitOf? (d : PatternDetector) (text : List Char) (m : Match) : Option Hit :=
  if qualifies d.spec m then
    (d.secondIn? text).map fun second =>
      let value := (valueSpan m).text
      .found d.spec.name value (valueSpan m).start (details d.spec second value)
  else none

/-- The first match in a text that amounts to a hit. -/
def find? (d : PatternDetector) (text : List Char) : Option Hit :=
  (d.pattern.findAll text).findSome? (d.hitOf? text)

/-- A hit after its service has answered: verified if the service accepts the value, and completed
by the details of the answer. A failure leaves it as it was. -/
def annotated (hit : Hit) : Except Failure Verdict → Hit
  | .ok v => { hit with verified := v.valid, details := hit.details.complete v.details }
  | .error _ => hit

/-- The first hit in a text, its service being asked about it where `verify` says so. -/
def scan {m : Type → Type} [Monad m] (d : PatternDetector) (ask : Inquiry m) (verify : Bool)
    (text : List Char) : m (Option Hit) :=
  match d.find? text with
  | none => return none
  | some hit =>
    match verify, d.service, hit.value with
    | true, some service, some value => return some (annotated hit (← ask service value))
    | _, _, _ => return some hit

end PatternDetector

end SecretScan
