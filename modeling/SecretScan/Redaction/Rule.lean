import SecretScan.Config.Load
import SecretScan.Pattern.Search

/-!
# Redaction rules

A rule replaces every match of a pattern by a fixed text. Rules are applied one after the other:
those of higher priority first, then those with the longer pattern, then by name.
-/

namespace SecretScan

/-- A rule as it is written. -/
structure RedactionRule where
  pattern : String
  replacement : String
  description : Option String := none
  priority : Int := 0
  deriving DecidableEq, Repr

/-- Rules by name, sorted by name. -/
structure RedactionRules where
  rules : List (String × RedactionRule)
  deriving DecidableEq, Repr

namespace RedactionRule

/-- The written form. A description is left out if there is none. -/
def toJson (r : RedactionRule) : Json :=
  .record [("pattern", some (.str r.pattern)), ("replacement", some (.str r.replacement)),
    ("description", r.description.map .str), ("priority", some (.int r.priority))]

/-- Reads a rule. -/
def decode? : Decoder RedactionRule := fun d => do
  match ← d.slots? [["pattern"], ["replacement"], ["description"], ["priority"]] with
  | [pattern, replacement, description, priority] =>
    return {
      pattern := ← pattern.required Document.string?
      replacement := ← replacement.required Document.string?
      description := ← description.optionalOr Document.string? none
      priority := ← priority.defaulted Document.int32? 0 }
  | _ => none

end RedactionRule

namespace RedactionRules

/-- The rules for addresses, tokens, keys and numbers that apply when no others are given. -/
def standard : RedactionRules where
  rules := Json.sortedMembers [
    ("bearer_token",
      { pattern := r"(?i)\bbearer\s+[A-Za-z0-9._~+/=-]+"
        replacement := "Bearer [REDACTED]"
        description := some "HTTP bearer credentials"
        priority := 20 }),
    ("jwt",
      { pattern := r"\beyJ[A-Za-z0-9_-]+\.[A-Za-z0-9_-]+\.[A-Za-z0-9_-]+"
        replacement := "[REDACTED_JWT]"
        description := some "JSON web tokens"
        priority := 10 }),
    ("ssn",
      { pattern := r"\b\d{3}-\d{2}-\d{4}\b"
        replacement := "[REDACTED_SSN]"
        description := some "US social security numbers"
        priority := 10 }),
    ("aws_access_key_id",
      { pattern := r"\b(?:AKIA|ASIA)[0-9A-Z]{16}\b"
        replacement := "[REDACTED_AWS_KEY]"
        description := some "AWS access key ids"
        priority := 10 }),
    ("credit_card",
      { pattern := r"\b(?:\d{4}[- ]?){3}\d{1,4}\b"
        replacement := "[REDACTED_CARD]"
        description := some "Payment card numbers"
        priority := 5 }),
    ("email",
      { pattern := r"[A-Za-z0-9._%+-]+@[A-Za-z0-9.-]+\.[A-Za-z]{2,}"
        replacement := "[REDACTED_EMAIL]"
        description := some "Email addresses"
        priority := 0 }),
    ("phone",
      { pattern := r"(?:\+?\d{1,3}[-.\s])?\(?\b\d{3}\)?[-.\s]\d{3}[-.\s]\d{4}\b"
        replacement := "[REDACTED_PHONE]"
        description := some "Phone numbers"
        priority := 0 }),
    ("ipv4",
      { pattern := r"\b(?:\d{1,3}\.){3}\d{1,3}\b"
        replacement := "[REDACTED_IP]"
        description := some "IPv4 addresses"
        priority := 0 })]

/-- The written form. -/
def toJson (r : RedactionRules) : Json :=
  .ofMembers [("rules", .ofMembers (r.rules.map fun (n, rule) => (n, rule.toJson)))]

/-- Reads rules. -/
def decode? : Decoder RedactionRules := fun d => do
  match ← d.slots? [["rules"]] with
  | [rules] => return ⟨← rules.defaulted (Document.map? RedactionRule.decode?) []⟩
  | _ => none

/-- Reads a file of rules with this path and content. -/
def load (path : String) (content : Except SystemError (List UInt8)) :
    Except Failure RedactionRules := do
  let text ← Config.fileText content
  match Path.extension? path with
  | some "toml" => Config.ofTomlText decode? text
  | some "json" => Config.ofJsonText decode? text
  | _ =>
    .error (.redactionRules
      ("unsupported rules file " ++ path ++ " (expected .toml or .json)"))

end RedactionRules

/-- A rule ready to be applied. -/
structure ActiveRule where
  name : String
  priority : Int
  /-- The pattern as it is written. -/
  source : String
  pattern : Pattern
  replacement : String
  deriving Repr

namespace ActiveRule

/-- Does the first rule apply before the second? -/
def precedes (a b : ActiveRule) : Bool :=
  if a.priority ≠ b.priority then b.priority < a.priority
  else if a.source.utf8ByteSize ≠ b.source.utf8ByteSize then
    b.source.utf8ByteSize < a.source.utf8ByteSize
  else a.name ≤ b.name

/-- Applies a rule to a text. -/
def apply (r : ActiveRule) (text : List Char) : List Char :=
  r.pattern.replaceAll r.replacement.toList text

/-- Applies rules one after the other. -/
def applyAll (rules : List ActiveRule) (text : List Char) : List Char :=
  rules.foldl (fun t r => r.apply t) text

end ActiveRule

namespace RedactionRules

/-- A rule with its pattern read. The words of the library that compiles patterns, which the program
puts behind the failure, are left out. -/
def activate (name : String) (r : RedactionRule) : Except Failure ActiveRule :=
  match Pattern.parse r.pattern.toList with
  | .ok p => .ok ⟨name, r.priority, r.pattern, p, r.replacement⟩
  | .error _ => .error (.redactionRules ("rule `" ++ name ++ "` has an invalid pattern"))

/-- The rules in the order in which they apply; the first by name whose pattern cannot be read is
the failure. -/
def compile (r : RedactionRules) : Except Failure (List ActiveRule) :=
  (r.rules.mapM fun (n, rule) => activate n rule).map fun rs =>
    List.mergeSort rs ActiveRule.precedes

/-- The standard rules in the order in which they apply. -/
def standardActive : List ActiveRule :=
  match standard.compile with
  | .ok rs => rs
  | .error _ => []

end RedactionRules

end SecretScan
