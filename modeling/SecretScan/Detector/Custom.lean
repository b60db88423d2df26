import SecretScan.Pattern.Parser
import SecretScan.Pattern.Search
import SecretScan.Finding.Hit
import SecretScan.Decimal.Digits
import SecretScan.Failure

/-!
# Detectors from a configuration

A configured detector has one or more named patterns, and possibly group keywords, one of which
must then stand a short way before the value. All entries of a configuration are examined before
any is refused, so that every problem is reported at once.
-/

namespace SecretScan

/-- The patterns of a configured detector: one, or several by name. -/
inductive PatternChoice where
  | single (pattern : String)
  | named (patterns : List (String × String))
  deriving DecidableEq, Repr

/-- The patterns by name, sorted; a single one is named `default`. -/
def PatternChoice.variants : PatternChoice → List (String × String)
  | single pattern => [("default", pattern)]
  | named patterns => patterns

/-- A detector as it stands in a configuration, where anything may be missing. -/
structure CustomEntry where
  name : Option String := none
  keywords : Option (List String) := none
  patterns : Option PatternChoice := none
  groupKeywords : List String := []
  deriving DecidableEq, Repr

/-- What is wrong with an entry. -/
inductive CustomProblem where
  | noName
  | noKeywords
  | noPattern
  | emptyPatterns
  | badPattern (variant : String)
  deriving DecidableEq, Repr

/-- The text of a problem. What the program adds to it about a pattern, in the words of the library
that compiles it, is left out. -/
def CustomProblem.message : CustomProblem → String
  | noName => "missing required field `detectorType`"
  | noKeywords => "missing required field `keywords`"
  | noPattern => "missing required field `regex`"
  | emptyPatterns => "`regex` has no patterns"
  | badPattern variant => "regex `" ++ variant ++ "` does not compile"

/-- One named pattern of a configured detector. -/
structure Variant where
  name : String
  pattern : Pattern
  deriving Repr

/-- A detector built from a configuration. -/
structure CustomDetector where
  name : String
  keywords : List String
  variants : List Variant
  deriving Repr

namespace CustomDetector

/-- How many characters may stand between a group keyword and the value. -/
def groupWindow : Nat := 40

/-- The strings without white space around them, those left empty dropped. -/
def trimmedAll (words : List String) : List String :=
  (words.map Text.trimmed).filter (· ≠ "")

/-- The pattern that is searched for: the value as a capture, behind a group keyword if there are
any. -/
def fullPattern (groupKeywords : List String) (pattern : List Char) : List Char :=
  match (trimmedAll groupKeywords).map fun g => Pattern.escape g.toList with
  | [] => '(' :: (pattern ++ [')'])
  | words =>
    "(?i:(?:".toList ++ ['|'].intercalate words ++ "))[\\s\\S]\x7b0,".toList ++
      Decimal.natDigits groupWindow ++ "\x7d?(".toList ++ pattern ++ [')']

/-- A variant with its pattern read, or the problem of it. -/
def readVariant (groupKeywords : List String) (variant : String × String) :
    Except CustomProblem Variant :=
  match Pattern.parse (fullPattern groupKeywords variant.2.toList) with
  | .ok p => .ok ⟨variant.1, p⟩
  | .error _ => .error (.badPattern variant.1)

/-- The problems of an entry, in the order of its fields. -/
def problems (e : CustomEntry) : List CustomProblem :=
  (if Text.trimmed (e.name.getD "") = "" then [.noName] else []) ++
  (if trimmedAll (e.keywords.getD []) = [] then [.noKeywords] else []) ++
  match e.patterns with
  | none => [.noPattern]
  | some choice =>
    (if choice.variants = [] then [.emptyPatterns] else []) ++
      choice.variants.filterMap fun v =>
        match readVariant e.groupKeywords v with
        | .ok _ => none
        | .error p => some p

/-- The variants of an entry whose patterns can be read. -/
def variantsOf (e : CustomEntry) : List Variant :=
  ((e.patterns.map PatternChoice.variants).getD []).filterMap fun v =>
    (readVariant e.groupKeywords v).toOption

/-- The detector of an entry, or its problems. -/
def build (e : CustomEntry) : Except (List CustomProblem) CustomDetector :=
  match problems e with
  | [] => .ok ⟨Text.trimmed (e.name.getD ""), trimmedAll (e.keywords.getD []), variantsOf e⟩
  | ps => .error ps

/-- How an entry is called in messages: by its place, and its name if it has one. -/
def label (index : Nat) (e : CustomEntry) : String :=
  "detectors[" ++ Decimal.ofNat index ++ "]" ++
    match e.name with
    | some n => " (" ++ n ++ ")"
    | none => ""

/-- The problems of all entries from a place on, each behind the label of its entry. -/
def allProblems : (index : Nat) → List CustomEntry → List String
  | _, [] => []
  | index, e :: rest =>
    ((problems e).map fun p => label index e ++ ": " ++ p.message) ++ allProblems (index + 1) rest

/-- The failure for a list of problems. -/
def refusal (problems : List String) : Failure :=
  .configuration ("invalid custom detector configuration:\n  " ++ Text.joined "\n  " problems)

/-- The detectors of all entries, or every problem of every entry. -/
def buildAll (entries : List CustomEntry) : Except Failure (List CustomDetector) :=
  match allProblems 0 entries with
  | [] => .ok (entries.filterMap fun e => (build e).toOption)
  | ps => .error (refusal ps)

/-- What a variant finds in a text: the first capture of its first match. -/
def hitOf? (name : String) (text : List Char) (v : Variant) : Option Hit :=
  ((v.pattern.find? text).bind (·.group? 1)).map fun s =>
    .found name s.text s.start [("variant", .str v.name)]

/-- What the first variant that finds anything finds in a text. -/
def find? (d : CustomDetector) (text : List Char) : Option Hit :=
  d.variants.findSome? (hitOf? d.name text)

end CustomDetector

end SecretScan
