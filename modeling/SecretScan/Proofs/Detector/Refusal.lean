import SecretScan.Proofs.Detector.Acceptance
import SecretScan.Proofs.Detector.Builtin

/-!
# All configured detectors or none

Every entry of a configuration is examined by itself, field by field and pattern by pattern,
whatever is wrong with the others. If nothing is wrong with any of them, each has its detector;
otherwise there is no detector at all, and all that is wrong is told together.
-/

namespace SecretScan

namespace Pattern

theorem valid_iff_isOk {text : List Char} : Valid text ↔ (parse text).isOk = true := by
  rw [Valid]
  cases parse text <;> simp [Except.isOk, Except.toBool]

instance : DecidablePred Valid := fun _ => decidable_of_iff _ valid_iff_isOk.symm

end Pattern

namespace CustomDetector

open Pattern

variable {e : CustomEntry} {p : CustomProblem}

/-! ## What is wrong with an entry -/

/-- What can be wrong with an entry: a field is missing or blank, or a pattern is none in the place
where it is searched for. -/
inductive Fault (e : CustomEntry) : CustomProblem → Prop
  | noName (h : ∀ name ∈ e.name, Text.trimmed name = "") : Fault e .noName
  | noKeywords (h : ∀ words ∈ e.keywords, ∀ word ∈ words, Text.trimmed word = "") :
      Fault e .noKeywords
  | noPattern (h : e.patterns = none) : Fault e .noPattern
  | emptyPatterns {choice : PatternChoice} (h : e.patterns = some choice)
      (hnone : choice.variants = []) : Fault e .emptyPatterns
  | badPattern {choice : PatternChoice} {variant pattern : String} (h : e.patterns = some choice)
      (hmem : (variant, pattern) ∈ choice.variants)
      (hbad : ¬ Valid (fullPattern e.groupKeywords pattern.toList)) : Fault e (.badPattern variant)

/-- The patterns of an entry by name, none if the field is missing. -/
def configured (e : CustomEntry) : List (String × String) :=
  (e.patterns.map PatternChoice.variants).getD []

/-- What is missing in an entry. -/
def missing (e : CustomEntry) : List CustomProblem :=
  (if Text.trimmed (e.name.getD "") = "" then [.noName] else []) ++
    ((if trimmedAll (e.keywords.getD []) = [] then [.noKeywords] else []) ++
      match e.patterns with
      | none => [.noPattern]
      | some choice => if choice.variants = [] then [.emptyPatterns] else [])

/-- All that is wrong with the entries, each problem behind the label of its entry. -/
def report (entries : List CustomEntry) : List String :=
  entries.zipIdx.flatMap fun (e, i) => (problems e).map fun p => label i e ++ ": " ++ p.message

/-- One entry misses everything, one its keywords, and the pattern of one is not closed. -/
example : report [{}, { name := some "second", patterns := some (.single "x") },
      { name := some "third", keywords := some ["t"], patterns := some (.single "(unclosed") }] =
    ["detectors[0]: missing required field `detectorType`",
      "detectors[0]: missing required field `keywords`",
      "detectors[0]: missing required field `regex`",
      "detectors[1] (second): missing required field `keywords`",
      "detectors[2] (third): regex `default` does not compile"] := by
  decide

end CustomDetector

end SecretScan
