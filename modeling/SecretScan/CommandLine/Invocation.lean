import SecretScan.CommandLine.Reading

/-!
# Invocations

What a run of the program is asked to do, as the words of its command line say.
-/

namespace SecretScan.CommandLine

/-- The arguments of a scan. -/
structure ScanArguments where
  path : String := "."
  git : Bool := false
  changedOnly : Bool := false
  depth : Option Nat := none
  repo : Option String := none
  verify : Bool := false
  mask : Bool := false
  failOnFindings : Bool := false
  format : String := "text"
  config : Option String := none
  deriving DecidableEq, Repr

/-- The arguments of a redaction. -/
structure RedactArguments where
  file : Option String := none
  rules : Option String := none
  cacheSize : Option Nat := none
  config : Option String := none
  deriving DecidableEq, Repr

/-- A command with its arguments. -/
inductive Task where
  | scan (arguments : ScanArguments)
  | redact (arguments : RedactArguments)
  | list (config : Option String)
  deriving DecidableEq, Repr

/-- What a run is asked to do, and whether it is to tell more of its progress. -/
structure Invocation where
  task : Task
  verbose : Bool
  deriving DecidableEq, Repr

namespace Given

/-- Was the argument given? -/
def has (g : Given) (a : Argument) : Bool := g.any (·.1 = a)

/-- The text of an argument. -/
def text? (g : Given) (a : Argument) : Option String := g.lookup a

/-- The count that an argument gives. -/
def count? (g : Given) (a : Argument) : Option Nat :=
  (g.text? a).bind fun text => (readCount text.toList).toOption

end Given

namespace Invocation

/-- The task that a command and its arguments stand for. -/
def taskOf (g : Given) : Command → Task
  | .scan => .scan {
      path := (Given.text? g .path).getD "."
      git := Given.has g .git
      changedOnly := Given.has g .changedOnly
      depth := Given.count? g .depth
      repo := Given.text? g .repo
      verify := Given.has g .verify
      mask := Given.has g .mask
      failOnFindings := Given.has g .failOnFindings
      format := (Given.text? g .format).getD "text"
      config := Given.text? g .config }
  | .redact => .redact {
      file := Given.text? g .file
      rules := Given.text? g .rules
      cacheSize := Given.count? g .cacheSize
      config := Given.text? g .config }
  | .list => .list (Given.text? g .config)

/-- Reads the words of a command line. -/
def read (words : List String) : Except UsageProblem Invocation := do
  let (before, command, given) ← readTop {} words
  return ⟨taskOf given command, Given.has before .verbose || Given.has given .verbose⟩

end Invocation

end SecretScan.CommandLine
