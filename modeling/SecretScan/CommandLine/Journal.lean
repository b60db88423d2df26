import SecretScan.Checkout
import SecretScan.Remote
import SecretScan.Redaction.Redactor

/-!
# The journal of a run

What a run tells of its progress besides its results. The entries are read off what the parts of
the run have done, so that the scan itself knows nothing of them.
-/

namespace SecretScan.CommandLine

/-- How important an entry is. -/
inductive LogLevel where
  | debug
  | info
  | warn
  deriving DecidableEq, Repr

namespace LogLevel

/-- The word for a level. -/
def name : LogLevel → String
  | debug => "DEBUG"
  | info => "INFO"
  | warn => "WARN"

/-- Is an entry of this level shown? Details only are if asked for. -/
def isShown (verbose : Bool) : LogLevel → Bool
  | debug => verbose
  | _ => true

end LogLevel

/-- An entry of the journal. -/
structure LogEntry where
  level : LogLevel
  text : String
  deriving DecidableEq, Repr

namespace LogEntry

/-- The line for an entry. -/
def line (e : LogEntry) : String := e.level.name ++ " " ++ e.text

end LogEntry

namespace Journal

/-- An entry for those who look for details. -/
def debug (text : String) : LogEntry := ⟨.debug, text⟩

/-- An entry for everyone. -/
def info (text : String) : LogEntry := ⟨.info, text⟩

/-- An entry about something that went wrong without stopping the run. -/
def warn (text : String) : LogEntry := ⟨.warn, text⟩

/-- The prefilter is ready. -/
def ofEngine (e : Engine) : LogEntry :=
  debug ("keyword prefilter built detectors=" ++ Decimal.ofNat e.registry.size ++
    " keywords=" ++ Decimal.ofNat e.prefilter.keywordCount)

/-- The matches of a detector in a text that were passed over as placeholders before its hit. -/
def suppressed (d : PatternDetector) (text : List Char) : List Match :=
  ((d.pattern.findAll text).takeWhile fun m => (d.hitOf? text m).isNone).filter fun m =>
    Text.containsAnyIgnoringCase m.whole.text d.spec.falsePositives

/-- A detector was tried on a text. -/
def ofCandidate (text : List Char) (d : Detector) : List LogEntry :=
  debug ("candidate detector detector=" ++ d.name) ::
    match d with
    | .builtin p =>
      (suppressed p text).map fun _ =>
        debug ("suppressed likely placeholder match detector=" ++ d.name)
    | .custom _ => []

/-- The detectors that the prefilter selects were tried on a text. -/
def ofText (e : Engine) (text : List Char) : List LogEntry :=
  (e.candidates (e.prefilter.select text)).flatMap (ofCandidate text)

/-- What became of an entry of a walk. -/
def ofOutcome (e : Engine) : Files.Outcome → List LogEntry
  | .excluded path => [debug ("excluded " ++ path)]
  | .unlisted path err => [warn ("Skipping unreadable directory " ++ path ++ ": " ++ err.message)]
  | .unknown path err => [warn ("Cannot stat " ++ path ++ ": " ++ err.message)]
  | .unsuitable path => [debug ("skipping " ++ path)]
  | .unreadable path err => [warn ("Failed to read " ++ path ++ ": " ++ err.message)]
  | .binary path => [debug ("skipping binary file " ++ path)]
  | .scanned _ content => ofText e (Files.textOf content)

/-- A scan of files. -/
def ofFiles (e : Engine) (s : Files.Scan) : List LogEntry :=
  s.outcomes.flatMap (ofOutcome e) ++
    [info ("Directory scan finished: " ++ Decimal.ofNat s.stats.scanned ++ " files scanned, " ++
      Decimal.ofNat s.stats.skipped ++ " skipped")]

/-- A scan of history. -/
def ofHistory (e : Engine) (s : History.Scan) : List LogEntry :=
  s.added.flatMap (fun a => ofText e a.line.toList) ++
    match s.result with
    | .error _ => []
    | .ok stats =>
      (if s.notes = "" then [] else [debug ("git stderr: " ++ s.notes)]) ++
        [info ("History scan finished: " ++ Decimal.ofNat stats.commitsSeen ++ " commits, " ++
          Decimal.ofNat stats.linesScanned ++ " added lines")]

/-- A scan of files below a root, and of history if there is a range. -/
def ofCheckout (e : Engine) (root : String) (past : Option Past) (s : Checkout.Scan) :
    List LogEntry :=
  info ("Scanning directory " ++ root) ::
    (match past with
     | some p =>
       [info ("Scanning git history: " ++ Git.commandLine (Git.logArguments p.range))]
     | none => []) ++
    (match s.files with
     | some files => ofFiles e files
     | none => []) ++
    match s.history with
    | some history => ofHistory e history
    | none => []

/-- The scan of a clone has ended well. -/
def ofRemote (files : Nat) (commits : Nat) : LogEntry :=
  debug ("remote scan done files=" ++ Decimal.ofNat files ++ " commits=" ++ Decimal.ofNat commits)

/-- A finding went into the sink. -/
def ofFinding (view : Finding) : LogEntry :=
  debug ("finding emitted detector=" ++ view.hit.detector ++ " path=" ++ view.path)

/-- A service gave no definite answer. -/
def ofInconclusive (s : Service) (f : Failure) : LogEntry :=
  debug ("verification inconclusive detector=" ++ s.name ++ " error=" ++ f.message)

/-- The redaction of a value in which the redacted text is no longer well formed. -/
def ofRedaction (r : Redactor) (v : Json) : List LogEntry :=
  match Redactor.reshape? v (ActiveRule.applyAll r.rules (Redactor.keyOf v)) with
  | some _ => []
  | none => [debug "redacted JSON no longer parses, returning it as text"]

/-- The counts of a redactor. -/
def ofStats (s : RedactionStats) : LogEntry :=
  debug ("redaction cache stats=RedactionStats \x7b hits: " ++ Decimal.ofNat s.hits ++
    ", misses: " ++ Decimal.ofNat s.misses ++ ", entries: " ++ Decimal.ofNat s.entries ++
    ", capacity: " ++ Decimal.ofNat s.capacity ++ " \x7d")

end Journal

end SecretScan.CommandLine
