import SecretScan.History.Git
import SecretScan.Engine
import SecretScan.Sink
import SecretScan.ScanOptions
import SecretScan.Gate

/-!
# Scanning history

Every line that a commit has added is looked through by itself. What was found stays found even
if git ends badly; the scan as a whole then fails. If the program breaks down, no scan is left.
-/

namespace SecretScan.History

/-- How many commits a scan has seen, and how many added lines it has looked through. -/
structure Stats where
  commitsSeen : Nat
  linesScanned : Nat
  deriving DecidableEq, Repr

/-- The findings in one added line. -/
def scanLine {m : Type → Type} [Monad m] (e : Engine) (ask : Inquiry m) (verify : Bool)
    (a : AddedLine) : m (List Finding) := do
  let hits ← e.scanText ask verify a.line.toList
  return hits.map fun h => .inCommit h a.path a.commit

/-- The findings in several added lines. -/
def scanLines {m : Type → Type} [Monad m] (e : Engine) (ask : Inquiry m) (verify : Bool)
    (as : List AddedLine) : m (List Finding) := do
  let findings ← as.mapM (scanLine e ask verify)
  return findings.flatten

/-- What a scan of history has done: the added lines, the findings in them, the text that git wrote
for its user, and the counts or the failure. -/
structure Scan where
  added : List AddedLine
  findings : List Finding
  notes : String
  result : Except Failure Stats

/-- The text that a program wrote for its user; none if it is not UTF-8. -/
def notesOf (errors : List UInt8) : String :=
  match Text.Utf8.decode? errors with
  | some text => String.ofList (Text.trim text)
  | none => ""

/-- The counts of a run of git, or the failure if it ended badly. -/
def resultOf (command : String) (run : Git.Run) (stats : Stats) : Except Failure Stats :=
  if run.status.isSuccess then .ok stats
  else .error
    (.subprocess command ("exited with " ++ run.status.text ++ ": " ++ notesOf run.errors))

/-- A scan that never came about. -/
def Scan.failed (f : Failure) : Scan := ⟨[], [], "", .error f⟩

/-- Reads the log that a run of git has left, once there are permits for it. -/
def readLog (b : Build) (o : ScanOptions) (run : Git.Run) :
    Except Failure (DiffParser × List (Option AddedLine)) := do
  let _ ← permitsFor o.maxPendingLines
  (DiffParser.new o.exclusions.paths).feedAll? b (Git.linesOf run.output)

/-- Scans the log of a range, from what the run of git has left. The error is that the program has
broken down. -/
def scan {m : Type → Type} [Monad m] (b : Build) (e : Engine) (ask : Inquiry m) (o : ScanOptions)
    (range : Git.Range) (run : Except SystemError Git.Run) : m (Except Failure Scan) :=
  let command := Git.commandLine (Git.logArguments range)
  match run with
  | .error err => return .ok (.failed (.subprocess command err.message))
  | .ok run =>
    match readLog b o run with
    | .error f => return .error f
    | .ok (parser, outputs) => do
      let added := outputs.filterMap id
      let findings ← scanLines e ask o.verify added
      return .ok ⟨added, findings, notesOf run.errors,
        resultOf command run ⟨parser.commitsSeen, added.length⟩⟩

end SecretScan.History
