import SecretScan.Files.Walk
import SecretScan.Engine
import SecretScan.Sink

/-!
# Scanning files

Every file that a walk has read is looked through, and each hit becomes a finding with the path
of the file and the number of its line.
-/

namespace SecretScan.Files

/-- The findings for the hits in a text. -/
def findingsOf (path : String) (text : List Char) (hits : List Hit) : List Finding :=
  hits.map fun h => .inFile h path (Text.lineNumberAt text (h.position.getD 0))

/-- The findings of one outcome of a walk. -/
def scanOutcome {m : Type → Type} [Monad m] (e : Engine) (ask : Inquiry m) (o : ScanOptions) :
    Outcome → m (List Finding)
  | .scanned path content => do
    let text := textOf content
    return findingsOf path text (← e.scanText ask o.verify text)
  | _ => return []

/-- What a scan of files has done: the outcomes of its walk, and the findings. -/
structure Scan where
  outcomes : List Outcome
  findings : List Finding
  deriving Repr

/-- The counts of a scan. -/
def Scan.stats (s : Scan) : Stats := .of s.outcomes

/-- Scans everything below a root, which leads to the given entry. -/
def scan {m : Type → Type} [Monad m] (e : Engine) (ask : Inquiry m) (o : ScanOptions)
    (root : String) (found : Except SystemError Entry) : m (Except Failure Scan) :=
  match permitsFor o.maxOpenFiles, walk o root found with
  | .error f, _ => return .error f
  | _, .error e => return .error (.io e)
  | .ok _, .ok outcomes => do
    let findings ← outcomes.mapM (scanOutcome e ask o)
    return .ok ⟨outcomes, findings.flatten⟩

end SecretScan.Files
