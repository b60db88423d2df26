import SecretScan.Files.Scan
import SecretScan.History.Scan

/-!
# Scanning files together with their history

The files below a root and, if asked for, a range of its history are scanned at the same time. The
first thing that goes wrong ends both; what was found until then stays found.
-/

namespace SecretScan

/-- A range of history, with what the run of git for it has left. -/
structure Past where
  range : Git.Range
  run : Except SystemError Git.Run

namespace Checkout

/-- How far a scan of files and history came, and the failure that ended it, if any. -/
structure Scan where
  files : Option Files.Scan := none
  history : Option History.Scan := none
  result : Except Failure Unit

/-- What was found. -/
def Scan.findings (s : Scan) : List Finding :=
  (s.files.map (·.findings)).getD [] ++ (s.history.map (·.findings)).getD []

/-- Scans the files below a root, which leads to the given entry. -/
def scanFiles {m : Type → Type} [Monad m] (e : Engine) (ask : Inquiry m) (o : ScanOptions)
    (root : String) (found : Except SystemError Entry) : m Scan := do
  match ← Files.scan e ask o root found with
  | .error f => return { result := .error f }
  | .ok files => return { files := files, result := .ok () }

/-- Scans a range of history after the files, whose scan is given. -/
def scanPast {m : Type → Type} [Monad m] (b : Build) (e : Engine) (ask : Inquiry m)
    (o : ScanOptions) (past : Past) (files : Scan) : m Scan :=
  match files.result with
  | .error _ => return files
  | .ok _ => do
    match ← History.scan b e ask o past.range past.run with
    | .error f => return { files with result := .error f }
    | .ok history =>
      return { files with history := history, result := history.result.map fun _ => () }

/-- Scans files and history. That git could not be started, or that there cannot be enough permits
for its log, shows before a file is looked at. -/
def scan {m : Type → Type} [Monad m] (b : Build) (e : Engine) (ask : Inquiry m) (o : ScanOptions)
    (root : String) (found : Except SystemError Entry) (past : Option Past) : m Scan :=
  match permitsFor o.maxOpenFiles, past with
  | .error f, _ => return { result := .error f }
  | .ok _, none => scanFiles e ask o root found
  | .ok _, some past =>
    match past.run, permitsFor o.maxPendingLines with
    | .ok _, .ok _ => do scanPast b e ask o past (← scanFiles e ask o root found)
    | _, _ => scanPast b e ask o past { result := .ok () }

end Checkout

end SecretScan
