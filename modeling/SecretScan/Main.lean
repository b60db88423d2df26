import SecretScan.CommandLine.Run

/-!
# The program

Runs the command line with the files, the standard input and the clock of the system. It starts
no other program and opens no connection: git and the services count as out of reach.
-/

namespace SecretScan

open CommandLine

/-- The error of the system that an exception stands for. -/
def systemErrorOf : IO.Error → SystemError
  | .noFileOrDirectory _ _ _ => .notFound
  | .permissionDenied _ _ _ => .denied
  | .inappropriateType _ code _ | .noSuchThing _ code _ | .invalidArgument _ code _
  | .resourceExhausted _ code _ | .alreadyExists _ code _ => .code code.toNat
  | .otherError code _ => .code code.toNat
  | _ => .code 5

/-- What a path leads to: a file with its content, or a folder with all that is below it. -/
partial def readEntry (path : String) : IO Entry := do
  let place := (← IO.currentDir) / path
  match (← place.metadata).type with
  | .dir =>
    let entries ← (← place.readDir).toList.mapM fun e => do
      let inner := Path.join path e.fileName
      match (← e.path.symlinkMetadata).type with
      | .symlink | .other => return (e.fileName, Entry.link "")
      | .dir =>
        try return (e.fileName, ← readEntry inner)
        catch _ => return (e.fileName, Entry.folder ⟨false, false⟩ [])
      | .file =>
        try return (e.fileName, ← readEntry inner)
        catch _ => return (e.fileName, Entry.file ⟨false, false⟩ [])
    return .folder {} entries
  | _ => return .file {} (← IO.FS.readBinFile place).toList

/-- What a path leads to, or the error of the system. -/
def entryAt (path : String) : IO (Except SystemError Entry) := do
  if path = "" then return .error .notFound
  try return .ok (← readEntry path)
  catch e => return .error (systemErrorOf e)

/-- All that is left of a stream, behind what has been read. -/
partial def readRest (stream : IO.FS.Stream) (before : ByteArray) : IO ByteArray := do
  let piece ← stream.read 65536
  if piece.isEmpty then return before else readRest stream (before ++ piece)

/-- The time of day, taken from a file that is made for it. -/
def timeOfDay : IO Timestamp := do
  let (_, path) ← IO.FS.createTempFile
  let time := (← path.metadata).modified
  IO.FS.removeFile path
  return .ofUnix time.sec time.nsec.toNat

/-- The system as the surroundings of a run. -/
def system : Surroundings IO where
  build := .checked
  entryAt := entryAt
  input := return (← readRest (← IO.getStdin) .empty).toList
  git _ _ := return .error .notFound
  clone _ _ := return .notStarted .notFound
  cloneFolder := "."
  ask _ _ := return .error (.connection "no connection")
  today := timeOfDay
  clock := IO.monoNanosNow
  colours := false

end SecretScan

/-- Runs the program with the words of its command line. -/
def main (words : List String) : IO UInt32 := do
  let left ← SecretScan.CommandLine.Run.program SecretScan.system words
  for entry in left.journal do
    IO.eprintln entry.line
  IO.print left.output
  IO.eprint left.errors
  return left.code.toUInt32
