import SecretScan.Files.Tree
import SecretScan.Files.Kind
import SecretScan.ScanOptions
import SecretScan.Text.Utf8
import SecretScan.Gate

/-!
# Walking a tree of files

A walk visits what is below a folder and says of every entry what became of it. Counts, findings
and messages of a scan are all read off this list. Links are not followed, excluded folders are
not entered, and nothing that goes wrong with one entry touches the others.
-/

namespace SecretScan.Files

/-- What became of an entry of a walk. -/
inductive Outcome where
  | excluded (path : String)
  /-- A folder that could not be listed. -/
  | unlisted (path : String) (error : SystemError)
  /-- A file about which nothing could be learnt. -/
  | unknown (path : String) (error : SystemError)
  /-- A file that is not worth reading. -/
  | unsuitable (path : String)
  | unreadable (path : String) (error : SystemError)
  /-- A file that is not text. -/
  | binary (path : String)
  | scanned (path : String) (content : List UInt8)
  deriving DecidableEq, Repr

namespace Outcome

/-- Was the file read and looked through? -/
def isScanned : Outcome → Bool
  | scanned _ _ => true
  | _ => false

/-- Is it a file that counts as skipped? -/
def isSkipped : Outcome → Bool
  | unknown _ _ | unsuitable _ | unreadable _ _ | binary _ => true
  | _ => false

end Outcome

/-- What becomes of a file, in a folder that is passable or not. -/
def visitFile (o : ScanOptions) (path : String) (access : Access) (content : List UInt8) :
    Outcome :=
  if !isScannable path content.length o.maxFileSize then .unsuitable path
  else if !access.read then .unreadable path .denied
  else if content.contains 0 then .binary path
  else .scanned path content

mutual

/-- What becomes of an entry of a folder with this path. `passable` tells whether what is in the
folder can be reached. -/
def visit (o : ScanOptions) (root : String) (passable : Bool) (path : String) :
    Entry → List Outcome
  | .link _ =>
      if o.exclusions.excludes (Exclusions.keyOf root path false) then [.excluded path] else []
  | .file access content =>
    if o.exclusions.excludes (Exclusions.keyOf root path false) then [.excluded path]
    else if !passable then [.unknown path .denied]
    else [visitFile o path access content]
  | .folder access entries =>
    if o.exclusions.excludes (Exclusions.keyOf root path true) then [.excluded path]
    else if !passable || !access.read then [.unlisted path .denied]
    else visitAll o root access.pass path entries

/-- What becomes of the entries of a folder. -/
def visitAll (o : ScanOptions) (root : String) (passable : Bool) (folder : String) :
    List (String × Entry) → List Outcome
  | [] => []
  | (name, e) :: rest =>
    visit o root passable (Path.join folder name) e ++ visitAll o root passable folder rest

end

/-- What becomes of everything below the entry that the root of a scan leads to. A file that is
itself the root is not subject to exclusions. -/
def walkEntry (o : ScanOptions) (root : String) : Entry → Except SystemError (List Outcome)
  | .file access content => .ok [visitFile o root access content]
  | .folder access entries =>
    if access.read then .ok (visitAll o root access.pass root entries) else .error .denied
  | .link _ => .error .notFound

/-- What becomes of everything below the root of a scan. -/
def walk (o : ScanOptions) (root : String) (found : Except SystemError Entry) :
    Except SystemError (List Outcome) :=
  found.bind (walkEntry o root)

/-- How many files a scan has looked through, and how many it has skipped. -/
structure Stats where
  scanned : Nat
  skipped : Nat
  deriving DecidableEq, Repr

/-- The counts of a walk. -/
def Stats.of (outcomes : List Outcome) : Stats :=
  ⟨outcomes.countP Outcome.isScanned, outcomes.countP Outcome.isSkipped⟩

/-- The text of a file in which secrets are looked for. -/
def textOf (content : List UInt8) : List Char :=
  Text.trimEnd (Text.Utf8.decodeLossy content)

end SecretScan.Files
