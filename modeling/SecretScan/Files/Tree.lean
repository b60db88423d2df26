import SecretScan.SystemError
import SecretScan.Path

/-!
# Trees of files

A file system as a value: folders, files and symbolic links, each with what others may do with
it. Looking something up follows the rules of the system: every folder on the way has to be
passable, and links are followed a limited number of times.
-/

namespace SecretScan

/-- What those who do not own a file or folder may do with it. -/
structure Access where
  read : Bool := true
  /-- For a folder: may what is in it be reached? -/
  pass : Bool := true
  deriving DecidableEq, Repr

/-- Something in a folder. -/
inductive Entry where
  | file (access : Access) (content : List UInt8)
  | folder (access : Access) (entries : List (String × Entry))
  | link (target : String)
  deriving Repr, Inhabited

namespace Entry

/-- An empty folder that is open to all. -/
def emptyFolder : Entry := folder {} []

/-- The entries of a folder; other things have none. -/
def entries : Entry → List (String × Entry)
  | folder _ es => es
  | _ => []

/-- Puts something under a name, in place of what is there. -/
def putIn (name : String) (e : Entry) : List (String × Entry) → List (String × Entry)
  | [] => [(name, e)]
  | (n, f) :: rest => if n = name then (name, e) :: rest else (n, f) :: putIn name e rest

/-- Changes what stands at the end of a path of names; folders on the way are made if missing. -/
def update (change : Option Entry → Entry) : (path : List String) → Option Entry → Entry
  | [], e => change e
  | name :: path, some (folder access es) =>
    folder access (putIn name (update change path (es.lookup name)) es)
  | name :: path, _ => folder {} [(name, update change path none)]

/-- How many links are followed on the way to a file. -/
def maxLinks : Nat := 40

/-- The folder a place is in, from the folders that lead to it, innermost first. -/
abbrev Trail := List Entry

/-- The entries of a folder that may be passed. -/
def inside : Entry → Except SystemError (List (String × Entry))
  | folder access es => if access.pass then .ok es else .error .denied
  | _ => .error .notDirectory

/-- What one part of a path leads to from a place in a folder: the links that may still be
followed, the new place and the folders around it, and the parts that a link stands for. Absolute
paths begin at `top`. -/
def move (top : Trail) (links : Nat) (here : Entry) (around : Trail) :
    Path.Part → Except SystemError (Nat × Trail × List Path.Part)
  | .root => .ok (links, top, [])
  | .here => here.inside.map fun _ => (links, here :: around, [])
  | .up => here.inside.map fun _ => (links, if around.isEmpty then [here] else around, [])
  | .name s =>
    match here.inside with
    | .error e => .error e
    | .ok es =>
      match es.lookup s, links with
      | none, _ => .error .notFound
      | some (link _), 0 => .error .tooManyLinks
      | some (link target), links + 1 => .ok (links, here :: around, Path.parts target)
      | some e, links => .ok (links, e :: here :: around, [])

/-- Finds what stands at the end of parts of a path, beginning in the innermost folder of a trail,
and what is around it. `steps` bounds the parts that may be read. -/
def find (top : Trail) :
    (steps links : Nat) → Trail → List Path.Part → Except SystemError (Trail × Entry)
  | _, _, [], _ => .error .notFound
  | 0, _, _, _ => .error .tooManyLinks
  | _ + 1, _, here :: around, [] => .ok (around, here)
  | steps + 1, links, here :: around, part :: rest =>
    match move top links here around part with
    | .error e => .error e
    | .ok (links, trail, parts) => find top steps links trail (parts ++ rest)

/-- Is it a folder? -/
def isFolder : Entry → Bool
  | folder _ _ => true
  | _ => false

/-- Does the end of the path demand a folder? -/
def demandsFolder (path : String) : Bool :=
  match (Path.rawParts path).getLast? with
  | some [] | some ['.'] => true
  | _ => false

/-- How many parts of paths are read on the way to a file. -/
def maxSteps : Nat := 4096

/-- What a path leads to from the innermost folder of a trail, links being followed, and what is
around it. -/
def resolve (top trail : Trail) (path : String) : Except SystemError (Trail × Entry) :=
  if path = "" then .error .notFound
  else
    match find top maxSteps maxLinks trail (Path.parts path) with
    | .error e => .error e
    | .ok (around, e) =>
      if demandsFolder path && !e.isFolder then .error .notDirectory else .ok (around, e)

/-- What a path leads to below a folder, links being followed. Absolute paths lead nowhere. -/
def lookup (root : Entry) (path : String) : Except SystemError Entry :=
  (resolve [] [root] path).map (·.2)

/-- The content of a file. -/
def content : Entry → Except SystemError (List UInt8)
  | file access bytes => if access.read then .ok bytes else .error .denied
  | folder access _ => if access.read then .error .isDirectory else .error .denied
  | link _ => .error .notFound

end Entry

end SecretScan
