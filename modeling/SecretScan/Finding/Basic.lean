import SecretScan.Finding.Hit
import SecretScan.Finding.Commit

/-!
# Findings

A finding is a hit together with where it was made: in a file, or in a line that a commit added.
-/

namespace SecretScan

/-- Which scanner made a finding. -/
inductive Origin where
  | file
  | history
  deriving DecidableEq, Repr

namespace Origin

/-- The written name. -/
def name : Origin → String
  | file => "FILE"
  | history => "GIT"

/-- Reads a name, or an object whose only member has the name and the value null. -/
def decode? : Decoder Origin
  | .str s => ofName? s
  | .obj [(some n, .null)] => ofName? n
  | _ => none
where
  ofName? : String → Option Origin
    | "FILE" => some file
    | "GIT" => some history
    | _ => none

end Origin

/-- A hit and where it was made. -/
structure Finding where
  hit : Hit
  path : String
  origin : Origin
  line : Option Nat
  commit : Option Commit
  /-- Is the value to be masked where it is shown? -/
  masked : Bool
  url : Option String
  deriving Repr

namespace Finding

/-- A finding in a file. -/
def inFile (hit : Hit) (path : String) (line : Nat) : Finding :=
  ⟨hit, path, .file, some line, none, false, none⟩

/-- A finding in a line that a commit added. -/
def inCommit (hit : Hit) (path : String) (commit : Commit) : Finding :=
  ⟨hit, path, .history, some commit.line, some commit, false, none⟩

/-- The written form; the fields of the hit stand among those of the finding. -/
def toJson (f : Finding) : Json :=
  .record (f.hit.members ++
    [("file_path", some (.str f.path)), ("scanner_type", some (.str f.origin.name)),
     ("line_number", f.line.map fun n => .int n), ("commit_info", f.commit.map Commit.toJson),
     ("mask", some (.bool f.masked)), ("url", f.url.map .str)])

/-- The names of the fields that are not those of the hit. -/
def ownFields : List (List String) :=
  [["file_path"], ["scanner_type"], ["line_number"], ["commit_info"], ["mask"], ["url"]]

/-- The members of an object that are not among the finding's own fields. They are read before it
is known which of them belong to the hit, so none of them may be a fault. -/
def others (members : List (Option String × Document)) : List (Option String × Document) :=
  members.filter fun m => !(m.1.any fun n => ownFields.any (·.contains n))

/-- Reads a finding. It has to be an object. -/
def decode? : Decoder Finding
  | .obj members => do
    let rest := others members
    if rest.any fun m => m.2.toJson?.isNone then none
    else
      let hit ← Hit.decode? (.obj rest)
      match ← (Document.obj members).slots? ownFields with
      | [path, origin, line, commit, masked, url] =>
        return {
          hit := hit
          path := ← path.required Document.string?
          origin := ← origin.required Origin.decode?
          line := ← line.optional Document.nat64?
          commit := ← commit.optional Commit.decode?
          masked := ← masked.required Document.bool?
          url := ← url.optional Document.string? }
      | _ => none
  | _ => none

end Finding

end SecretScan
