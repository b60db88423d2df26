import SecretScan.Json.Document

/-!
# Tables of TOML

The tree that a text builds up. A table knows how it came about: by a header or as a value, as a
part of the path of a header, or as a part of a dotted key. What may still be added to it depends
on that.
-/

namespace SecretScan.Toml

/-- How a table came about. -/
inductive TableKind where
  /-- By its own header, or written as a value. -/
  | stated
  /-- As a part of the path of a header. -/
  | implied
  /-- As a part of a dotted key. -/
  | dotted
  deriving DecidableEq, Repr

/-- What stands under a key. -/
inductive Node where
  | value (d : Document)
  | table (kind : TableKind) (entries : List (String × Node))
  /-- A list of tables that headers in double brackets have begun, latest first. -/
  | tables (items : List (List (String × Node)))
  deriving Repr, Inhabited

/-- The entries of a table. -/
abbrev Entries := List (String × Node)

/-- Puts a node under a key, in place of the one there or behind all others. -/
def Entries.put (key : String) (node : Node) : Entries → Entries
  | [] => [(key, node)]
  | (k, n) :: rest => if k = key then (key, node) :: rest else (k, n) :: Entries.put key node rest

/-- Changes the table at the end of a path; the tables on the way that do not exist are made. With
`dotted` the path belongs to a dotted key and may not lead through a table with a header. -/
def Entries.update (dotted : Bool) (change : TableKind → Entries → Option Entries) :
    (path : List String) → TableKind → Entries → Option Entries
  | [], kind, entries => change kind entries
  | key :: path, _, entries =>
    match entries.lookup key with
    | none =>
      let kind := if dotted then TableKind.dotted else .implied
      (Entries.update dotted change path kind []).map fun inner =>
        Entries.put key (.table kind inner) entries
    | some (.value _) => none
    | some (.tables []) => none
    | some (.tables (last :: before)) =>
      (Entries.update dotted change path .stated last).map fun last =>
        Entries.put key (.tables (last :: before)) entries
    | some (.table kind inner) =>
      if dotted && kind = .stated then none
      else (Entries.update dotted change path kind inner).map fun inner =>
        Entries.put key (.table kind inner) entries

/-- Adds a value under a key, which may be dotted. No key may stand twice, and a dotted key may
not add to a table that the path of a header has made. -/
def Entries.addValue (path : List String) (key : String) (node : Node) (entries : Entries) :
    Option Entries :=
  Entries.update true
    (fun kind inner =>
      if !path.isEmpty && kind ≠ .dotted then none
      else if (inner.lookup key).isSome then none
      else some (Entries.put key node inner))
    path .stated entries

/-- Begins the table of a header. Only a table that the path of another header has made may be
there already. -/
def Entries.openTable (path : List String) (key : String) (entries : Entries) : Option Entries :=
  Entries.update false
    (fun _ inner =>
      match inner.lookup key with
      | none => some (Entries.put key (.table .stated []) inner)
      | some (.table .implied there) => some (Entries.put key (.table .stated there) inner)
      | some _ => none)
    path .stated entries

/-- Begins the next table of a list of tables. -/
def Entries.openNext (path : List String) (key : String) (entries : Entries) : Option Entries :=
  Entries.update false
    (fun _ inner =>
      match inner.lookup key with
      | none => some (Entries.put key (.tables [[]]) inner)
      | some (.tables items) => some (Entries.put key (.tables ([] :: items)) inner)
      | some _ => none)
    path .stated entries

/-- Adds a value under a key to the table that a header has begun last. -/
def Entries.addUnder (header : List String) (path : List String) (key : String) (node : Node)
    (entries : Entries) : Option Entries :=
  Entries.update false (fun _ inner => Entries.addValue path key node inner) header .stated entries

mutual

/-- The document of a node. -/
def Node.toDocument : Node → Document
  | .value d => d
  | .table _ entries => .obj (documentsOf entries)
  | .tables items => .arr (tablesOf items)

/-- The members of a table as those of a document. -/
def documentsOf : List (String × Node) → List (Option String × Document)
  | [] => []
  | (k, n) :: rest => (some k, n.toDocument) :: documentsOf rest

/-- The documents of a list of tables, which is kept latest first. -/
def tablesOf : List (List (String × Node)) → List Document
  | [] => []
  | entries :: before => tablesOf before ++ [.obj (documentsOf entries)]

end

end SecretScan.Toml
