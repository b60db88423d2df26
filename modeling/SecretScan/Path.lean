import SecretScan.Text.Basic

/-!
# Paths

A path is a text whose parts stand between slashes. Empty parts and single dots carry no meaning,
but for a dot at the beginning and for the slash that makes a path absolute.
-/

namespace SecretScan.Path

/-- A part of a path that carries meaning. -/
inductive Part where
  | root
  | here
  | up
  | name (s : String)
  deriving DecidableEq, Repr

/-- The text between the slashes. -/
def rawParts (path : String) : List (List Char) := Text.pieces '/' path.toList

/-- Is the path absolute? -/
def isAbsolute (path : String) : Bool := path.toList.head? == some '/'

/-- The part that a text between slashes stands for; a dot only counts at the beginning. -/
def part? (first : Bool) (raw : List Char) : Option Part :=
  match raw with
  | [] => none
  | ['.'] => if first then some .here else none
  | ['.', '.'] => some .up
  | _ => some (.name (String.ofList raw))

/-- The meaningful parts of a path, behind the root if it is absolute, each with its text. -/
def relativeParts (path : String) : List (Part × List Char) :=
  match rawParts path with
  | [] => []
  | first :: rest =>
    ((part? true first).map fun p => (p, first)).toList ++
      rest.filterMap fun raw => (part? false raw).map fun p => (p, raw)

/-- The parts of a path. -/
def parts (path : String) : List Part :=
  (if isAbsolute path then [.root] else []) ++ (relativeParts path).map (·.1)

/-- The name at the end of a path. -/
def fileName? (path : String) : Option String :=
  match (parts path).getLast? with
  | some (.name s) => some s
  | _ => none

/-- The part of the name behind its last dot, unless the dot comes first. -/
def extension? (path : String) : Option String :=
  match fileName? path with
  | none => none
  | some name =>
    match name.toList.reverse.span (· != '.') with
    | (_, []) | (_, [_]) => none
    | (ext, _ :: _) => some (String.ofList ext.reverse)

/-- A path and what follows it, joined by a slash where one is needed. -/
def join (base name : String) : String :=
  if isAbsolute name || base = "" then name
  else if base.toList.getLast? == some '/' then base ++ name
  else base ++ "/" ++ name

/-- The text between slashes from the first meaningful part to the last. -/
def between (raws : List (Option Part × List Char)) : String :=
  let kept := (raws.dropWhile (·.1.isNone)).reverse.dropWhile (·.1.isNone)
  String.ofList (['/'].intercalate (kept.reverse.map (·.2)))

/-- The texts between slashes, each with the part it stands for. -/
def marked (path : String) : List (Option Part × List Char) :=
  match rawParts path with
  | [] => []
  | first :: rest => (part? true first, first) :: rest.map fun raw => (part? false raw, raw)

/-- The texts that are left when the leading parts agree with those given. -/
def dropParts : List Part → List (Option Part × List Char) →
    Option (List (Option Part × List Char))
  | [], raws => some raws
  | _ :: _, [] => none
  | p :: ps, (none, _) :: raws => dropParts (p :: ps) raws
  | p :: ps, (some q, _) :: raws => if p = q then dropParts ps raws else none

/-- What follows `base` in a path that begins with it, part by part. -/
def dropBase? (base path : String) : Option String :=
  if isAbsolute base != isAbsolute path then
    if base = "" then some path else none
  else
    (dropParts ((relativeParts base).map (·.1)) (marked path)).map between

/-- The path without its last part; a path without a name has none. -/
def parent? (path : String) : Option String :=
  match (relativeParts path).getLast? with
  | none => none
  | some _ =>
    let raws := (marked path).reverse.dropWhile (·.1.isNone)
    let before := ((raws.drop 1).dropWhile (·.1.isNone)).reverse
    let text := String.ofList (['/'].intercalate (before.map (·.2)))
    some (if isAbsolute path && before.isEmpty then "/" else text)

end SecretScan.Path
