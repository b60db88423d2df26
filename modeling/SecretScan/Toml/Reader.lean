import SecretScan.Toml.Scalar
import SecretScan.Toml.Table

/-!
# Reading TOML

Keys, values and the lines of a text. A text is read line by line into a tree of tables, which is
then seen as a document.
-/

namespace SecretScan.Toml

open SecretScan.Decimal

/-- How deep lists and tables may nest in a value, and how many parts a key may have. -/
def maxDepth : Nat := 80

/-! ## Keys -/

/-- May the character stand in a key without quotes? -/
def isBare (c : Char) : Bool :=
  'a' ≤ c && c ≤ 'z' || 'A' ≤ c && c ≤ 'Z' || isDigit c || c = '_' || c = '-'

/-- Reads one part of a key. -/
def readKeyPart (text : List Char) : Option (String × List Char) :=
  match text with
  | '"' :: rest =>
    (readBasic text.length [] rest).map fun (s, rest) => (String.ofList s, rest)
  | '\'' :: rest => (readLiteral [] rest).map fun (s, rest) => (String.ofList s, rest)
  | _ =>
    let key := text.takeWhile isBare
    if key.isEmpty then none else some (String.ofList key, text.drop key.length)

/-- Reads a key of one or more parts: the path before its last part, and that part. -/
def readKey (text : List Char) : Option (List String × String × List Char) :=
  parts text.length [] (text.dropWhile isSpace)
where
  parts : (bound : Nat) → List String → List Char → Option (List String × String × List Char)
    | 0, _, _ => none
    | bound + 1, path, text =>
      match readKeyPart text with
      | none => none
      | some (part, rest) =>
        match rest.dropWhile isSpace with
        | '.' :: rest => parts bound (part :: path) (rest.dropWhile isSpace)
        | rest => if path.length + 1 < maxDepth then some (path.reverse, part, rest) else none

/-! ## Values -/

/-- The text behind a comment, blanks and line ends; none if a comment is ill formed. -/
def dropFiller : (bound : Nat) → List Char → Option (List Char)
  | 0, text => some text
  | bound + 1, text =>
    match text with
    | [] => some []
    | '#' :: rest =>
      let after := rest.dropWhile isPlain
      match newline? after with
      | some rest => dropFiller bound rest
      | none => none
    | c :: rest =>
      if isSpace c then dropFiller bound rest
      else
        match newline? (c :: rest) with
        | some rest => dropFiller bound rest
        | none => some (c :: rest)

mutual

/-- Reads a value inside `level` lists and tables. -/
def readValue : (fuel level : Nat) → List Char → Option (Node × List Char)
  | 0, _, _ => none
  | fuel + 1, level, text =>
    match text with
    | '"' :: _ | '\'' :: _ => (readString text).map fun (s, rest) => (.value (.str s), rest)
    | 't' :: 'r' :: 'u' :: 'e' :: rest => some (.value (.bool true), rest)
    | 'f' :: 'a' :: 'l' :: 's' :: 'e' :: rest => some (.value (.bool false), rest)
    | '[' :: rest =>
      if maxDepth ≤ level + 1 then none
      else (readItems fuel (level + 1) [] rest).map fun (items, rest) => (.value (.arr items), rest)
    | '{' :: rest =>
      if maxDepth ≤ level + 1 then none
      else
        match rest.dropWhile isSpace with
        | '}' :: rest => some (.table .stated [], rest)
        | rest =>
          (readMembers fuel (level + 1) [] rest).map fun (entries, rest) =>
            (.table .stated entries, rest)
    | _ => (readNumber text).map fun (d, rest) => (.value d, rest)

/-- Reads the items of a list up to its bracket; `done` are those before, latest first. -/
def readItems : (fuel level : Nat) → List Document → List Char →
    Option (List Document × List Char)
  | 0, _, _, _ => none
  | fuel + 1, level, done, text =>
    match dropFiller text.length text with
    | none => none
    | some (']' :: rest) => some (done.reverse, rest)
    | some text =>
      match readValue fuel level text with
      | none => none
      | some (node, rest) =>
        match dropFiller rest.length rest with
        | some (']' :: rest) => some ((node.toDocument :: done).reverse, rest)
        | some (',' :: rest) => readItems fuel level (node.toDocument :: done) rest
        | _ => none

/-- Reads the members of a table written as a value, up to its brace. -/
def readMembers : (fuel level : Nat) → Entries → List Char → Option (Entries × List Char)
  | 0, _, _, _ => none
  | fuel + 1, level, entries, text =>
    match readKey text with
    | none => none
    | some (path, key, rest) =>
      match rest with
      | '=' :: rest =>
        match readValue fuel level (rest.dropWhile isSpace) with
        | none => none
        | some (node, rest) =>
          match Entries.addValue path key node entries with
          | none => none
          | some entries =>
            match rest.dropWhile isSpace with
            | '}' :: rest => some (entries, rest)
            | ',' :: rest => readMembers fuel level entries rest
            | _ => none
      | _ => none

end

/-! ## Lines -/

/-- The text behind the end of a line, which may hold a comment. -/
def endLine? (text : List Char) : Option (List Char) :=
  let text := text.dropWhile isSpace
  let text := match text with
    | '#' :: rest => rest.dropWhile isPlain
    | _ => text
  match text with
  | [] => some []
  | _ => newline? text

/-- Reads lines. `header` is the path of the table that values are added to. -/
def readLines : (bound : Nat) → (header : List String) → Entries → List Char → Option Entries
  | 0, _, entries, text => if text.isEmpty then some entries else none
  | bound + 1, header, entries, text =>
    match text.dropWhile isSpace with
    | [] => some entries
    | '[' :: '[' :: rest => do
      let (path, key, rest) ← readKey rest
      let rest ← mark? ']' (← mark? ']' rest)
      readLines bound (path ++ [key]) (← Entries.openNext path key entries) (← endLine? rest)
    | '[' :: rest => do
      let (path, key, rest) ← readKey rest
      let rest ← mark? ']' rest
      readLines bound (path ++ [key]) (← Entries.openTable path key entries) (← endLine? rest)
    | c :: rest =>
      if c = '#' || c = '\n' || c = '\r' then do
        readLines bound header entries (← endLine? (c :: rest))
      else do
        let (path, key, rest) ← readKey (c :: rest)
        let rest ← mark? '=' rest
        let (node, rest) ← readValue (2 * rest.length + 2) 0 (rest.dropWhile isSpace)
        readLines bound header (← Entries.addUnder header path key node entries) (← endLine? rest)

/-- The document of a text; none if the text is ill formed. A byte order mark is passed over. -/
def readDocument? (text : List Char) : Option Document :=
  let text := match text with
    | c :: rest => if c.toNat = 0xFEFF then rest else text
    | [] => []
  (readLines (text.length + 1) [] [] text).map fun entries => .obj (documentsOf entries)

end SecretScan.Toml
