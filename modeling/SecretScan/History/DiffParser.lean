import SecretScan.Failure
import SecretScan.Finding.Commit
import SecretScan.Text.Basic
import SecretScan.Unicode.Digit
import SecretScan.Decimal.Digits
import SecretScan.Decimal.Power

/-!
# Added lines in a log of changes

The log of a repository names each commit in a line of its own, then each file that it changes,
then each stretch of the file, and then the lines, those that were added behind a plus sign. The
parser is fed line by line and gives the added lines, each with its commit, file and number.
-/

namespace SecretScan

/-- How a log names a commit; the parser relies on it. -/
def logFormat : String := "commit %H|%an|%ae|%s"

/-- A line added by a commit. -/
structure AddedLine where
  commit : Commit
  path : String
  line : String
  deriving DecidableEq, Repr

namespace DiffParser

/-! ## The lines that structure a log -/

/-- What a line that begins a commit says. -/
structure CommitHeader where
  hash : String
  rest : List Char
  deriving DecidableEq, Repr

/-- Is the character a small hexadecimal digit? -/
def isHash (c : Char) : Bool := '0' ≤ c && c ≤ '9' || 'a' ≤ c && c ≤ 'f'

/-- Reads the line that begins a commit: a hash of 7 to 64 digits, and the rest behind a bar. -/
def commitHeader? (line : List Char) : Option CommitHeader :=
  match Text.dropPrefix? ['c', 'o', 'm', 'm', 'i', 't', ' '] line with
  | none => none
  | some text =>
    match text.span isHash with
    | (hash, '|' :: rest) =>
      if 7 ≤ hash.length && hash.length ≤ 64 && !rest.contains '\n' then
        some ⟨String.ofList hash, rest⟩
      else none
    | _ => none

/-- The text behind the first ` b/` that has something in front of it. -/
def newPath? : (first : Bool) → List Char → Option (List Char)
  | _, [] => none
  | first, c :: rest =>
    if first then newPath? false rest
    else
      match Text.dropPrefix? [' ', 'b', '/'] (c :: rest) with
      | some path => some path
      | none => newPath? false rest

/-- Reads the line that begins the changes of a file: the path of the file. -/
def fileHeader? (line : List Char) : Option String :=
  match Text.dropPrefix? "diff --git a/".toList line with
  | none => none
  | some text =>
    match newPath? true text with
    | some path =>
      if path.isEmpty || text.contains '\n' then none else some (String.ofList path)
    | none => none

/-- The text behind a comma and digits, or where it is if they do not come next. -/
def dropCount (text : List Char) : List Char :=
  match text with
  | ',' :: rest =>
    match rest.span Unicode.isDigit with
    | ([], _) => text
    | (_, rest) => rest
  | _ => text

/-- Reads the line that begins a stretch of changes: the digits of its first new line. -/
def hunkHeader? (line : List Char) : Option (List Char) := do
  let text ← Text.dropPrefix? ['@', '@', ' ', '-'] line
  let (old, text) := text.span Unicode.isDigit
  if old.isEmpty then none
  let text ← Text.dropPrefix? [' ', '+'] (dropCount text)
  let (new, text) := text.span Unicode.isDigit
  if new.isEmpty then none
  let _ ← Text.dropPrefix? [' ', '@', '@'] (dropCount text)
  return new

/-- The number of a first line: 1 if the digits are not a number of 64 bits. -/
def lineNumberOf (digits : List Char) : Nat :=
  match Decimal.nat? digits with
  | some n => if n < Decimal.twoTo 64 then n else 1
  | none => 1

/-- The author, address and title in the rest of a line that begins a commit. -/
def commitOf (h : CommitHeader) : Commit :=
  match Text.cut? '|' h.rest with
  | none => { hash := h.hash, author := String.ofList h.rest }
  | some (author, rest) =>
    match Text.cut? '|' rest with
    | none => { hash := h.hash, author := String.ofList author, email := String.ofList rest }
    | some (email, title) =>
      { hash := h.hash, author := String.ofList author, email := String.ofList email,
        title := String.ofList title }

/-! ## The parser -/

/-- Where in the log the parser is. -/
inductive Place where
  | noCommit
  | inCommit
  | inFile
  | inHunk
  deriving DecidableEq, Repr

end DiffParser

/-- The parser of a log. -/
structure DiffParser where
  exclusions : List String
  place : DiffParser.Place := .noCommit
  commit : Commit := {}
  path : Option String := none
  /-- Is the current file left out? -/
  skipping : Bool := false
  nextLine : Nat := 0
  commitsSeen : Nat := 0
  deriving DecidableEq, Repr

namespace DiffParser

/-- A parser that leaves out the files and lines that contain one of these texts. -/
def new (exclusions : List String) : DiffParser :=
  { exclusions := exclusions.filter (· ≠ "") }

/-- Does a text contain one of the excluded ones? -/
def excludes (p : DiffParser) (text : List Char) : Bool :=
  p.exclusions.any fun e => Text.occursIn e.toList text

/-- The parser behind a line that begins a commit. -/
def startCommit (p : DiffParser) (h : CommitHeader) : DiffParser :=
  { p with
    place := .inCommit
    commit := commitOf h
    path := none
    skipping := false
    commitsSeen := p.commitsSeen + 1 }

/-- The parser behind a line that begins the changes of a file. -/
def startFile (p : DiffParser) (path : String) : DiffParser :=
  { p with place := .inFile, path := some path, skipping := p.excludes ('/' :: path.toList) }

/-- The parser behind an added line. The count is kept in 64 bits, and goes on from zero. -/
def countLine (p : DiffParser) : DiffParser :=
  { p with nextLine := (p.nextLine + 1) % Decimal.twoTo 64 }

/-- The added line, unless it is left out. -/
def added? (p : DiffParser) (text : List Char) : Option AddedLine :=
  if p.skipping || p.excludes text then none
  else some ⟨{ p.commit with line := p.nextLine }, p.path.getD "", String.ofList text⟩

/-- Reads a line inside a file or a stretch of changes. -/
def feedChange (p : DiffParser) (line : List Char) : DiffParser × Option AddedLine :=
  match hunkHeader? line with
  | some digits => ({ p with place := .inHunk, nextLine := lineNumberOf digits }, none)
  | none =>
    match p.place, line with
    | .inHunk, '+' :: text => (p.countLine, p.added? text)
    | _, _ => (p, none)

/-- Reads a line of the log, and gives the added line if it is one. Without checks of the count this
is all that a line does. -/
def feed (p : DiffParser) (line : List Char) : DiffParser × Option AddedLine :=
  match commitHeader? line with
  | some h => (p.startCommit h, none)
  | none =>
    if p.place = .noCommit then (p, none)
    else
      match fileHeader? line with
      | some path => (p.startFile path, none)
      | none => if p.place = .inCommit then (p, none) else p.feedChange line

/-- What a parser gives for each of several lines, latest first, in front of `outputs`. -/
def feedOnto (p : DiffParser) (outputs : List (Option AddedLine)) :
    List (List Char) → DiffParser × List (Option AddedLine)
  | [] => (p, outputs)
  | line :: rest =>
    let (q, o) := p.feed line
    q.feedOnto (o :: outputs) rest

/-- Reads several lines: the parser behind them, and what it gave for each. -/
def feedAll (p : DiffParser) (lines : List (List Char)) : DiffParser × List (Option AddedLine) :=
  let (q, outputs) := p.feedOnto [] lines
  (q, outputs.reverse)

/-- The added lines of a log. -/
def addedLines (p : DiffParser) (lines : List (List Char)) : List AddedLine :=
  (p.feedAll lines).2.filterMap id

/-! ## Checking the count -/

/-- Does the count run over at a line? Lines that are left out are counted as well. -/
def runsOver (p : DiffParser) (line : List Char) : Bool :=
  p.place = .inHunk && line.head? = some '+' && Decimal.twoTo 64 ≤ p.nextLine + 1

/-- Reads a line as the program does that was built in this way. -/
def feed? (b : Build) (p : DiffParser) (line : List Char) :
    Except Failure (DiffParser × Option AddedLine) :=
  if b = .checked && p.runsOver line then .error .overflow else .ok (p.feed line)

/-- What a parser gives for each of several lines, latest first, in front of `outputs`, unless the
program breaks down at one of them. -/
def feedOnto? (b : Build) (p : DiffParser) (outputs : List (Option AddedLine)) :
    List (List Char) → Except Failure (DiffParser × List (Option AddedLine))
  | [] => .ok (p, outputs)
  | line :: rest =>
    match p.feed? b line with
    | .error f => .error f
    | .ok (q, o) => q.feedOnto? b (o :: outputs) rest

/-- Reads several lines as the program does that was built in this way. -/
def feedAll? (b : Build) (p : DiffParser) (lines : List (List Char)) :
    Except Failure (DiffParser × List (Option AddedLine)) :=
  (p.feedOnto? b [] lines).map fun (q, outputs) => (q, outputs.reverse)

end DiffParser

end SecretScan
