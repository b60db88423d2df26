import SecretScan.Pattern.Bracket
import SecretScan.Decimal.Power

/-!
# Reading patterns

`Pattern.parse` reads the written form of a pattern in one pass, keeping the groups that are
still open on a stack. Flags set inside a group hold to its end.
-/

namespace SecretScan.Pattern

open SecretScan.Unicode

/-- How deep the notation of a pattern may nest. -/
def maxDepth : Nat := 250

/-- How large a pattern may be, as measured by `Pattern.size`. -/
def maxSize : Nat := 10485760

/-- A pattern with how deep its notation nests; none for a place where flags were set. -/
structure Piece where
  pattern : Option Pattern
  depth : Nat
  deriving Repr

/-- A group that is still open: its capture number, the flags around it, and what was read before
it in the group around it. -/
structure OpenGroup where
  index : Option Nat
  flags : Flags
  branches : List Piece
  items : List Piece
  deriving Repr

/-- What has been read of a pattern: the finished branches of the innermost group and the items
of its current branch, each latest first. -/
structure Reading where
  flags : Flags := {}
  stack : List OpenGroup := []
  branches : List Piece := []
  items : List Piece := []
  groups : Nat := 0
  names : List (List Char) := []
  deriving Repr

/-- The current branch as one piece. -/
def branch (items : List Piece) : Piece :=
  match items with
  | [] => ⟨some .empty, 0⟩
  | [item] => ⟨some (item.pattern.getD .empty), item.depth⟩
  | _ => ⟨some (.seqs (items.reverse.filterMap (·.pattern))),
      1 + (items.map (·.depth)).foldl max 0⟩

/-- All branches of the innermost group as one piece. -/
def choice (branches items : List Piece) : Piece :=
  let last := branch items
  match branches with
  | [] => last
  | _ =>
    let all := (last :: branches).reverse
    ⟨some (.alts (all.filterMap (·.pattern))), 1 + (all.map (·.depth)).foldl max 0⟩

namespace Reading

/-- The reading with one more item in the current branch. -/
def add (r : Reading) (p : Pattern) (depth : Nat) : Reading :=
  { r with items := ⟨some p, depth⟩ :: r.items }

/-- The reading inside a new group. -/
def openGroup (r : Reading) (index : Option Nat) (inside : Flags) : Reading :=
  { r with
    flags := inside
    stack := ⟨index, r.flags, r.branches, r.items⟩ :: r.stack
    branches := []
    items := [] }

/-- The reading behind the end of the innermost group. -/
def closeGroup (r : Reading) : Except Fault Reading :=
  match r.stack with
  | [] => .error .unopenedGroup
  | g :: stack =>
    let inner := choice r.branches r.items
    let p := inner.pattern.getD .empty
    let p := match g.index with
      | some i => .group i p
      | none => p
    .ok { r with
      flags := g.flags
      stack := stack
      branches := g.branches
      items := ⟨some p, inner.depth + 1⟩ :: g.items }

end Reading

/-- The name of a group up to `>`, and what follows. -/
def readGroupName (text : List Char) : Except Fault (List Char × List Char) :=
  match text.span (· != '>') with
  | (_, []) => .error .badGroupName
  | (name, _ :: rest) =>
    match name with
    | [] => .error .badGroupName
    | c :: more =>
      if (c == '_' || isAlphabetic c) &&
          more.all fun c => c == '_' || c == '.' || c == '[' || c == ']' || isAlphanumeric c
      then .ok (name, rest)
      else .error .badGroupName

/-- Opens a named group. -/
def Reading.openNamed (r : Reading) (text : List Char) : Except Fault (Reading × List Char) := do
  let (name, rest) ← readGroupName text
  if r.names.contains name then .error .repeatedGroupName
  else
    let r := { r with groups := r.groups + 1, names := name :: r.names }
    return (r.openGroup (some r.groups) r.flags, rest)

/-- Reads the beginning of a group, behind its parenthesis, or a setting of flags. -/
def Reading.openAny (r : Reading) (text : List Char) : Except Fault (Reading × List Char) :=
  match r.flags.skip text with
  | '?' :: '=' :: _ | '?' :: '!' :: _ | '?' :: '<' :: '=' :: _ | '?' :: '<' :: '!' :: _ =>
    .error .lookAround
  | '?' :: 'P' :: '<' :: rest => r.openNamed rest
  | '?' :: '<' :: rest => r.openNamed rest
  | '?' :: rest => do
    let (flags, some?, rest) ← r.flags.read [] rest
    match rest with
    | ')' :: rest =>
      if some? then return ({ r with flags := flags, items := ⟨none, 0⟩ :: r.items }, rest)
      else .error .nothingToRepeat
    | _ => return (r.openGroup none flags, rest.drop 1)
  | rest =>
    let r := { r with groups := r.groups + 1 }
    .ok (r.openGroup (some r.groups) r.flags, rest)

/-- A sign of laziness, if one comes next: whether the repetition is greedy, and the rest. -/
def readGreed (text : List Char) : Bool × List Char :=
  match text with
  | '?' :: rest => (false, rest)
  | _ => (true, text)

/-- The reading with its latest item repeated. -/
def Reading.repeatLast (r : Reading) (min : Nat) (max : Option Nat) (greedy : Bool) :
    Except Fault Reading :=
  match r.items with
  | ⟨some p, depth⟩ :: items =>
    .ok { r with
      items := ⟨some (.iter p min max (greedy != r.flags.swapGreed)), depth + 1⟩ :: items }
  | _ => .error .nothingToRepeat

/-- Reads the digits of a number, blanks between them being skipped in verbose patterns. -/
def readDigits (f : Flags) : (bound : Nat) → (value : Option Nat) → List Char →
    Option Nat × List Char
  | bound + 1, value, c :: rest =>
    if isAsciiDigit c then
      readDigits f bound (some (10 * value.getD 0 + (c.toNat - 0x30))) (f.skip rest)
    else (value, c :: rest)
  | _, value, text => (value, text)

/-- Reads a number of at most 32 bits, with white space around it. -/
def readNumber (f : Flags) (text : List Char) : Except Fault (Option Nat × List Char) :=
  let text := text.dropWhile isBlank
  match readDigits f text.length none text with
  | (some n, rest) =>
    if n < Decimal.twoTo 32 then .ok (some n, f.skip (rest.dropWhile isBlank)) else .error .badCount
  | (none, rest) => .ok (none, rest)

/-- Reads the bounds of a counted repetition, behind its brace. -/
def Reading.readCount (r : Reading) (text : List Char) : Except Fault (Reading × List Char) := do
  if (r.items.head?.bind (·.pattern)).isNone then .error .nothingToRepeat
  let f := r.flags
  let (low, rest) ← readNumber f (f.skip text)
  let (min, max, rest) ←
    match low, rest with
    | some n, '}' :: _ => pure (n, some n, rest)
    | some n, ',' :: rest =>
      match f.skip rest with
      | '}' :: rest => pure (n, none, '}' :: rest)
      | rest => do
        let (high, rest) ← readNumber f rest
        match high with
        | some m => pure (n, some m, rest)
        | none => .error .badCount
    | _, _ => .error .badCount
  match rest with
  | '}' :: rest =>
    if max.any (· < min) then .error .badCount
    else
      let (greedy, rest) := readGreed (f.skip rest)
      return (← r.repeatLast min max greedy, rest)
  | _ => .error .badCount

/-- The set of one character, with the characters that differ by case where the flags say so. -/
def charSet (f : Flags) (c : Char) (byte : Bool) : Except Fault CharSet :=
  if f.unicode then .ok (CharSet.foldedIf (.single c) (f.ignoreCase && (caseVariants c).length > 1))
  else if byte && 128 ≤ c.toNat then .error .notUnicode
  else if f.ignoreCase && isAsciiLetter c then
    .ok (.union (.single c.toLower) (.single c.toUpper))
  else .ok (.single c)

/-- The set of the characters that a dot matches. -/
def dotSet (f : Flags) : Except Fault CharSet :=
  if !f.unicode then .error .notUnicode
  else if f.dotAll then .ok .any
  else if f.crlf then .ok (.compl (.union (.single '\n') (.single '\r')))
  else .ok (.compl (.single '\n'))

/-- Reads the next item, sign or group of a pattern. -/
def Reading.step (r : Reading) (c : Char) (rest : List Char) :
    Except Fault (Reading × List Char) :=
  let f := r.flags
  match c with
  | '(' => r.openAny rest
  | ')' => r.closeGroup.map fun r => (r, rest)
  | '|' => .ok ({ r with branches := branch r.items :: r.branches, items := [] }, rest)
  | '[' => (readSet f rest).map fun (s, rest) => (r.add (.set s.set) s.depth, rest)
  | '?' =>
    let (greedy, rest) := readGreed rest
    (r.repeatLast 0 (some 1) greedy).map fun r => (r, rest)
  | '*' =>
    let (greedy, rest) := readGreed rest
    (r.repeatLast 0 none greedy).map fun r => (r, rest)
  | '+' =>
    let (greedy, rest) := readGreed rest
    (r.repeatLast 1 none greedy).map fun r => (r, rest)
  | '{' => r.readCount rest
  | '.' => (dotSet f).map fun s => (r.add (.set s) 0, rest)
  | '^' =>
    let look := if f.multiLine then if f.crlf then .anyLineStart else .lineStart else .textStart
    .ok (r.add (.look look) 0, rest)
  | '$' =>
    let look := if f.multiLine then if f.crlf then .anyLineEnd else .lineEnd else .textEnd
    .ok (r.add (.look look) 0, rest)
  | '\\' => do
    let (p, rest) ← Primitive.read f rest
    let p ← match p with
      | .char c byte => (charSet f c byte).map .set
      | .dot => (dotSet f).map .set
      | .look l => pure (.look l)
      | .set s => pure (.set s)
    return (r.add p 0, rest)
  | c => (charSet f c false).map fun s => (r.add (.set s) 0, rest)

/-- Reads a pattern to its end; every step takes at least one character, so the bound is the
length of the text. -/
def Reading.finish : (bound : Nat) → Reading → List Char → Except Fault Piece
  | bound, r, text =>
    match bound, r.flags.skip text with
    | _, [] => if r.stack.isEmpty then .ok (choice r.branches r.items) else .error .unclosedGroup
    | 0, _ => .error .unclosedGroup
    | bound + 1, c :: rest => do
      let (r, rest) ← r.step c rest
      r.finish bound rest

/-- Reads the written form of a pattern. -/
def parse (text : List Char) : Except Fault Pattern := do
  let whole ← Reading.finish text.length {} text
  let p := whole.pattern.getD .empty
  if maxDepth < whole.depth then .error .nestedTooDeep
  else if maxSize < p.size then .error .tooLarge
  else return p

/-- Reads the written form of a pattern, without the reason for a refusal. -/
def ofString? (text : String) : Option Pattern :=
  (parse text.toList).toOption

end SecretScan.Pattern
