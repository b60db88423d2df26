import SecretScan.Pattern.Escape

/-!
# Bracketed sets

Reads sets such as `[a-z&&[^aeiou]]`. A set is a list of items, possibly split by the operators
`&&`, `--` and `~~`, which group to the left; sets nest. The sets that are still open are kept on
a stack, so one pass over the text suffices.
-/

namespace SecretScan.Pattern

/-- An operator between two sets. -/
inductive SetOp where
  | inter
  | diff
  | symmDiff
  deriving DecidableEq, Repr

/-- The set that an operator makes of two. -/
def SetOp.apply : SetOp → CharSet → CharSet → CharSet
  | inter => .inter
  | diff => .diff
  | symmDiff => .symmDiff

/-- A set together with how deep its notation nests. -/
structure SetPart where
  set : CharSet
  depth : Nat
  deriving Repr

/-- The union of items, latest first. -/
def SetPart.ofItems (items : List SetPart) : SetPart :=
  match items with
  | [] => ⟨.nothing, 0⟩
  | [item] => item
  | _ => ⟨.unions (items.reverse.map (·.set)), 1 + (items.map (·.depth)).foldl max 0⟩

/-- A bracket that is still open: the items read in it so far belong to the right side of the
operator, if there is one; `outer` are the items of the set around it. -/
structure OpenSet where
  negated : Bool
  left : Option (SetPart × SetOp)
  outer : List SetPart
  deriving Repr

/-- The left side joined with the items read since, closed under change of case on both sides
where the flags say so. -/
def OpenSet.joined (o : OpenSet) (f : Flags) (items : List SetPart) : SetPart :=
  let right := SetPart.ofItems items
  match o.left with
  | none => right
  | some (left, op) =>
    ⟨op.apply (left.set.foldedIf f.ignoreCase) (right.set.foldedIf f.ignoreCase),
      1 + max left.depth right.depth⟩

/-- Reads the hyphens at the beginning of a set, which stand for themselves. -/
def readHyphens (f : Flags) : (bound : Nat) → List Char → List SetPart →
    List SetPart × List Char
  | bound + 1, '-' :: rest, items => readHyphens f bound (f.skip rest) (⟨.single '-', 0⟩ :: items)
  | _, text, items => (items, text)

/-- Reads the beginning of a set, behind its bracket: the sign of complement, hyphens, and a
closing bracket that stands for itself because it comes first. -/
def readSetStart (f : Flags) (text : List Char) : Except Fault (Bool × List SetPart × List Char) :=
  let text := f.skip text
  let (negated, text) :=
    match text with
    | '^' :: rest => (true, f.skip rest)
    | _ => (false, text)
  let (items, text) := readHyphens f text.length text []
  match items, text with
  | _, [] => .error .unclosedClass
  | [], ']' :: rest =>
    match f.skip rest with
    | [] => .error .unclosedClass
    | text => .ok (negated, [⟨.single ']', 0⟩], text)
  | _, _ => .ok (negated, items, text)

/-- Reads an ASCII class such as `[:alpha:]`, behind its first bracket. -/
def readAsciiClass? (text : List Char) : Option (Bool × CharSet × List Char) :=
  match text with
  | ':' :: rest =>
    let (negated, rest) :=
      match rest with
      | '^' :: rest => (true, rest)
      | _ => (false, rest)
    match rest.span (· != ':') with
    | (name, ':' :: ']' :: rest) =>
      (CharSet.ascii? (String.ofList name)).map fun s => (negated, s, rest)
    | _ => none
  | _ => none

/-- Reads one character or class of a set. -/
def readSetPrimitive (f : Flags) (text : List Char) : Except Fault (Primitive × List Char) :=
  match text with
  | [] => .error .unclosedClass
  | '\\' :: rest => Primitive.read f rest
  | c :: rest => .ok (.char c false, rest)

/-- A primitive as a character of a set. Without the Unicode flag only ASCII is allowed. -/
def Primitive.asChar (f : Flags) (refusal : Fault) : Primitive → Except Fault Char
  | .char c _ => if f.unicode || c.toNat < 128 then .ok c else .error .notUnicode
  | _ => .error refusal

/-- A primitive as an item of a set. -/
def Primitive.asItem (f : Flags) : Primitive → Except Fault CharSet
  | .set s => .ok s
  | p => (p.asChar f .badClassItem).map .single

/-- The first character behind the next one, blanks and one comment sign being skipped in verbose
patterns. -/
def peekBehind (f : Flags) (text : List Char) : Option Char :=
  let rest := text.drop 1
  if f.verbose then
    let rest' := (rest.dropWhile Unicode.isBlank)
    let rest' :=
      match rest' with
      | '#' :: behind => behind.dropWhile Unicode.isBlank
      | _ => rest'
    rest'.head?.or rest.head?
  else rest.head?

/-- Reads a range or a single item. A hyphen before a closing bracket or before another hyphen
makes no range. -/
def readSetRange (f : Flags) (text : List Char) : Except Fault (CharSet × List Char) := do
  let (first, rest) ← readSetPrimitive f text
  let rest := f.skip rest
  match rest with
  | [] => .error .unclosedClass
  | '-' :: behind =>
    if peekBehind f rest == some ']' || peekBehind f rest == some '-' then
      return (← first.asItem f, rest)
    else do
      let (second, rest) ← readSetPrimitive f (f.skip behind)
      let low ← first.asChar f .badClassRange
      let high ← second.asChar f .badClassRange
      if low ≤ high then return (.range low high, rest) else .error .badClassRange
  | _ => return (← first.asItem f, rest)

/-- Reads the rest of a bracketed set. `stack` holds the open brackets, innermost first, and
`items` what has been read in the innermost since its last operator, latest first. -/
def readSetRest (f : Flags) : (bound : Nat) → (stack : List OpenSet) → (items : List SetPart) →
    List Char → Except Fault (SetPart × List Char)
  | 0, _, _, _ => .error .unclosedClass
  | bound + 1, stack, items, text =>
    match f.skip text, stack with
    | [], _ => .error .unclosedClass
    | _, [] => .error .unclosedClass
    | ']' :: rest, o :: outer => do
      let part := o.joined f items
      let set ← finishSet f o.negated part.set
      let whole : SetPart := ⟨set, part.depth + 1⟩
      match outer with
      | [] => return (whole, rest)
      | _ => readSetRest f bound outer (whole :: o.outer) rest
    | '[' :: rest, stack =>
      match readAsciiClass? rest with
      | some (negated, s, rest) => do
        let s ← finishSet f negated s
        readSetRest f bound stack (⟨s, 0⟩ :: items) rest
      | none => do
        let (negated, first, rest) ← readSetStart f rest
        readSetRest f bound (⟨negated, none, items⟩ :: stack) first rest
    | '&' :: '&' :: rest, o :: outer =>
      readSetRest f bound ({ o with left := some (o.joined f items, .inter) } :: outer) [] rest
    | '-' :: '-' :: rest, o :: outer =>
      readSetRest f bound ({ o with left := some (o.joined f items, .diff) } :: outer) [] rest
    | '~' :: '~' :: rest, o :: outer =>
      readSetRest f bound ({ o with left := some (o.joined f items, .symmDiff) } :: outer) [] rest
    | text, stack => do
      let (s, rest) ← readSetRange f text
      readSetRest f bound stack (⟨s, 0⟩ :: items) rest

/-- Reads a bracketed set, behind its first bracket. -/
def readSet (f : Flags) (text : List Char) : Except Fault (SetPart × List Char) := do
  let (negated, first, rest) ← readSetStart f text
  readSetRest f (rest.length + 1) [⟨negated, none, []⟩] first rest

end SecretScan.Pattern
