import SecretScan.Unicode.Blank

/-!
# Flags and refusals of the pattern notation

The flags that a pattern can set for itself, and the reasons for which a written pattern is
refused.
-/

namespace SecretScan.Pattern

open SecretScan.Unicode

/-- Why a written pattern is refused. -/
inductive Fault where
  | unclosedGroup
  | unopenedGroup
  | badGroupName
  | repeatedGroupName
  | lookAround
  | badFlag
  | nothingToRepeat
  | badCount
  | badEscape
  | badCodePoint
  | unknownProperty
  | unclosedClass
  | badClassItem
  | badClassRange
  /-- Without the Unicode flag a pattern may not match a part of a character. -/
  | notUnicode
  | nestedTooDeep
  | tooLarge
  deriving DecidableEq, Repr

/-- The flags in force at a place of a written pattern. -/
structure Flags where
  ignoreCase : Bool := false
  multiLine : Bool := false
  dotAll : Bool := false
  swapGreed : Bool := false
  unicode : Bool := true
  crlf : Bool := false
  /-- Blanks and comments are skipped. -/
  verbose : Bool := false
  deriving DecidableEq, Repr

/-- The flags after the letter `c` has switched one of them; `none` if no flag has that letter. -/
def Flags.put? (f : Flags) (c : Char) (on : Bool) : Option Flags :=
  match c with
  | 'i' => some { f with ignoreCase := on }
  | 'm' => some { f with multiLine := on }
  | 's' => some { f with dotAll := on }
  | 'U' => some { f with swapGreed := on }
  | 'u' => some { f with unicode := on }
  | 'R' => some { f with crlf := on }
  | 'x' => some { f with verbose := on }
  | _ => none

/-- Reads flag letters up to `:` or `)`. A flag may stand once, a hyphen before the flags that are
switched off once. The result tells whether anything was read, and leaves the end in place. -/
def Flags.read (f : Flags) (used : List Char) : List Char → Except Fault (Flags × Bool × List Char)
  | [] => .error .badFlag
  | c :: rest =>
    if c == ':' || c == ')' then
      if used.head? == some '-' then .error .badFlag else .ok (f, !used.isEmpty, c :: rest)
    else if used.contains c then .error .badFlag
    else if c == '-' then f.read (c :: used) rest
    else
      match f.put? c (!used.contains '-') with
      | none => .error .badFlag
      | some g => g.read (c :: used) rest

/-- The text without the blanks and comments at its beginning. -/
def dropBlanks (inComment : Bool) : List Char → List Char
  | [] => []
  | c :: rest =>
    if inComment then dropBlanks (c != '\n') rest
    else if isBlank c then dropBlanks false rest
    else if c == '#' then dropBlanks true rest
    else c :: rest

/-- What comes next, blanks and comments being skipped where the flags say so. -/
def Flags.skip (f : Flags) (text : List Char) : List Char :=
  if f.verbose then dropBlanks false text else text

end SecretScan.Pattern
