import SecretScan.Pattern.Basic

/-!
# Searching and replacing

The leftmost match of a pattern, all its successive matches, and replacement by a fixed text.
Successive matches do not overlap, and an empty match is not taken where the match before it
ends.
-/

namespace SecretScan

/-- A match: the stretch as a whole and the captures made, the latest first. -/
structure Match where
  whole : Span
  captures : List (Nat × Span)
  deriving Repr

/-- The stretch that capture `index` matched; capture 0 is the whole match. -/
def Match.group? (m : Match) (index : Nat) : Option Span :=
  if index = 0 then some m.whole else m.captures.lookup index

namespace Pattern

/-- The match that begins at this very place. -/
def matchAt? (p : Pattern) (c : Cursor) : Option Match :=
  (p.run ⟨c, []⟩ some).map fun r => ⟨⟨c, r.cursor⟩, r.captures⟩

/-- The leftmost match in the text that follows a place. -/
def findFrom? (p : Pattern) (before : Option Char) (offset : Nat) : List Char → Option Match
  | [] => p.matchAt? ⟨before, offset, []⟩
  | c :: rest =>
    match p.matchAt? ⟨before, offset, c :: rest⟩ with
    | some m => some m
    | none => p.findFrom? (some c) (offset + c.utf8Size) rest

/-- The leftmost match from a place on. -/
def findAfter? (p : Pattern) (c : Cursor) : Option Match :=
  p.findFrom? c.before c.offset c.rest

/-- The leftmost match in a text. -/
def find? (p : Pattern) (text : List Char) : Option Match :=
  p.findAfter? (.atStart text)

/-- Does the pattern match somewhere in the text? -/
def occursIn (p : Pattern) (text : List Char) : Bool :=
  (p.find? text).isSome

/-- The next match from a place on, where the match before ended at byte `last`: an empty match
there is passed over. -/
def nextMatch? (p : Pattern) (c : Cursor) (last : Option Nat) : Option Match :=
  match p.findAfter? c with
  | none => none
  | some m =>
    if m.whole.isEmpty && last == some m.whole.stop then
      c.next?.bind p.findAfter?
    else some m

/-- At most `n` successive matches from a place on. -/
def matchesFrom (p : Pattern) : (n : Nat) → Cursor → Option Nat → List Match → List Match
  | 0, _, _, found => found.reverse
  | n + 1, c, last, found =>
    match p.nextMatch? c last with
    | none => found.reverse
    | some m => p.matchesFrom n m.whole.last (some m.whole.stop) (m :: found)

/-- All successive matches in a text. Each ends further on than the one before it, so there are
at most as many as there are places. -/
def findAll (p : Pattern) (text : List Char) : List Match :=
  p.matchesFrom (text.length + 1) (.atStart text) none []

/-- The text from a place on with every match of a list replaced; `done` is the result up to
there, reversed. -/
def substitute (replacement : List Char) (c : Cursor) : List Match → List Char → List Char
  | [], done => done.reverse ++ c.rest
  | m :: rest, done =>
    substitute replacement m.whole.last rest
      (replacement.reverse ++ ((Span.mk c m.whole.first).text.reverse ++ done))

/-- The text with every successive match replaced by the same characters. -/
def replaceAll (p : Pattern) (replacement text : List Char) : List Char :=
  substitute replacement (.atStart text) (p.findAll text) []

end Pattern

end SecretScan
