import SecretScan.Pattern.CharSet

/-!
# Patterns and how they match

A pattern matches at a place in a text. Where it can match in several ways they are tried in a
fixed order: the left branch of a choice before the right one, more repetitions before fewer if
the repetition is greedy and fewer before more if it is lazy. `Pattern.run` gives the first way
after which the rest of the work, its last argument, succeeds.
-/

namespace SecretScan

open SecretScan.Unicode

/-- A condition on the two characters around a place in the text. -/
inductive Look where
  | textStart
  | textEnd
  | lineStart
  | lineEnd
  /-- Lines end at `\r`, `\n` or both together. -/
  | anyLineStart
  | anyLineEnd
  | wordBoundary (ascii : Bool)
  | notWordBoundary (ascii : Bool)
  | wordStart (ascii : Bool)
  | wordEnd (ascii : Bool)
  /-- No word character stands before. -/
  | wordStartHalf (ascii : Bool)
  /-- No word character stands after. -/
  | wordEndHalf (ascii : Bool)
  deriving DecidableEq, Repr

namespace Look

/-- Is there a word character? -/
def isWordAt (ascii : Bool) : Option Char → Bool
  | none => false
  | some c => if ascii then isAsciiWord c else isWord c

/-- Does the condition hold between these two neighbours, `none` being an end of the text? -/
def holds (look : Look) (before after : Option Char) : Bool :=
  match look with
  | textStart => before.isNone
  | textEnd => after.isNone
  | lineStart => before.isNone || before == some '\n'
  | lineEnd => after.isNone || after == some '\n'
  | anyLineStart =>
    before.isNone || before == some '\n' || before == some '\r' && after != some '\n'
  | anyLineEnd =>
    after.isNone || after == some '\r' || after == some '\n' && before != some '\r'
  | wordBoundary ascii => isWordAt ascii before != isWordAt ascii after
  | notWordBoundary ascii => isWordAt ascii before == isWordAt ascii after
  | wordStart ascii => !isWordAt ascii before && isWordAt ascii after
  | wordEnd ascii => isWordAt ascii before && !isWordAt ascii after
  | wordStartHalf ascii => !isWordAt ascii before
  | wordEndHalf ascii => !isWordAt ascii after

end Look

/-- A pattern over characters. -/
inductive Pattern where
  | empty
  | set (s : CharSet)
  | look (l : Look)
  | seq (p q : Pattern)
  | alt (p q : Pattern)
  /-- Remembers what `p` matched as the capture `index`. -/
  | group (index : Nat) (p : Pattern)
  /-- At least `min` and, where there is a bound, at most `max` repetitions. -/
  | iter (p : Pattern) (min : Nat) (max : Option Nat) (greedy : Bool)
  deriving Repr

/-- A place in a text: the character before it, its byte offset, and what follows. -/
structure Cursor where
  before : Option Char
  offset : Nat
  rest : List Char
  deriving DecidableEq, Repr

namespace Cursor

/-- The beginning of a text. -/
def atStart (text : List Char) : Cursor := ⟨none, 0, text⟩

/-- The place after the next character, if that character is in the set. -/
def step? (s : CharSet) (c : Cursor) : Option Cursor :=
  match c.rest with
  | [] => none
  | x :: rest => if s.mem x then some ⟨some x, c.offset + x.utf8Size, rest⟩ else none

/-- The place after the next character, whatever it is. -/
def next? (c : Cursor) : Option Cursor := c.step? .any

/-- The place `n` characters of the set further on. -/
def stepExactly? (s : CharSet) : Nat → Cursor → Option Cursor
  | 0, c => some c
  | n + 1, c => (c.step? s).bind (stepExactly? s n)

/-- The places reached by up to `limit` characters of the set, farthest first, in front of `found`.
The list argument is the text that follows the place. -/
def reach (s : CharSet) (limit : Option Nat) (before : Option Char) (offset : Nat) :
    List Char → List Cursor → List Cursor
  | [], found => ⟨before, offset, []⟩ :: found
  | x :: rest, found =>
    if limit != some 0 && s.mem x then
      reach s (limit.map (· - 1)) (some x) (offset + x.utf8Size) rest
        (⟨before, offset, x :: rest⟩ :: found)
    else ⟨before, offset, x :: rest⟩ :: found

end Cursor

/-- A stretch of a text between two places. -/
structure Span where
  first : Cursor
  last : Cursor
  deriving DecidableEq, Repr

namespace Span

/-- Byte offset of the beginning. -/
def start (s : Span) : Nat := s.first.offset

/-- Byte offset of the end. -/
def stop (s : Span) : Nat := s.last.offset

/-- The characters of the first `bytes` bytes, in front of those already taken. -/
def takeBytes : Nat → List Char → List Char → List Char
  | _, [], taken => taken.reverse
  | bytes, c :: rest, taken =>
    if bytes = 0 then taken.reverse else takeBytes (bytes - c.utf8Size) rest (c :: taken)

/-- The characters of the stretch. -/
def text (s : Span) : List Char :=
  takeBytes (s.stop - s.start) s.first.rest []

/-- Does the stretch hold no character? -/
def isEmpty (s : Span) : Bool := s.start == s.stop

end Span

/-- How far a match has come, with the captures made on the way, the latest first. -/
structure Progress where
  cursor : Cursor
  captures : List (Nat × Span)
  deriving Repr

namespace Pattern

/-- The rest of the work of a match. -/
abbrev Next := Progress → Option Progress

/-- A pattern as a step of a match. -/
abbrev Step := Progress → Next → Option Progress

/-- The first of two ways that succeeds. -/
@[inline] def orElse (first : Option Progress) (second : Unit → Option Progress) :
    Option Progress :=
  match first with
  | some r => some r
  | none => second ()

/-- The body `n` times. -/
def exactly (body : Step) : Nat → Step
  | 0, s, k => k s
  | n + 1, s, k => body s fun t => exactly body n t k

/-- The body up to `n` times. -/
def upTo (body : Step) (greedy : Bool) : Nat → Step
  | 0, s, k => k s
  | n + 1, s, k =>
    if greedy then orElse (body s fun t => upTo body greedy n t k) fun _ => k s
    else orElse (k s) fun _ => body s fun t => upTo body greedy n t k

/-- The body any number of times. The list bounds the repetitions that consume something and is
at least as long as the text that is left; a repetition that consumes nothing is the last one. -/
def star (body : Step) (greedy : Bool) : List Char → Step
  | [], s, k =>
    if greedy then orElse (body s k) fun _ => k s
    else orElse (k s) fun _ => body s k
  | _ :: left, s, k =>
    let again : Next := fun t =>
      if t.cursor.offset = s.cursor.offset then k t else star body greedy left t k
    if greedy then orElse (body s again) fun _ => k s
    else orElse (k s) fun _ => body s again

/-- Repetition of any body. -/
def repeated (body : Step) (min : Nat) (max : Option Nat) (greedy : Bool) : Step := fun s k =>
  exactly body min s fun t =>
    match max with
    | none => star body greedy t.cursor.rest t k
    | some m => upTo body greedy (m - min) t k

/-- Repetition of one set of characters: the places it reaches are tried in order. -/
def repeatedSet (set : CharSet) (min : Nat) (max : Option Nat) (greedy : Bool) : Step := fun s k =>
  match s.cursor.stepExactly? set min with
  | none => none
  | some c =>
    let places := Cursor.reach set (max.map (· - min)) c.before c.offset c.rest []
    (if greedy then places else places.reverse).findSome? fun p => k { s with cursor := p }

/-- Runs a pattern at a place, then the rest of the work, and gives the first way in which both
succeed. -/
def run : Pattern → Step
  | empty, s, k => k s
  | set cs, s, k =>
    match s.cursor.step? cs with
    | some c => k { s with cursor := c }
    | none => none
  | look l, s, k =>
    if l.holds s.cursor.before s.cursor.rest.head? then k s else none
  | seq p q, s, k => run p s fun t => run q t k
  | alt p q, s, k => orElse (run p s k) fun _ => run q s k
  | group index p, s, k =>
    run p s fun t => k { t with captures := (index, ⟨s.cursor, t.cursor⟩) :: t.captures }
  | iter (set cs) min max greedy, s, k => repeatedSet cs min max greedy s k
  | iter p min max greedy, s, k => repeated (run p) min max greedy s k

/-- The pattern for a literal text. -/
def literal : List Char → Pattern
  | [] => empty
  | [c] => set (.single c)
  | c :: rest => seq (set (.single c)) (literal rest)

/-- The patterns one after the other. -/
def seqs : List Pattern → Pattern
  | [] => empty
  | [p] => p
  | p :: rest => seq p (seqs rest)

/-- The patterns as branches of a choice. -/
def alts : List Pattern → Pattern
  | [] => empty
  | [p] => p
  | p :: rest => alt p (alts rest)

/-- An estimate in bytes of the automaton that the pattern stands for: repetitions are written
out, and a set counts by its ranges. -/
def size : Pattern → Nat
  | empty => 0
  | set s => if s.rangeCount ≤ 1 then 32 else 60 * s.rangeCount
  | look _ => 32
  | seq p q => p.size + q.size
  | alt p q => p.size + q.size + 32
  | group _ p => p.size + 64
  | iter p min max _ =>
    match max with
    | none => p.size * (if min = 0 then 1 else min) + 32
    | some m => p.size * m + 32 * (m - min)

end Pattern

end SecretScan
