import SecretScan.Redaction.Redactor

/-!
# Sharing a redactor

Calls that run at the same time share one redactor. A call locks the cache at most twice: to look
for its text, and, if it found no answer, to keep what it has worked out. Before and between the two
steps any other calls may take theirs.
-/

namespace SecretScan

/-- A call of a redactor. -/
inductive RedactionCall where
  | value (v : Json)
  | text (t : String)
  deriving Repr

/-- What a call returns. -/
inductive Redacted where
  | value (v : Json)
  | text (t : String)
  deriving Repr

namespace RedactionCall

/-- What a call redacts. -/
def input : RedactionCall → Json
  | value v => v
  | text t => .str t

/-- What a call returns for its redacted input. -/
def answer : RedactionCall → Json → Redacted
  | value _, w => .value w
  | text _, w => .text (Redactor.textOf w)

/-- A call by itself. -/
def run (r : Redactor) : RedactionCall → Redactor × Redacted
  | value v =>
    let (r, w) := r.redact v
    (r, .value w)
  | text t =>
    let (r, s) := r.redactText t
    (r, .text s)

/-- Calls one after the other, each with what it returns. -/
def runAll (r : Redactor) : List RedactionCall → Redactor × List (RedactionCall × Redacted)
  | [] => (r, [])
  | c :: rest =>
    let (r, out) := c.run r
    let (r, outs) := runAll r rest
    (r, (c, out) :: outs)

end RedactionCall

/-- How far concurrent calls have come. -/
structure Sharing where
  redactor : Redactor
  /-- The calls that have not looked yet. -/
  waiting : List RedactionCall
  /-- Those that have looked and found no answer. -/
  working : List RedactionCall := []
  /-- Those that have returned, with what they returned. -/
  returned : List (RedactionCall × Redacted) := []

namespace Sharing

/-- What can come next: a step of any of the calls. -/
inductive Next (s : Sharing) : Sharing → Prop
  /-- A call finds its answer. -/
  | hit {before after : List RedactionCall} {c : RedactionCall} {r : Redactor} {w : Json}
      (waiting : s.waiting = before ++ c :: after) (look : s.redactor.look c.input = (r, some w)) :
      Next s { s with
        redactor := r
        waiting := before ++ after
        returned := s.returned ++ [(c, c.answer w)] }
  /-- A call finds no answer and goes to work. -/
  | miss {before after : List RedactionCall} {c : RedactionCall} {r : Redactor}
      (waiting : s.waiting = before ++ c :: after) (look : s.redactor.look c.input = (r, none)) :
      Next s { s with
        redactor := r
        waiting := before ++ after
        working := s.working ++ [c] }
  /-- A call keeps what it has worked out, if that can be kept, and returns. -/
  | finish {before after : List RedactionCall} {c : RedactionCall} {r : Redactor} {w : Json}
      (working : s.working = before ++ c :: after)
      (fresh : s.redactor.redactFresh c.input = (r, w)) :
      Next s { s with
        redactor := r
        working := before ++ after
        returned := s.returned ++ [(c, c.answer w)] }

/-- Has every call returned? -/
def IsOver (s : Sharing) : Prop := s.waiting = [] ∧ s.working = []

end Sharing

end SecretScan
