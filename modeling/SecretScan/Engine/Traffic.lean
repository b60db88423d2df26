import SecretScan.Gate
import SecretScan.Detector.Registry
import SecretScan.Service.Asking

/-!
# Verifications through the gate

The detectors of a run share one gate, however many texts are scanned at the same time. A scan
that has a question for a service takes a permit and waits with it until the pace lets one more
question pass. It gives the permit back when it has the answer and has made use of it. How the
pace is kept is not said here.
-/

namespace SecretScan

/-- What keeps the pace of the questions. Asked at a moment, it lets one more pass and remembers
that, or it does not. -/
structure Pacing (σ : Type) where
  /-- What it knows at first, for so many questions a second. -/
  start : (perSecond : Nat) → σ
  pass? : σ → (moment : Nat) → Option σ

/-- The questions a second for a limit: at least one. -/
def rateFor (perSecond : Nat) : Nat := max perSecond 1

namespace Traffic

/-- Where a scan stands. -/
inductive Stage where
  /-- It goes on by itself, or has a question and is to take a permit. -/
  | ready (rest : Asking (Option Hit))
  /-- It has a permit, and waits for the pace. -/
  | entered (q : Question) (next : Answer → Asking (Option Hit))
  /-- It has a permit, and may ask. -/
  | admitted (q : Question) (next : Answer → Asking (Option Hit))
  /-- Its service has been asked, and has not answered. -/
  | asking (q : Question) (next : Answer → Asking (Option Hit))
  /-- It has the answer, and still the permit. -/
  | answered (rest : Asking (Option Hit))

namespace Stage

/-- Does the scan hold a permit? -/
def holds : Stage → Bool
  | ready _ => false
  | _ => true

/-- Is a service being asked? -/
def asks : Stage → Bool
  | asking _ _ => true
  | _ => false

/-- A step of a scan, with the gate and the pace in front of it and behind it. -/
inductive Step {σ : Type} (pacing : Pacing σ) : Gate → σ → Stage → Gate → σ → Stage → Prop
  | enter {gate gate' : Gate} {pace : σ} {q : Question} {next : Answer → Asking (Option Hit)}
      (permit : gate.enter? = some gate') :
      Step pacing gate pace (.ready (.ask q next)) gate' pace (.entered q next)
  /-- It is too early for one more question. -/
  | wait {gate : Gate} {pace : σ} {q : Question} {next : Answer → Asking (Option Hit)}
      (moment : Nat)
      (refused : pacing.pass? pace moment = none) :
      Step pacing gate pace (.entered q next) gate pace (.entered q next)
  | pass {gate : Gate} {pace pace' : σ} {q : Question} {next : Answer → Asking (Option Hit)}
      (moment : Nat) (passed : pacing.pass? pace moment = some pace') :
      Step pacing gate pace (.entered q next) gate pace' (.admitted q next)
  | ask {gate : Gate} {pace : σ} {q : Question} {next : Answer → Asking (Option Hit)} :
      Step pacing gate pace (.admitted q next) gate pace (.asking q next)
  /-- The answer may be any, a failure too. -/
  | answer {gate : Gate} {pace : σ} {q : Question} {next : Answer → Asking (Option Hit)}
      (a : Answer) : Step pacing gate pace (.asking q next) gate pace (.answered (next a))
  | leave {gate : Gate} {pace : σ} {rest : Asking (Option Hit)} :
      Step pacing gate pace (.answered rest) gate.leave pace (.ready rest)

end Stage

end Traffic

/-- The gate of a run with the scans that are under way. -/
structure Traffic (σ : Type) where
  gate : Gate
  pace : σ
  scans : List Traffic.Stage := []

namespace Traffic

variable {σ : Type}

/-- A run in which nothing has been scanned. -/
def start (pacing : Pacing σ) (gate : Gate) (perSecond : Nat) : Traffic σ where
  gate := gate
  pace := pacing.start (rateFor perSecond)

/-- How many scans hold a permit. -/
def holding (s : Traffic σ) : Nat := s.scans.countP Stage.holds

/-- How many questions are with a service. -/
def inFlight (s : Traffic σ) : Nat := s.scans.countP Stage.asks

/-- What can come next: a scan begins, goes on, or comes to its end. -/
inductive Next (pacing : Pacing σ) (r : Registry) (s : Traffic σ) : Traffic σ → Prop
  /-- A text is given to a detector, its hit to be verified. -/
  | begin {d : Detector} (text : List Char) (detector : d ∈ r.detectors) :
      Next pacing r s { s with
        scans := s.scans ++ [.ready (d.scan Asking.inquiry true text)] }
  | step {front back : List Stage} {old new : Stage} {gate : Gate} {pace : σ}
      (scans : s.scans = front ++ old :: back)
      (step : Stage.Step pacing s.gate s.pace old gate pace new) :
      Next pacing r s ⟨gate, pace, front ++ new :: back⟩
  | finish {front back : List Stage} {hit : Option Hit}
      (scans : s.scans = front ++ .ready (.done hit) :: back) :
      Next pacing r s { s with scans := front ++ back }

/-- Has every scan come to its end? -/
def IsOver (s : Traffic σ) : Prop := s.scans = []

end Traffic

end SecretScan
