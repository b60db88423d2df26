import SecretScan.Sink

/-!
# Sharing a sink

Several producers share one sink, which is locked for one call at a time. How a finding is kept and
how it is shown is made out by its producer beforehand; under the lock it is counted, stored and
shown. In between the others make their calls.
-/

namespace SecretScan.Sink

/-- A call of a sink. -/
inductive Call where
  | start
  | emit (f : Finding)
  | finish

/-- The finding that comes in with a call. -/
def Call.finding? : Call → Option Finding
  | emit f => some f
  | start | finish => none

/-- Counts and stores a finding, which is given as it is to be kept. -/
def store (s : Sink) (f : Finding) : Sink :=
  { s with
    findings := s.findings ++ [f]
    verified := if f.hit.verified then s.verified + 1 else s.verified
    unverified := if f.hit.verified then s.unverified else s.unverified + 1
    byDetector := countUp f.hit.detector s.byDetector }

theorem emit_eq_store (s : Sink) (f : Finding) : s.emit f = s.store (kept s.options f) := rfl

/-- One of those who share a sink. -/
structure Producer where
  /-- The calls that are left, the next one first. -/
  calls : List Call
  /-- How the finding of the next call is kept and shown, once it has been made out. -/
  prepared : Option (Finding × Finding) := none

/-- A sink with those who share it. -/
structure Shared where
  sink : Sink
  producers : List Producer
  /-- The calls in the order in which the sink was locked for them. -/
  taken : List Call := []
  /-- What has been shown. -/
  shown : List Finding := []

namespace Shared

/-- A sink that has not been called yet, and producers with these calls to make. -/
def new (o : SinkOptions) (calls : List (List Call)) : Shared where
  sink := { options := o }
  producers := calls.map fun cs => { calls := cs }

/-- What can come next: a step of any of the producers. The time of a call is read under the
lock. -/
inductive Next (s : Shared) : Shared → Prop
  | start {front back : List Producer} {rest : List Call} (now : Nat)
      (producers : s.producers = front ++ ⟨.start :: rest, none⟩ :: back) :
      Next s { s with
        sink := s.sink.start now
        producers := front ++ ⟨rest, none⟩ :: back
        taken := s.taken ++ [.start] }
  | finish {front back : List Producer} {rest : List Call} (now : Nat)
      (producers : s.producers = front ++ ⟨.finish :: rest, none⟩ :: back) :
      Next s { s with
        sink := s.sink.finish now
        producers := front ++ ⟨rest, none⟩ :: back
        taken := s.taken ++ [.finish] }
  /-- How a finding is kept and shown is made out without the lock. -/
  | prepare {front back : List Producer} {f : Finding} {rest : List Call}
      (producers : s.producers = front ++ ⟨.emit f :: rest, none⟩ :: back) :
      Next s { s with
        producers := front ++ ⟨.emit f :: rest,
          some (kept s.sink.options f, present s.sink.options (kept s.sink.options f))⟩ :: back }
  | store {front back : List Producer} {f keep view : Finding} {rest : List Call}
      (producers : s.producers = front ++ ⟨.emit f :: rest, some (keep, view)⟩ :: back) :
      Next s { s with
        sink := s.sink.store keep
        producers := front ++ ⟨rest, none⟩ :: back
        taken := s.taken ++ [.emit f]
        shown := s.shown ++ [view] }

/-- Have all calls been made? -/
def IsOver (s : Shared) : Prop := ∀ p ∈ s.producers, p.calls = []

end Shared

end SecretScan.Sink
