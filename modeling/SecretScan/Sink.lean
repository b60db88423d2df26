import SecretScan.Finding.Report
import SecretScan.Text.Mask
import SecretScan.Path

/-!
# The sink of findings

Findings of every scanner go into one sink, which keeps them in order with running totals, and
shows each of them as it comes in. What is shown is a view: with masking, the value is hidden but
for its first characters. The findings themselves are kept as they are.
-/

namespace SecretScan

/-- What a sink does to the findings that come in. -/
structure SinkOptions where
  mask : Bool := false
  /-- Paths below it are shown relative to it. -/
  displayRoot : Option String := none
  /-- The address that findings without one are given. -/
  sourceUrl : Option String := none
  deriving DecidableEq, Repr

/-- The findings so far, with their totals, and when the run began and ended, in nanoseconds. -/
structure Sink where
  options : SinkOptions := {}
  findings : List Finding := []
  verified : Nat := 0
  unverified : Nat := 0
  byDetector : List (String × Nat) := []
  started : Option Nat := none
  finished : Option Nat := none
  deriving Repr

namespace Sink

/-- Adds one to the count of a name. -/
def countUp (name : String) (counts : List (String × Nat)) : List (String × Nat) :=
  Json.insertMember name ((counts.lookup name).getD 0 + 1) counts

/-- How a path is shown. -/
def displayPath (o : SinkOptions) (path : String) : String :=
  match o.displayRoot with
  | none => path
  | some root => (Path.dropBase? root path).getD path

/-- The form in which a finding is kept. -/
def kept (o : SinkOptions) (f : Finding) : Finding :=
  { f with
    path := displayPath o f.path
    masked := o.mask
    url := f.url.or o.sourceUrl }

/-- The view of a finding. -/
def present (o : SinkOptions) (f : Finding) : Finding :=
  if o.mask then
    { f with hit := { f.hit with value := f.hit.value.map fun v => Text.mask v Text.visibleChars } }
  else f

/-- Takes in a finding. -/
def emit (s : Sink) (f : Finding) : Sink :=
  let f := kept s.options f
  { s with
    findings := s.findings ++ [f]
    verified := if f.hit.verified then s.verified + 1 else s.verified
    unverified := if f.hit.verified then s.unverified else s.unverified + 1
    byDetector := countUp f.hit.detector s.byDetector }

/-- What is shown when a finding is taken in. -/
def viewOf (s : Sink) (f : Finding) : Finding := present s.options (kept s.options f)

/-- Takes in several findings. -/
def emitAll (s : Sink) (fs : List Finding) : Sink := fs.foldl emit s

/-- The run begins. -/
def start (s : Sink) (now : Nat) : Sink := { s with started := some now, finished := none }

/-- The run ends. -/
def finish (s : Sink) (now : Nat) : Sink := { s with finished := some now }

/-- How long the run has taken. -/
def elapsed (s : Sink) (now : Nat) : Duration :=
  match s.started with
  | none => ⟨0⟩
  | some start => ⟨s.finished.getD now - start⟩

/-- The totals, for a run that began at this time of day. -/
def summary (s : Sink) (startedAt : Timestamp) (now : Nat) : Summary where
  startedAt := startedAt
  total := s.findings.length
  verified := s.verified
  unverified := s.unverified
  byDetector := s.byDetector
  duration := s.elapsed now

/-- The findings as they are shown. -/
def presented (s : Sink) : List Finding := s.findings.map (present s.options)

/-- Has anything been found? -/
def hasFindings (s : Sink) : Bool := !s.findings.isEmpty

/-- The report of the run. -/
def report (s : Sink) (startedAt : Timestamp) (now : Nat) : Report :=
  ⟨s.summary startedAt now, s.presented⟩

end Sink

end SecretScan
