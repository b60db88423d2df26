import SecretScan.Engine
import SecretScan.Service.Asking

/-!
# Trying candidates concurrently

The candidates for a text are tried at the same time. Each trial goes its own way, asks its
questions as it comes to them, and waits for the answers; in the meantime the others go on. The
hits stand in the order in which the trials came to their ends.
-/

namespace SecretScan

/-- Where a trial stands. -/
inductive Trial.Stage where
  | ready (rest : Asking (Option Hit))
  /-- A question has been asked, and its answer is awaited. -/
  | waiting (q : Question) (next : Answer → Asking (Option Hit))

/-- A candidate that is tried. -/
structure Trial where
  detector : Detector
  /-- The questions that were answered, with their answers. -/
  answers : List (Question × Answer) := []
  stage : Trial.Stage

/-- A candidate that has been tried. -/
structure Outcome where
  detector : Detector
  answers : List (Question × Answer)
  hit : Option Hit

/-- How far the trials have come. -/
structure Dispatch where
  trials : List Trial
  /-- Every question that was asked, in the order of time. -/
  asked : List Question := []
  outcomes : List Outcome := []

namespace Dispatch

/-- The trials of the candidates that the prefilter selects. -/
def start (e : Engine) (verify : Bool) (text : List Char) : Dispatch where
  trials := (e.candidates (e.prefilter.select text)).map fun d =>
    { detector := d, stage := .ready (d.scan Asking.inquiry verify text) }

/-- The hits so far. -/
def hits (s : Dispatch) : List Hit := s.outcomes.filterMap (·.hit)

/-- What can come next: a step of any of the trials. -/
inductive Next (s : Dispatch) : Dispatch → Prop
  /-- A trial asks its question. -/
  | ask {front back : List Trial} {t : Trial} {q : Question} {next : Answer → Asking (Option Hit)}
      (trials : s.trials = front ++ t :: back) (stage : t.stage = .ready (.ask q next)) :
      Next s { s with
        trials := front ++ { t with stage := .waiting q next } :: back
        asked := s.asked ++ [q] }
  /-- A trial is given an answer, which may be any. -/
  | answer {front back : List Trial} {t : Trial} {q : Question}
      {next : Answer → Asking (Option Hit)} (a : Answer)
      (trials : s.trials = front ++ t :: back) (stage : t.stage = .waiting q next) :
      Next s { s with
        trials := front ++ { t with
          answers := t.answers ++ [(q, a)]
          stage := .ready (next a) } :: back }
  /-- A trial comes to its end. -/
  | finish {front back : List Trial} {t : Trial} {hit : Option Hit}
      (trials : s.trials = front ++ t :: back) (stage : t.stage = .ready (.done hit)) :
      Next s { s with
        trials := front ++ back
        outcomes := s.outcomes ++ [⟨t.detector, t.answers, hit⟩] }

/-- Has every trial come to its end? -/
def IsOver (s : Dispatch) : Prop := s.trials = []

end Dispatch

end SecretScan
