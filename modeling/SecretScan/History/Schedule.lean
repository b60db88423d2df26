import SecretScan.History.Scan

/-!
# Scanning history concurrently

The lines of a log are read one after another. An added line with candidates waits for a permit
and is then scanned by a task of its own, which holds the permit to its end. In the task every
candidate is tried by itself; once all of them are done, in whatever order, the findings are
emitted one by one. The scan is over when the log is read and no task is left, and it is cut short
where the program breaks down at a line. Nothing is verified here.
-/

namespace SecretScan.History

/-- A task that scans one added line. -/
structure LineTask where
  added : AddedLine
  /-- The candidates that are still being tried. -/
  pending : List Detector
  /-- The hits of those that are done, less the emitted ones. -/
  hits : List Hit

/-- The finding for a hit in the line of a task. -/
def LineTask.finding (t : LineTask) (h : Hit) : Finding :=
  .inCommit h t.added.path t.added.commit

/-- How far a scan has come. -/
structure Progress where
  parser : DiffParser
  unread : List (List Char)
  /-- The added line that waits for a permit, and the indices of its candidates. -/
  waiting : Option (AddedLine × List Nat) := none
  linesScanned : Nat := 0
  /-- The permits that no task holds. -/
  free : Nat
  tasks : List LineTask := []
  emitted : List Finding := []

namespace Progress

/-- A scan that has just begun. -/
def start (exclusions : List String) (permits : Nat) (output : List UInt8) : Progress where
  parser := .new exclusions
  unread := Git.linesOf output
  free := permits

/-- What can come next: a step of the reader, or of any of the tasks. -/
inductive Next (b : Build) (e : Engine) (s : Progress) : Progress → Prop
  /-- A line that is not an added one is passed over. -/
  | pass {line : List Char} {rest : List (List Char)} {parser : DiffParser}
      (waiting : s.waiting = none) (unread : s.unread = line :: rest)
      (fed : s.parser.feed? b line = .ok (parser, none)) :
      Next b e s { s with parser := parser, unread := rest }
  /-- An added line without candidates is counted. -/
  | count {line : List Char} {rest : List (List Char)} {parser : DiffParser} {a : AddedLine}
      (waiting : s.waiting = none) (unread : s.unread = line :: rest)
      (fed : s.parser.feed? b line = .ok (parser, some a))
      (selected : e.prefilter.select a.line.toList = []) :
      Next b e s { s with
        parser := parser
        unread := rest
        linesScanned := s.linesScanned + 1 }
  /-- An added line with candidates is counted and has to wait. -/
  | await {line : List Char} {rest : List (List Char)} {parser : DiffParser} {a : AddedLine}
      (waiting : s.waiting = none) (unread : s.unread = line :: rest)
      (fed : s.parser.feed? b line = .ok (parser, some a))
      (selected : e.prefilter.select a.line.toList ≠ []) :
      Next b e s { s with
        parser := parser
        unread := rest
        linesScanned := s.linesScanned + 1
        waiting := some (a, e.prefilter.select a.line.toList) }
  /-- The line that waits gets a permit and a task. -/
  | spawn {a : AddedLine} {indices : List Nat} (waiting : s.waiting = some (a, indices))
      (permit : 0 < s.free) :
      Next b e s { s with
        waiting := none
        free := s.free - 1
        tasks := s.tasks ++ [⟨a, e.candidates indices, []⟩] }
  /-- A candidate of a task is done. -/
  | finish {front back : List LineTask} {t : LineTask} {before after : List Detector} {d : Detector}
      (tasks : s.tasks = front ++ t :: back) (pending : t.pending = before ++ d :: after) :
      Next b e s { s with
        tasks := front ++ { t with
          pending := before ++ after
          hits := t.hits ++ (d.find? t.added.line.toList).toList } :: back }
  /-- A task without candidates emits a finding. -/
  | emit {front back : List LineTask} {t : LineTask} {h : Hit} {rest : List Hit}
      (tasks : s.tasks = front ++ t :: back) (pending : t.pending = [])
      (hits : t.hits = h :: rest) :
      Next b e s { s with
        tasks := front ++ { t with hits := rest } :: back
        emitted := s.emitted ++ [t.finding h] }
  /-- A task that has emitted all its findings gives its permit back. -/
  | leave {front back : List LineTask} {t : LineTask} (tasks : s.tasks = front ++ t :: back)
      (pending : t.pending = []) (hits : t.hits = []) :
      Next b e s { s with tasks := front ++ back, free := s.free + 1 }

/-- Is the log read, and every task at its end? -/
def IsOver (s : Progress) : Prop := s.unread = [] ∧ s.waiting = none ∧ s.tasks = []

/-- Does the program break down at the next line, with this failure? -/
def BreaksDown (b : Build) (s : Progress) (f : Failure) : Prop :=
  s.waiting = none ∧ ∃ line rest, s.unread = line :: rest ∧ s.parser.feed? b line = .error f

/-- The counts of a scan that is over, or the failure if git ended badly. -/
def result (s : Progress) (command : String) (run : Git.Run) : Except Failure Stats :=
  resultOf command run ⟨s.parser.commitsSeen, s.linesScanned⟩

end Progress

end SecretScan.History
