import SecretScan.Checkout
import SecretScan.Files.Schedule

/-!
# Scanning files and history concurrently

The tasks of the files go on while the log is read, and all of them share one sink. An added line
with candidates gets a task as soon as there is a permit for it, which the task holds to its end. In
it all candidates are tried at the same time; once they are done, the findings are emitted one by
one. The scan is over when the log is read and no task is left, neither of a file nor of an added
line. Where the program breaks down at a line of the log, the tasks are cut short with it.
-/

namespace SecretScan.Checkout

/-- Where the task of an added line stands. -/
inductive LineTask where
  /-- A line that is being looked through. -/
  | searching (added : AddedLine) (dispatch : Dispatch)
  /-- A line that has been looked through, with the hits that are not yet emitted. -/
  | emitting (added : AddedLine) (hits : List Hit)

/-- How far a scan has come. -/
structure Progress where
  files : Files.Progress
  parser : DiffParser
  /-- The lines of the log that are left. -/
  unread : List (List Char)
  /-- The permits that no task of an added line holds. -/
  free : Nat
  tasks : List LineTask := []
  /-- What the tasks of added lines have emitted. -/
  emitted : List Finding := []
  /-- What all tasks have emitted went into it, in the order of time. -/
  sink : Sink

namespace Progress

/-- The lines of a log and the permits for them, or what has kept git or its reader from
starting. -/
def logOf (o : ScanOptions) : Option Past → Except Failure (List (List Char) × Nat)
  | none => .ok ([], 0)
  | some ⟨range, .error err⟩ =>
    .error (.subprocess (Git.commandLine (Git.logArguments range)) err.message)
  | some ⟨_, .ok run⟩ =>
    (permitsFor o.maxPendingLines).map fun permits => (Git.linesOf run.output, permits)

/-- A scan that has just begun, or what has kept it from that. -/
def start (o : ScanOptions) (root : String) (found : Except SystemError Entry)
    (past : Option Past) (sink : Sink) : Except Failure Progress := do
  let _ ← permitsFor o.maxOpenFiles
  let (lines, permits) ← logOf o past
  let files ← Files.Progress.start o root found
  return {
    files := files
    parser := .new o.exclusions.paths
    unread := lines
    free := permits
    sink := sink }

/-- What can come next: a step of the files, of the reader of the log, or of the task of an added
line. -/
inductive Next (b : Build) (e : Engine) (o : ScanOptions) (root : String) (s : Progress) :
    Progress → Prop
  /-- What the step of a file emits goes into the sink. -/
  | file {files : Files.Progress} {found : List Finding}
      (next : Files.Progress.Next e o root s.files files)
      (emitted : files.emitted = s.files.emitted ++ found) :
      Next b e o root s { s with files := files, sink := s.sink.emitAll found }
  /-- A line that is not an added one, or has no candidates, is passed over. -/
  | pass {line : List Char} {rest : List (List Char)} {parser : DiffParser}
      {output : Option AddedLine} (unread : s.unread = line :: rest)
      (fed : s.parser.feed? b line = .ok (parser, output))
      (idle : ∀ a ∈ output, e.prefilter.select a.line.toList = []) :
      Next b e o root s { s with parser := parser, unread := rest }
  /-- An added line with candidates gets a task when there is a permit. -/
  | spawn {line : List Char} {rest : List (List Char)} {parser : DiffParser} {a : AddedLine}
      (unread : s.unread = line :: rest) (fed : s.parser.feed? b line = .ok (parser, some a))
      (selected : e.prefilter.select a.line.toList ≠ []) (permit : 0 < s.free) :
      Next b e o root s { s with
        parser := parser
        unread := rest
        free := s.free - 1
        tasks := s.tasks ++ [.searching a (.start e o.verify a.line.toList)] }
  | search {front back : List LineTask} {a : AddedLine} {d d' : Dispatch}
      (tasks : s.tasks = front ++ .searching a d :: back) (next : Dispatch.Next d d') :
      Next b e o root s { s with tasks := front ++ .searching a d' :: back }
  | found {front back : List LineTask} {a : AddedLine} {d : Dispatch}
      (tasks : s.tasks = front ++ .searching a d :: back) (ended : d.IsOver) :
      Next b e o root s { s with tasks := front ++ .emitting a d.hits :: back }
  | emit {front back : List LineTask} {a : AddedLine} {h : Hit} {rest : List Hit}
      (tasks : s.tasks = front ++ .emitting a (h :: rest) :: back) :
      Next b e o root s { s with
        tasks := front ++ .emitting a rest :: back
        emitted := s.emitted ++ [.inCommit h a.path a.commit]
        sink := s.sink.emit (.inCommit h a.path a.commit) }
  /-- A task that has emitted all its findings gives its permit back. -/
  | leave {front back : List LineTask} {a : AddedLine}
      (tasks : s.tasks = front ++ .emitting a [] :: back) :
      Next b e o root s { s with tasks := front ++ back, free := s.free + 1 }

/-- Is the log read, and every task at its end? -/
def IsOver (s : Progress) : Prop := s.files.IsOver ∧ s.unread = [] ∧ s.tasks = []

/-- Does the program break down at the next line of the log, with this failure? -/
def BreaksDown (b : Build) (s : Progress) (f : Failure) : Prop :=
  ∃ line rest, s.unread = line :: rest ∧ s.parser.feed? b line = .error f

/-- The result with which a scan has ended. That git has ended badly shows when the log is read and
its lines are done with; the files are then left as they are. -/
inductive Ends (past : Option Past) (s : Progress) : Except Failure Unit → Prop
  | well (ended : s.IsOver)
      (status : ∀ p ∈ past, ∀ run, p.run = .ok run → run.status.isSuccess = true) :
      Ends past s (.ok ())
  | badly {range : Git.Range} {run : Git.Run} {stats : History.Stats} {f : Failure}
      (ran : past = some ⟨range, .ok run⟩) (unread : s.unread = []) (tasks : s.tasks = [])
      (status : History.resultOf (Git.commandLine (Git.logArguments range)) run stats = .error f) :
      Ends past s (.error f)

end Progress

end SecretScan.Checkout
