import SecretScan.Files.Scan
import SecretScan.Engine.Dispatch

/-!
# Scanning files concurrently

Every folder below the root is walked by a task of its own, and every file is scanned by one. A
file is read while its task holds a permit; the permit is given back before the text is looked
through. In it all candidates are tried at the same time; once they are done, the findings are
emitted one by one. The scan is over when no task is left. What goes wrong with one entry ends the
task of that entry.
-/

namespace SecretScan.Files

/-- Where the task of a folder or of a file stands. -/
inductive Task where
  /-- A folder that is to be listed. `reachable` tells whether what is around it can be reached. -/
  | folder (path : String) (reachable : Bool) (access : Access) (entries : List (String × Entry))
  /-- A folder that is being listed, with the entries that are left. -/
  | listing (path : String) (passable : Bool) (entries : List (String × Entry))
  /-- A file that is to be read, unless it is not worth it. -/
  | file (path : String) (access : Access) (content : List UInt8)
  /-- A file that is being read. Its task holds a permit. -/
  | reading (path : String) (access : Access) (content : List UInt8)
  /-- A file whose text is being looked through. -/
  | searching (path : String) (content : List UInt8) (dispatch : Dispatch)
  /-- A file that has been looked through, with the hits that are not yet emitted. -/
  | emitting (path : String) (content : List UInt8) (hits : List Hit)

/-- What a step of a task does. -/
structure Effect where
  /-- The tasks in place of the one that has taken the step. -/
  tasks : List Task := []
  outcomes : List Outcome := []
  findings : List Finding := []
  /-- The permits that have to be free for the step, and that the tasks hold from then on. -/
  takes : Nat := 0
  returns : Nat := 0

/-- What is made of an entry of a folder: it is left out, or it gets a task. -/
def look (o : ScanOptions) (root : String) (passable : Bool) (path : String) : Entry → Effect
  | .link _ =>
    if o.exclusions.excludes (Exclusions.keyOf root path false) then
      { outcomes := [.excluded path] }
    else {}
  | .file access content =>
    if o.exclusions.excludes (Exclusions.keyOf root path false) then
      { outcomes := [.excluded path] }
    else if !passable then { outcomes := [.unknown path .denied] }
    else { tasks := [.file path access content] }
  | .folder access entries =>
    if o.exclusions.excludes (Exclusions.keyOf root path true) then
      { outcomes := [.excluded path] }
    else { tasks := [.folder path passable access entries] }

/-- The steps of a task. -/
inductive Task.Step (e : Engine) (o : ScanOptions) (root : String) : Task → Effect → Prop
  | unlisted {path : String} {reachable : Bool} {access : Access} {entries : List (String × Entry)}
      (closed : (!reachable || !access.read) = true) :
      Step e o root (.folder path reachable access entries) { outcomes := [.unlisted path .denied] }
  | list {path : String} {reachable : Bool} {access : Access} {entries : List (String × Entry)}
      (closed : (!reachable || !access.read) = false) :
      Step e o root (.folder path reachable access entries)
        { tasks := [.listing path access.pass entries] }
  | look {folder : String} {passable : Bool} {name : String} {entry : Entry}
      {rest : List (String × Entry)} :
      Step e o root (.listing folder passable ((name, entry) :: rest))
        { look o root passable (Path.join folder name) entry with
          tasks := (look o root passable (Path.join folder name) entry).tasks ++
            [.listing folder passable rest] }
  | listed {folder : String} {passable : Bool} : Step e o root (.listing folder passable []) {}
  | unsuitable {path : String} {access : Access} {content : List UInt8}
      (scannable : isScannable path content.length o.maxFileSize = false) :
      Step e o root (.file path access content) { outcomes := [.unsuitable path] }
  /-- A file is opened as soon as there is a permit. -/
  | acquire {path : String} {access : Access} {content : List UInt8}
      (scannable : isScannable path content.length o.maxFileSize = true) :
      Step e o root (.file path access content)
        { tasks := [.reading path access content], takes := 1 }
  | unreadable {path : String} {access : Access} {content : List UInt8}
      (read : access.read = false) :
      Step e o root (.reading path access content)
        { outcomes := [.unreadable path .denied], returns := 1 }
  | binary {path : String} {access : Access} {content : List UInt8} (read : access.read = true)
      (nul : content.contains 0 = true) :
      Step e o root (.reading path access content) { outcomes := [.binary path], returns := 1 }
  | text {path : String} {access : Access} {content : List UInt8} (read : access.read = true)
      (nul : content.contains 0 = false) :
      Step e o root (.reading path access content)
        { tasks := [.searching path content (.start e o.verify (textOf content))]
          outcomes := [.scanned path content]
          returns := 1 }
  | search {path : String} {content : List UInt8} {s t : Dispatch} (next : Dispatch.Next s t) :
      Step e o root (.searching path content s) { tasks := [.searching path content t] }
  | found {path : String} {content : List UInt8} {s : Dispatch} (ended : s.IsOver) :
      Step e o root (.searching path content s) { tasks := [.emitting path content s.hits] }
  | emit {path : String} {content : List UInt8} {h : Hit} {rest : List Hit} :
      Step e o root (.emitting path content (h :: rest))
        { tasks := [.emitting path content rest]
          findings := findingsOf path (textOf content) [h] }
  | leave {path : String} {content : List UInt8} : Step e o root (.emitting path content []) {}

/-- How far a scan has come. -/
structure Progress where
  tasks : List Task
  outcomes : List Outcome := []
  emitted : List Finding := []
  /-- The permits that no task holds. -/
  free : Nat

namespace Progress

/-- A scan that has just begun, with a task for the root; or what has kept it from that. -/
def start (o : ScanOptions) (root : String) (found : Except SystemError Entry) :
    Except Failure Progress :=
  match permitsFor o.maxOpenFiles, found with
  | .error f, _ => .error f
  | _, .error e => .error (.io e)
  | .ok permits, .ok (.file access content) =>
    .ok { tasks := [.file root access content], free := permits }
  | .ok permits, .ok (.folder access entries) =>
    if access.read then .ok { tasks := [.listing root access.pass entries], free := permits }
    else .error (.io .denied)
  | .ok _, .ok (.link _) => .error (.io .notFound)

/-- What can come next: a step of any of the tasks for which there are permits. -/
inductive Next (e : Engine) (o : ScanOptions) (root : String) (s : Progress) : Progress → Prop
  | step {front back : List Task} {task : Task} {effect : Effect}
      (tasks : s.tasks = front ++ task :: back) (step : task.Step e o root effect)
      (permits : effect.takes ≤ s.free) :
      Next e o root s
        { tasks := front ++ (effect.tasks ++ back)
          outcomes := s.outcomes ++ effect.outcomes
          emitted := s.emitted ++ effect.findings
          free := s.free - effect.takes + effect.returns }

/-- Has every task come to its end? -/
def IsOver (s : Progress) : Prop := s.tasks = []

/-- What a scan has done so far. -/
def result (s : Progress) : Scan := ⟨s.outcomes, s.emitted⟩

end Progress

end SecretScan.Files
