import SecretScan.CommandLine.Invocation
import SecretScan.CommandLine.Journal
import SecretScan.Console.Output
import SecretScan.Json.Reader

/-!
# Runs of the program

A run as a function of its surroundings: the files, the standard input, git, the services and the
clock. It leaves an exit code, what it has printed, and its journal.
-/

namespace SecretScan.CommandLine

/-- What a run finds around it. -/
structure Surroundings (m : Type → Type) where
  build : Build
  /-- What a path leads to. -/
  entryAt : String → m (Except SystemError Entry)
  input : m (List UInt8)
  /-- Runs git with these arguments in a folder. -/
  git : (folder : String) → (arguments : List String) → m (Except SystemError Git.Run)
  /-- Clones a repository, for no longer than the limit. -/
  clone : (url : String) → (limit : Duration) → m Remote.Clone
  /-- The folder in which a clone then stands. -/
  cloneFolder : String
  ask : Inquiry m
  today : m Timestamp
  /-- Nanoseconds since some moment. -/
  clock : m Nat
  colours : Console.Colours

/-- Why a run fails. -/
inductive RunFailure where
  | unknownFormat (message : String)
  | badConfig (path : String) (failure : Failure)
  | unread (source : String) (error : SystemError)
  | failed (failure : Failure)
  deriving DecidableEq, Repr

namespace RunFailure

/-- Does the program break down of this? -/
def isBreakdown : RunFailure → Bool
  | failed f => f.isBreakdown
  | _ => false

/-- The text of a failure with what caused it. -/
def message : RunFailure → String
  | unknownFormat message => message
  | badConfig path f => "loading config " ++ path ++ ": " ++ f.fullMessage
  | unread source e => "reading " ++ source ++ ": " ++ e.message
  | failed f => f.fullMessage

end RunFailure

/-- What a run has printed and told so far. -/
structure Transcript where
  output : String := ""
  journal : List LogEntry := []
  deriving DecidableEq, Repr

/-- What a run leaves. -/
structure Outcome where
  code : Nat
  output : String
  errors : String
  journal : List LogEntry
  deriving DecidableEq, Repr

namespace Run

variable {m : Type → Type} [Monad m]

/-- Steps of a run that cannot fail. -/
abbrev Steady (m : Type → Type) := StateT Transcript m

/-- Steps of a run. -/
abbrev Step (m : Type → Type) := ExceptT RunFailure (Steady m)

/-- Prints a text. -/
def say (text : String) : Steady m Unit :=
  modify fun t => { t with output := t.output ++ text }

/-- Adds entries to the journal. -/
def tell (entries : List LogEntry) : Steady m Unit :=
  modify fun t => { t with journal := t.journal ++ entries }

/-- A step that fails as a result does. -/
def orFail {α : Type} (failure : Failure → RunFailure) : Except Failure α → Step m α
  | .ok a => pure a
  | .error f => throw (failure f)

/-! ## Configuration -/

/-- The first configuration file that can be used, of those that exist. -/
def discover (w : Surroundings m) : List String → Steady m Config
  | [] => do
    tell [Journal.info "No config file found, using defaults"]
    return {}
  | path :: rest => do
    match ← StateT.lift (w.entryAt path) with
    | .error _ => discover w rest
    | .ok e =>
      match Config.load path e.content with
      | .ok c =>
        tell [Journal.info ("Loaded config from " ++ path)]
        return c
      | .error f =>
        tell [Journal.warn ("Failed to load config from " ++ path ++ ": " ++ f.message)]
        discover w rest

/-- The configuration of a run: that of the file that is named, or one that is found. -/
def config (w : Surroundings m) : Option String → Step m Config
  | none => ExceptT.lift (discover w Config.searchPaths)
  | some path => do
    let entry ← ExceptT.lift (StateT.lift (w.entryAt path))
    orFail (.badConfig path) (Config.load path (entry.bind Entry.content))

/-- The detectors of a configuration. -/
def registryOf (c : Config) : Except Failure Registry := do
  let _ ← Gate.ofLimit c.limits.maxVerifications
  Registry.withCustom c.detectors

/-! ## Scanning -/

/-- Asks a service, and tells if it gives no definite answer. -/
def heard (ask : Inquiry m) : Inquiry (Steady m) := fun s key => do
  let answer ← StateT.lift (ask s key)
  match answer with
  | .ok _ => pure ()
  | .error f => tell [Journal.ofInconclusive s f]
  return answer

/-- Takes findings into a sink, and shows each of them. -/
def emitAll (colours : Console.Colours) (format : ReportFormat) (s : Sink) (fs : List Finding) :
    Steady m Sink := do
  let views := fs.map s.viewOf
  tell (views.map Journal.ofFinding)
  say (Text.joined "" (views.map (Console.findingText format colours)))
  return s.emitAll fs

/-- The folder in which the history of a path is looked for. -/
def historyFolder (path : String) (found : Except SystemError Entry) : String :=
  match found with
  | .ok e => if e.isFolder then path else (Path.parent? path).getD "."
  | .error _ => (Path.parent? path).getD "."

/-- Runs git for the log of a range, in a folder that has to be there. -/
def logOf (w : Surroundings m) (folder : String) (range : Git.Range) : m Past := do
  match ← w.entryAt folder with
  | .error e => return ⟨range, .error e⟩
  | .ok e =>
    if e.isFolder then return ⟨range, ← w.git folder (Git.logArguments range)⟩
    else return ⟨range, .error .notDirectory⟩

/-- The range of history that a scan asks for, if it does. -/
def rangeOf (a : ScanArguments) (c : Config) : Option Git.Range :=
  if a.changedOnly then some (.since c.history.upstream)
  else if a.git then some (.latest (a.depth.getD c.history.depth))
  else none

/-- The history that a scan of a path asks for. -/
def pastOf (w : Surroundings m) (a : ScanArguments) (c : Config)
    (found : Except SystemError Entry) : m (Option Past) :=
  match rangeOf a c with
  | none => pure none
  | some range => do return some (← logOf w (historyFolder a.path found) range)

/-- What a scan works with. -/
structure Setting where
  engine : Engine
  options : ScanOptions
  format : ReportFormat

/-- Scans files and history, and takes what is found into a sink. -/
def search (w : Surroundings m) (s : Setting) (sink : Sink) (root : String)
    (found : Except SystemError Entry) (past : Option Past) : Step m (Sink × Checkout.Scan) := do
  let scan : Checkout.Scan ←
    ExceptT.lift (Checkout.scan w.build s.engine (heard w.ask) s.options root found past)
  ExceptT.lift (tell (Journal.ofCheckout s.engine root past scan))
  let sink ← ExceptT.lift (emitAll w.colours s.format sink scan.findings)
  orFail .failed scan.result
  return (sink, scan)

/-- Scans a path. -/
def scanPath (w : Surroundings m) (s : Setting) (a : ScanArguments) (c : Config) :
    Step m Sink := do
  let begun ← ExceptT.lift (StateT.lift w.clock)
  let sink : Sink := { options := { mask := a.mask } }
  let found ← ExceptT.lift (StateT.lift (w.entryAt a.path))
  let past ← ExceptT.lift (StateT.lift (pastOf w a c found))
  let (sink, _) ← search w s (sink.start begun) a.path found past
  return sink.finish (← ExceptT.lift (StateT.lift w.clock))

/-- Clones a repository and scans the clone. -/
def scanRemote (w : Surroundings m) (s : Setting) (url : String) (depth : Nat) (c : Config) :
    Step m Sink := do
  ExceptT.lift (tell [Journal.info ("Cloning " ++ url)])
  let limit : Duration := .ofMillis (1000 * c.history.cloneTimeoutSeconds)
  let clone ← ExceptT.lift (StateT.lift (w.clone url limit))
  let tree ← orFail .failed (Remote.checkout url limit clone)
  let begun ← ExceptT.lift (StateT.lift w.clock)
  let range := Git.Range.latest depth
  let log ← ExceptT.lift (StateT.lift (w.git w.cloneFolder (Git.logArguments range)))
  let sink := (Remote.sinkFor s.options url w.cloneFolder).start begun
  let (sink, scan) ← search w s sink w.cloneFolder (.ok tree) (some ⟨range, log⟩)
  let sink := sink.finish (← ExceptT.lift (StateT.lift w.clock))
  match scan.files, scan.history with
  | some files, some history =>
    match history.result with
    | .ok stats => ExceptT.lift (tell [Journal.ofRemote files.stats.scanned stats.commitsSeen])
    | .error _ => pure ()
  | _, _ => pure ()
  return sink

/-- The exit code of a scan. -/
def scanCode (failOnFindings : Bool) (s : Sink) : Nat :=
  if failOnFindings && s.hasFindings then 1 else 0

/-- The format of a name. -/
def formatOf (name : String) : Step m ReportFormat :=
  match ReportFormat.parse name with
  | .ok format => pure format
  | .error message => throw (.unknownFormat message)

/-- What is printed before anything else. -/
def openingText (colours : Console.Colours) : ReportFormat → String
  | .text => Console.linesText (Console.bannerLines colours)
  | .json => ""

/-- Scans the path, or a clone of the repository if one is named. -/
def gather (w : Surroundings m) (s : Setting) (a : ScanArguments) (c : Config) : Step m Sink :=
  match a.repo with
  | some url => scanRemote w s url (a.depth.getD c.history.depth) c
  | none => scanPath w s a c

/-- Scans as the arguments say. -/
def scan (w : Surroundings m) (a : ScanArguments) : Step m Nat := do
  let format ← formatOf a.format
  let c ← config w a.config
  let registry ← orFail .failed (registryOf c)
  let s : Setting := ⟨.ofRegistry registry, .ofConfig c a.verify a.mask, format⟩
  ExceptT.lift (tell [Journal.ofEngine s.engine])
  ExceptT.lift (say (openingText w.colours format))
  let sink ← gather w s a c
  let report := sink.report (← ExceptT.lift (StateT.lift w.today)) 0
  ExceptT.lift (say (Console.reportText format w.colours report))
  ExceptT.lift (tell [Journal.info
    ("Scan complete: " ++ Decimal.ofNat sink.findings.length ++ " findings")])
  return scanCode a.failOnFindings sink

/-! ## Redacting and listing -/

/-- The text to be redacted: that of a file, or the standard input. -/
def inputText (w : Surroundings m) (file : Option String) : Step m (List Char) := do
  let (source, content) ← match file with
    | some path =>
      let entry ← ExceptT.lift (StateT.lift (w.entryAt path))
      pure (path, entry.bind Entry.content)
    | none =>
      let bytes ← ExceptT.lift (StateT.lift w.input)
      pure ("stdin", .ok bytes)
  match content with
  | .error e => throw (.unread source e)
  | .ok bytes =>
    match Text.Utf8.decode? bytes with
    | some text => return text
    | none => throw (.unread source .notUtf8)

/-- The redactor for a file of rules, and what is told of it. -/
def redactorOf (w : Surroundings m) (rules : Option String) (capacity : Nat) :
    Steady m Redactor := do
  let content ← match rules with
    | none => pure (.error .notFound)
    | some path =>
      let entry ← StateT.lift (w.entryAt path)
      pure (entry.bind Entry.content)
  let (r, failure) := Redactor.ofFile rules (fun _ => content) capacity
  match failure with
  | none => pure ()
  | some f =>
    tell [Journal.warn ("Using default redaction rules, could not load " ++ rules.getD "" ++
      ": " ++ f.message)]
  return r

/-- Redacts a text, or the value that it stands for. -/
def redact (w : Surroundings m) (a : RedactArguments) : Step m Nat := do
  let c ← config w a.config
  let text ← inputText w a.file
  let r ← ExceptT.lift (redactorOf w (a.rules.or c.redaction.rulesPath)
    (a.cacheSize.getD c.redaction.cacheSize))
  let value := (Json.parse? text).getD (.str (String.ofList text))
  ExceptT.lift (tell (Journal.ofRedaction r value))
  let (r, redacted) := r.redact value
  match Json.parse? text, redacted with
  | none, .str s => ExceptT.lift (say s)
  | _, v => ExceptT.lift (say (v.indented ++ "\n"))
  ExceptT.lift (tell [Journal.ofStats r.stats])
  return 0

/-- Lists the detectors. -/
def list (w : Surroundings m) (path : Option String) : Step m Nat := do
  let c ← config w path
  let registry ← orFail .failed (registryOf c)
  ExceptT.lift (say (Console.linesText (Console.detectorLines w.colours registry)))
  return 0

/-! ## Outcomes -/

/-- The task of an invocation. -/
def task (w : Surroundings m) : Task → Step m Nat
  | .scan a => scan w a
  | .redact a => redact w a
  | .list path => list w path

/-- The exit code of a failure. -/
def failureCode (f : RunFailure) : Nat := if f.isBreakdown then 101 else 1

/-- What is written of a failure as an error. What becomes known of a breakdown is not said here. -/
def errorText (colours : Console.Colours) (f : RunFailure) : String :=
  if f.isBreakdown then ""
  else Console.linesText [Console.errorLine colours ("Error: " ++ f.message)]

/-- What steps of a run leave, as its outcome. Details are only told to those who ask for them. -/
def outcomeOf (colours : Console.Colours) (verbose : Bool)
    (left : Except RunFailure Nat × Transcript) : Outcome :=
  let journal := left.2.journal.filter fun e => e.level.isShown verbose
  match left.1 with
  | .ok code => ⟨code, left.2.output, "", journal⟩
  | .error f => ⟨failureCode f, left.2.output, errorText colours f, journal⟩

/-- What arguments lead to that ask for no run. -/
def usageOutcome (p : UsageProblem) : Outcome :=
  if p.isAnswer then ⟨0, Console.linesText p.lines, "", []⟩
  else ⟨2, "", Console.linesText p.lines, []⟩

/-- Runs the program. -/
def program (w : Surroundings m) (words : List String) : m Outcome :=
  match Invocation.read words with
  | .error p => pure (usageOutcome p)
  | .ok i => do
    return outcomeOf w.colours i.verbose (← ((task w i.task).run {} : m _))

end Run

end SecretScan.CommandLine
