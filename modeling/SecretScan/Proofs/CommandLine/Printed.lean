import SecretScan.Proofs.CommandLine.Steps

/-!
# What a run prints

A run that scans a path prints what it finds as it comes in, and a report at the end if nothing has
failed. In JSON the report is all that it prints.
-/

namespace SecretScan.CommandLine.Run

variable {w : Surroundings Id} {words : List String}

/-! ## What is printed -/

/-- The configuration of a run, or why there is none. -/
def configOf (w : Surroundings Id) (path : Option String) : Except RunFailure Config :=
  ((config w path).run.run {}).1

theorem yields_discover (w : Surroundings Id) (paths : List String) :
    Yields (discover w paths) fun _ => True := by
  have htell : ∀ entries, Yields (tell (m := Id) entries) fun _ => True :=
    fun entries => ⟨(), prints_tell entries, trivial⟩
  induction paths with
  | nil => exact (htell _).bind fun _ _ => yields_pure trivial
  | cons path rest ih =>
      have hentry : Yields (StateT.lift (w.entryAt path) : Steady Id _) fun _ => True :=
        ⟨_, prints_lift _, trivial⟩
      refine hentry.bind fun entry _ => ?_
      cases entry with
      | error err => exact ih
      | ok entry =>
          cases hload : Config.load path entry.content with
          | ok c =>
              simp only [hload]
              exact (htell _).bind fun _ _ => yields_pure trivial
          | error f =>
              simp only [hload]
              exact (htell _).bind fun _ _ => ih

theorem prints_config (w : Surroundings Id) (path : Option String) :
    Prints (config w path).run "" (configOf w path) := by
  suffices h : Yields (config w path).run fun _ => True from h.prints
  cases path with
  | none =>
      obtain ⟨c, hc, -⟩ := yields_discover w Config.searchPaths
      exact ⟨_, hc.lift, trivial⟩
  | some path =>
      have hentry := (prints_lift (w.entryAt path)).lift
      exact ⟨_, hentry.after_ok (prints_orFail (.badConfig path) _), trivial⟩

/-- What is printed of findings as they come in. -/
def shownText (colours : Console.Colours) (format : ReportFormat) (s : Sink) (fs : List Finding) :
    String :=
  Text.joined "" ((fs.map s.viewOf).map (Console.findingText format colours))

theorem shownText_json (colours : Console.Colours) (sink : Sink) (fs : List Finding) :
    shownText colours .json sink fs = "" := by
  rw [shownText, List.map_map, Text.joined]
  induction fs with
  | nil => rfl
  | cons f fs ih =>
      cases fs with
      | nil => rfl
      | cons g fs =>
          rw [List.map_cons, List.map_cons, String.intercalate_cons_cons, ← List.map_cons, ih]
          rfl

theorem prints_emitAll (colours : Console.Colours) (format : ReportFormat) (s : Sink)
    (fs : List Finding) :
    Prints (emitAll colours format s fs) (shownText colours format s fs) (s.emitAll fs) := by
  refine (prints_tell _).after ?_
  rw [← String.append_empty (s := shownText ..)]
  exact (prints_say _).bind (prints_pure _)

/-- What is found is shown even if the scan fails in the end. -/
theorem prints_search (w : Surroundings Id) (s : Setting) (sink : Sink) (root : String)
    (found : Except SystemError Entry) (past : Option Past) {scan : Checkout.Scan}
    (hscan : Prints
      (Checkout.scan w.build s.engine (heard w.ask) s.options root found past) "" scan) :
    Prints (search w s sink root found past).run (shownText w.colours s.format sink scan.findings)
      ((scan.result.mapError RunFailure.failed).map fun _ =>
        (sink.emitAll scan.findings, scan)) := by
  refine hscan.lift.after_ok ((prints_tell _).lift.after_ok ?_)
  have hshown := (prints_emitAll w.colours s.format sink scan.findings).lift
  rw [← String.append_empty (s := shownText ..)]
  refine hshown.bind_ok ?_
  cases hresult : scan.result with
  | ok _ =>
      exact (prints_orFail .failed _).after_ok (prints_pure _)
  | error f => exact (prints_orFail .failed _).bind_error

/-! ## Scans of a path -/

/-- A run that is to scan a path: the command line can be read and names no repository, the format
is known, and the configuration and its detectors can be read. -/
structure LocalScan (w : Surroundings Id) (words : List String) where
  arguments : ScanArguments
  verbose : Bool
  format : ReportFormat
  config : Config
  registry : Registry
  reads : Invocation.read words = .ok ⟨.scan arguments, verbose⟩
  noRepository : arguments.repo = none
  parses : ReportFormat.parse arguments.format = .ok format
  configured : configOf w arguments.config = .ok config
  registered : registryOf config = .ok registry

/-- The exit code of what a run comes to. -/
def codeOf : Except RunFailure Nat → Nat
  | .ok code => code
  | .error f => failureCode f

/-- What a run reports of its sink at the end. -/
def reportOf (w : Surroundings Id) (sink : Sink) : Report :=
  (sink.finish w.clock.run).report w.today.run 0

namespace LocalScan

variable (s : LocalScan w words)

/-- What the run works with. -/
def setting : Setting where
  engine := .ofRegistry s.registry
  options := .ofConfig s.config s.arguments.verify s.arguments.mask
  format := s.format

/-- What the path leads to. -/
def found : Except SystemError Entry := (w.entryAt s.arguments.path).run

/-- The history that the scan asks for. -/
def past : Option Past := (pastOf w s.arguments s.config s.found).run

/-- The sink of the run at its beginning. -/
def sink : Sink := ({ options := { mask := s.arguments.mask } } : Sink).start w.clock.run

theorem prints_scanPath {scan : Checkout.Scan} (hscan : Prints (Checkout.scan w.build
      s.setting.engine (heard w.ask) s.setting.options s.arguments.path s.found s.past) "" scan) :
    Prints (scanPath w s.setting s.arguments s.config).run
      (shownText w.colours s.format s.sink scan.findings)
      ((scan.result.mapError RunFailure.failed).map fun _ =>
        (s.sink.emitAll scan.findings).finish w.clock.run) := by
  refine (prints_lift w.clock).lift.after_ok ?_
  refine (prints_lift (w.entryAt s.arguments.path)).lift.after_ok ?_
  refine (prints_lift (pastOf w s.arguments s.config s.found)).lift.after_ok ?_
  have hsearch := prints_search w s.setting s.sink s.arguments.path s.found s.past hscan
  cases hresult : scan.result with
  | error f =>
      rw [hresult] at hsearch
      exact hsearch.bind_error
  | ok _ =>
      rw [hresult] at hsearch
      rw [← String.append_empty (s := shownText ..)]
      refine hsearch.bind_ok ?_
      exact (prints_lift w.clock).lift.after_ok (prints_pure _)

/-- A scan that does not fail is reported after all that it has found was shown. -/
theorem prints_scan {scanned : Checkout.Scan} (hscan : Prints (Checkout.scan w.build
      s.setting.engine (heard w.ask) s.setting.options s.arguments.path s.found s.past) ""
      scanned) :
    Prints (scan w s.arguments).run
      (openingText w.colours s.format ++ (shownText w.colours s.format s.sink scanned.findings ++
        match scanned.result with
        | .ok _ =>
          Console.reportText s.format w.colours (reportOf w (s.sink.emitAll scanned.findings))
        | .error _ => ""))
      ((scanned.result.mapError RunFailure.failed).map fun _ =>
        scanCode s.arguments.failOnFindings (s.sink.emitAll scanned.findings)) := by
  have hformat : Prints (formatOf s.arguments.format : Step Id _).run "" (.ok s.format) := by
    rw [formatOf, s.parses]
    exact prints_pure _
  have hconfig := prints_config w s.arguments.config
  rw [s.configured] at hconfig
  have hregistry : Prints (orFail (m := Id) .failed (registryOf s.config)).run ""
      (.ok s.registry) := by
    rw [s.registered]
    exact prints_pure _
  refine hformat.after_ok (hconfig.after_ok (hregistry.after_ok ?_))
  refine (prints_tell _).lift.after_ok ((prints_say _).lift.bind_ok ?_)
  have hpath := s.prints_scanPath hscan
  have hgather : gather w s.setting s.arguments s.config =
      scanPath w s.setting s.arguments s.config := by rw [gather, s.noRepository]
  rw [← hgather] at hpath
  cases hresult : scanned.result with
  | error f =>
      rw [hresult] at hpath
      rw [String.append_empty]
      exact hpath.bind_error
  | ok _ =>
      rw [hresult] at hpath
      refine hpath.bind_ok ((prints_lift w.today).lift.after_ok ?_)
      rw [← String.append_empty (s := Console.reportText ..)]
      refine (prints_say _).lift.bind_ok ?_
      exact (prints_tell _).lift.after_ok (prints_pure _)

theorem program_eq : (program w words).run =
    outcomeOf w.colours s.verbose ((scan w s.arguments).run.run {}) := by
  rw [program, s.reads]
  rfl

/-- What a scan prints and what it comes to is what the program leaves. -/
theorem outcome_eq {text : String} {result : Except RunFailure Nat}
    (h : Prints (scan w s.arguments).run text result) :
    (program w words).run.output = text ∧ (program w words).run.code = codeOf result := by
  obtain ⟨hresult, htext⟩ := h {}
  rw [s.program_eq, outcomeOf, hresult]
  rw [String.empty_append] at htext
  cases result with
  | ok code => exact ⟨htext, rfl⟩
  | error f => exact ⟨htext, rfl⟩

/-- The run tells of the failure that has ended it. -/
theorem errors_eq {text : String} {f : RunFailure}
    (h : Prints (scan w s.arguments).run text (.error f)) :
    (program w words).run.errors = errorText w.colours f := by
  obtain ⟨hresult, -⟩ := h {}
  rw [s.program_eq, outcomeOf, hresult]

end LocalScan

end SecretScan.CommandLine.Run
