import SecretScan.Proofs.CommandLine.ExitCode
import SecretScan.Proofs.Files.Places

/-!
# The history beside a file

When a run scans a single file, it asks for the history of the folder that the file is in. Where
the path of the file has a slash, git is started in this folder. A bare name is taken to be in the
folder that is called by the empty text. There is none, so git is not started, and the run ends
before it has looked at the file.
-/

namespace SecretScan.CommandLine.Run

variable {w : Surroundings Id} {words : List String} {range : Git.Range}

/-! ## Git that cannot be started -/

/-- When git cannot be started, a scan ends before any file is looked at. -/
theorem checkout_of_unstarted {m : Type → Type} [Monad m] [LawfulMonad m] (b : Build) (e : Engine)
    (ask : Inquiry m) (o : ScanOptions) (root : String) (found : Except SystemError Entry)
    (err : SystemError) (hlimit : max o.maxOpenFiles 1 ≤ maxPermits) :
    Checkout.scan b e ask o root found (some ⟨range, .error err⟩) = pure
      { history :=
          some (.failed (.subprocess (Git.commandLine (Git.logArguments range)) err.message))
        result :=
          .error (.subprocess (Git.commandLine (Git.logArguments range)) err.message) } := by
  simp only [Checkout.scan, permitsFor_of_le hlimit, Checkout.scanPast, History.scan, pure_bind]
  rfl

namespace LocalScan

/-- A run for which git cannot be started says so, and has reported nothing. -/
theorem outcome_of_unstarted (s : LocalScan w words) {err : SystemError}
    (hpast : s.past = some ⟨range, .error err⟩)
    (hlimit : max s.setting.options.maxOpenFiles 1 ≤ maxPermits) :
    let f : Failure := .subprocess (Git.commandLine (Git.logArguments range)) err.message
    (program w words).run.code = 1 ∧
      (program w words).run.output = openingText w.colours s.format ∧
      (program w words).run.errors =
        Console.linesText [Console.errorLine w.colours ("Error: " ++ f.fullMessage)] := by
  intro f
  obtain ⟨scanned, hscan, hresult, hfound⟩ :
      ∃ scanned, Prints (Checkout.scan w.build s.setting.engine
      (heard w.ask) s.setting.options s.arguments.path s.found s.past) "" scanned ∧
      scanned.result = .error f ∧ scanned.findings = [] := by
    refine ⟨{ history := some (.failed f), result := .error f }, ?_, rfl, rfl⟩
    rw [hpast, checkout_of_unstarted _ _ _ _ _ _ _ hlimit]
    exact prints_pure _
  have hf : failureCode (.failed f) = 1 := rfl
  have htext : errorText w.colours (.failed f) =
      Console.linesText [Console.errorLine w.colours ("Error: " ++ f.fullMessage)] := rfl
  clear_value f
  have hprints := s.prints_scan hscan
  rw [hresult, hfound] at hprints
  obtain ⟨houtput, hcode⟩ := s.outcome_eq hprints
  exact ⟨hcode.trans hf, houtput.trans String.append_empty, (s.errors_eq hprints).trans htext⟩

end LocalScan

/-! ## The folder of a file -/

theorem logOf_of_folder {folder : String} {e : Entry} (hfound : (w.entryAt folder).run = .ok e)
    (hfolder : e.isFolder = true) :
    (logOf w folder range).run = ⟨range, w.git folder (Git.logArguments range)⟩ := by
  have hentry : w.entryAt folder = pure (.ok e) := hfound
  rw [logOf, hentry, pure_bind]
  simp only [hfolder, if_true]
  rfl

theorem logOf_of_error {folder : String} {err : SystemError}
    (hfound : (w.entryAt folder).run = .error err) :
    (logOf w folder range).run = ⟨range, .error err⟩ := by
  have hentry : w.entryAt folder = pure (.error err) := hfound
  rw [logOf, hentry, pure_bind]
  rfl

theorem historyFolder_of_file (path : String) (access : Access) (content : List UInt8) :
    historyFolder path (.ok (.file access content)) = (Path.parent? path).getD "." := rfl

namespace LocalScan

theorem past_eq (s : LocalScan w words) (hrange : rangeOf s.arguments s.config = some range) :
    s.past = some (logOf w (historyFolder s.arguments.path s.found) range).run := by
  rw [past, pastOf, hrange]
  rfl

end LocalScan

/-- Where a run is to scan a file with its history, git is started in the folder that the file is
in, if the path of the file has a slash. For a bare name it is not started, although a single dot
would have led to this folder, and the run fails. -/
theorem history_beside_file_needs_slash (w : Surroundings Id) (words : List String)
    (s : LocalScan w words) (fs : FileSystem) (hfs : ∀ path, w.entryAt path = fs.lookup path)
    {access : Access} {content : List UInt8}
    (hfile : fs.lookup s.arguments.path = .ok (.file access content)) {range : Git.Range}
    (hrange : rangeOf s.arguments s.config = some range) :
    let path := s.arguments.path
    let folder := historyFolder path s.found
    let failure : Failure :=
      .subprocess (Git.commandLine (Git.logArguments range)) SystemError.notFound.message
    ('/' ∈ path.toList →
      s.past = some ⟨range, w.git folder (Git.logArguments range)⟩ ∧
      ∃ name there, Path.fileName? path = some name ∧ fs.Leads folder there ∧
        there.lookup name = .ok (.file access content)) ∧
    ('/' ∉ path.toList →
      folder = "" ∧ fs.Leads "." fs ∧ s.past = some ⟨range, .error .notFound⟩ ∧
      (max s.setting.options.maxOpenFiles 1 ≤ maxPermits →
        (program w words).run.code = 1 ∧
        (program w words).run.output = openingText w.colours s.format ∧
        (program w words).run.errors =
          Console.linesText [Console.errorLine w.colours ("Error: " ++ failure.fullMessage)])) := by
  intro path folder failure
  have hfound : s.found = .ok (.file access content) := (hfs path).trans hfile
  have hparent : folder = (Path.parent? path).getD "." := by
    show historyFolder path s.found = _
    rw [hfound, historyFolder_of_file]
  have hpast := s.past_eq hrange
  refine ⟨fun hslash => ?_, fun hslash => ?_⟩
  · obtain ⟨folder', name, there, hparent', hname, hleads, hthere⟩ :=
      FileSystem.exists_folder_of_slash hfile hslash
    obtain rfl : folder = folder' := by rw [hparent, hparent', Option.getD_some]
    obtain ⟨e, hlookup, hfolder⟩ := hleads.lookup
    refine ⟨?_, name, there, hname, hleads, hthere⟩
    rw [hpast, logOf_of_folder ((hfs folder).trans hlookup) hfolder]
  · obtain ⟨hparent', hdot⟩ := FileSystem.folder_of_bare hfile hslash
    have hempty : folder = "" := by rw [hparent, hparent', Option.getD_some]
    have hunstarted : s.past = some ⟨range, .error .notFound⟩ := by
      rw [hpast]
      show some (logOf w folder range).run = _
      rw [hempty, logOf_of_error ((hfs "").trans fs.lookup_empty)]
    exact ⟨hempty, hdot, hunstarted, fun hlimit => s.outcome_of_unstarted hunstarted hlimit⟩

/-- Surroundings in which there are files, and a git with an empty log. -/
def checkout (entryAt : String → Except SystemError Entry) : Surroundings Id :=
  { filesAlone entryAt with git := fun _ _ => .ok ⟨[], [], .exited 0⟩ }

theorem LocalScan.found_checkout {entryAt : String → Except SystemError Entry}
    (s : LocalScan (checkout entryAt) words) : s.found = entryAt s.arguments.path := rfl

/-- A file in a folder is scanned with the history of the folder. -/
theorem git_starts_beside_file_in_folder :
    let root : Entry := .folder {} [("sub", .folder {} [("a.env", .file {} [])])]
    ∃ s : LocalScan (checkout root.lookup) ["scan", "sub/a.env", "--git"],
      historyFolder s.arguments.path s.found = "sub" ∧
        s.past = some ⟨.latest 100, .ok ⟨[], [], .exited 0⟩⟩ := by
  intro root
  let fs : FileSystem := ⟨[], [root], by simp [root, Entry.isFolder]⟩
  have hreads : Invocation.read ["scan", "sub/a.env", "--git"] =
      .ok ⟨.scan { path := "sub/a.env", git := true }, false⟩ := by
    decide
  have hconfig : configOf (checkout root.lookup) none = .ok {} := by decide
  obtain ⟨r, hr, -⟩ := exists_registryOf (c := {}) (by decide) rfl
  let s : LocalScan (checkout root.lookup) ["scan", "sub/a.env", "--git"] :=
    ⟨_, _, .text, {}, r, hreads, rfl, by decide, hconfig, hr⟩
  have hfile : fs.lookup "sub/a.env" = .ok (.file {} []) := by rfl
  have hslash : '/' ∈ "sub/a.env".toList := by decide
  have hfolder : historyFolder "sub/a.env" (root.lookup "sub/a.env") = "sub" := by decide
  obtain ⟨hpast, -⟩ := (history_beside_file_needs_slash _ _ s fs (fun _ => rfl) hfile rfl).1 hslash
  rw [← s.found_checkout] at hfolder
  exact ⟨s, hfolder, hpast⟩

/-- The file is in the folder in which the run works, and git is not started. -/
theorem git_is_not_started_beside_bare_name :
    let root : Entry := .folder {} [("a.env", .file {} [])]
    let words := ["scan", "a.env", "--git"]
    root.lookup "a.env" = .ok (.file {} []) ∧ root.lookup "." = .ok root ∧
      (∃ s : LocalScan (checkout root.lookup) words, s.arguments.path = "a.env" ∧
        historyFolder s.arguments.path s.found = "" ∧
          s.past = some ⟨.latest 100, .error .notFound⟩) ∧
      (program (checkout root.lookup) words).run.code = 1 := by
  intro root words
  have hreads : Invocation.read words =
      .ok ⟨.scan { path := "a.env", git := true }, false⟩ := by
    decide
  have hconfig : configOf (checkout root.lookup) none = .ok {} := by decide
  obtain ⟨r, hr, -⟩ := exists_registryOf (c := {}) (by decide) rfl
  let s : LocalScan (checkout root.lookup) words :=
    ⟨_, _, .text, {}, r, hreads, rfl, by decide, hconfig, hr⟩
  have hfolder : historyFolder "a.env" (root.lookup "a.env") = "" := by decide
  rw [← s.found_checkout] at hfolder
  have hpast : s.past = some ⟨.latest 100, .error .notFound⟩ := by
    have hrange : rangeOf s.arguments s.config = some (.latest 100) := rfl
    rw [s.past_eq hrange, hfolder, logOf_of_error rfl]
  have hlimit : max s.setting.options.maxOpenFiles 1 ≤ maxPermits := by
    show max (ScanOptions.ofConfig {} false false).maxOpenFiles 1 ≤ maxPermits
    decide
  exact ⟨rfl, rfl, ⟨s, rfl, hfolder, hpast⟩, (s.outcome_of_unstarted hpast hlimit).1⟩

end SecretScan.CommandLine.Run
