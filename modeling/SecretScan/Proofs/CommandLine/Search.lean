import SecretScan.Proofs.Checkout.Candidates
import SecretScan.Proofs.CommandLine.Steps

/-!
# What a search comes to

The scan that a run makes asks services on its way, and their answers are told in the journal.
Nothing is printed on the way, and whatever the answers are, what is found are the candidates, less
what the answers add to them.
-/

namespace SecretScan.CommandLine.Run

variable {e : Engine} {o : ScanOptions} {root : String} {found : Except SystemError Entry}
  {past : Option Past}

/-! ## One text -/

theorem yields_heard (ask : Inquiry Id) (s : Service) (value : String) :
    Yields (heard ask s value) fun _ => True := by
  have hanswer : Yields (StateT.lift (ask s value) : Steady Id Answer) fun _ => True :=
    ⟨_, prints_lift _, trivial⟩
  refine hanswer.bind fun answer _ => ?_
  cases answer with
  | ok verdict => exact yields_pure trivial
  | error f =>
      have htold : Yields (tell (m := Id) [Journal.ofInconclusive s f]) fun _ => True :=
        ⟨(), prints_tell _, trivial⟩
      exact htold.bind fun _ _ => yields_pure trivial

theorem yields_detector (ask : Inquiry Id) (d : Detector) (verify : Bool) (text : List Char) :
    Yields (d.scan (heard ask) verify text) fun hit =>
      hit.map Hit.core = (d.find? text).map Hit.core := by
  rw [← Detector.run_scan]
  rcases d.scan_open verify text with ⟨hit, hscan, htried⟩ | ⟨q, hit, hscan, htried⟩
  · rw [hscan]
    exact yields_pure htried.map_core
  · rw [hscan]
    exact (yields_heard ask q.service q.value).bind fun a _ => yields_pure (htried a).map_core

theorem map_filterMap_eq_of_forall₂ {α β γ : Type} {f : α → Option β} {g : β → γ}
    {items : List α} {results : List (Option β)}
    (h : List.Forall₂ (fun a r => r.map g = (f a).map g) items results) :
    (results.filterMap id).map g = (items.filterMap f).map g := by
  induction h with
  | nil => rfl
  | @cons a r items results har _ ih =>
      cases hf : f a <;> cases r <;> simp_all

theorem yields_scanText (ask : Inquiry Id) (e : Engine) (verify : Bool) (text : List Char) :
    Yields (e.scanText (heard ask) verify text) fun hits =>
      hits.map Hit.plain = (e.hits text).map Hit.plain := by
  refine (yields_mapM (fun d => yields_detector ask d verify text) _).bind fun hits hhits => ?_
  refine yields_pure ?_
  rw [Hit.map_plain, Hit.map_plain, Engine.hits, map_filterMap_eq_of_forall₂ hhits]

/-! ## Files -/

theorem yields_scanOutcome (ask : Inquiry Id) (e : Engine) (o : ScanOptions) (x : Files.Outcome) :
    Yields (Files.scanOutcome e (heard ask) o x) fun fs =>
      fs.map Finding.plain =
        (x.file?.toList.flatMap (Files.findingsInFile e)).map Finding.plain := by
  cases x with
  | scanned path content =>
      refine (yields_scanText ask e o.verify (Files.textOf content)).bind fun hits hhits => ?_
      refine yields_pure ?_
      simp only [Files.Outcome.file?, Option.toList_some, List.flatMap_singleton,
        Files.findingsInFile, Files.map_plain_findingsOf, hhits]
  | _ => exact yields_pure rfl

theorem map_flatten_eq_of_forall₂ {α β γ : Type} {f : α → List β} {g : β → γ} {items : List α}
    {results : List (List β)} (h : List.Forall₂ (fun a r => r.map g = (f a).map g) items results) :
    results.flatten.map g = (items.flatMap f).map g := by
  induction h with
  | nil => rfl
  | cons hfirst _ ih => simp [hfirst, ih]

/-- Files are scanned if they can be walked. -/
theorem yields_files (ask : Inquiry Id) (e : Engine) (hlimit : max o.maxOpenFiles 1 ≤ maxPermits) :
    Yields (Files.scan e (heard ask) o root found) fun r =>
      (∃ outcomes s, Files.walk o root found = .ok outcomes ∧ r = .ok s ∧
        s.findings.map Finding.plain = ((outcomes.filterMap Files.Outcome.file?).flatMap
          (Files.findingsInFile e)).map Finding.plain) ∨
      ∃ err, Files.walk o root found = .error err ∧ r = .error (.io err) := by
  rw [Files.scan, permitsFor_of_le hlimit]
  cases hwalk : Files.walk o root found with
  | error err => exact yields_pure (.inr ⟨err, rfl, rfl⟩)
  | ok outcomes =>
      refine (yields_mapM (yields_scanOutcome ask e o) outcomes).bind fun fs hfs => ?_
      refine yields_pure (.inl ⟨outcomes, _, rfl, rfl, ?_⟩)
      rw [map_flatten_eq_of_forall₂ hfs, List.filterMap_eq_flatMap_toList, List.flatMap_assoc]

/-! ## History -/

theorem yields_scanLines (ask : Inquiry Id) (e : Engine) (verify : Bool) (as : List AddedLine) :
    Yields (History.scanLines e (heard ask) verify as) fun fs =>
      fs.map Finding.plain = (as.flatMap (History.findingsIn e)).map Finding.plain := by
  have hline : ∀ a, Yields (History.scanLine e (heard ask) verify a) fun fs =>
      fs.map Finding.plain = (History.findingsIn e a).map Finding.plain := by
    intro a
    refine (yields_scanText ask e verify a.line.toList).bind fun hits hhits => ?_
    refine yields_pure ?_
    rw [History.findingsIn, History.map_plain_inCommit, History.map_plain_inCommit, hhits]
  refine (yields_mapM hline as).bind fun fs hfs => ?_
  exact yields_pure (map_flatten_eq_of_forall₂ hfs)

/-- A log that can be read is scanned; if git has not ended well, this is a failure in the end. -/
theorem yields_history (b : Build) (ask : Inquiry Id) (e : Engine) (p : Past)
    (hlimit : p.run.isOk = true → max o.maxPendingLines 1 ≤ maxPermits)
    (hfits : Checkout.CountFits b o (some p)) :
    Yields (History.scan b e (heard ask) o p.range p.run) fun r => ∃ s, r = .ok s ∧
      ((Checkout.IsWell p ∧ (∃ stats, s.result = .ok stats) ∧ s.findings.map Finding.plain =
        ((Checkout.addedIn o (some p)).flatMap (History.findingsIn e)).map Finding.plain) ∨
      (¬ Checkout.IsWell p ∧ ∃ f, s.result = .error f ∧ f.isBreakdown = false)) := by
  obtain ⟨range, run⟩ := p
  cases run with
  | error err =>
      refine yields_pure ⟨_, rfl, .inr ⟨?_, _, rfl, rfl⟩⟩
      rintro ⟨run, hrun, -⟩
      cases hrun
  | ok run =>
      have hread := History.readLog_of_fits (hlimit rfl) (Checkout.countFits_of_run.mp hfits)
      simp only [History.scan, hread]
      refine (yields_scanLines ask e o.verify _).bind fun fs hfs => yields_pure ⟨_, rfl, ?_⟩
      by_cases hstatus : run.status = .exited 0
      · refine .inl ⟨⟨run, rfl, hstatus⟩, ?_, hfs⟩
        rw [History.resultOf_eq, if_pos hstatus]
        exact ⟨_, rfl⟩
      · refine .inr ⟨?_, ?_⟩
        · rintro ⟨run', hrun, hwell⟩
          obtain rfl := Except.ok.inj hrun
          exact hstatus hwell
        · rw [History.resultOf_eq, if_neg hstatus]
          exact ⟨_, rfl, rfl⟩

/-- A log that cannot be read to its end breaks the program down. -/
theorem history_of_not_countFits {m : Type → Type} [Monad m] {b : Build} (ask : Inquiry m)
    (e : Engine) {p : Past} (hlimit : p.run.isOk = true → max o.maxPendingLines 1 ≤ maxPermits)
    (hfits : ¬ Checkout.CountFits b o (some p)) :
    History.scan b e ask o p.range p.run = pure (.error .overflow) := by
  obtain ⟨range, run⟩ := p
  cases run with
  | error err => exact absurd (Checkout.countFits_of_unstarted b o) hfits
  | ok run =>
      have hread : History.readLog b o run = .error .overflow :=
        History.readLog_of_not_fits (hlimit rfl) fun h => hfits (Checkout.countFits_of_run.mpr h)
      simp only [History.scan, hread]

/-! ## Files and history -/

theorem yields_scanFiles (ask : Inquiry Id) (e : Engine) (root : String)
    (found : Except SystemError Entry) (hlimit : max o.maxOpenFiles 1 ≤ maxPermits) :
    Yields (Checkout.scanFiles e (heard ask) o root found) fun s => s.history = none ∧
      ((∃ outcomes, Files.walk o root found = .ok outcomes ∧ s.result = .ok () ∧
        s.findings.map Finding.plain = ((outcomes.filterMap Files.Outcome.file?).flatMap
          (Files.findingsInFile e)).map Finding.plain) ∨
      ∃ err, Files.walk o root found = .error err ∧ s.result = .error (.io err)) := by
  refine (yields_files ask e hlimit).bind fun r hr => ?_
  rcases hr with ⟨outcomes, s, hwalk, rfl, hfound⟩ | ⟨err, hwalk, rfl⟩
  · refine yields_pure ⟨rfl, .inl ⟨outcomes, hwalk, rfl, ?_⟩⟩
    rw [← hfound]
    exact congrArg (List.map Finding.plain) (List.append_nil s.findings)
  · exact yields_pure ⟨rfl, .inr ⟨err, hwalk, rfl⟩⟩

/-- The history adds what it finds to what was found in the files. -/
theorem yields_scanPast (b : Build) (ask : Inquiry Id) (e : Engine) (p : Past)
    (hlimit : p.run.isOk = true → max o.maxPendingLines 1 ≤ maxPermits)
    (hfits : Checkout.CountFits b o (some p)) (files : Checkout.Scan)
    (hresult : files.result = .ok ()) (hhistory : files.history = none) :
    Yields (Checkout.scanPast b e (heard ask) o p files) fun s =>
      (Checkout.IsWell p ∧ s.result = .ok () ∧ s.findings.map Finding.plain =
        files.findings.map Finding.plain ++
          ((Checkout.addedIn o (some p)).flatMap (History.findingsIn e)).map Finding.plain) ∨
      (¬ Checkout.IsWell p ∧ ∃ f, s.result = .error f ∧ f.isBreakdown = false) := by
  rw [Checkout.scanPast, hresult]
  refine (yields_history b ask e p hlimit hfits).bind fun r hr => ?_
  obtain ⟨history, rfl, h⟩ := hr
  refine yields_pure ?_
  rcases h with ⟨hwell, ⟨stats, hstats⟩, hfound⟩ | ⟨hbad, f, hf, hne⟩
  · refine .inl ⟨hwell, by rw [hstats]; rfl, ?_⟩
    simp [Checkout.Scan.findings, hhistory, hfound]
  · exact .inr ⟨hbad, f, by rw [hf]; rfl, hne⟩

/-- What a scan comes to by which the program does not break down: it finds the candidates, or it
fails. -/
def ComesTo (e : Engine) (o : ScanOptions) (root : String) (found : Except SystemError Entry)
    (past : Option Past) (s : Checkout.Scan) : Prop :=
  (∃ outcomes, Checkout.GoesWell o root found past outcomes ∧ s.result = .ok () ∧
    s.findings.map Finding.plain =
      (Checkout.candidates e o outcomes past).map Finding.plain) ∨
  ((∀ outcomes, ¬ Checkout.GoesWell o root found past outcomes) ∧
    ∃ f, s.result = .error f ∧ f.isBreakdown = false)

theorem not_goesWell_of_walk {err : SystemError} (h : Files.walk o root found = .error err)
    (outcomes : List Files.Outcome) : ¬ Checkout.GoesWell o root found past outcomes := by
  rintro ⟨hwalk, -⟩
  cases h.symm.trans hwalk

theorem not_goesWell_of_past {p : Past} (h : ¬ Checkout.IsWell p) (outcomes : List Files.Outcome) :
    ¬ Checkout.GoesWell o root found (some p) outcomes := by
  rintro ⟨-, hpast⟩
  exact h (hpast p rfl)

theorem yields_checkout {b : Build} (ask : Inquiry Id) (e : Engine) (root : String)
    (found : Except SystemError Entry) (hlimits : Checkout.LimitsFit o past)
    (hfits : Checkout.CountFits b o past) :
    Yields (Checkout.scan b e (heard ask) o root found past) (ComesTo e o root found past) := by
  have hopen := permitsFor_of_le hlimits.1
  have hfiles := yields_scanFiles ask e root found hlimits.1
  cases past with
  | none =>
      simp only [Checkout.scan, hopen]
      refine hfiles.imp fun s hs => ?_
      obtain ⟨-, ⟨outcomes, hwalk, hresult, hfound⟩ | ⟨err, hwalk, hresult⟩⟩ := hs
      · refine .inl ⟨outcomes, ⟨hwalk, by simp⟩, hresult, ?_⟩
        simpa [Checkout.candidates, Checkout.addedIn] using hfound
      · exact .inr ⟨not_goesWell_of_walk hwalk, _, hresult, rfl⟩
  | some p =>
      have hlimit := hlimits.2 p rfl
      simp only [Checkout.scan, hopen]
      cases hrun : p.run with
      | error err =>
          -- Git could not be started, and no file is looked at.
          refine (yields_scanPast b ask e p hlimit hfits { result := .ok () } rfl rfl).imp
            fun s hs => ?_
          rcases hs with ⟨⟨run, hrun', -⟩, -⟩ | ⟨hbad, hfailure⟩
          · cases hrun.symm.trans hrun'
          · exact .inr ⟨not_goesWell_of_past hbad, hfailure⟩
      | ok run =>
          simp only [permitsFor_of_le (hlimit (by rw [hrun]; rfl))]
          refine hfiles.bind fun files hs => ?_
          obtain ⟨hhistory, ⟨outcomes, hwalk, hresult, hfound⟩ | ⟨err, hwalk, hresult⟩⟩ := hs
          · refine (yields_scanPast b ask e p hlimit hfits files hresult hhistory).imp
              fun s hs => ?_
            rcases hs with ⟨hwell, hdone, hboth⟩ | ⟨hbad, hfailure⟩
            · refine .inl ⟨outcomes, ⟨hwalk, ?_⟩, hdone, ?_⟩
              · rintro _ ⟨⟩
                exact hwell
              · rw [hboth, hfound, Checkout.candidates, List.map_append]
            · exact .inr ⟨not_goesWell_of_past hbad, hfailure⟩
          · rw [Checkout.scanPast, hresult]
            exact yields_pure (.inr ⟨not_goesWell_of_walk hwalk, _, hresult, rfl⟩)

/-- Where the log cannot be read to its end, a scan whose root can be walked breaks the program
down; what was found in files stays found. -/
theorem yields_overflow {b : Build} (ask : Inquiry Id) (e : Engine) (root : String)
    (found : Except SystemError Entry) (hlimits : Checkout.LimitsFit o past)
    (hfits : ¬ Checkout.CountFits b o past) {outcomes : List Files.Outcome}
    (hwalk : Files.walk o root found = .ok outcomes) :
    Yields (Checkout.scan b e (heard ask) o root found past) fun s =>
      s.result = .error .overflow := by
  cases past with
  | none => exact absurd (Checkout.countFits_none b o) hfits
  | some p =>
      cases hrun : p.run with
      | error err =>
          obtain ⟨range, run⟩ := p
          obtain rfl : run = .error err := hrun
          exact absurd (Checkout.countFits_of_unstarted b o) hfits
      | ok run =>
          have hlimit := hlimits.2 p rfl
          simp only [Checkout.scan, permitsFor_of_le hlimits.1, hrun,
            permitsFor_of_le (hlimit (by rw [hrun]; rfl))]
          refine (yields_scanFiles ask e root found hlimits.1).bind fun files hs => ?_
          obtain ⟨-, ⟨_, -, hresult, -⟩ | ⟨err, hwalk', -⟩⟩ := hs
          · rw [Checkout.scanPast, hresult]
            simp only [history_of_not_countFits (heard ask) e hlimit hfits, pure_bind]
            exact yields_pure rfl
          · cases hwalk.symm.trans hwalk'

/-- A limit for which there are not enough permits ends a scan before anything is looked at. -/
theorem yields_permits (b : Build) (ask : Inquiry Id) (e : Engine) (root : String)
    (found : Except SystemError Entry) (hlimits : ¬ Checkout.LimitsFit o past) :
    Yields (Checkout.scan b e (heard ask) o root found past) fun s =>
      s.result = .error .permits ∧ s.findings = [] := by
  by_cases hopen : max o.maxOpenFiles 1 ≤ maxPermits
  · have hpermits := permitsFor_of_le hopen
    simp only [Checkout.LimitsFit, hopen, true_and, not_forall, not_le] at hlimits
    obtain ⟨p, hp, hok, hpending⟩ := hlimits
    obtain rfl : past = some p := hp
    have hrefused := permitsFor_of_lt hpending
    obtain ⟨range, run⟩ := p
    cases run with
    | error err => cases hok
    | ok run =>
        simp only [Checkout.scan, Checkout.scanPast, History.scan, hpermits, hrefused,
          History.readLog_of_lt hpending, pure_bind]
        exact yields_pure ⟨rfl, rfl⟩
  · simp only [Checkout.scan, permitsFor_of_lt (Nat.not_le.mp hopen)]
    exact yields_pure ⟨rfl, rfl⟩

end SecretScan.CommandLine.Run
