import SecretScan.Checkout.Schedule
import SecretScan.Proofs.Checkout.Candidates
import SecretScan.Proofs.Sink.Tally

/-!
# Every schedule of a scan of files and history

What the tasks of added lines have emitted, what they still owe and what is in the lines that are
not read stay the same candidates, but for their order. The files go on as if they were alone. So
whatever order all the steps take, the sink of a scan that is over holds every candidate once. Where
the count of lines runs over and is checked, no schedule comes to an end of its own.
-/

namespace SecretScan

/-- The trials in a text come to the hits of its candidates, less what verification can add. -/
theorem Dispatch.map_plain_hits_perm {e : Engine} {verify : Bool} {text : List Char} {s : Dispatch}
    (hreach : Relation.ReflTransGen Next (start e verify text) s) (hover : s.IsOver) :
    (s.hits.map Hit.plain).Perm ((e.hits text).map Hit.plain) := by
  have hcores : (s.hits.map Hit.core).Perm ((e.hits text).map Hit.core) := by
    rw [hits, Engine.hits, List.map_filterMap, List.map_filterMap]
    exact filterMap_outcomes_perm hreach hover fun x _ htried => htried.map_core
  rw [Hit.map_plain, Hit.map_plain]
  exact hcores.map _

namespace Files

theorem IsFoundIn.map_plain_perm {e : Engine} {verify : Bool} {file : String × List UInt8}
    {found : List Finding} (h : IsFoundIn e verify file found) :
    (found.map Finding.plain).Perm ((findingsInFile e file).map Finding.plain) := by
  obtain ⟨s, hreach, hover, rfl⟩ := h
  rw [findingsInFile, map_plain_findingsOf, map_plain_findingsOf]
  exact (Dispatch.map_plain_hits_perm hreach hover).map _

theorem flatten_map_plain_perm {e : Engine} {verify : Bool} {files : List (String × List UInt8)}
    {found : List (List Finding)} (h : List.Forall₂ (IsFoundIn e verify) files found) :
    (found.flatten.map Finding.plain).Perm
      ((files.flatMap (findingsInFile e)).map Finding.plain) := by
  induction h with
  | nil => exact .refl _
  | cons hfirst _ ih =>
      rw [List.flatten_cons, List.flatMap_cons, List.map_append, List.map_append]
      exact hfirst.map_plain_perm.append ih

/-- A scan that begins has found nothing yet, and has still to say all that a walk says. -/
theorem Progress.of_start {o : ScanOptions} {root : String} {found : Except SystemError Entry}
    {start : Progress} (h : Progress.start o root found = .ok start) (e : Engine) :
    start.Accounted e o.verify ∧ start.emitted = [] ∧
      start.free + start.tasks.countP Task.isReading = max o.maxOpenFiles 1 ∧
      walk o root found = .ok (start.account o root) := by
  have hnone : ∀ task : Task, task.searched = [] → task.owed = [] → task.IsOnCourse e o.verify →
      Accounted e o.verify { tasks := [task], free := max o.maxOpenFiles 1 } := by
    intro task hsearched howed hcourse
    exact ⟨List.forall_mem_singleton.mpr hcourse, [], [], .nil, by simp [hsearched],
      by simp [howed]⟩
  rcases lt_or_ge maxPermits (max o.maxOpenFiles 1) with hlimit | hlimit
  · simp [Progress.start, permitsFor_of_lt hlimit] at h
  · have hpermits := permitsFor_of_le hlimit
    cases found with
    | error err => simp [Progress.start, hpermits] at h
    | ok entry =>
        cases entry with
        | link target => simp [Progress.start, hpermits] at h
        | file access content =>
            simp only [Progress.start, hpermits, Except.ok.injEq] at h
            subst h
            exact ⟨hnone _ rfl rfl trivial, rfl, rfl, rfl⟩
        | folder access entries =>
            cases hread : access.read with
            | false => simp [Progress.start, hpermits, hread] at h
            | true =>
                simp only [Progress.start, hpermits, hread, if_true, Except.ok.injEq] at h
                subst h
                refine ⟨hnone _ rfl rfl trivial, rfl, rfl, ?_⟩
                simp [walk, walkEntry, Except.bind, hread, account, Task.due]

/-- A scan begins if the root can be walked. -/
theorem Progress.start_cases {o : ScanOptions} {root : String} {found : Except SystemError Entry}
    (hlimit : max o.maxOpenFiles 1 ≤ maxPermits) :
    (∃ start outcomes, Progress.start o root found = .ok start ∧
        walk o root found = .ok outcomes) ∨
      ∃ err, Progress.start o root found = .error (.io err) ∧ walk o root found = .error err := by
  have hpermits := permitsFor_of_le hlimit
  cases found with
  | error err =>
      simp only [Progress.start, hpermits]
      exact .inr ⟨err, rfl, rfl⟩
  | ok entry =>
      cases entry with
      | link target =>
          simp only [Progress.start, hpermits]
          exact .inr ⟨.notFound, rfl, rfl⟩
      | file access content =>
          simp only [Progress.start, hpermits]
          exact .inl ⟨_, _, rfl, rfl⟩
      | folder access entries =>
          simp only [Progress.start, hpermits, walk, Except.bind, walkEntry]
          cases access.read with
          | true => exact .inl ⟨_, _, rfl, rfl⟩
          | false => exact .inr ⟨.denied, rfl, rfl⟩

end Files

namespace Checkout

variable {b : Build} {e : Engine} {o : ScanOptions} {root : String}

namespace LineTask

/-- The candidates of a task that are not yet emitted. -/
def due (e : Engine) : LineTask → List Finding
  | .searching a _ => (History.findingsIn e a).map Finding.plain
  | .emitting a hits => (hits.map fun h => Finding.inCommit h a.path a.commit).map Finding.plain

/-- Have the trials of a task come about by steps? -/
def IsOnCourse (e : Engine) (verify : Bool) : LineTask → Prop
  | .searching a d => Relation.ReflTransGen Dispatch.Next (.start e verify a.line.toList) d
  | .emitting _ _ => True

/-- A bound for the number of steps that a task still takes. -/
def work : LineTask → Nat
  | .searching _ d => d.work + d.detectors.length + 2
  | .emitting _ hits => hits.length + 1

/-- What has been found in a line are its candidates. -/
theorem due_found_perm {verify : Bool} {a : AddedLine} {d : Dispatch}
    (h : IsOnCourse e verify (.searching a d)) (hover : d.IsOver) :
    (due e (.emitting a d.hits)).Perm (due e (.searching a d)) := by
  rw [due, due, History.findingsIn, History.map_plain_inCommit, History.map_plain_inCommit]
  exact (Dispatch.map_plain_hits_perm h hover).map _

end LineTask

namespace Progress

variable {s t : Progress}

/-- The candidates of the log: those that are emitted, those that the tasks owe, and those in the
lines that are not read. -/
def inLog (e : Engine) (s : Progress) : List Finding :=
  s.emitted.map Finding.plain ++ (s.tasks.flatMap (LineTask.due e) ++
    ((s.parser.addedLines s.unread).flatMap (History.findingsIn e)).map Finding.plain)

/-- A bound for the number of steps that a scan still takes. -/
def work (e : Engine) (s : Progress) : Nat :=
  s.files.work e + (s.unread.length * (4 * e.prefilter.size + 3) +
    (s.tasks.map LineTask.work).sum)

/-- What is known of a scan on its way, which began with this sink. -/
structure Accounted (e : Engine) (o : ScanOptions) (begun : Sink) (s : Progress) : Prop where
  files : s.files.Accounted e o.verify
  course : ∀ task ∈ s.tasks, task.IsOnCourse e o.verify
  sink : ∃ order, s.sink = begun.emitAll order ∧ order.Perm (s.files.emitted ++ s.emitted)

theorem Accounted.isOnCourse {begun : Sink} (h : s.Accounted e o begun)
    {front back : List LineTask} {task : LineTask} (htasks : s.tasks = front ++ task :: back) :
    task.IsOnCourse e o.verify :=
  h.course task (by simp [htasks])

/-- A task takes a step; the others stay as they are. -/
theorem Accounted.replace {begun : Sink} (h : s.Accounted e o begun)
    {front back : List LineTask} {task : LineTask} (htasks : s.tasks = front ++ task :: back)
    (new : List LineTask) (hnew : ∀ t ∈ new, t.IsOnCourse e o.verify) :
    ∀ t ∈ front ++ (new ++ back), t.IsOnCourse e o.verify := by
  intro t ht
  simp only [List.mem_append] at ht
  rcases ht with hfront | hnewt | hback
  · exact h.course t (by simp [htasks, hfront])
  · exact hnew t hnewt
  · exact h.course t (by simp [htasks, hback])

/-! ## One step -/

theorem Next.accounted {begun : Sink} (hnext : Next b e o root s t) (h : s.Accounted e o begun) :
    t.Accounted e o begun := by
  obtain ⟨order, horder, hperm⟩ := h.sink
  cases hnext with
  | @file files found next emitted =>
      refine ⟨next.accounted h.files, h.course, order ++ found, ?_, ?_⟩
      · rw [horder, Sink.emitAll_append]
      · calc
          List.Perm (order ++ found) (s.files.emitted ++ s.emitted ++ found) :=
            hperm.append_right found
          List.Perm _ (s.files.emitted ++ (found ++ s.emitted)) := by
            rw [List.append_assoc]
            exact List.perm_append_comm.append_left _
          _ = files.emitted ++ s.emitted := by rw [emitted, List.append_assoc]
  | pass unread fed idle => exact ⟨h.files, h.course, h.sink⟩
  | spawn unread fed selected permit =>
      refine ⟨h.files, fun task htask => ?_, h.sink⟩
      rcases List.mem_append.mp htask with hold | hnew
      · exact h.course task hold
      · obtain rfl := List.mem_singleton.mp hnew
        exact .refl
  | @search front back a d d' tasks next =>
      refine ⟨h.files, h.replace tasks [.searching a d'] ?_, h.sink⟩
      exact List.forall_mem_singleton.mpr (.tail (h.isOnCourse tasks) next)
  | @found front back a d tasks ended =>
      refine ⟨h.files, h.replace tasks [.emitting a d.hits] ?_, h.sink⟩
      exact List.forall_mem_singleton.mpr trivial
  | @emit front back a hit rest tasks =>
      refine ⟨h.files, h.replace tasks [.emitting a rest] ?_,
        order ++ [.inCommit hit a.path a.commit], ?_, ?_⟩
      · exact List.forall_mem_singleton.mpr trivial
      · rw [horder, Sink.emitAll_append]
        rfl
      · rw [← List.append_assoc]
        exact hperm.append_right _
  | leave tasks =>
      exact ⟨h.files, h.replace tasks [] (List.forall_mem_nil _), h.sink⟩

theorem Next.inLog_perm {begun : Sink} (hnext : Next b e o root s t) (h : s.Accounted e o begun) :
    (t.inLog e).Perm (s.inLog e) := by
  cases hnext with
  | file next emitted => exact .refl _
  | @pass line rest parser output unread fed idle =>
      have hfeed := (DiffParser.feed?_eq_ok_iff.mp fed).2
      have hidle : output.toList.flatMap (History.findingsIn e) = [] := by
        refine List.flatMap_eq_nil_iff.mpr fun a ha => ?_
        exact History.Progress.findingsIn_eq_nil (idle a (Option.mem_toList.mp ha))
      simp [inLog, unread, DiffParser.addedLines_cons, hfeed, hidle]
  | spawn unread fed selected permit =>
      have hfeed := (DiffParser.feed?_eq_ok_iff.mp fed).2
      simp [inLog, unread, DiffParser.addedLines_cons, hfeed, LineTask.due]
  | search tasks next => simp [inLog, tasks, LineTask.due]
  | found tasks ended =>
      have hdue := LineTask.due_found_perm (h.isOnCourse tasks) ended
      simp only [inLog, tasks, List.flatMap_append, List.flatMap_cons]
      exact ((hdue.append_right _).append_left _).append_right _ |>.append_left _
  | emit tasks =>
      simp only [inLog, tasks, LineTask.due, List.map_append, List.map_cons, List.map_nil,
        List.flatMap_append, List.flatMap_cons, List.append_assoc, List.cons_append,
        List.nil_append]
      exact List.Perm.append_left _ List.perm_middle.symm
  | leave tasks => simp [inLog, tasks, LineTask.due]

/-- There are permits for files, and for added lines as long as the log is not read: each of them is
free or held by a task. -/
structure IsPermitted (s : Progress) : Prop where
  files : 0 < s.files.free + s.files.tasks.countP Files.Task.isReading
  lines : s.unread ≠ [] → 0 < s.free + s.tasks.length

theorem Next.isPermitted (hnext : Next b e o root s t) (h : s.IsPermitted) : t.IsPermitted := by
  obtain ⟨hfiles, hlines⟩ := h
  cases hnext with
  | file next emitted => exact ⟨by rwa [next.permits_eq], hlines⟩
  | pass unread fed idle => exact ⟨hfiles, fun _ => hlines (by simp [unread])⟩
  | spawn unread fed selected permit => exact ⟨hfiles, fun _ => by simp⟩
  | search tasks next => exact ⟨hfiles, fun _ => by simp⟩
  | found tasks ended => exact ⟨hfiles, fun _ => by simp⟩
  | emit tasks => exact ⟨hfiles, fun _ => by simp⟩
  | leave tasks => exact ⟨hfiles, fun _ => by simp⟩

/-- No step changes whether the log can be read to its end. -/
theorem Next.fits_iff (hnext : Next b e o root s t) :
    t.parser.Fits b t.unread ↔ s.parser.Fits b s.unread := by
  cases hnext with
  | pass unread fed idle | spawn unread fed selected permit =>
      rw [unread]
      exact (DiffParser.fits_iff_of_feed? fed).symm
  | _ => rfl

/-- The files go on as if they were alone, or wait. -/
theorem Next.files_reaches (hnext : Next b e o root s t) :
    Relation.ReflTransGen (Files.Progress.Next e o root) s.files t.files := by
  cases hnext with
  | file next emitted => exact .single next
  | _ => exact .refl

theorem Next.work_lt {begun : Sink} (hnext : Next b e o root s t) (h : s.Accounted e o begun) :
    t.work e < s.work e := by
  cases hnext with
  | file next emitted =>
      have hlt := next.work_lt h.files
      simp only [work]
      omega
  | pass unread fed idle =>
      simp only [work, unread, List.length_cons, Nat.succ_mul]
      omega
  | @spawn line rest parser a unread fed selected permit =>
      -- How long it takes to look through a line is bounded before anything is tried.
      have hstart := Dispatch.work_start_le e o.verify a.line.toList
      simp only [work, unread, List.length_cons, Nat.succ_mul, List.map_append, List.map_cons,
        List.map_nil, List.sum_append, List.sum_cons, List.sum_nil, LineTask.work]
      omega
  | @search front back a d d' tasks next =>
      have hlt := next.work_lt (Dispatch.of_reaches (h.isOnCourse tasks)).1
      have hdetectors := next.detectors_perm.length_eq
      simp only [work, tasks, LineTask.work, List.map_append, List.map_cons, List.sum_append,
        List.sum_cons]
      omega
  | @found front back a d tasks ended =>
      have hhits := d.length_hits_le
      simp only [work, tasks, LineTask.work, List.map_append, List.map_cons, List.sum_append,
        List.sum_cons]
      omega
  | emit tasks =>
      simp only [work, tasks, LineTask.work, List.map_append, List.map_cons, List.sum_append,
        List.sum_cons, List.length_cons]
      omega
  | leave tasks =>
      simp only [work, tasks, LineTask.work, List.map_append, List.map_cons, List.sum_append,
        List.sum_cons]
      omega

/-- The task of an added line can always take a step. -/
theorem exists_next_of_task (b : Build) (e : Engine) (o : ScanOptions) (root : String)
    (h : s.tasks ≠ []) : ∃ t, Next b e o root s t := by
  obtain ⟨task, back, htasks⟩ := List.exists_cons_of_ne_nil h
  have htasks : s.tasks = [] ++ task :: back := htasks
  cases task with
  | searching a d =>
      rcases d.isOver_or_exists_next with hover | ⟨d', hnext⟩
      · exact ⟨_, .found htasks hover⟩
      · exact ⟨_, .search htasks hnext⟩
  | emitting a hits =>
      cases hits with
      | nil => exact ⟨_, .leave htasks⟩
      | cons h rest => exact ⟨_, .emit htasks⟩

/-- Where there is a permit, the next line of a log is read, or the program breaks down at it. -/
theorem breaksDown_or_exists_next (b : Build) (e : Engine) (o : ScanOptions) (root : String)
    (h : s.unread ≠ []) (hfree : 0 < s.free) :
    (∃ f, s.BreaksDown b f) ∨ ∃ t, Next b e o root s t := by
  obtain ⟨line, rest, hunread⟩ := List.exists_cons_of_ne_nil h
  cases hfed : s.parser.feed? b line with
  | error f => exact .inl ⟨f, line, rest, hunread, hfed⟩
  | ok read =>
      obtain ⟨parser, output⟩ := read
      by_cases hidle : ∀ a ∈ output, e.prefilter.select a.line.toList = []
      · exact .inr ⟨_, .pass hunread hfed hidle⟩
      · obtain ⟨a, rfl, hselected⟩ : ∃ a ∈ output, e.prefilter.select a.line.toList ≠ [] := by
          simpa using hidle
        exact .inr ⟨_, .spawn hunread hfed hselected hfree⟩

theorem exists_next_of_files (b : Build) {files : Files.Progress}
    (h : Files.Progress.Next e o root s.files files) : ∃ t, Next b e o root s t := by
  obtain ⟨found, hfound⟩ : ∃ found, files.emitted = s.files.emitted ++ found := by
    cases h with
    | step tasks step permits => exact ⟨_, rfl⟩
  exact ⟨_, .file h hfound⟩

/-- A scan is over, or can go on, or the program breaks down. -/
theorem isOver_or_exists_next (b : Build) (e : Engine) (o : ScanOptions) (root : String)
    (h : s.IsPermitted) :
    s.IsOver ∨ (∃ f, s.BreaksDown b f) ∨ ∃ t, Next b e o root s t := by
  rcases Files.Progress.isOver_or_exists_next e o root h.files with hover | ⟨files, hnext⟩
  · by_cases htasks : s.tasks = []
    · by_cases hunread : s.unread = []
      · exact .inl ⟨hover, hunread, htasks⟩
      -- Where there are no tasks, all permits are free.
      · have hfree : 0 < s.free := by simpa [htasks] using h.lines hunread
        exact .inr (breaksDown_or_exists_next b e o root hunread hfree)
    · exact .inr (.inr (exists_next_of_task b e o root htasks))
  · exact .inr (.inr (exists_next_of_files b hnext))

theorem BreaksDown.not_fits {f : Failure} (h : s.BreaksDown b f) :
    f = .overflow ∧ ¬ s.parser.Fits b s.unread := by
  obtain ⟨line, rest, hunread, hfed⟩ := h
  rw [hunread]
  exact DiffParser.not_fits_of_feed? hfed rest

theorem IsOver.fits (h : s.IsOver) (b : Build) : s.parser.Fits b s.unread := by
  rw [h.2.1]
  exact DiffParser.fits_nil b s.parser

/-- Where the log can be read to its end, the program does not break down, and a scan is over or can
go on. -/
theorem isOver_or_exists_next_of_fits (e : Engine) (o : ScanOptions) (root : String)
    (h : s.IsPermitted) (hfits : s.parser.Fits b s.unread) :
    (∀ f, ¬ s.BreaksDown b f) ∧ (s.IsOver ∨ ∃ t, Next b e o root s t) := by
  have hbreaks : ∀ f, ¬ s.BreaksDown b f := fun f hbroken => hbroken.not_fits.2 hfits
  refine ⟨hbreaks, ?_⟩
  rcases isOver_or_exists_next b e o root h with hover | ⟨f, hbroken⟩ | hnext
  · exact .inl hover
  · exact absurd hbroken (hbreaks f)
  · exact .inr hnext

/-- Otherwise it goes on until the program breaks down. -/
theorem breaksDown_or_exists_next_of_not_fits (e : Engine) (o : ScanOptions) (root : String)
    (h : s.IsPermitted) (hfits : ¬ s.parser.Fits b s.unread) :
    (∃ f, s.BreaksDown b f) ∨ ∃ t, Next b e o root s t := by
  rcases isOver_or_exists_next b e o root h with hover | hbroken | hnext
  · exact absurd (hover.fits b) hfits
  · exact .inl hbroken
  · exact .inr hnext

/-- A scan whose log cannot be read to its end does not come to an end of its own. -/
theorem not_ends_of_not_fits (h : ¬ s.parser.Fits b s.unread) (past : Option Past)
    (result : Except Failure Unit) : ¬ s.Ends past result := by
  intro hends
  cases hends with
  | well ended status => exact h (ended.fits b)
  | badly ran unread tasks status =>
      rw [unread] at h
      exact h (DiffParser.fits_nil b s.parser)

/-! ## Whole schedules -/

section

variable {found : Except SystemError Entry} {past : Option Past} {begun : Sink} {start : Progress}

/-- The added lines of a past are those of its log. Unless there are no lines, there are permits. -/
theorem of_logOf {lines : List (List Char)} {permits : Nat}
    (h : logOf o past = .ok (lines, permits)) :
    (DiffParser.new o.exclusions.paths).addedLines lines = addedIn o past ∧
      (lines ≠ [] → 0 < permits) ∧
      ∀ b, (DiffParser.new o.exclusions.paths).Fits b lines ↔ CountFits b o past := by
  cases past with
  | none =>
      obtain ⟨rfl, rfl⟩ := Prod.mk.inj (Except.ok.inj h)
      refine ⟨rfl, fun hne => absurd rfl hne, fun b => ?_⟩
      exact iff_of_true (DiffParser.fits_nil b _) (countFits_none b o)
  | some p =>
      obtain ⟨range, run⟩ := p
      cases run with
      | error err => cases h
      | ok run =>
          simp only [logOf, permitsFor] at h
          split at h
          · cases h
          · obtain ⟨rfl, rfl⟩ := Prod.mk.inj (Except.ok.inj h)
            exact ⟨rfl, fun _ => by omega, fun b => countFits_of_run.symm⟩

/-- A scan that begins has done nothing, and has all the candidates of the log before it. -/
theorem of_start (h : Progress.start o root found past begun = .ok start) (e : Engine) :
    start.Accounted e o begun ∧ start.IsPermitted ∧
      start.inLog e = ((addedIn o past).flatMap (History.findingsIn e)).map Finding.plain ∧
      Files.Progress.start o root found = .ok start.files ∧
      ∀ b, start.parser.Fits b start.unread ↔ CountFits b o past := by
  rw [Progress.start] at h
  cases hopen : permitsFor o.maxOpenFiles with
  | error f =>
      rw [hopen] at h
      cases h
  | ok limit =>
      cases hlog : logOf o past with
      | error f =>
          rw [hopen, hlog] at h
          cases h
      | ok log =>
          obtain ⟨lines, permits⟩ := log
          cases hfiles : Files.Progress.start o root found with
          | error f =>
              rw [hopen, hlog, hfiles] at h
              cases h
          | ok files =>
              rw [hopen, hlog, hfiles] at h
              obtain rfl := Except.ok.inj h
              obtain ⟨hbegun, hemitted, hpermits, -⟩ := Files.Progress.of_start hfiles e
              obtain ⟨hadded, hlines, hfits⟩ := of_logOf hlog
              refine ⟨⟨hbegun, List.forall_mem_nil _, [], rfl, ?_⟩, ⟨?_, hlines⟩, ?_, rfl, hfits⟩
              · rw [hemitted]
                exact .refl _
              · rw [hpermits]
                omega
              · rw [← hadded]
                rfl

theorem of_reaches (hstart : Progress.start o root found past begun = .ok start)
    (hreach : Relation.ReflTransGen (Next b e o root) start s) :
    s.Accounted e o begun ∧ s.IsPermitted ∧ (s.inLog e).Perm (start.inLog e) ∧
      Relation.ReflTransGen (Files.Progress.Next e o root) start.files s.files ∧
      (s.parser.Fits b s.unread ↔ CountFits b o past) := by
  induction hreach with
  | refl =>
      obtain ⟨haccounted, hpermitted, -, -, hfits⟩ := of_start hstart e
      exact ⟨haccounted, hpermitted, .refl _, .refl, hfits b⟩
  | tail _ hnext ih =>
      obtain ⟨haccounted, hpermitted, hlog, hfiles, hfits⟩ := ih
      exact ⟨hnext.accounted haccounted, hnext.isPermitted hpermitted,
        (hnext.inLog_perm haccounted).trans hlog, hfiles.trans hnext.files_reaches,
        hnext.fits_iff.trans hfits⟩

theorem not_endless (hstart : Progress.start o root found past begun = .ok start)
    (schedule : ℕ → Progress) (h0 : schedule 0 = start) :
    ¬ ∀ n, Next b e o root (schedule n) (schedule (n + 1)) :=
  not_endless_of_work_lt (Accounted e o begun) (work e) (fun _ _ hnext hs => hnext.accounted hs)
    (fun _ _ hnext hs => hnext.work_lt hs) (h0 ▸ (of_start hstart e).1)

/-- When all is over, everything in the sink is a candidate, and every candidate is there. -/
theorem exists_order_of_isOver (hstart : Progress.start o root found past begun = .ok start)
    (hreach : Relation.ReflTransGen (Next b e o root) start s) (hover : s.IsOver)
    {outcomes : List Files.Outcome} (hwalk : Files.walk o root found = .ok outcomes) :
    ∃ order, s.sink = begun.emitAll order ∧
      (order.map Finding.plain).Perm ((candidates e o outcomes past).map Finding.plain) := by
  obtain ⟨hfilesOver, hunread, htasks⟩ := hover
  obtain ⟨haccounted, -, hlog, hfiles, -⟩ := of_reaches hstart hreach
  obtain ⟨order, horder, hperm⟩ := haccounted.sink
  refine ⟨order, horder, ?_⟩
  have hlines : (s.emitted.map Finding.plain).Perm
      (((addedIn o past).flatMap (History.findingsIn e)).map Finding.plain) := by
    rw [(of_start hstart e).2.2.1] at hlog
    simpa [inLog, hunread, htasks] using hlog
  have htexts : (s.files.emitted.map Finding.plain).Perm (((outcomes.filterMap
      Files.Outcome.file?).flatMap (Files.findingsInFile e)).map Finding.plain) := by
    obtain ⟨hbegun, -, -, hstartWalk⟩ := Files.Progress.of_start (of_start hstart e).2.2.2.1 e
    obtain ⟨hdone, haccount, -⟩ := Files.Progress.of_reaches hfiles hbegun
    rw [hfilesOver.account_eq] at haccount
    have houtcomes : start.files.account o root = outcomes :=
      Except.ok.inj (hstartWalk.symm.trans hwalk)
    rw [houtcomes] at haccount
    obtain ⟨inFiles, hfound, hemitted⟩ :=
      hdone.of_isOver hfilesOver (haccount.filterMap Files.Outcome.file?)
    exact (hemitted.map _).trans (Files.flatten_map_plain_perm hfound)
  rw [candidates, List.map_append]
  refine (hperm.map _).trans ?_
  rw [List.map_append]
  exact htexts.append hlines

/-! ## Beginning and end -/

/-- Git is started or not; that there are too few permits is left out of account. -/
theorem logOf_cases (hlimits : LimitsFit o past) :
    (∃ log, logOf o past = .ok log ∧ ∀ p ∈ past, ∃ run, p.run = .ok run) ∨
      (∃ f, logOf o past = .error f ∧ f.isBreakdown = false) ∧ ∃ p ∈ past, ¬ IsWell p := by
  cases past with
  | none => exact .inl ⟨_, rfl, by simp⟩
  | some p =>
      obtain ⟨range, run⟩ := p
      cases run with
      | error err =>
          refine .inr ⟨⟨_, rfl, rfl⟩, ⟨range, .error err⟩, rfl, ?_⟩
          rintro ⟨run, hrun, -⟩
          cases hrun
      | ok run =>
          refine .inl ⟨(Git.linesOf run.output, max o.maxPendingLines 1), ?_, ?_⟩
          · rw [logOf, permitsFor_of_le (hlimits.2 _ rfl rfl)]
            rfl
          · rintro _ ⟨⟩
            exact ⟨run, rfl⟩

/-- A scan begins if the root can be walked and git, if it is asked for a log, can be started. -/
theorem start_cases (root : String) (found : Except SystemError Entry)
    (hlimits : LimitsFit o past) (begun : Sink) :
    (∃ start outcomes, Progress.start o root found past begun = .ok start ∧
        Files.walk o root found = .ok outcomes ∧ ∀ p ∈ past, ∃ run, p.run = .ok run) ∨
      (∃ f, Progress.start o root found past begun = .error f ∧ f.isBreakdown = false) ∧
        ∀ outcomes, ¬ GoesWell o root found past outcomes := by
  rw [Progress.start, permitsFor_of_le hlimits.1]
  rcases logOf_cases hlimits with ⟨log, hlog, hruns⟩ | ⟨⟨f, hlog, hf⟩, p, hp, hbad⟩
  · rcases Files.Progress.start_cases hlimits.1 with
      ⟨files, outcomes, hfiles, hwalk⟩ | ⟨err, hfiles, hwalk⟩
    · rw [hlog, hfiles]
      exact .inl ⟨_, outcomes, rfl, hwalk, hruns⟩
    · rw [hlog, hfiles]
      refine .inr ⟨⟨_, rfl, rfl⟩, ?_⟩
      rintro outcomes ⟨hwalk', -⟩
      cases hwalk.symm.trans hwalk'
  · rw [hlog]
    refine .inr ⟨⟨_, rfl, hf⟩, ?_⟩
    rintro outcomes ⟨-, hpast⟩
    exact hbad (hpast p hp)

/-- A scan begins if there is a log and the root can be walked. -/
theorem exists_start {outcomes : List Files.Outcome} (hlimits : LimitsFit o past)
    (hfits : ¬ CountFits b o past) (hwalk : Files.walk o root found = .ok outcomes)
    (begun : Sink) : ∃ start, Progress.start o root found past begun = .ok start := by
  rcases logOf_cases hlimits with ⟨log, hlog, -⟩ | ⟨⟨f, hlog, -⟩, -⟩
  · rcases Files.Progress.start_cases hlimits.1 with
      ⟨files, outcomes', hfiles, -⟩ | ⟨err, -, hwalk'⟩
    · rw [Progress.start, permitsFor_of_le hlimits.1, hlog, hfiles]
      exact ⟨_, rfl⟩
    · cases hwalk.symm.trans hwalk'
  · refine absurd ?_ hfits
    rintro p hp run hrun
    obtain ⟨range, run'⟩ := p
    obtain rfl : run' = .ok run := hrun
    obtain rfl : past = some ⟨range, .ok run⟩ := hp
    rw [logOf, permitsFor_of_le (hlimits.2 _ rfl rfl)] at hlog
    cases hlog

theorem isSuccess_iff {status : Git.Status} : status.isSuccess = true ↔ status = .exited 0 := by
  simp [Git.Status.isSuccess]

/-- Where git ends well, a scan ends well, and no earlier than when all is over. -/
theorem Ends.of_isWell {result : Except Failure Unit} (h : Ends past s result)
    (hwell : ∀ p ∈ past, IsWell p) : result = .ok () ∧ s.IsOver := by
  cases h with
  | well ended status => exact ⟨rfl, ended⟩
  | @badly range run stats f ran unread tasks status =>
      obtain ⟨run', hrun, hstatus⟩ := hwell _ ran
      obtain rfl := Except.ok.inj hrun
      rw [History.resultOf_eq, if_pos hstatus] at status
      cases status

/-- Where git does not end well, a scan fails. -/
theorem Ends.of_not_isWell {result : Except Failure Unit} (h : Ends past s result) {p : Past}
    (hp : p ∈ past) (hrun : ∃ run, p.run = .ok run) (hbad : ¬ IsWell p) :
    ∃ f, result = .error f ∧ f.isBreakdown = false := by
  cases h with
  | well ended status =>
      obtain ⟨run, hrun⟩ := hrun
      exact absurd ⟨run, hrun, isSuccess_iff.mp (status p hp run hrun)⟩ hbad
  | @badly range run stats f ran unread tasks status =>
      refine ⟨f, rfl, ?_⟩
      rw [History.resultOf_eq] at status
      split at status
      · cases status
      · obtain rfl := Except.error.inj status
        rfl

end

end Progress

end Checkout

end SecretScan
