import SecretScan.Files.Schedule
import SecretScan.Proofs.Engine.Verification
import SecretScan.Proofs.Files.Walk
import SecretScan.Proofs.Schedule
import Mathlib.Algebra.Order.BigOperators.Group.List
import Mathlib.Algebra.Order.Group.Nat

/-!
# Every schedule of a scan of files

What has been said of the entries of a tree, and what the tasks have still to say, stay together
what the walk says of them one after the other. What the tasks emit is what they have found in the
files that were looked through. So a scan that is over has said the same of every file, whatever
order the tasks took. A scan that is not over can go on, and none goes on forever.
-/

namespace SecretScan.Dispatch

/-- There are as many detectors as the prefilter selects, and each takes three steps at most. -/
theorem work_start_le (e : Engine) (verify : Bool) (text : List Char) :
    (start e verify text).work + (start e verify text).detectors.length ≤ 4 * e.prefilter.size := by
  have hle := e.length_candidates_select_le text
  have hwork : (start e verify text).work ≤
      ((start e verify text).trials.map Trial.work).length * 3 := by
    refine List.sum_le_card_nsmul _ 3 fun n hn => ?_
    obtain ⟨t, -, rfl⟩ := List.mem_map.mp hn
    unfold Trial.work
    split <;> omega
  simp only [start, detectors, List.length_map, List.map_nil, List.nil_append] at hwork ⊢
  omega

theorem length_hits_le (s : Dispatch) : s.hits.length ≤ s.detectors.length := by
  have hle := List.length_filterMap_le (·.hit) s.outcomes
  simp only [hits, detectors, List.length_append, List.length_map]
  omega

end SecretScan.Dispatch

namespace SecretScan.Files

variable {e : Engine} {o : ScanOptions} {root folder : String} {access : Access} {task : Task}
  {effect : Effect}

/-! ## What becomes of a file -/

/-- What becomes of a file that is worth reading. -/
def readOutcome (path : String) (access : Access) (content : List UInt8) : Outcome :=
  if !access.read then .unreadable path .denied
  else if content.contains 0 then .binary path
  else .scanned path content

theorem visitFile_eq (o : ScanOptions) (path : String) (access : Access) (content : List UInt8) :
    visitFile o path access content =
      if !isScannable path content.length o.maxFileSize then .unsuitable path
      else readOutcome path access content := rfl

/-- The file that has been looked through. -/
def Outcome.file? : Outcome → Option (String × List UInt8)
  | .scanned path content => some (path, content)
  | _ => none

namespace Leaf

/-- Can the file be reached and read, is it worth reading, and is it text? -/
def isRead (o : ScanOptions) (folder : String) (access : Access) (l : Leaf) : Bool :=
  isPassable access l.trail && isScannable (l.path folder) l.content.length o.maxFileSize &&
    l.access.read && !l.content.contains 0

/-- The path and the content of the file. -/
def file (folder : String) (l : Leaf) : String × List UInt8 := (l.path folder, l.content)

theorem outcome_cases (o : ScanOptions) (folder : String) (access : Access) (l : Leaf) :
    (l.isRead o folder access = true ∧
        l.outcome o folder access = .scanned (l.path folder) l.content) ∨
      (l.isRead o folder access = false ∧ (l.outcome o folder access).isScanned = false ∧
        (l.outcome o folder access).isSkipped = true ∧
        (l.outcome o folder access).file? = none) := by
  rw [isRead, outcome, visitFile]
  cases isPassable access l.trail with
  | false => exact Or.inr ⟨rfl, rfl, rfl, rfl⟩
  | true =>
      cases isScannable (l.path folder) l.content.length o.maxFileSize with
      | false => exact Or.inr ⟨rfl, rfl, rfl, rfl⟩
      | true =>
          cases l.access.read with
          | false => exact Or.inr ⟨rfl, rfl, rfl, rfl⟩
          | true =>
              cases l.content.contains 0 with
              | true => exact Or.inr ⟨rfl, rfl, rfl, rfl⟩
              | false => exact Or.inl ⟨rfl, rfl⟩

theorem isScanned_outcome (l : Leaf) :
    (l.outcome o folder access).isScanned = l.isRead o folder access := by
  rcases l.outcome_cases o folder access with ⟨hread, houtcome⟩ | ⟨hread, hscanned, -, -⟩
  · rw [hread, houtcome]
    rfl
  · rw [hread, hscanned]

theorem isSkipped_outcome (l : Leaf) :
    (l.outcome o folder access).isSkipped = !l.isRead o folder access := by
  rcases l.outcome_cases o folder access with ⟨hread, houtcome⟩ | ⟨hread, -, hskipped, -⟩
  · rw [hread, houtcome]
    rfl
  · rw [hread, hskipped]
    rfl

theorem file?_outcome (l : Leaf) : (l.outcome o folder access).file? =
    if l.isRead o folder access then some (l.file folder) else none := by
  rcases l.outcome_cases o folder access with ⟨hread, houtcome⟩ | ⟨hread, -, -, hfile⟩
  · rw [hread, houtcome]
    rfl
  · rw [hread, hfile]
    rfl

end Leaf

/-! ## What is still to be said -/

/-- What a task has still to say of entries of the tree. -/
def Task.due (o : ScanOptions) (root : String) : Task → List Outcome
  | .folder path reachable access entries =>
    if !reachable || !access.read then [.unlisted path .denied]
    else visitAll o root access.pass path entries
  | .listing path passable entries => visitAll o root passable path entries
  | .file path access content => [visitFile o path access content]
  | .reading path access content => [readOutcome path access content]
  | .searching _ _ _ => []
  | .emitting _ _ _ => []

theorem due_look (o : ScanOptions) (root : String) (passable : Bool) (path : String)
    (entry : Entry) : (look o root passable path entry).outcomes ++
      (look o root passable path entry).tasks.flatMap (Task.due o root) =
        visit o root passable path entry := by
  cases entry with
  | link target =>
      rw [look, visit]
      split <;> rfl
  | file access content =>
      rw [look, visit]
      split_ifs <;> rfl
  | folder access entries =>
      rw [look, visit]
      split_ifs <;> simp_all [Task.due]

theorem Task.Step.due_eq (h : task.Step e o root effect) :
    effect.outcomes ++ effect.tasks.flatMap (Task.due o root) = task.due o root := by
  cases h with
  | unlisted closed => simp [Task.due, closed]
  | list closed => simp [Task.due, closed]
  | @look folder passable name entry rest =>
      rw [List.flatMap_append, ← List.append_assoc, due_look]
      simp [Task.due, visitAll]
  | listed => simp [Task.due, visitAll]
  | unsuitable scannable => simp [Task.due, visitFile, scannable]
  | acquire scannable => simp [Task.due, visitFile_eq, scannable]
  | unreadable read => simp [Task.due, readOutcome, read]
  | binary read nul => simp [Task.due, readOutcome, read, -List.contains_eq_mem, nul]
  | text read nul => simp [Task.due, readOutcome, read, -List.contains_eq_mem, nul]
  | search next => rfl
  | found ended => rfl
  | emit => rfl
  | leave => rfl

/-! ## What is found -/

/-- An entry is left out, or gets a task of its own. -/
theorem look_cases (o : ScanOptions) (root : String) (passable : Bool) (path : String)
    (entry : Entry) :
    (∃ outcomes, look o root passable path entry = { outcomes := outcomes } ∧
        outcomes.filterMap Outcome.file? = []) ∨
      (∃ access content, entry = .file access content ∧
        look o root passable path entry = { tasks := [.file path access content] }) ∨
      ∃ access entries, entry = .folder access entries ∧
        look o root passable path entry =
          { tasks := [.folder path passable access entries] } := by
  cases entry with
  | link target =>
      rw [look]
      split
      · exact Or.inl ⟨_, rfl, rfl⟩
      · exact Or.inl ⟨_, rfl, rfl⟩
  | file access content =>
      rw [look]
      split_ifs
      · exact Or.inl ⟨_, rfl, rfl⟩
      · exact Or.inl ⟨_, rfl, rfl⟩
      · exact Or.inr (Or.inl ⟨_, _, rfl, rfl⟩)
  | folder access entries =>
      rw [look]
      split
      · exact Or.inl ⟨_, rfl, rfl⟩
      · exact Or.inr (Or.inr ⟨_, _, rfl, rfl⟩)

/-- Are these findings what the trials in the text of a file can come to? -/
def IsFoundIn (e : Engine) (verify : Bool) (file : String × List UInt8) (found : List Finding) :
    Prop :=
  ∃ s, Relation.ReflTransGen Dispatch.Next (.start e verify (textOf file.2)) s ∧ s.IsOver ∧
    found = findingsOf file.1 (textOf file.2) s.hits

namespace Task

/-- The file that a task is looking through. -/
def searched : Task → List (String × List UInt8)
  | .searching path content _ => [(path, content)]
  | _ => []

/-- The findings that a task has still to emit. -/
def owed : Task → List Finding
  | .emitting path content hits => findingsOf path (textOf content) hits
  | _ => []

/-- Have the trials of a task come about by steps? -/
def IsOnCourse (e : Engine) (verify : Bool) : Task → Prop
  | .searching _ content s =>
    Relation.ReflTransGen Dispatch.Next (.start e verify (textOf content)) s
  | _ => True

theorem Step.isOnCourse (h : task.Step e o root effect) (hcourse : task.IsOnCourse e o.verify) :
    ∀ t ∈ effect.tasks, t.IsOnCourse e o.verify := by
  cases h with
  | text read nul => exact List.forall_mem_singleton.mpr .refl
  | search next => exact List.forall_mem_singleton.mpr (.tail hcourse next)
  | @look folder passable name entry rest =>
      rcases look_cases o root passable (Path.join folder name) entry with
        ⟨outcomes, hlook, -⟩ | ⟨access, content, -, hlook⟩ | ⟨access, entries, -, hlook⟩ <;>
      simp [hlook, IsOnCourse]
  | _ => simp [IsOnCourse]

/-- A step begins to look through some files, and ends it for others, whose findings it then owes.
-/
theorem Step.account (h : task.Step e o root effect) (hcourse : task.IsOnCourse e o.verify) :
    ∃ files found, List.Forall₂ (IsFoundIn e o.verify) files found ∧
      (effect.outcomes.filterMap Outcome.file? ++ task.searched).Perm
        (files ++ effect.tasks.flatMap searched) ∧
      (effect.findings ++ effect.tasks.flatMap owed).Perm (found.flatten ++ task.owed) := by
  cases h with
  -- Only here does a search end: the file is done with, and all its findings are owed.
  | @found path content s ended =>
      refine ⟨[(path, content)], [findingsOf path (textOf content) s.hits],
        .cons ⟨s, hcourse, ended, rfl⟩ .nil, .refl _, ?_⟩
      simp [owed]
  | @look folder passable name entry rest =>
      refine ⟨[], [], .nil, ?_⟩
      rcases look_cases o root passable (Path.join folder name) entry with
        ⟨outcomes, hlook, hfile⟩ | ⟨access, content, -, hlook⟩ | ⟨access, entries, -, hlook⟩
      · simp [hlook, hfile, searched, owed]
      · simp [hlook, searched, owed]
      · simp [hlook, searched, owed]
  | @emit path content h rest => exact ⟨[], [], .nil, .refl _, by simp [owed, findingsOf]⟩
  | _ => exact ⟨[], [], .nil, by simp [searched, Outcome.file?], by simp [owed, findingsOf]⟩

/-! ## Permits -/

/-- Does the task hold a permit? -/
def isReading : Task → Bool
  | .reading _ _ _ => true
  | _ => false

/-- The permits that a step takes are held by its tasks, and those of its task are given back. -/
theorem Step.permits (h : task.Step e o root effect) :
    effect.takes + [task].countP isReading = effect.returns + effect.tasks.countP isReading ∧
      effect.takes + [task].countP isReading ≤ 1 := by
  cases h with
  | @look folder passable name entry rest =>
      rcases look_cases o root passable (Path.join folder name) entry with
        ⟨outcomes, hlook, -⟩ | ⟨access, content, -, hlook⟩ | ⟨access, entries, -, hlook⟩ <;>
      simp [hlook, isReading]
  | _ => simp [isReading]

theorem exists_step (e : Engine) (o : ScanOptions) (root : String) (task : Task) :
    ∃ effect, task.Step e o root effect := by
  cases task with
  | folder path reachable access entries =>
      cases h : !reachable || !access.read with
      | false => exact ⟨_, .list h⟩
      | true => exact ⟨_, .unlisted h⟩
  | listing path passable entries =>
      cases entries with
      | nil => exact ⟨_, .listed⟩
      | cons first rest => exact ⟨_, .look⟩
  | file path access content =>
      cases h : isScannable path content.length o.maxFileSize with
      | false => exact ⟨_, .unsuitable h⟩
      | true => exact ⟨_, .acquire h⟩
  | reading path access content =>
      cases hread : access.read with
      | false => exact ⟨_, .unreadable hread⟩
      | true =>
          cases hnul : content.contains 0 with
          | false => exact ⟨_, .text hread hnul⟩
          | true => exact ⟨_, .binary hread hnul⟩
  | searching path content s =>
      rcases s.isOver_or_exists_next with hover | ⟨t, hnext⟩
      · exact ⟨_, .found hover⟩
      · exact ⟨_, .search hnext⟩
  | emitting path content hits =>
      cases hits with
      | nil => exact ⟨_, .leave⟩
      | cons h rest => exact ⟨_, .emit⟩

end Task

/-! ## Coming to an end -/

mutual

/-- A bound for the number of steps that an entry takes, when there are `n` detectors. -/
def weight (n : Nat) : Entry → Nat
  | .link _ => 0
  | .file _ _ => 4 * n + 4
  | .folder _ entries => weightAll n entries + 2

/-- A bound for the number of steps that the entries of a folder take. -/
def weightAll (n : Nat) : List (String × Entry) → Nat
  | [] => 0
  | (_, e) :: rest => weight n e + 1 + weightAll n rest

end

/-- A bound for the number of steps that a task still takes, and those that come out of it. -/
def Task.work (n : Nat) : Task → Nat
  | .folder _ _ _ entries => weightAll n entries + 2
  | .listing _ _ entries => weightAll n entries + 1
  | .file _ _ _ => 4 * n + 4
  | .reading _ _ _ => 4 * n + 3
  | .searching _ _ s => s.work + s.detectors.length + 2
  | .emitting _ _ hits => hits.length + 1

theorem Task.Step.work_lt (h : task.Step e o root effect) (hcourse : task.IsOnCourse e o.verify) :
    (effect.tasks.map (Task.work e.prefilter.size)).sum < task.work e.prefilter.size := by
  cases h with
  | @look folder passable name entry rest =>
      rcases look_cases o root passable (Path.join folder name) entry with
        ⟨outcomes, hlook, -⟩ | ⟨access, content, rfl, hlook⟩ | ⟨access, entries, rfl, hlook⟩
      · simp only [hlook, Task.work, weightAll, List.nil_append, List.map_cons, List.map_nil,
          List.sum_cons, List.sum_nil]
        omega
      · simp [hlook, Task.work, weightAll, weight]
        omega
      · simp [hlook, Task.work, weightAll, weight]
        omega
  -- What is found in the text, and how long it takes, is bounded before anything is tried.
  | @text path access content read nul =>
      have hstart := Dispatch.work_start_le e o.verify (textOf content)
      simp only [Task.work, List.map_cons, List.map_nil, List.sum_cons, List.sum_nil]
      omega
  | @search path content s t next =>
      have hlt := next.work_lt (Dispatch.of_reaches hcourse).1
      have hdetectors := next.detectors_perm.length_eq
      simp only [Task.work, List.map_cons, List.map_nil, List.sum_cons, List.sum_nil]
      omega
  | @found path content s ended =>
      have hhits := s.length_hits_le
      simp only [Task.work, List.map_cons, List.map_nil, List.sum_cons, List.sum_nil]
      omega
  | _ => simp [Task.work, weightAll]

namespace Progress

variable {s t : Progress}

/-! ## One step of a scan -/

/-- What has been said, and what is still due. -/
def account (o : ScanOptions) (root : String) (s : Progress) : List Outcome :=
  s.outcomes ++ s.tasks.flatMap (Task.due o root)

/-- Where one task makes way for others, all others keep their part of a list. -/
theorem exchange_perm {α : Type} {f : Task → List α} {tasks : List Task} {said : List α}
    (front back : List Task) (gone : List α) (h : (said ++ tasks.flatMap f).Perm (gone ++ f task)) :
    (said ++ (front ++ (tasks ++ back)).flatMap f).Perm
      (gone ++ (front ++ task :: back).flatMap f) := by
  classical
  rw [List.perm_iff_count] at h ⊢
  intro x
  have hx := h x
  simp only [List.flatMap_append, List.flatMap_cons, List.count_append] at hx ⊢
  omega

theorem Next.account_perm (h : Next e o root s t) : (t.account o root).Perm (s.account o root) := by
  obtain @⟨front, back, task, effect, htasks, hstep, -⟩ := h
  rw [account, account, htasks, List.append_assoc]
  exact List.Perm.append_left _ (exchange_perm front back [] (.of_eq hstep.due_eq))

/-- What has been found so far: every file that was looked through is with a task that searches, or
its findings are known and have been emitted, but for those that tasks still owe. -/
structure Accounted (e : Engine) (verify : Bool) (s : Progress) : Prop where
  course : ∀ task ∈ s.tasks, task.IsOnCourse e verify
  found : ∃ files found, List.Forall₂ (IsFoundIn e verify) files found ∧
    (s.outcomes.filterMap Outcome.file?).Perm (files ++ s.tasks.flatMap Task.searched) ∧
    (s.emitted ++ s.tasks.flatMap Task.owed).Perm found.flatten

theorem Next.accounted (h : Next e o root s t) (hs : s.Accounted e o.verify) :
    t.Accounted e o.verify := by
  obtain @⟨front, back, task, effect, htasks, hstep, -⟩ := h
  obtain ⟨hcourse, files, found, hfound, hfiles, hfindings⟩ := hs
  have htask : task.IsOnCourse e o.verify := hcourse task (by simp [htasks])
  obtain ⟨newFiles, newFound, hnew, hnewFiles, hnewFindings⟩ := hstep.account htask
  refine ⟨?_, files ++ newFiles, found ++ newFound, List.rel_append hfound hnew, ?_, ?_⟩
  · intro other hother
    simp only [List.mem_append] at hother
    rcases hother with hfront | heffect | hback
    · exact hcourse other (by simp [htasks, hfront])
    · exact hstep.isOnCourse htask other heffect
    · exact hcourse other (by simp [htasks, hback])
  · have hexchange := exchange_perm front back _ hnewFiles.symm
    rw [← htasks] at hexchange
    calc
      (s.outcomes ++ effect.outcomes).filterMap Outcome.file?
        = s.outcomes.filterMap Outcome.file? ++ effect.outcomes.filterMap Outcome.file? :=
          List.filterMap_append
      List.Perm _ (files ++ s.tasks.flatMap Task.searched ++
          effect.outcomes.filterMap Outcome.file?) := hfiles.append_right _
      List.Perm _ (files ++ (effect.outcomes.filterMap Outcome.file? ++
          s.tasks.flatMap Task.searched)) := by
        rw [List.append_assoc]
        exact List.perm_append_comm.append_left _
      List.Perm _ (files ++ (newFiles ++ _)) := hexchange.symm.append_left _
      _ = _ := (List.append_assoc files newFiles _).symm
  · have hexchange := exchange_perm front back _ hnewFindings
    rw [← htasks] at hexchange
    calc
      List.Perm (s.emitted ++ effect.findings ++ _) (s.emitted ++ (newFound.flatten ++
          s.tasks.flatMap Task.owed)) := by
        rw [List.append_assoc]
        exact hexchange.append_left _
      List.Perm _ (newFound.flatten ++ (s.emitted ++ s.tasks.flatMap Task.owed)) :=
        List.perm_append_comm_assoc _ _ _
      List.Perm _ (newFound.flatten ++ found.flatten) := hfindings.append_left _
      List.Perm _ (found.flatten ++ newFound.flatten) := List.perm_append_comm
      _ = (found ++ newFound).flatten := List.flatten_append.symm

/-- Every permit is free or held by a task. -/
theorem Next.permits_eq (h : Next e o root s t) :
    t.free + t.tasks.countP Task.isReading = s.free + s.tasks.countP Task.isReading := by
  obtain @⟨front, back, task, effect, htasks, hstep, hfree⟩ := h
  have hpermits := hstep.permits.1
  rw [List.countP_singleton] at hpermits
  simp only [htasks, List.countP_append, List.countP_cons]
  omega

/-- A bound for the number of steps that a scan still takes. -/
def work (e : Engine) (s : Progress) : Nat := (s.tasks.map (Task.work e.prefilter.size)).sum

theorem Next.work_lt (h : Next e o root s t) (hs : s.Accounted e o.verify) :
    t.work e < s.work e := by
  obtain @⟨front, back, task, effect, htasks, hstep, -⟩ := h
  have hlt := hstep.work_lt (hs.course task (by simp [htasks]))
  simp only [work, htasks, List.map_append, List.map_cons, List.sum_append, List.sum_cons]
  omega

/-- Unless a scan is over or has no permits at all, it can go on. -/
theorem isOver_or_exists_next (e : Engine) (o : ScanOptions) (root : String)
    (h : 0 < s.free + s.tasks.countP Task.isReading) : s.IsOver ∨ ∃ t, Next e o root s t := by
  by_cases hfree : s.free = 0
  -- Where no permit is free, a file is being read, and reading takes no further permit.
  · obtain ⟨task, htask, hreading⟩ :=
      List.countP_pos_iff.mp (by omega : 0 < s.tasks.countP Task.isReading)
    obtain ⟨front, back, htasks⟩ := List.append_of_mem htask
    obtain ⟨effect, hstep⟩ := task.exists_step e o root
    have hpermits := hstep.permits.2
    rw [List.countP_singleton, if_pos hreading] at hpermits
    exact Or.inr ⟨_, .step htasks hstep (by omega)⟩
  · cases htasks : s.tasks with
    | nil => exact Or.inl htasks
    | cons task back =>
        have htasks : s.tasks = [] ++ task :: back := htasks
        obtain ⟨effect, hstep⟩ := task.exists_step e o root
        have hpermits := hstep.permits.2
        exact Or.inr ⟨_, .step htasks hstep (by omega)⟩

/-! ## Whole schedules -/

theorem of_reaches (h : Relation.ReflTransGen (Next e o root) s t) (hs : s.Accounted e o.verify) :
    t.Accounted e o.verify ∧ (t.account o root).Perm (s.account o root) ∧
      t.free + t.tasks.countP Task.isReading = s.free + s.tasks.countP Task.isReading := by
  induction h with
  | refl => exact ⟨hs, .refl _, rfl⟩
  | tail _ hnext ih =>
      exact ⟨hnext.accounted ih.1, hnext.account_perm.trans ih.2.1, hnext.permits_eq.trans ih.2.2⟩

theorem not_endless (schedule : ℕ → Progress) (h0 : (schedule 0).Accounted e o.verify) :
    ¬ ∀ n, Next e o root (schedule n) (schedule (n + 1)) :=
  not_endless_of_work_lt (Accounted e o.verify) (work e) (fun _ _ hnext hs => hnext.accounted hs)
    (fun _ _ hnext hs => hnext.work_lt hs) h0

theorem accounted_listing (e : Engine) (verify : Bool) (path : String) (passable : Bool)
    (entries : List (String × Entry)) (permits : Nat) :
    Accounted e verify { tasks := [.listing path passable entries], free := permits } :=
  ⟨List.forall_mem_singleton.mpr trivial, [], [], .nil, .refl _, .refl _⟩

theorem IsOver.account_eq (h : s.IsOver) : s.account o root = s.outcomes := by
  have htasks : s.tasks = [] := h
  simp [account, htasks]

/-- When all is over, the findings are those in the files that have been looked through. -/
theorem Accounted.of_isOver {verify : Bool} {files : List (String × List UInt8)}
    (h : s.Accounted e verify) (hover : s.IsOver)
    (hfiles : (s.outcomes.filterMap Outcome.file?).Perm files) :
    ∃ found, List.Forall₂ (IsFoundIn e verify) files found ∧ s.emitted.Perm found.flatten := by
  have htasks : s.tasks = [] := hover
  obtain ⟨-, searched, found, hfound, hsearched, hemitted⟩ := h
  rw [htasks, List.flatMap_nil, List.append_nil] at hsearched hemitted
  obtain ⟨found', hfound', hperm⟩ :=
    List.perm_comp_forall₂ (hfiles.symm.trans hsearched) hfound
  exact ⟨found', hfound', hemitted.trans hperm.flatten.symm⟩

/-- However a folder is scanned, the permits are all there, and what has been said when all is
over is what a walk of the folder says. -/
theorem of_reaches_listing {path : String} {passable : Bool} {entries : List (String × Entry)}
    {permits : Nat} (hreach : Relation.ReflTransGen (Next e o root)
      { tasks := [.listing path passable entries], free := permits } s) :
    s.Accounted e o.verify ∧ s.free + s.tasks.countP Task.isReading = permits ∧
      (s.IsOver → s.outcomes.Perm (visitAll o root passable path entries)) := by
  obtain ⟨haccounted, haccount, hpermits⟩ :=
    of_reaches hreach (accounted_listing e o.verify path passable entries permits)
  refine ⟨haccounted, hpermits, fun hover => ?_⟩
  rw [hover.account_eq] at haccount
  simpa [account, Task.due] using haccount

end Progress

/-! ## The account of a tree -/

/-- The findings in a file without verification. -/
def findingsInFile (e : Engine) (file : String × List UInt8) : List Finding :=
  findingsOf file.1 (textOf file.2) (e.hits (textOf file.2))

theorem IsFoundIn.perm_of_off {file : String × List UInt8} {found : List Finding}
    (h : IsFoundIn e false file found) : found.Perm (findingsInFile e file) := by
  obtain ⟨s, hreach, hover, rfl⟩ := h
  exact (Dispatch.filterMap_outcomes_perm hreach hover fun x hx htried => htried.eq_find?).map _

theorem flatten_perm_of_off {files : List (String × List UInt8)} {found : List (List Finding)}
    (h : List.Forall₂ (IsFoundIn e false) files found) :
    found.flatten.Perm (files.flatMap (findingsInFile e)) := by
  induction h with
  | nil => exact .refl _
  | cons hfirst _ ih => exact hfirst.perm_of_off.append ih

theorem filterMap_filter_isCounted (outcomes : List Outcome) :
    (outcomes.filter Outcome.isCounted).filterMap Outcome.file? =
      outcomes.filterMap Outcome.file? := by
  rw [List.filterMap_filter]
  refine List.filterMap_congr fun x _ => ?_
  cases x <;> rfl

theorem Stats.of_filter_isCounted (outcomes : List Outcome) :
    Stats.of (outcomes.filter Outcome.isCounted) = Stats.of outcomes := by
  have hscanned : (fun x => Outcome.isScanned x && Outcome.isCounted x) = Outcome.isScanned := by
    funext x
    cases x <;> rfl
  have hskipped : (fun x => Outcome.isSkipped x && Outcome.isCounted x) = Outcome.isSkipped := by
    funext x
    cases x <;> rfl
  rw [Stats.of, Stats.of, List.countP_filter, List.countP_filter, hscanned, hskipped]

theorem Stats.of_perm {outcomes outcomes' : List Outcome} (h : outcomes.Perm outcomes') :
    Stats.of outcomes = Stats.of outcomes' := by
  rw [Stats.of, Stats.of, h.countP_eq, h.countP_eq]

/-- The counts of a walk, from the files that it meets. -/
theorem Stats.of_visitAll (o : ScanOptions) (root folder : String) {access : Access}
    (hread : access.read = true) (entries : List (String × Entry)) :
    let met := (leavesOf entries).filter (Leaf.isMet o root folder access)
    Stats.of (visitAll o root access.pass folder entries) =
      ⟨met.countP (Leaf.isRead o folder access),
        met.countP fun l => !l.isRead o folder access⟩ := by
  intro met
  have hscanned : Outcome.isScanned ∘ Leaf.outcome o folder access =
      Leaf.isRead o folder access := funext Leaf.isScanned_outcome
  have hskipped : Outcome.isSkipped ∘ Leaf.outcome o folder access =
      fun l => !l.isRead o folder access := funext Leaf.isSkipped_outcome
  rw [← Stats.of_filter_isCounted, visitAll_counted o root folder hread, Stats.of, List.countP_map,
    List.countP_map, hscanned, hskipped]

/-- The files that a walk reads, from those that it meets. -/
theorem filterMap_visitAll (o : ScanOptions) (root folder : String) {access : Access}
    (hread : access.read = true) (entries : List (String × Entry)) :
    (visitAll o root access.pass folder entries).filterMap Outcome.file? =
      (((leavesOf entries).filter (Leaf.isMet o root folder access)).filter
        (Leaf.isRead o folder access)).map (Leaf.file folder) := by
  rw [← filterMap_filter_isCounted, visitAll_counted o root folder hread]
  generalize (leavesOf entries).filter (Leaf.isMet o root folder access) = met
  rw [List.filterMap_map, ← List.filterMap_eq_map, List.filterMap_filter]
  exact List.filterMap_congr fun l _ => l.file?_outcome

theorem scanOutcome_off {m : Type → Type} [Monad m] [LawfulMonad m] (e : Engine) (ask : Inquiry m)
    (hoff : o.verify = false) :
    scanOutcome e ask o = fun x => pure (x.file?.toList.flatMap (findingsInFile e)) := by
  funext x
  cases x with
  | scanned path content =>
      simp [scanOutcome, hoff, Engine.scanText_off, Outcome.file?, findingsInFile]
  | _ => rfl

/-- Without verification a scan one by one finds what is in the files that it has looked through. -/
theorem scan_off {m : Type → Type} [Monad m] [LawfulMonad m] (e : Engine) (ask : Inquiry m)
    (hoff : o.verify = false) {found : Except SystemError Entry} {outcomes : List Outcome}
    (hlimit : max o.maxOpenFiles 1 ≤ maxPermits) (hwalk : walk o root found = .ok outcomes) :
    scan e ask o root found = pure (.ok
      ⟨outcomes, (outcomes.filterMap Outcome.file?).flatMap (findingsInFile e)⟩) := by
  have hpermits := permitsFor_of_le hlimit
  have hfindings : (outcomes.map fun x => x.file?.toList.flatMap (findingsInFile e)).flatten =
      (outcomes.filterMap Outcome.file?).flatMap (findingsInFile e) := by
    rw [List.filterMap_eq_flatMap_toList, List.flatMap_assoc, List.flatMap_def]
  simp only [scan, hpermits, hwalk, scanOutcome_off e ask hoff, List.mapM_pure, pure_bind,
    hfindings]

/-- A limit beyond the greatest number of permits is refused before the root is looked at. -/
theorem refused_for_limit {m : Type → Type} [Monad m] (e : Engine) (ask : Inquiry m)
    (hlimit : maxPermits < max o.maxOpenFiles 1) (found : Except SystemError Entry) :
    Progress.start o root found = .error .permits ∧
      scan e ask o root found = pure (.error .permits) := by
  have hpermits := permitsFor_of_lt hlimit
  exact ⟨by simp only [Progress.start, hpermits], by simp only [scan, hpermits]⟩

/-- A root that is not found, or a folder that cannot be listed, ends a scan before it has begun. -/
theorem refused_for_root {m : Type → Type} [Monad m] (e : Engine) (ask : Inquiry m)
    (hlimit : max o.maxOpenFiles 1 ≤ maxPermits) {found : Except SystemError Entry}
    {err : SystemError} (hfound : found = .error err ∨ err = .denied ∧ ∃ access entries,
      found = .ok (.folder access entries) ∧ access.read = false) :
    Progress.start o root found = .error (.io err) ∧
      scan e ask o root found = pure (.error (.io err)) := by
  have hpermits := permitsFor_of_le hlimit
  rcases hfound with rfl | ⟨rfl, access, entries, rfl, hread⟩
  · have hwalk : walk o root (.error err) = .error err := rfl
    exact ⟨by simp only [Progress.start, hpermits], by simp only [scan, hpermits, hwalk]⟩
  · have hwalk : walk o root (.ok (.folder access entries)) = .error .denied :=
      if_neg (by simp [hread])
    exact ⟨by simp [Progress.start, hpermits, hread], by simp only [scan, hpermits, hwalk]⟩

/-- Whatever order the tasks take, every file that a scan meets is counted once, and the findings
are those in the files that can be read and are text. A scan has no other end, as long as its root
can be listed and there can be as many permits as the limit asks for. Beyond that it breaks down
before it has looked at its root. -/
theorem every_schedule_accounts_for_the_tree {m : Type → Type} [Monad m] [LawfulMonad m]
    (e : Engine) (ask : Inquiry m) (o : ScanOptions) (root : String) :
    let limit := max o.maxOpenFiles 1
    (limit ≤ maxPermits →
      (∀ access entries, access.read = true →
        let tree := Entry.folder access entries
        let met := (leavesOf entries).filter (Leaf.isMet o root root access)
        let files := (met.filter (Leaf.isRead o root access)).map (Leaf.file root)
        let stats : Stats := ⟨files.length, met.countP fun l => !l.isRead o root access⟩
        ∃ start, Progress.start o root (.ok tree) = .ok start ∧
          (∀ s, Relation.ReflTransGen (Progress.Next e o root) start s →
            s.tasks.countP Task.isReading ≤ limit ∧
            (s.IsOver ∨ ∃ t, Progress.Next e o root s t) ∧
            (s.IsOver →
              (s.outcomes.filter Outcome.isCounted).Perm (met.map (Leaf.outcome o root access)) ∧
              s.result.stats = stats ∧
              (∃ found, List.Forall₂ (IsFoundIn e o.verify) files found ∧
                s.emitted.Perm found.flatten) ∧
              (o.verify = false → s.emitted.Perm (files.flatMap (findingsInFile e))))) ∧
          (∀ schedule : ℕ → Progress, schedule 0 = start →
            ¬ ∀ n, Progress.Next e o root (schedule n) (schedule (n + 1))) ∧
          (o.verify = false → ∃ outcomes, Stats.of outcomes = stats ∧
            scan e ask o root (.ok tree) =
              pure (.ok ⟨outcomes, files.flatMap (findingsInFile e)⟩))) ∧
      ∀ found err, (found = .error err ∨ err = .denied ∧ ∃ access entries,
          found = .ok (.folder access entries) ∧ access.read = false) →
        Progress.start o root found = .error (.io err) ∧
          scan e ask o root found = pure (.error (.io err))) ∧
    (maxPermits < limit → ∀ found, Progress.start o root found = .error .permits ∧
      scan e ask o root found = pure (.error .permits)) := by
  intro limit
  refine ⟨?_, ?_⟩
  · intro hlimit
    have hpermits : permitsFor o.maxOpenFiles = .ok limit := if_neg (Nat.not_lt.mpr hlimit)
    refine ⟨?_, ?_⟩
    · intro access entries hread tree met files stats
      have hwalk : walk o root (.ok tree) = .ok (visitAll o root access.pass root entries) :=
        if_pos hread
      have hmet : (visitAll o root access.pass root entries).filter Outcome.isCounted =
          met.map (Leaf.outcome o root access) := visitAll_counted o root root hread entries
      have hfiles : (visitAll o root access.pass root entries).filterMap Outcome.file? = files :=
        filterMap_visitAll o root root hread entries
      have hstats : Stats.of (visitAll o root access.pass root entries) = stats := by
        rw [Stats.of_visitAll o root root hread, List.countP_eq_length_filter]
        simp only [stats, files, met, List.length_map]
      let start : Progress := { tasks := [.listing root access.pass entries], free := limit }
      have hstart : start.Accounted e o.verify := Progress.accounted_listing ..
      refine ⟨start, ?_, ?_, fun schedule h0 => Progress.not_endless schedule (h0 ▸ hstart), ?_⟩
      · simp only [Progress.start, hpermits, tree, hread, if_true]
        rfl
      · intro s hs
        obtain ⟨haccounted, hheld, houtcomes⟩ := Progress.of_reaches_listing hs
        refine ⟨by omega, Progress.isOver_or_exists_next e o root (by omega), ?_⟩
        intro hover
        have houtcomes := houtcomes hover
        obtain ⟨found, hfound, hemitted⟩ :=
          haccounted.of_isOver hover (hfiles ▸ houtcomes.filterMap Outcome.file?)
        refine ⟨hmet ▸ houtcomes.filter _, (Stats.of_perm houtcomes).trans hstats,
          ⟨found, hfound, hemitted⟩, ?_⟩
        intro hoff
        rw [hoff] at hfound
        exact hemitted.trans (flatten_perm_of_off hfound)
      · intro hoff
        refine ⟨_, hstats, ?_⟩
        rw [scan_off e ask hoff hlimit hwalk, hfiles]
    · exact fun found err hfound => refused_for_root e ask hlimit hfound
  · exact fun hlimit found => refused_for_limit e ask hlimit found

/-- Of four files one is read; the others are no text by their names, closed, or in a closed
folder. -/
theorem account_of_a_tree_with_closed_parts :
    let e := Engine.ofRegistry
      ⟨[.custom ⟨"tok", ["tok"], [⟨"default", .group 1 (Pattern.literal "tok".toList)⟩]⟩]⟩
    let o : ScanOptions := { exclusions := ⟨[], []⟩, maxOpenFiles := 0 }
    let tree := Entry.folder {} [("a.env", .file {} (Text.Utf8.encode "\na tok".toList)),
      ("b.png", .file {} []), ("c.env", .file { read := false } []),
      ("d", .folder { pass := false } [("e.env", .file {} [])])]
    ∃ start, Progress.start o "." (.ok tree) = .ok start ∧
      ∀ s, Relation.ReflTransGen (Progress.Next e o ".") start s → s.IsOver →
        s.result.stats = ⟨1, 3⟩ ∧
        s.emitted.map (fun f => (f.hit.value, f.path, f.line)) =
          [(some "tok", "./a.env", some 2)] := by
  intro e o tree
  obtain ⟨haccount, -⟩ := (every_schedule_accounts_for_the_tree (m := Id) e
    (fun _ _ => .error .permits) o ".").1 (by decide)
  obtain ⟨start, hstart, hruns, -⟩ := haccount {} tree.entries rfl
  refine ⟨start, hstart, fun s hs hover => ?_⟩
  obtain ⟨-, hstats, -, hemitted⟩ := (hruns s hs).2.2 hover
  refine ⟨hstats, ?_⟩
  have hperm := (hemitted rfl).map fun f => (f.hit.value, f.path, f.line)
  refine List.perm_singleton.mp (hperm.trans (.of_eq ?_))
  decide +kernel

/-- An empty folder can be walked, and the scan breaks down for its limit alone. -/
theorem empty_folder_breaks_down_at_too_great_a_limit :
    let o : ScanOptions := { maxOpenFiles := 2305843009213693952 }
    walk o "." (.ok .emptyFolder) = .ok [] ∧
      Progress.start o "." (.ok .emptyFolder) = .error .permits ∧
      scan (m := Id) (Engine.ofRegistry ⟨[]⟩) (fun _ _ => .error .permits) o "."
        (.ok .emptyFolder) = .error .permits := by
  exact ⟨rfl, rfl, rfl⟩

end SecretScan.Files
