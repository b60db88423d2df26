import SecretScan.Proofs.Files.Schedule

/-!
# Folders that cannot be listed

A folder below the root that cannot be listed is told of, and the scan goes on with the others. It
is no file, and the count of what was skipped is one of files: such a folder is not in it, and
neither is anything below it. The count tells of all that a scan has missed just when there is no
such folder.
-/

namespace SecretScan.Files

open Exclusions

/-! ## The folders of a tree -/

/-- A folder below another one, with the folders on the way to it, outermost first. -/
structure Branch where
  trail : List (String × Access)
  name : String
  access : Access

namespace Branch

/-- The folder as it is seen from around the folder that it is below. -/
def under (name : String) (access : Access) (b : Branch) : Branch :=
  { b with trail := (name, access) :: b.trail }

/-- The path of the folder below one with this path. -/
def path (folder : String) (b : Branch) : String :=
  Path.below folder (b.trail.map (·.1) ++ [b.name])

/-- Is the folder in one that is listed, and not excluded itself? -/
def isMet (o : ScanOptions) (root folder : String) (access : Access) (b : Branch) : Bool :=
  isListed o root folder access b.trail &&
    !o.exclusions.excludes (keyOf root (b.path folder) true)

/-- Can the folder be reached and read? -/
def isListable (access : Access) (b : Branch) : Bool := isPassable access b.trail && b.access.read

/-- Is the folder one that a walk comes to and cannot list? -/
def isMissed (o : ScanOptions) (root folder : String) (access : Access) (b : Branch) : Bool :=
  b.isMet o root folder access && !b.isListable access

end Branch

mutual

/-- The folders that an entry with this name consists of. -/
def branches (name : String) : Entry → List Branch
  | .link _ => []
  | .file _ _ => []
  | .folder access entries => ⟨[], name, access⟩ :: (branchesOf entries).map (.under name access)

/-- The folders below a folder with these entries. -/
def branchesOf : List (String × Entry) → List Branch
  | [] => []
  | (name, e) :: rest => branches name e ++ branchesOf rest

end

/-- Is it what became of a folder that could not be listed? -/
def Outcome.isUnlisted : Outcome → Bool
  | .unlisted _ _ => true
  | _ => false

variable {o : ScanOptions} {root folder name : String} {access inner : Access}

namespace Branch

theorem path_under (b : Branch) :
    (b.under name inner).path folder = b.path (Path.join folder name) := rfl

theorem isListable_under (b : Branch) :
    (b.under name inner).isListable access = b.isListable inner := rfl

/-- Below a folder that is left out or cannot be listed, a walk comes to nothing. -/
theorem isMissed_under (b : Branch) :
    (b.under name inner).isMissed o root folder access = (access.read && access.pass &&
      !o.exclusions.excludes (keyOf root (Path.join folder name) true) &&
        b.isMissed o root (Path.join folder name) inner) := by
  rw [isMissed, isMet, isListable_under, path_under, under, isListed, isMissed, isMet]
  simp only [Bool.and_assoc]

theorem isMissed_of_unreadable (h : access.read = false) (b : Branch) :
    b.isMissed o root folder access = false := by
  rw [isMissed, isMet, isListed_of_unreadable h, Bool.false_and, Bool.false_and]

/-- Of a folder among the entries it matters whether it is excluded, reached and read. -/
theorem isMissed_top (hread : access.read = true) :
    isMissed o root folder access ⟨[], name, inner⟩ =
      (!o.exclusions.excludes (keyOf root (Path.join folder name) true) &&
        (!access.pass || !inner.read)) := by
  have hlisted : isListed o root folder access [] = true := hread
  have hpath : path folder ⟨[], name, inner⟩ = Path.join folder name := rfl
  rw [isMissed, isMet, hlisted, hpath, Bool.true_and, ← Bool.not_and]
  rfl

end Branch

/-! ## What a walk tells of -/

theorem isUnlisted_visitFile (o : ScanOptions) (path : String) (access : Access)
    (content : List UInt8) : (visitFile o path access content).isUnlisted = false := by
  unfold visitFile
  split_ifs <;> rfl

mutual

theorem visit_unlisted (o : ScanOptions) (root folder name : String) {access : Access}
    (hread : access.read = true) : ∀ e : Entry,
    (visit o root access.pass (Path.join folder name) e).filter Outcome.isUnlisted =
      ((branches name e).filter (Branch.isMissed o root folder access)).map
        fun b => .unlisted (b.path folder) .denied
  | .link target => by
      rw [visit, branches]
      split <;> rfl
  | .file fileAccess content => by
      rw [visit, branches]
      split_ifs
      · rfl
      · rfl
      · rw [List.filter_singleton, isUnlisted_visitFile]
        rfl
  | .folder inner entries => by
      have hbelow : Branch.isMissed o root folder access ∘ Branch.under name inner = fun b =>
          access.pass && !o.exclusions.excludes (keyOf root (Path.join folder name) true) &&
            b.isMissed o root (Path.join folder name) inner := by
        funext b
        rw [Function.comp_apply, Branch.isMissed_under, hread, Bool.true_and]
      rw [visit, branches, List.filter_cons, Branch.isMissed_top hread, List.filter_map, hbelow]
      cases hexcluded : o.exclusions.excludes (keyOf root (Path.join folder name) true)
      · cases hpass : access.pass
        · simp [Outcome.isUnlisted, Branch.path, Path.below]
        · cases hinner : inner.read
          · simp [Branch.isMissed_of_unreadable hinner, Outcome.isUnlisted, Branch.path, Path.below]
          · simpa [hinner, Function.comp_def, Branch.path_under] using
              visitAll_unlisted o root (Path.join folder name) hinner entries
      · simp [Outcome.isUnlisted]

/-- The folders that a walk could not list are those that it misses. -/
theorem visitAll_unlisted (o : ScanOptions) (root folder : String) {access : Access}
    (hread : access.read = true) : ∀ entries : List (String × Entry),
    (visitAll o root access.pass folder entries).filter Outcome.isUnlisted =
      ((branchesOf entries).filter (Branch.isMissed o root folder access)).map
        fun b => .unlisted (b.path folder) .denied
  | [] => by simp [visitAll, branchesOf]
  | (name, e) :: rest => by
      rw [visitAll, branchesOf, List.filter_append, List.filter_append, List.map_append,
        visit_unlisted o root folder name hread e, visitAll_unlisted o root folder hread rest]

end

/-! ## What a scan counts -/

/-- A scan of a folder begins when the folder can be listed, and with that alone. -/
theorem Progress.start_folder_eq_ok {entries : List (String × Entry)} {start : Progress}
    (h : Progress.start o root (.ok (.folder access entries)) = .ok start) :
    access.read = true ∧
      ∃ permits, start = { tasks := [.listing root access.pass entries], free := permits } := by
  unfold Progress.start at h
  cases hpermits : permitsFor o.maxOpenFiles with
  | error f => simp [hpermits] at h
  | ok permits =>
      cases hread : access.read with
      | false => simp [hpermits, hread] at h
      | true =>
          simp only [hpermits, hread, if_true, Except.ok.injEq] at h
          exact ⟨rfl, permits, h.symm⟩

/-- Whatever order the tasks take, a scan counts as skipped the files that it met and did not
read, and tells once of each folder that it could not list. It does not count the folder: the
count is that of all that was missed just when there is no such folder. -/
theorem missed_folders_are_told_of_but_not_counted (e : Engine) (o : ScanOptions) (root : String)
    (access : Access) (entries : List (String × Entry)) {start s : Progress}
    (hstart : Progress.start o root (.ok (.folder access entries)) = .ok start)
    (hreach : Relation.ReflTransGen (Progress.Next e o root) start s) (hover : s.IsOver) :
    let met := (leavesOf entries).filter (Leaf.isMet o root root access)
    let unread := met.filter fun l => !l.isRead o root access
    let missed := (branchesOf entries).filter (Branch.isMissed o root root access)
    s.result.stats.skipped = unread.length ∧
      (s.outcomes.filter Outcome.isUnlisted).Perm
        (missed.map fun b => .unlisted (b.path root) .denied) ∧
      (s.result.stats.skipped = unread.length + missed.length ↔ missed = []) := by
  intro met unread missed
  obtain ⟨hread, permits, rfl⟩ := Progress.start_folder_eq_ok hstart
  obtain ⟨-, -, houtcomes⟩ := Progress.of_reaches_listing hreach
  have hwalk : s.outcomes.Perm (visitAll o root access.pass root entries) := houtcomes hover
  have hskipped : s.result.stats.skipped = unread.length := by
    have hstats : s.result.stats = Stats.of (visitAll o root access.pass root entries) :=
      Stats.of_perm hwalk
    rw [hstats, Stats.of_visitAll o root root hread]
    exact List.countP_eq_length_filter
  refine ⟨hskipped, ?_, ?_⟩
  · rw [← visitAll_unlisted o root root hread entries]
    exact hwalk.filter _
  · rw [hskipped, Nat.left_eq_add, List.length_eq_zero_iff]

/-- Of the file that cannot be read and the two folders that cannot be listed only the file is
counted. -/
theorem closed_file_is_counted_beside_closed_folders :
    let e := Engine.ofRegistry ⟨[]⟩
    let o : ScanOptions := { exclusions := ⟨["/vendor/"], []⟩ }
    let entries : List (String × Entry) :=
      [("a.env", .file { read := false } []), ("vendor", .folder { read := false } []),
        ("d", .folder { read := false } [("b.env", .file {} []), ("c", .folder {} [])]),
        ("f", .folder { pass := false } [("g", .folder {} [])])]
    ∃ start, Progress.start o "." (.ok (.folder {} entries)) = .ok start ∧
      ∀ s, Relation.ReflTransGen (Progress.Next e o ".") start s → s.IsOver →
        s.result.stats.skipped = 1 ∧ (s.outcomes.filter Outcome.isUnlisted).Perm
          [.unlisted "./d" .denied, .unlisted "./f/g" .denied] := by
  intro e o entries
  refine ⟨_, rfl, fun s hreach hover => ?_⟩
  obtain ⟨hskipped, hunlisted, -⟩ :=
    missed_folders_are_told_of_but_not_counted e o "." {} entries rfl hreach hover
  refine ⟨hskipped.trans ?_, hunlisted.trans (.of_eq ?_)⟩
  · decide
  · decide

/-- A scan of a folder that holds nothing but one that cannot be listed. It comes to its end and has
counted nothing. -/
theorem closed_folder_is_missing_from_counts :
    let e := Engine.ofRegistry ⟨[]⟩
    let o : ScanOptions := { exclusions := ⟨[], []⟩ }
    let entries : List (String × Entry) := [("d", .folder { read := false } [])]
    ∃ start s, Progress.start o "." (.ok (.folder {} entries)) = .ok start ∧
      Relation.ReflTransGen (Progress.Next e o ".") start s ∧ s.IsOver ∧
      s.outcomes = [.unlisted "./d" .denied] ∧ s.result.stats = ⟨0, 0⟩ ∧
      (branchesOf entries).countP (Branch.isMissed o "." "." {}) = 1 := by
  intro e o entries
  let closed : Task := .folder "./d" true { read := false } []
  let begun : Progress := { tasks := [.listing "." true entries], free := 64 }
  let met : Progress := { tasks := [closed, .listing "." true []], free := 64 }
  let told : Progress :=
    { tasks := [.listing "." true []], outcomes := [.unlisted "./d" .denied], free := 64 }
  let done : Progress := { tasks := [], outcomes := [.unlisted "./d" .denied], free := 64 }
  have hlook : Progress.Next e o "." begun met :=
    @Progress.Next.step e o "." begun [] [] _ _ rfl .look (Nat.zero_le _)
  have hunlisted : Progress.Next e o "." met told :=
    @Progress.Next.step e o "." met [] [.listing "." true []] _ _ rfl (.unlisted rfl)
      (Nat.zero_le _)
  have hlisted : Progress.Next e o "." told done :=
    @Progress.Next.step e o "." told [] [] _ _ rfl .listed (Nat.zero_le _)
  have hreach : Relation.ReflTransGen (Progress.Next e o ".") begun done :=
    ((Relation.ReflTransGen.single hlook).tail hunlisted).tail hlisted
  exact ⟨begun, done, rfl, hreach, rfl, rfl, rfl, rfl⟩

end SecretScan.Files
