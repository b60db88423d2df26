import SecretScan.Files.Walk
import SecretScan.Proofs.Files.Keys

/-!
# What a walk looks at

A walk goes from folder to folder and leaves out whole folders. What it looks at is also found by
listing all files of the tree and asking of each, by its own path and those of the folders on the
way, whether it is to be left out.
-/

namespace SecretScan.Files

open Exclusions

/-! ## The files of a tree -/

/-- A file below a folder, with the folders on the way to it, outermost first. -/
structure Leaf where
  trail : List (String × Access)
  name : String
  access : Access
  content : List UInt8

namespace Leaf

/-- The file as it is seen from around the folder that it is below. -/
def under (name : String) (access : Access) (l : Leaf) : Leaf :=
  { l with trail := (name, access) :: l.trail }

/-- The names on the way to the file, its own last. -/
def names (l : Leaf) : List String := l.trail.map (·.1) ++ [l.name]

/-- The path of the file below a folder with this path. -/
def path (folder : String) (l : Leaf) : String := Path.below folder l.names

end Leaf

mutual

/-- The files that an entry with this name consists of. -/
def leaves (name : String) : Entry → List Leaf
  | .link _ => []
  | .file access content => [⟨[], name, access, content⟩]
  | .folder access entries => (leavesOf entries).map (.under name access)

/-- The files below a folder with these entries. -/
def leavesOf : List (String × Entry) → List Leaf
  | [] => []
  | (name, e) :: rest => leaves name e ++ leavesOf rest

end

/-- The paths of the folders of a trail that begins in a folder with this path. -/
def foldersOn (folder : String) : List (String × Access) → List String
  | [] => []
  | (name, _) :: rest => Path.join folder name :: foldersOn (Path.join folder name) rest

/-- Is the folder at the end of a trail listed? The first folder has to be readable; then it has
to be passable as well, and the next one not excluded, and so on. -/
def isListed (o : ScanOptions) (root folder : String) (access : Access) :
    List (String × Access) → Bool
  | [] => access.read
  | (name, next) :: rest =>
    access.read && access.pass &&
      !o.exclusions.excludes (keyOf root (Path.join folder name) true) &&
      isListed o root (Path.join folder name) next rest

/-- Can what is in the folder at the end of a trail be reached? -/
def isPassable (access : Access) : List (String × Access) → Bool
  | [] => access.pass
  | (_, next) :: rest => isPassable next rest

/-- Is the file in a folder that is listed, and not excluded itself? -/
def Leaf.isMet (o : ScanOptions) (root folder : String) (access : Access) (l : Leaf) : Bool :=
  isListed o root folder access l.trail &&
    !o.exclusions.excludes (keyOf root (l.path folder) false)

/-- What becomes of a file that is met. -/
def Leaf.outcome (o : ScanOptions) (folder : String) (access : Access) (l : Leaf) : Outcome :=
  if isPassable access l.trail then visitFile o (l.path folder) l.access l.content
  else .unknown (l.path folder) .denied

/-- Is it what became of a file that is counted? -/
def Outcome.isCounted (x : Outcome) : Bool := x.isScanned || x.isSkipped

theorem isCounted_visitFile (o : ScanOptions) (path : String) (access : Access)
    (content : List UInt8) : (visitFile o path access content).isCounted = true := by
  unfold visitFile
  split_ifs <;> rfl

variable {o : ScanOptions} {root folder name : String} {access inner : Access}

theorem Leaf.path_under (l : Leaf) :
    (l.under name inner).path folder = l.path (Path.join folder name) := rfl

theorem Leaf.isMet_under (l : Leaf) :
    (l.under name inner).isMet o root folder access = (access.read && access.pass &&
      !o.exclusions.excludes (keyOf root (Path.join folder name) true) &&
        l.isMet o root (Path.join folder name) inner) := by
  rw [isMet, path_under, under, isListed, isMet, Bool.and_assoc]

theorem Leaf.outcome_under (l : Leaf) :
    (l.under name inner).outcome o folder access = l.outcome o (Path.join folder name) inner := rfl

theorem isListed_of_unreadable (h : access.read = false) (trail : List (String × Access)) :
    isListed o root folder access trail = false := by
  cases trail with
  | nil => exact h
  | cons next rest => simp [isListed, h]

theorem Leaf.isMet_of_unreadable (h : access.read = false) (l : Leaf) :
    l.isMet o root folder access = false := by
  rw [isMet, isListed_of_unreadable h, Bool.false_and]

mutual

theorem visit_counted (o : ScanOptions) (root folder name : String) {access : Access}
    (hread : access.read = true) : ∀ e : Entry,
    (visit o root access.pass (Path.join folder name) e).filter Outcome.isCounted =
      ((leaves name e).filter (Leaf.isMet o root folder access)).map (Leaf.outcome o folder access)
  | .link target => by
      rw [visit, leaves]
      split <;> rfl
  | .file fileAccess content => by
      have hmet : Leaf.isMet o root folder access ⟨[], name, fileAccess, content⟩ =
          !o.exclusions.excludes (keyOf root (Path.join folder name) false) :=
        (congrArg (· && _) hread).trans (Bool.true_and _)
      have houtcome : Leaf.outcome o folder access ⟨[], name, fileAccess, content⟩ =
          if access.pass then visitFile o (Path.join folder name) fileAccess content
          else .unknown (Path.join folder name) .denied := rfl
      rw [visit, leaves, List.filter_singleton, hmet]
      cases o.exclusions.excludes (keyOf root (Path.join folder name) false)
      · cases hpass : access.pass
        · simp [houtcome, hpass, Outcome.isCounted, Outcome.isSkipped]
        · simp [houtcome, hpass, isCounted_visitFile]
      · simp [Outcome.isCounted, Outcome.isScanned, Outcome.isSkipped]
  | .folder inner entries => by
      rw [visit, leaves, List.filter_map, List.map_map]
      have hmet : Leaf.isMet o root folder access ∘ Leaf.under name inner = fun l =>
          access.pass && !o.exclusions.excludes (keyOf root (Path.join folder name) true) &&
            l.isMet o root (Path.join folder name) inner := by
        funext l
        rw [Function.comp_apply, Leaf.isMet_under, hread, Bool.true_and]
      rw [hmet]
      cases hexcluded : o.exclusions.excludes (keyOf root (Path.join folder name) true)
      · cases hpass : access.pass
        · simp [Outcome.isCounted, Outcome.isScanned, Outcome.isSkipped]
        · cases hinner : inner.read
          · simp [Leaf.isMet_of_unreadable hinner, Outcome.isCounted, Outcome.isScanned,
              Outcome.isSkipped]
          · simpa [hinner, Function.comp_def, Leaf.outcome_under] using
              visitAll_counted o root (Path.join folder name) hinner entries
      · simp [Outcome.isCounted, Outcome.isScanned, Outcome.isSkipped]

/-- The files that a walk counts are those that it meets. -/
theorem visitAll_counted (o : ScanOptions) (root folder : String) {access : Access}
    (hread : access.read = true) : ∀ entries : List (String × Entry),
    (visitAll o root access.pass folder entries).filter Outcome.isCounted =
      ((leavesOf entries).filter (Leaf.isMet o root folder access)).map
        (Leaf.outcome o folder access)
  | [] => by simp [visitAll, leavesOf]
  | (name, e) :: rest => by
      rw [visitAll, leavesOf, List.filter_append, List.filter_append, List.map_append,
        visit_counted o root folder name hread e, visitAll_counted o root folder hread rest]

end

/-! ## Trees that are open to all -/

/-- Where everything can be read and passed, folders are left out by their keys alone. -/
theorem isListed_of_open {trail : List (String × Access)} (hread : access.read = true)
    (hpass : access.pass = true)
    (htrail : ∀ next ∈ trail, next.2.read = true ∧ next.2.pass = true) :
    isListed o root folder access trail =
      (foldersOn folder trail).all fun f => !o.exclusions.excludes (keyOf root f true) := by
  induction trail generalizing folder access with
  | nil => exact hread
  | cons next rest ih =>
      obtain ⟨hnext, hrest⟩ := List.forall_mem_cons.mp htrail
      rw [isListed, foldersOn, List.all_cons, hread, hpass, ih hnext.1 hnext.2 hrest]
      rfl

theorem isPassable_of_open {trail : List (String × Access)} (hpass : access.pass = true)
    (htrail : ∀ next ∈ trail, next.2.read = true ∧ next.2.pass = true) :
    isPassable access trail = true := by
  induction trail generalizing access with
  | nil => exact hpass
  | cons next rest ih =>
      obtain ⟨hnext, hrest⟩ := List.forall_mem_cons.mp htrail
      exact ih hnext.2 hrest

/-- A folder on a trail has the first names of the trail. -/
theorem exists_of_mem_foldersOn {trail : List (String × Access)} {f : String}
    (h : f ∈ foldersOn folder trail) :
    ∃ front more, trail.map (·.1) = front ++ more ∧ front ≠ [] ∧ f = Path.below folder front := by
  induction trail generalizing folder with
  | nil => simp [foldersOn] at h
  | cons next rest ih =>
      rcases List.mem_cons.mp h with rfl | hrest
      · exact ⟨[next.1], rest.map (·.1), rfl, by simp, rfl⟩
      · obtain ⟨front, more, hnames, -, rfl⟩ := ih hrest
        exact ⟨next.1 :: front, more, by simp [hnames], by simp, rfl⟩

/-- The key of a folder on the way stands at the front of the key of the file. -/
theorem Leaf.keyOf_isPrefix {l : Leaf} (hnames : ∀ name ∈ l.names, Path.IsName name) {f : String}
    (hf : f ∈ foldersOn root l.trail) :
    (keyOf root f true).toList <+: (keyOf root (l.path root) false).toList := by
  obtain ⟨front, more, htrail, hfront, rfl⟩ := exists_of_mem_foldersOn hf
  have hsplit : l.names = front ++ (more ++ [l.name]) := by
    rw [names, htrail, List.append_assoc]
  rw [path, hsplit]
  exact keyOf_folder_isPrefix root hfront (by simp) (hsplit ▸ hnames)

/-- Of the folders on the way to a file only those that end with an excluded extension matter. -/
theorem Leaf.isMet_of_open {l : Leaf} (hread : access.read = true) (hpass : access.pass = true)
    (htrail : ∀ next ∈ l.trail, next.2.read = true ∧ next.2.pass = true)
    (hnames : ∀ name ∈ l.names, Path.IsName name) :
    l.isMet o root root access = (!o.exclusions.excludes (keyOf root (l.path root) false) &&
      (foldersOn root l.trail).all fun f => !o.exclusions.endsExcluded (keyOf root f true)) := by
  rw [isMet, isListed_of_open hread hpass htrail, Bool.and_comm, Bool.eq_iff_iff]
  simp only [Bool.and_eq_true, Bool.not_eq_true', List.all_eq_true, and_congr_right_iff]
  intro hfile
  rw [excludes_eq, Bool.or_eq_false_iff] at hfile
  refine forall₂_congr fun f hf => ?_
  have hpath : o.exclusions.containsPath (keyOf root f true) = false := by
    rw [← Bool.not_eq_true]
    intro h
    have hcontains := containsPath_of_isInfix (keyOf_isPrefix hnames hf).isInfix h
    rw [hfile.1] at hcontains
    exact Bool.false_ne_true hcontains
  rw [excludes_eq, hpath, Bool.false_or]

/-- In a tree that is open to all a walk looks at just those files of which neither the own key is
excluded nor that of a folder on the way ends with an excluded extension. Other keys of folders need
not be asked for: a path that excludes a folder also excludes what is below it. -/
theorem walk_looks_at_all_but_excluded (o : ScanOptions) (root : String) (access : Access)
    (entries : List (String × Entry)) (hread : access.read = true) (hpass : access.pass = true)
    (htrail : ∀ l ∈ leavesOf entries, ∀ next ∈ l.trail, next.2.read = true ∧ next.2.pass = true)
    (hnames : ∀ l ∈ leavesOf entries, ∀ name ∈ l.names, Path.IsName name) :
    (∃ outcomes, walk o root (.ok (.folder access entries)) = .ok outcomes ∧
      outcomes.filter Outcome.isCounted = ((leavesOf entries).filter fun l =>
        !o.exclusions.excludes (keyOf root (l.path root) false) &&
          (foldersOn root l.trail).all fun f => !o.exclusions.endsExcluded (keyOf root f true)).map
        fun l => visitFile o (l.path root) l.access l.content) ∧
    ∀ l ∈ leavesOf entries, ∀ f ∈ foldersOn root l.trail, ∀ p ∈ o.exclusions.paths,
      Text.occurs p (keyOf root f true) = true →
        Text.occurs p (keyOf root (l.path root) false) = true := by
  refine ⟨⟨visitAll o root access.pass root entries, ?_, ?_⟩, ?_⟩
  · exact if_pos hread
  · rw [visitAll_counted o root root hread entries]
    have hmet : (leavesOf entries).filter (Leaf.isMet o root root access) =
        (leavesOf entries).filter fun l =>
          !o.exclusions.excludes (keyOf root (l.path root) false) &&
            (foldersOn root l.trail).all fun f =>
              !o.exclusions.endsExcluded (keyOf root f true) :=
      List.filter_congr fun l hl => Leaf.isMet_of_open hread hpass (htrail l hl) (hnames l hl)
    rw [hmet]
    refine List.map_congr_left fun l hl => ?_
    rw [Leaf.outcome, isPassable_of_open hpass (htrail l (List.mem_of_mem_filter hl)), if_pos rfl]
  · intro l hl f hf p _ hoccurs
    rw [Text.occurs, Text.occursIn_iff] at hoccurs ⊢
    exact hoccurs.trans (Leaf.keyOf_isPrefix (hnames l hl) hf).isInfix

/-- A folder of the excluded name is not entered, and the key of a file ends with an extension. -/
theorem walk_passes_by_vendor :
    let o : ScanOptions := { exclusions := ⟨["/vendor/"], [".lock"]⟩ }
    let entries : List (String × Entry) :=
      [("vendor", .folder {} [("a.env", .file {} [])]), ("b.lock", .file {} []),
        ("src", .folder {} [("c.env", .file {} [])])]
    ∃ outcomes, walk o "." (.ok (.folder {} entries)) = .ok outcomes ∧
      outcomes.filter Outcome.isCounted = [.scanned "./src/c.env" []] := by
  intro o entries
  have hleaves : leavesOf entries = [⟨[("vendor", {})], "a.env", {}, []⟩, ⟨[], "b.lock", {}, []⟩,
      ⟨[("src", {})], "c.env", {}, []⟩] := rfl
  have hname (name : String) (h : name ∈ ["vendor", "a.env", "b.lock", "src", "c.env"]) :
      Path.IsName name := by
    have hall : ∀ name ∈ ["vendor", "a.env", "b.lock", "src", "c.env"],
        name ≠ "" ∧ '/' ∉ name.toList ∧ name ≠ "." := by decide
    obtain ⟨hempty, hslash, hdot⟩ := hall name h
    exact ⟨⟨hempty, hslash⟩, hdot⟩
  obtain ⟨⟨outcomes, hwalk, hcounted⟩, -⟩ := walk_looks_at_all_but_excluded o "." {} entries rfl rfl
    (by simp [hleaves]) (by simp [hleaves, Leaf.names, hname])
  refine ⟨outcomes, hwalk, hcounted.trans ?_⟩
  decide +kernel

end SecretScan.Files
