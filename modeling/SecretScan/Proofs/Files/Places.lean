import SecretScan.Files.Tree
import SecretScan.Proofs.Path.Parent

/-!
# Files and the folders that they are in

What a path leads to depends on the folder that one works in. A file that is found by a path with
a slash is also found by its mere name, from the folder that the path of its parent leads to. A
bare name is looked for where one works, in the folder that a single dot stands for; the path of
its parent leads nowhere.
-/

namespace SecretScan

namespace Entry

variable {top trail around around' : Trail} {here e : Entry} {part : Path.Part}
  {parts rest : List Path.Part} {steps steps' links links' : Nat}

/-! ## One part of a path -/

theorem isFolder_of_inside {es : List (String × Entry)} (h : here.inside = .ok es) :
    here.isFolder = true := by
  cases here with
  | folder access entries => rfl
  | _ => simp [inside] at h

/-- Where one part of a path can lead to. -/
theorem move_cases (h : move top links here around part = .ok (links', trail, parts)) :
    (part = .root ∧ links' = links ∧ trail = top ∧ parts = []) ∨
      ∃ es, here.inside = .ok es ∧
        ((part = .here ∧ links' = links ∧ trail = here :: around ∧ parts = []) ∨
          (part = .up ∧ links' = links ∧ trail = (if around.isEmpty then [here] else around) ∧
            parts = []) ∨
          ∃ s, part = .name s ∧
            ((∃ target, es.lookup s = some (.link target) ∧ links = links' + 1 ∧
                trail = here :: around ∧ parts = Path.parts target) ∨
              ∃ e, es.lookup s = some e ∧ (∀ target, e ≠ .link target) ∧ links' = links ∧
                trail = e :: here :: around ∧ parts = [])) := by
  cases hinside : here.inside with
  | error err => cases part <;> simp_all [move, Except.map]
  | ok es =>
      cases part with
      | root => simp_all [move]
      | here => simp_all [move, Except.map]
      | up => simp_all [move, Except.map]
      | name s =>
          refine .inr ⟨es, rfl, .inr (.inr ⟨s, rfl, ?_⟩)⟩
          cases hlookup : es.lookup s with
          | none => simp [move, hinside, hlookup] at h
          | some e =>
              cases e with
              | link target =>
                  cases links with
                  | zero => simp [move, hinside, hlookup] at h
                  | succ links => simp_all [move]
              | _ => simp_all [move]

/-- A name is looked for in a folder that may be passed. -/
theorem exists_inside_of_move_name {s : String}
    (h : move top links here around (.name s) = .ok (links', trail, parts)) :
    ∃ es, here.inside = .ok es := by
  obtain ⟨⟨⟩, -⟩ | ⟨es, hinside, -⟩ := move_cases h
  exact ⟨es, hinside⟩

/-- Nothing else depends on how many links may still be followed. -/
theorem move_mono (h : move top links here around part = .ok (links', trail, parts)) {more : Nat}
    (hle : links ≤ more) :
    links' ≤ links ∧ ∃ more', links' ≤ more' ∧
      move top more here around part = .ok (more', trail, parts) := by
  rcases move_cases h with ⟨rfl, rfl, rfl, rfl⟩ | ⟨es, hinside, hpart⟩
  · exact ⟨Nat.le_refl _, more, hle, rfl⟩
  · rcases hpart with ⟨rfl, rfl, rfl, rfl⟩ | ⟨rfl, rfl, rfl, rfl⟩ | ⟨s, rfl, hname⟩
    · exact ⟨Nat.le_refl _, more, hle, by simp [move, hinside, Except.map]⟩
    · exact ⟨Nat.le_refl _, more, hle, by simp [move, hinside, Except.map]⟩
    · rcases hname with ⟨target, hlookup, rfl, rfl, rfl⟩ | ⟨e, hlookup, hlink, rfl, rfl, rfl⟩
      · obtain ⟨more', rfl⟩ :=
          Nat.exists_eq_add_of_le' (Nat.le_trans (Nat.le_add_left 1 links') hle)
        exact ⟨Nat.le_add_right _ _, more', by omega, by simp [move, hinside, hlookup]⟩
      · refine ⟨Nat.le_refl _, more, hle, ?_⟩
        cases e with
        | link target => exact absurd rfl (hlink target)
        | _ => simp [move, hinside, hlookup]

/-- Around a place there are only folders. -/
theorem move_folders (htop : ∀ e ∈ top, e.isFolder = true)
    (haround : ∀ e ∈ around, e.isFolder = true)
    (h : move top links here around part = .ok (links', trail, parts)) :
    ∀ e ∈ trail.tail, e.isFolder = true := by
  rcases move_cases h with ⟨rfl, rfl, rfl, rfl⟩ | ⟨es, hinside, hpart⟩
  · exact fun e he => htop e (List.mem_of_mem_tail he)
  · rcases hpart with ⟨rfl, rfl, rfl, rfl⟩ | ⟨rfl, rfl, rfl, rfl⟩ | ⟨s, rfl, hname⟩
    · exact haround
    · split
      · simp
      · exact fun e he => haround e (List.mem_of_mem_tail he)
    · rcases hname with ⟨target, -, rfl, rfl, rfl⟩ | ⟨e, -, -, rfl, rfl, rfl⟩
      · exact haround
      · exact List.forall_mem_cons.mpr ⟨isFolder_of_inside hinside, haround⟩

/-! ## The parts of a path -/

theorem find_nil (h : find top steps links trail [] = .ok (around, e)) : trail = e :: around := by
  cases trail with
  | nil => simp [find] at h
  | cons here trail =>
      cases steps with
      | zero => simp [find] at h
      | succ steps =>
          simp only [find, Except.ok.injEq, Prod.mk.injEq] at h
          rw [h.1, h.2]

/-- The first part leads somewhere, and the rest leads on from there. -/
theorem find_cons_eq_ok_iff {found : Trail × Entry} :
    find top steps links trail (part :: rest) = .ok found ↔
      ∃ steps' here around links' trail' parts, steps = steps' + 1 ∧ trail = here :: around ∧
        move top links here around part = .ok (links', trail', parts) ∧
        find top steps' links' trail' (parts ++ rest) = .ok found := by
  constructor
  · intro h
    cases trail with
    | nil => simp [find] at h
    | cons here around =>
        cases steps with
        | zero => simp [find] at h
        | succ steps =>
            cases hmove : move top links here around part with
            | error err => simp [find, hmove] at h
            | ok reached =>
                obtain ⟨links', trail', parts⟩ := reached
                rw [find, hmove] at h
                exact ⟨steps, here, around, links', trail', parts, rfl, rfl, hmove, h⟩
  · rintro ⟨steps', here, around, links', trail', parts, rfl, rfl, hmove, h⟩
    rw [find, hmove]
    exact h

/-- What is found is also found with more steps and links to go. -/
theorem find_mono {found : Trail × Entry} (h : find top steps links trail parts = .ok found)
    (hsteps : steps ≤ steps') (hlinks : links ≤ links') :
    find top steps' links' trail parts = .ok found := by
  induction steps generalizing links links' trail parts steps' with
  | zero =>
      cases trail <;> simp [find] at h
  | succ steps ih =>
      obtain ⟨steps', rfl⟩ :=
          Nat.exists_eq_add_of_le' (Nat.le_trans (Nat.le_add_left 1 steps) hsteps)
      cases parts with
      | nil =>
          obtain rfl := find_nil h
          rfl
      | cons part rest =>
          obtain ⟨_, here, around, links₁, trail₁, parts, ⟨⟩, rfl, hmove, hrest⟩ :=
            find_cons_eq_ok_iff.mp h
          obtain ⟨-, more, hmore, hmove'⟩ := move_mono hmove hlinks
          exact find_cons_eq_ok_iff.mpr ⟨_, _, _, _, _, _, rfl, rfl, hmove',
            ih hrest (by omega) hmore⟩

/-- On the way to what is found stands what the first parts lead to. -/
theorem exists_find_of_append {found : Trail × Entry}
    (h : find top steps links trail (parts ++ part :: rest) = .ok found) :
    ∃ around here steps' links', steps' ≤ steps ∧ links' ≤ links ∧
      find top steps links trail parts = .ok (around, here) ∧
      find top steps' links' (here :: around) (part :: rest) = .ok found := by
  induction steps generalizing links trail parts with
  | zero => cases trail <;> simp [find] at h
  | succ steps ih =>
      cases parts with
      | nil =>
          obtain ⟨_, here, around, -, -, -, -, rfl, -⟩ := find_cons_eq_ok_iff.mp h
          exact ⟨around, here, steps + 1, links, Nat.le_refl _, Nat.le_refl _, rfl, h⟩
      | cons first parts =>
          rw [List.cons_append] at h
          obtain ⟨_, here, around, links₁, trail₁, more, ⟨⟩, rfl, hmove, hrest⟩ :=
            find_cons_eq_ok_iff.mp h
          rw [← List.append_assoc] at hrest
          obtain ⟨around', here', steps', links', hsteps, hlinks, hfirst, hlast⟩ := ih hrest
          have hless := (move_mono hmove (Nat.le_refl links)).1
          exact ⟨around', here', steps', links', by omega, by omega,
            find_cons_eq_ok_iff.mpr ⟨_, _, _, _, _, _, rfl, rfl, hmove, hfirst⟩, hlast⟩

theorem find_folders (htop : ∀ e ∈ top, e.isFolder = true)
    (htrail : ∀ e ∈ trail.tail, e.isFolder = true)
    (h : find top steps links trail parts = .ok (around, e)) : ∀ f ∈ around, f.isFolder = true := by
  induction steps generalizing links trail parts with
  | zero => cases trail <;> simp [find] at h
  | succ steps ih =>
      cases parts with
      | nil =>
          obtain rfl := find_nil h
          exact htrail
      | cons part rest =>
          obtain ⟨_, here, outer, _, _, _, ⟨⟩, rfl, hmove, hrest⟩ := find_cons_eq_ok_iff.mp h
          exact ih (move_folders htop htrail hmove) hrest

/-- A path that ends in two dots leads to a folder. -/
theorem isFolder_of_find_up (htop : ∀ e ∈ top, e.isFolder = true)
    (htrail : ∀ e ∈ trail.tail, e.isFolder = true)
    (h : find top steps links trail (parts ++ [.up]) = .ok (around, e)) : e.isFolder = true := by
  obtain ⟨outer, here, steps', links', -, -, hfirst, hlast⟩ := exists_find_of_append h
  have houter := find_folders htop htrail hfirst
  obtain ⟨_, _, _, _, trail', _, -, ⟨⟩, hmove, hrest⟩ := find_cons_eq_ok_iff.mp hlast
  obtain ⟨⟨⟩, -⟩ | ⟨es, hinside, ⟨⟨⟩, -⟩ | ⟨-, -, rfl, rfl⟩ | ⟨s, ⟨⟩, -⟩⟩ := move_cases hmove
  have hfound := find_nil hrest
  split at hfound
  · obtain ⟨rfl, -⟩ := List.cons.inj hfound
    exact isFolder_of_inside hinside
  · exact houter e (hfound ▸ List.mem_cons_self)

theorem resolve_eq_ok_iff {path : String} : resolve top trail path = .ok (around, e) ↔
    path ≠ "" ∧ find top maxSteps maxLinks trail (Path.parts path) = .ok (around, e) ∧
      (demandsFolder path = true → e.isFolder = true) := by
  unfold resolve
  by_cases hpath : path = ""
  · simp [hpath]
  · rw [if_neg hpath]
    cases hfind : find top maxSteps maxLinks trail (Path.parts path) with
    | error err => simp
    | ok found =>
        obtain ⟨around', e'⟩ := found
        dsimp only
        by_cases hdemand : (demandsFolder path && !e'.isFolder) = true
        · rw [if_pos hdemand]
          constructor
          · rintro ⟨⟩
          · rintro ⟨-, ⟨⟩, hfolder⟩
            simp_all
        · rw [if_neg hdemand]
          constructor
          · rintro ⟨⟩
            exact ⟨hpath, rfl, by simpa using hdemand⟩
          · exact fun h => h.2.1

theorem demandsFolder_of_isFinal {path : String} {front : List (List Char)} {raw : List Char}
    (hraws : Path.rawParts path = front ++ [raw]) (hfinal : Path.IsFinal raw) :
    demandsFolder path = false := by
  unfold demandsFolder
  rw [hraws, List.getLast?_concat]
  split
  · rename_i hnil
    exact absurd (Option.some.inj hnil) hfinal.ne_nil
  · rename_i hdot
    exact absurd (Option.some.inj hdot) hfinal.ne_here
  · rfl

end Entry

/-- A file system as it is seen by a program that works in one of its folders. -/
structure FileSystem where
  /-- Where absolute paths begin, if they lead anywhere. -/
  top : Entry.Trail
  /-- The folder that the program works in, and those around it, innermost first. -/
  trail : Entry.Trail
  folders : ∀ e ∈ top ++ trail, e.isFolder = true

namespace FileSystem

/-- What a path leads to. -/
def lookup (fs : FileSystem) (path : String) : Except SystemError Entry :=
  (Entry.resolve fs.top fs.trail path).map (·.2)

/-- Does a path lead to a folder from which the file system is seen like this? -/
def Leads (fs : FileSystem) (path : String) (there : FileSystem) : Prop :=
  there.top = fs.top ∧ ∃ here around, Entry.resolve fs.top fs.trail path = .ok (around, here) ∧
    there.trail = here :: around

variable {fs there : FileSystem} {path : String} {access : Access} {content : List UInt8}

theorem lookup_eq_ok_iff {e : Entry} : fs.lookup path = .ok e ↔
    ∃ around, Entry.resolve fs.top fs.trail path = .ok (around, e) := by
  unfold lookup
  cases hresolve : Entry.resolve fs.top fs.trail path with
  | error err => simp [Except.map]
  | ok found =>
      obtain ⟨around, e'⟩ := found
      simp [Except.map]

theorem top_folders (fs : FileSystem) : ∀ e ∈ fs.top, e.isFolder = true :=
  fun e he => fs.folders e (List.mem_append_left _ he)

theorem around_folders (fs : FileSystem) : ∀ e ∈ fs.trail.tail, e.isFolder = true :=
  fun e he => fs.folders e (List.mem_append_right _ (List.mem_of_mem_tail he))

theorem lookup_empty (fs : FileSystem) : fs.lookup "" = .error .notFound := rfl

theorem Leads.lookup (h : fs.Leads path there) :
    ∃ e, fs.lookup path = .ok e ∧ e.isFolder = true := by
  obtain ⟨-, here, around, hresolve, htrail⟩ := h
  refine ⟨here, lookup_eq_ok_iff.mpr ⟨around, hresolve⟩, there.folders here ?_⟩
  simp [htrail]

/-- A path that leads to a file ends in a name. -/
theorem isFinal_of_file {front : List (List Char)} {raw : List Char}
    (h : fs.lookup path = .ok (.file access content))
    (hraws : Path.rawParts path = front ++ [raw]) : Path.IsFinal raw := by
  obtain ⟨around, hresolve⟩ := lookup_eq_ok_iff.mp h
  obtain ⟨-, hfind, hdemand⟩ := Entry.resolve_eq_ok_iff.mp hresolve
  have hfile : Entry.demandsFolder path = false := by
    rw [← Bool.not_eq_true]
    intro htrue
    exact Bool.false_ne_true (hdemand htrue)
  refine ⟨?_, ?_, ?_⟩
  · rintro rfl
    simp [Entry.demandsFolder, hraws] at hfile
  · rintro rfl
    simp [Entry.demandsFolder, hraws] at hfile
  · rintro rfl
    obtain ⟨before, hparts⟩ := Path.exists_parts_append hraws fun _ => rfl
    rw [hparts] at hfind
    exact Bool.false_ne_true (Entry.isFolder_of_find_up fs.top_folders fs.around_folders hfind)

/-- A file is in the folder that the path of its parent leads to, if there is a slash in its path.
-/
theorem exists_folder_of_slash (h : fs.lookup path = .ok (.file access content))
    (hslash : '/' ∈ path.toList) : ∃ folder name there, Path.parent? path = some folder ∧
      Path.fileName? path = some name ∧ fs.Leads folder there ∧
      there.lookup name = .ok (.file access content) := by
  obtain ⟨front, raw, hfront, hraws⟩ := Path.exists_rawParts_of_mem hslash
  have hfinal : Path.IsFinal raw := isFinal_of_file h hraws
  obtain ⟨folder, hparent, hempty, hparts⟩ := Path.exists_parent_of_slash hraws hfinal hfront
  obtain ⟨around, hresolve⟩ := lookup_eq_ok_iff.mp h
  obtain ⟨-, hfind, -⟩ := Entry.resolve_eq_ok_iff.mp hresolve
  rw [hparts] at hfind
  obtain ⟨outer, here, steps, links, hsteps, hlinks, hfolder, hlast⟩ :=
    Entry.exists_find_of_append hfind
  have hhere : here.isFolder = true := by
    obtain ⟨_, _, _, _, _, _, -, ⟨⟩, hmove, -⟩ := Entry.find_cons_eq_ok_iff.mp hlast
    obtain ⟨es, hinside⟩ := Entry.exists_inside_of_move_name hmove
    exact Entry.isFolder_of_inside hinside
  have houter := Entry.find_folders fs.top_folders fs.around_folders hfolder
  have hfolders : ∀ e ∈ fs.top ++ here :: outer, e.isFolder = true := by
    intro e he
    rcases List.mem_append.mp he with htop | htrail
    · exact fs.top_folders e htop
    · rcases List.mem_cons.mp htrail with rfl | hmem
      · exact hhere
      · exact houter e hmem
  let there : FileSystem := ⟨fs.top, here :: outer, hfolders⟩
  have hleads : fs.Leads folder there :=
    ⟨rfl, here, outer, Entry.resolve_eq_ok_iff.mpr ⟨hempty, hfolder, fun _ => hhere⟩, rfl⟩
  refine ⟨folder, String.ofList raw, there, hparent, Path.fileName?_of_parts hparts, hleads, ?_⟩
  have hname : (String.ofList raw).toList = raw := String.toList_ofList
  have hbare : '/' ∉ (String.ofList raw).toList := by
    rw [hname]
    exact Path.slash_notMem_of_mem_rawParts (hraws ▸ List.mem_append_right front List.mem_cons_self)
  have hnameRaws : Path.rawParts (String.ofList raw) = [] ++ [raw] := by
    rw [Path.rawParts_of_notMem hbare, hname]
    rfl
  refine lookup_eq_ok_iff.mpr ⟨around, Entry.resolve_eq_ok_iff.mpr ⟨?_, ?_, ?_⟩⟩
  · intro hnil
    rw [hnil] at hname
    exact hfinal.ne_nil hname.symm
  · rw [(Path.parent?_of_bare hbare (hname.symm ▸ hfinal)).2]
    exact Entry.find_mono hlast hsteps hlinks
  · rw [Entry.demandsFolder_of_isFinal hnameRaws hfinal]
    exact fun hfalse => absurd hfalse Bool.false_ne_true

/-- A bare name is looked for where the program works. A single dot stands for this folder. -/
theorem folder_of_bare (h : fs.lookup path = .ok (.file access content))
    (hslash : '/' ∉ path.toList) :
    Path.parent? path = some "" ∧ fs.Leads "." fs := by
  have hraws : Path.rawParts path = [] ++ [path.toList] := Path.rawParts_of_notMem hslash
  obtain ⟨hparent, hparts⟩ := Path.parent?_of_bare hslash (isFinal_of_file h hraws)
  obtain ⟨around, hresolve⟩ := lookup_eq_ok_iff.mp h
  obtain ⟨-, hfind, -⟩ := Entry.resolve_eq_ok_iff.mp hresolve
  rw [hparts] at hfind
  obtain ⟨_, here, outer, _, _, _, -, htrail, hmove, -⟩ := Entry.find_cons_eq_ok_iff.mp hfind
  obtain ⟨es, hinside⟩ := Entry.exists_inside_of_move_name hmove
  have hdot : Path.parts "." = [.here] := by decide
  refine ⟨hparent, rfl, here, outer, Entry.resolve_eq_ok_iff.mpr ⟨by decide, ?_, ?_⟩, htrail⟩
  · rw [hdot, htrail]
    exact Entry.find_cons_eq_ok_iff.mpr ⟨_, _, _, _, _, _, rfl, rfl,
      by simp only [Entry.move, hinside]; rfl, rfl⟩
  · exact fun _ => Entry.isFolder_of_inside hinside

end FileSystem

end SecretScan
