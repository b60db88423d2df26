import SecretScan.Proofs.Path
import SecretScan.Proofs.Text.Lines

/-!
# The folder around a name

A path that ends in a name has a folder in front of it. Where there is a slash the path of this
folder has the parts that stand before the name. A bare name is different: the path of its folder
is the empty text, and not a single dot.
-/

namespace SecretScan.Path

variable {path : String} {raws front : List (List Char)} {raw : List Char}

/-! ## Texts between slashes -/

theorem slash_notMem_of_mem_rawParts (h : raw ∈ rawParts path) : '/' ∉ raw := by
  rw [rawParts_eq] at h
  generalize path.toList = text at h
  induction text using Text.line_induction '/' with
  | single line hline =>
      rw [List.splitOn_eq_singleton hline, List.mem_singleton] at h
      rwa [h]
  | cut line rest hline ih =>
      rw [List.splitOn_append_cons_self_of_not_mem hline] at h
      rcases List.mem_cons.mp h with rfl | hrest
      · exact hline
      · exact ih hrest

/-- The path with these texts between its slashes. -/
def ofRaws (raws : List (List Char)) : String := String.ofList (['/'].intercalate raws)

theorem rawParts_ofRaws (hraws : raws ≠ []) (hslash : ∀ raw ∈ raws, '/' ∉ raw) :
    rawParts (ofRaws raws) = raws := by
  rw [rawParts_eq, ofRaws, String.toList_ofList]
  exact List.splitOn_intercalate '/' hslash hraws

theorem rawParts_of_notMem (h : '/' ∉ path.toList) : rawParts path = [path.toList] := by
  rw [rawParts_eq, List.splitOn_eq_singleton h]

/-- Where there is a slash, something stands before the last one. -/
theorem exists_rawParts_of_mem (h : '/' ∈ path.toList) :
    ∃ front raw, front ≠ [] ∧ rawParts path = front ++ [raw] := by
  obtain ⟨after, before, hpath, hafter⟩ := List.eq_append_cons_of_mem (List.mem_reverse.mpr h)
  have htext : path.toList = before.reverse ++ '/' :: after.reverse := by
    rw [← List.reverse_inj, hpath]
    simp
  have hlast : after.reverse.splitOn '/' = [after.reverse] :=
    List.splitOn_eq_singleton (by simpa using hafter)
  refine ⟨before.reverse.splitOn '/', after.reverse, List.splitOn_ne_nil _ _, ?_⟩
  rw [rawParts_eq, htext, List.splitOn_append_cons_self, hlast]

/-- A path is absolute if nothing stands before its first slash. -/
theorem isAbsolute_iff :
    isAbsolute path = true ↔ ∃ rest, rest ≠ [] ∧ rawParts path = [] :: rest := by
  rw [isAbsolute, beq_iff_eq, rawParts_eq]
  cases htext : path.toList with
  | nil => simp
  | cons c text =>
      rw [List.splitOn_cons_eq_if_modifyHead]
      obtain ⟨first, rest, hraws⟩ := List.exists_cons_of_ne_nil (List.splitOn_ne_nil '/' text)
      by_cases hc : c = '/'
      · simp [hc]
      · simp [hc, hraws]

/-- The texts between slashes, each with the part it stands for; the first one stands at the
beginning. -/
def marksFrom : List (List Char) → List (Option Part × List Char)
  | [] => []
  | first :: rest => (part? true first, first) :: marksOf rest

theorem marked_eq_marksFrom (path : String) : marked path = marksFrom (rawParts path) := by
  unfold marked
  cases rawParts path <;> rfl

theorem marksFrom_append (hfront : front ≠ []) (back : List (List Char)) :
    marksFrom (front ++ back) = marksFrom front ++ marksOf back := by
  obtain ⟨first, rest, rfl⟩ := List.exists_cons_of_ne_nil hfront
  simp [marksFrom, marksOf]

@[simp] theorem map_marksFrom (raws : List (List Char)) : (marksFrom raws).map (·.2) = raws := by
  cases raws with
  | nil => rfl
  | cons first rest => simp [marksFrom, marksOf, Function.comp_def]

@[simp] theorem length_marksFrom (raws : List (List Char)) :
    (marksFrom raws).length = raws.length := by
  cases raws <;> simp [marksFrom, marksOf]

/-- The first marks are those of the first texts. -/
theorem eq_marksFrom_of_isPrefix {marks : List (Option Part × List Char)}
    (h : marks <+: marksFrom raws) : marks = marksFrom (marks.map (·.2)) := by
  obtain ⟨gone, hgone⟩ := h
  have hraws : raws = marks.map (·.2) ++ gone.map (·.2) := by
    rw [← List.map_append, hgone, map_marksFrom]
  by_cases hnil : marks = []
  · rw [hnil]
    rfl
  · rw [hraws, marksFrom_append (by simpa using hnil)] at hgone
    exact (List.append_inj hgone (by simp)).1

theorem parts_eq (path : String) :
    parts path = (if isAbsolute path then [.root] else []) ++
      (marksFrom (rawParts path)).filterMap (·.1) := by
  rw [parts, map_relativeParts, marked_eq_marksFrom]

/-- The last text between slashes stands for the last part, if it always stands for one. -/
theorem exists_parts_append {p : Part} (hraws : rawParts path = front ++ [raw])
    (hpart : ∀ first, part? first raw = some p) : ∃ before, parts path = before ++ [p] := by
  rw [parts_eq, hraws]
  by_cases hfront : front = []
  · subst hfront
    exact ⟨if isAbsolute path then [.root] else [], by simp [marksFrom, marksOf, hpart]⟩
  · rw [marksFrom_append hfront, marksOf, List.map_singleton, hpart, List.filterMap_append,
      ← List.append_assoc]
    exact ⟨_, rfl⟩

/-! ## Names -/

/-- What stands between slashes and is neither empty nor one of the two dotted parts is a name. -/
theorem part?_eq_name (first : Bool) (hnil : raw ≠ []) (hdot : raw ≠ ['.'])
    (hdots : raw ≠ ['.', '.']) : part? first raw = some (.name (String.ofList raw)) := by
  unfold part?
  split
  · exact absurd rfl hnil
  · exact absurd rfl hdot
  · exact absurd rfl hdots
  · rfl

/-- At the beginning of a path only the empty text stands for no part. -/
theorem part?_true_eq_none_iff : part? true raw = none ↔ raw = [] := by
  unfold part?
  split <;> simp_all

/-- A text that ends a path and is a name. -/
structure IsFinal (raw : List Char) : Prop where
  ne_nil : raw ≠ []
  ne_here : raw ≠ ['.']
  ne_up : raw ≠ ['.', '.']

theorem IsFinal.part?_eq (h : IsFinal raw) (first : Bool) :
    part? first raw = some (.name (String.ofList raw)) :=
  part?_eq_name first h.ne_nil h.ne_here h.ne_up

/-! ## The folder -/

/-- Without the texts at the end that stand for no part. -/
def trimEnd (marks : List (Option Part × List Char)) : List (Option Part × List Char) :=
  marks.rdropWhile (·.1.isNone)

theorem filterMap_trimEnd (marks : List (Option Part × List Char)) :
    (trimEnd marks).filterMap (·.1) = marks.filterMap (·.1) := by
  induction marks using List.reverseRecOn with
  | nil => rfl
  | append_singleton marks mark ih =>
      unfold trimEnd at ih ⊢
      rw [List.rdropWhile_concat]
      split
      · rename_i hnone
        rw [ih, List.filterMap_append]
        simp [Option.isNone_iff_eq_none.mp hnone]
      · rfl

/-- What is left is that of some of the first texts. If there is only one, it is not empty. -/
theorem exists_trimEnd_eq {first : List Char} {rest : List (List Char)}
    (hne : trimEnd (marksFrom (first :: rest)) ≠ []) :
    ∃ more, trimEnd (marksFrom (first :: rest)) = marksFrom (first :: more) ∧
      more <+: rest ∧ (first = [] → more ≠ []) := by
  have hprefix : trimEnd (marksFrom (first :: rest)) <+: marksFrom (first :: rest) :=
    List.rdropWhile_prefix _ _
  have hmarks := eq_marksFrom_of_isPrefix hprefix
  have htexts := hprefix.map (·.2)
  rw [map_marksFrom] at htexts
  obtain ⟨first', more, hkept⟩ := List.exists_cons_of_ne_nil
    (show (trimEnd (marksFrom (first :: rest))).map (·.2) ≠ [] by simpa using hne)
  rw [hkept, List.cons_prefix_cons] at htexts
  obtain ⟨rfl, hmore⟩ := htexts
  rw [hkept] at hmarks
  refine ⟨more, hmarks, hmore, ?_⟩
  rintro rfl rfl
  have hsole : trimEnd (marksFrom ([] :: rest)) = [(none, [])] := hmarks
  have hlast : ¬ ((trimEnd (marksFrom ([] :: rest))).getLast hne).1.isNone = true :=
    List.rdropWhile_last_not _ _ hne
  simp [hsole] at hlast

/-- The folder of a path that ends in a name is what stands before the name. -/
theorem parent?_eq (hraws : rawParts path = front ++ [raw]) (hfinal : IsFinal raw)
    (hfront : front ≠ []) :
    parent? path = some (if isAbsolute path && (trimEnd (marksFrom front)).isEmpty then "/"
      else ofRaws ((trimEnd (marksFrom front)).map (·.2))) := by
  have hmarked : marked path = marksFrom front ++ [(some (.name (String.ofList raw)), raw)] := by
    rw [marked_eq_marksFrom, hraws, marksFrom_append hfront, marksOf, List.map_singleton,
      hfinal.part?_eq]
  have hdrop :
      ((marked path).reverse.dropWhile (·.1.isNone)).drop 1 = (marksFrom front).reverse := by
    rw [hmarked, List.reverse_append]
    rfl
  have hlast : (relativeParts path).getLast? ≠ none := by
    intro hnone
    have hparts := map_relativeParts path
    rw [List.getLast?_eq_none_iff.mp hnone, hmarked] at hparts
    simp at hparts
  unfold parent?
  split
  · rename_i hnone
    exact absurd hnone hlast
  · dsimp only
    rw [hdrop]
    rfl

theorem isAbsolute_of_rawParts {first : List Char} {rest : List (List Char)}
    (hraws : rawParts path = first :: rest) :
    isAbsolute path = true ↔ first = [] ∧ rest ≠ [] := by
  rw [isAbsolute_iff, hraws]
  constructor
  · rintro ⟨rest', hne, h⟩
    obtain ⟨rfl, rfl⟩ := List.cons.inj h
    exact ⟨rfl, hne⟩
  · rintro ⟨rfl, hne⟩
    exact ⟨rest, hne, rfl⟩

/-- Where there is a slash, the parts of a path are those of its folder, with the name behind
them. -/
theorem exists_parent_of_slash (hraws : rawParts path = front ++ [raw]) (hfinal : IsFinal raw)
    (hfront : front ≠ []) : ∃ folder, parent? path = some folder ∧ folder ≠ "" ∧
      parts path = parts folder ++ [.name (String.ofList raw)] := by
  obtain ⟨first, rest, rfl⟩ := List.exists_cons_of_ne_nil hfront
  refine ⟨_, parent?_eq hraws hfinal hfront, ?_⟩
  have hparts : parts path = (if isAbsolute path then [.root] else []) ++
      ((trimEnd (marksFrom (first :: rest))).filterMap (·.1) ++ [.name (String.ofList raw)]) := by
    rw [parts_eq, hraws, marksFrom_append hfront, List.filterMap_append, filterMap_trimEnd, marksOf,
      List.map_singleton, hfinal.part?_eq]
    rfl
  have habsolute : isAbsolute path = true ↔ first = [] := by
    rw [isAbsolute_of_rawParts hraws]
    simp
  rw [hparts]
  by_cases hne : trimEnd (marksFrom (first :: rest)) = []
  · -- Nothing but the slash that makes the path absolute stands before the name.
    have hfirst : first = [] := by
      have hall := List.rdropWhile_eq_nil_iff.mp hne
      have hnone := hall (part? true first, first) List.mem_cons_self
      exact part?_true_eq_none_iff.mp (Option.isNone_iff_eq_none.mp hnone)
    have hroot : parts "/" = [.root] := by decide
    rw [habsolute.mpr hfirst, hne]
    refine ⟨by decide, ?_⟩
    show [Part.root] ++ ([] ++ _) = parts "/" ++ _
    rw [hroot, List.nil_append]
  · obtain ⟨more, hmarks, hmore, hsole⟩ := exists_trimEnd_eq hne
    have hslashes : ∀ text ∈ first :: more, '/' ∉ text := by
      intro text htext
      have hfront : text ∈ first :: rest := (List.cons_prefix_cons.mpr ⟨rfl, hmore⟩).subset htext
      have hpath : text ∈ rawParts path := hraws ▸ List.mem_append_left [raw] hfront
      exact slash_notMem_of_mem_rawParts hpath
    have hfolder := rawParts_ofRaws (List.cons_ne_nil first more) hslashes
    have hsame : isAbsolute (ofRaws (first :: more)) = isAbsolute path := by
      rw [Bool.eq_iff_iff, isAbsolute_of_rawParts hfolder, habsolute, and_iff_left_iff_imp]
      exact hsole
    rw [hmarks, map_marksFrom, if_neg (by simp [marksFrom])]
    refine ⟨?_, ?_⟩
    · intro hempty
      rw [hempty] at hfolder
      obtain ⟨rfl, rfl⟩ := List.cons.inj (show [[]] = first :: more from hfolder)
      exact hsole rfl rfl
    · rw [parts_eq, hsame, hfolder, List.append_assoc]

/-- The folder of a bare name is the empty text. -/
theorem parent?_of_bare (hslash : '/' ∉ path.toList) (hfinal : IsFinal path.toList) :
    parent? path = some "" ∧ parts path = [.name path] := by
  have hraws : rawParts path = [path.toList] := rawParts_of_notMem hslash
  have hrelative : isAbsolute path = false := by
    rw [← Bool.not_eq_true, isAbsolute_of_rawParts hraws]
    simp
  have hmarked : marked path = [(some (.name path), path.toList)] := by
    rw [marked_eq_marksFrom, hraws, marksFrom, hfinal.part?_eq, String.ofList_toList]
    rfl
  have hparts : (relativeParts path).map (·.1) = [.name path] := by
    rw [map_relativeParts, hmarked]
    rfl
  refine ⟨?_, ?_⟩
  · unfold parent?
    split
    · rename_i hnone
      simp [List.getLast?_eq_none_iff.mp hnone] at hparts
    · rw [hmarked, hrelative]
      rfl
  · rw [parts, hrelative, hparts]
    rfl

/-- The file name of a path that ends in a name. -/
theorem fileName?_of_parts {before : List Part} {name : String}
    (h : parts path = before ++ [.name name]) : fileName? path = some name := by
  simp [fileName?, h]

end SecretScan.Path
