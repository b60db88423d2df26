import SecretScan.Path
import SecretScan.Proofs.Text.Pieces
import Mathlib.Data.List.DropRight

/-!
# Paths below a base

What is reached from a base through folders with given names has the path of the base with the names
behind it. Taking the base off this path leaves the names, whatever the base looks like.
-/

namespace SecretScan.Path

/-! ## What stands between slashes -/

theorem rawParts_eq (path : String) : rawParts path = path.toList.splitOn '/' :=
  Text.pieces_eq_splitOn '/' path.toList

/-- Texts between slashes that do not stand at the beginning, each with the part it stands for. -/
def marksOf (raws : List (List Char)) : List (Option Part × List Char) :=
  raws.map fun raw => (part? false raw, raw)

theorem marked_eq {path : String} {first : List Char} {rest : List (List Char)}
    (h : rawParts path = first :: rest) :
    marked path = (part? true first, first) :: marksOf rest := by
  rw [marked, h]
  rfl

theorem map_relativeParts (path : String) :
    (relativeParts path).map (·.1) = (marked path).filterMap (·.1) := by
  cases hraws : rawParts path with
  | nil => simp [relativeParts, marked, hraws]
  | cons first rest =>
      rw [relativeParts, hraws, marked_eq hraws, marksOf]
      cases hfirst : part? true first <;>
        simp [hfirst, List.filterMap_map, List.map_filterMap, Function.comp_def]

/-- Leading parts that agree with those given are taken off, and so are texts among them that
stand for none; more of these may be left in front. -/
theorem dropParts_append (marks rest : List (Option Part × List Char)) :
    ∃ gaps, (∀ gap ∈ gaps, gap.1 = none) ∧
      dropParts (marks.filterMap (·.1)) (marks ++ rest) = some (gaps ++ rest) := by
  induction marks with
  | nil => exact ⟨[], List.forall_mem_nil _, by simp [dropParts]⟩
  | cons mark marks ih =>
      obtain ⟨gaps, hgaps, hdrop⟩ := ih
      obtain ⟨part, raw⟩ := mark
      cases part with
      | some p => exact ⟨gaps, hgaps, by simpa [dropParts] using hdrop⟩
      | none =>
          cases hparts : marks.filterMap (·.1) with
          | nil =>
              rw [hparts, dropParts, Option.some_inj, List.append_cancel_right_eq] at hdrop
              subst hdrop
              refine ⟨(none, raw) :: marks, List.forall_mem_cons.mpr ⟨rfl, hgaps⟩, ?_⟩
              simp [hparts, dropParts]
          | cons p ps =>
              rw [hparts] at hdrop
              exact ⟨gaps, hgaps, by simpa [hparts, dropParts] using hdrop⟩

/-- Without the texts at either end that stand for no part. -/
def trimMarks (marks : List (Option Part × List Char)) : List (Option Part × List Char) :=
  (marks.dropWhile (·.1.isNone)).rdropWhile (·.1.isNone)

theorem between_eq (marks : List (Option Part × List Char)) :
    between marks = String.ofList (['/'].intercalate ((trimMarks marks).map (·.2))) := rfl

theorem trimMarks_gaps {gaps : List (Option Part × List Char)} (hgaps : ∀ gap ∈ gaps, gap.1 = none)
    (marks : List (Option Part × List Char)) : trimMarks (gaps ++ marks) = trimMarks marks := by
  have hdrop : (gaps ++ marks).dropWhile (·.1.isNone) = marks.dropWhile (·.1.isNone) :=
    List.dropWhile_append_of_pos fun gap hgap => by rw [hgaps gap hgap]; rfl
  rw [trimMarks, hdrop, trimMarks]

theorem trimMarks_isInfix (marks : List (Option Part × List Char)) : trimMarks marks <:+: marks :=
  (List.rdropWhile_prefix _ _).isInfix.trans (List.dropWhile_suffix _).isInfix

/-! ## Joined paths -/

/-- What stands in front of a relative path that is joined to a base. -/
def stem (base : String) : List Char :=
  if base = "" then []
  else if base.toList.getLast? = some '/' then base.toList
  else base.toList ++ ['/']

theorem toList_join {base name : String} (hname : isAbsolute name = false) :
    (join base name).toList = stem base ++ name.toList := by
  unfold join stem
  rw [hname]
  by_cases hbase : base = ""
  · simp [hbase]
  · by_cases hslash : base.toList.getLast? = some '/'
    · simp [hbase, hslash]
    · simp [hbase, hslash]

/-- A base with characters ends in front of the slash that a name is joined to it by. -/
theorem exists_stem {base : String} (hbase : base ≠ "") :
    ∃ front, stem base = front ++ ['/'] ∧ (base.toList = front ∨ base.toList = front ++ ['/']) := by
  unfold stem
  rw [if_neg hbase]
  split
  · rename_i hslash
    obtain ⟨front, hfront⟩ := List.getLast?_eq_some_iff.mp hslash
    exact ⟨front, hfront, Or.inr hfront⟩
  · exact ⟨base.toList, rfl, Or.inl rfl⟩

theorem isAbsolute_join {base name : String} (hbase : base ≠ "") (hname : isAbsolute name = false) :
    isAbsolute (join base name) = isAbsolute base := by
  rw [isAbsolute, toList_join hname, isAbsolute, stem, if_neg hbase]
  have hnil : base.toList ≠ [] := by simpa using hbase
  obtain ⟨c, rest, hcons⟩ := List.exists_cons_of_ne_nil hnil
  rw [hcons]
  split <;> rfl

/-- The texts of a joined path are those of the base and those of the name. -/
theorem marked_join {base name : String} (hbase : base ≠ "") (hname : isAbsolute name = false) :
    ∃ marks, (marked base).filterMap (·.1) = marks.filterMap (·.1) ∧
      marked (join base name) = marks ++ marksOf (rawParts name) := by
  obtain ⟨front, hstem, hends⟩ := exists_stem hbase
  obtain ⟨first, rest, hfront⟩ := List.exists_cons_of_ne_nil (List.splitOn_ne_nil '/' front)
  have hjoined : rawParts (join base name) = first :: (rest ++ rawParts name) := by
    rw [rawParts_eq, toList_join hname, hstem, List.append_assoc, List.singleton_append,
      List.splitOn_append_cons_self, hfront, rawParts_eq]
    rfl
  refine ⟨(part? true first, first) :: marksOf rest, ?_, ?_⟩
  · rcases hends with hfull | hslash
    · rw [marked_eq (by rw [rawParts_eq, hfull, hfront])]
    · have hraws : rawParts base = first :: (rest ++ [[]]) := by
        rw [rawParts_eq, hslash, List.splitOn_append_cons_self, hfront]
        rfl
      -- The empty text behind the last slash stands for no part.
      have hempty : part? false [] = none := rfl
      rw [marked_eq hraws, marksOf, List.map_append, ← marksOf]
      simp [List.filterMap_cons, List.filterMap_append, hempty]
  · rw [marked_eq hjoined, marksOf, List.map_append, ← marksOf, ← marksOf]
    rfl

theorem isSome_part? {first : Bool} {raw : List Char} (hnil : raw ≠ []) (hdot : raw ≠ ['.']) :
    (part? first raw).isSome = true := by
  unfold part?
  split
  · exact absurd rfl hnil
  · exact absurd rfl hdot
  · rfl
  · rfl

/-- The base is taken off a path that is joined to it. -/
theorem exists_dropBase?_join (base : String) {name : String} (hname : isAbsolute name = false) :
    ∃ marks, dropBase? base (join base name) = some (between marks) ∧
      marks.map (·.2) = rawParts name ∧
      ∀ m ∈ marks, m.2 ≠ [] → m.2 ≠ ['.'] → m.1.isSome = true := by
  have hmarks (raws : List (List Char)) :
      (marksOf raws).map (·.2) = raws ∧
        ∀ m ∈ marksOf raws, m.2 ≠ [] → m.2 ≠ ['.'] → m.1.isSome = true := by
    refine ⟨by simp [marksOf, Function.comp_def], ?_⟩
    intro m hm
    obtain ⟨raw, -, rfl⟩ := List.mem_map.mp hm
    exact isSome_part?
  by_cases hbase : base = ""
  · subst hbase
    have hjoin : join "" name = name := by simp [join]
    obtain ⟨first, rest, hraws⟩ := List.exists_cons_of_ne_nil (List.splitOn_ne_nil '/' name.toList)
    rw [← rawParts_eq] at hraws
    refine ⟨marked name, ?_, ?_, ?_⟩
    · have habsolute : isAbsolute "" = false := by simp [isAbsolute]
      have hparts : relativeParts "" = [] := by simp [relativeParts, rawParts_eq, part?]
      simp [hjoin, dropBase?, hname, habsolute, hparts, dropParts]
    · rw [marked_eq hraws, List.map_cons, (hmarks rest).1, hraws]
    · rw [marked_eq hraws]
      exact List.forall_mem_cons.mpr ⟨isSome_part?, (hmarks rest).2⟩
  · obtain ⟨marks, hparts, hjoin⟩ := marked_join hbase hname
    obtain ⟨gaps, hgaps, hdrop⟩ := dropParts_append marks (marksOf (rawParts name))
    refine ⟨marksOf (rawParts name), ?_, hmarks _⟩
    rw [dropBase?, isAbsolute_join hbase hname, map_relativeParts, hparts, hjoin, hdrop]
    simp only [bne_self_eq_false, Bool.false_eq_true, if_false, Option.map_some]
    rw [between_eq, trimMarks_gaps hgaps, between_eq]

/-! ## Paths of names -/

/-- A text that can stand between slashes. -/
structure IsComponent (name : String) : Prop where
  ne_empty : name ≠ ""
  no_slash : '/' ∉ name.toList

/-- A name that something in a folder can have. -/
structure IsName (name : String) : Prop extends IsComponent name where
  ne_dot : name ≠ "."

/-- Names with slashes between them. -/
def ofNames (names : List String) : String :=
  String.ofList (['/'].intercalate (names.map String.toList))

/-- Where going from a base through folders with these names leads. -/
def below (base : String) (names : List String) : String := names.foldl join base

variable {names more : List String}

@[simp] theorem toList_ofNames (names : List String) :
    (ofNames names).toList = ['/'].intercalate (names.map String.toList) :=
  String.toList_ofList

theorem ofNames_singleton (name : String) : ofNames [name] = name := by
  simp [ofNames, List.intercalate_singleton]

theorem toList_ofNames_append (hnames : names ≠ []) (hmore : more ≠ []) :
    (ofNames (names ++ more)).toList = (ofNames names).toList ++ '/' :: (ofNames more).toList := by
  induction names with
  | nil => exact absurd rfl hnames
  | cons first rest ih =>
      simp only [toList_ofNames, List.cons_append, List.map_cons] at ih ⊢
      by_cases hrest : rest = []
      · subst hrest
        rw [List.nil_append, List.map_nil, List.intercalate_singleton,
          List.intercalate_cons_of_ne_nil (by simpa using hmore)]
        simp
      · rw [List.intercalate_cons_of_ne_nil (by simp [hrest]), ih hrest,
          List.intercalate_cons_of_ne_nil (by simpa using hrest)]
        simp

theorem rawParts_ofNames (hnames : names ≠ []) (hcomponents : ∀ name ∈ names, IsComponent name) :
    rawParts (ofNames names) = names.map String.toList := by
  rw [rawParts_eq, toList_ofNames]
  refine List.splitOn_intercalate '/' ?_ (by simpa using hnames)
  intro raw hraw
  obtain ⟨name, hname, rfl⟩ := List.mem_map.mp hraw
  exact (hcomponents name hname).no_slash

/-- A path of names begins with a character of its first name. -/
theorem exists_head_ofNames (hnames : names ≠ []) (hcomponents : ∀ name ∈ names, IsComponent name) :
    ∃ c rest, (ofNames names).toList = c :: rest ∧ c ≠ '/' := by
  obtain ⟨first, rest, rfl⟩ := List.exists_cons_of_ne_nil hnames
  have hfirst := hcomponents first List.mem_cons_self
  obtain ⟨c, tail, hc⟩ :=
    List.exists_cons_of_ne_nil (show first.toList ≠ [] by simpa using hfirst.ne_empty)
  refine ⟨c, ['/'].intercalate (tail :: rest.map String.toList), ?_, ?_⟩
  · rw [toList_ofNames, List.map_cons, hc, List.intercalate_cons_cons_left]
  · rintro rfl
    exact hfirst.no_slash (by simp [hc])

theorem isAbsolute_ofNames (hnames : names ≠ []) (hcomponents : ∀ name ∈ names, IsComponent name) :
    isAbsolute (ofNames names) = false := by
  obtain ⟨c, rest, hc, hne⟩ := exists_head_ofNames hnames hcomponents
  rw [isAbsolute, hc, beq_eq_false_iff_ne]
  simpa using hne

/-- A path of names ends with a character of its last name. -/
theorem getLast?_ofNames (hnames : names ≠ []) (hcomponents : ∀ name ∈ names, IsComponent name) :
    (ofNames names).toList.getLast? ≠ some '/' := by
  have hlast (last : String) (h : IsComponent last) (front : List Char) :
      (front ++ last.toList).getLast? ≠ some '/' := by
    rw [List.getLast?_append_of_ne_nil _ (by simpa using h.ne_empty)]
    exact fun hslash => h.no_slash (List.mem_of_getLast? hslash)
  rcases List.eq_nil_or_concat names with rfl | ⟨front, last, rfl⟩
  · exact absurd rfl hnames
  · have hcomponent := hcomponents last (by simp)
    rw [List.concat_eq_append]
    by_cases hfront : front = []
    · subst hfront
      simpa [ofNames_singleton] using hlast last hcomponent []
    · rw [toList_ofNames_append hfront (List.cons_ne_nil last []), ofNames_singleton]
      simpa using hlast last hcomponent ((ofNames front).toList ++ ['/'])

theorem stem_join {base path : String} (hrelative : isAbsolute path = false) (hpath : path ≠ "")
    (hend : path.toList.getLast? ≠ some '/') :
    stem (join base path) = stem base ++ path.toList ++ ['/'] := by
  have hjoined : (join base path).toList = stem base ++ path.toList := toList_join hrelative
  have hnil : path.toList ≠ [] := by simpa using hpath
  have hne : join base path ≠ "" := by
    intro h
    rw [h] at hjoined
    simp_all
  rw [stem, if_neg hne, hjoined, List.getLast?_append_of_ne_nil _ hnil, if_neg hend]

/-- Going through folders one by one leads where joining all their names leads. -/
theorem below_eq_join (base : String) (hnames : names ≠ [])
    (hcomponents : ∀ name ∈ names, IsComponent name) :
    below base names = join base (ofNames names) := by
  induction names using List.reverseRecOn with
  | nil => exact absurd rfl hnames
  | append_singleton front last ih =>
      have hfront : ∀ name ∈ front, IsComponent name :=
        fun name hname => hcomponents name (List.mem_append_left _ hname)
      rw [below, List.foldl_concat, ← below]
      by_cases hnil : front = []
      · subst hnil
        rw [List.nil_append, ofNames_singleton]
        rfl
      · have hrelative := isAbsolute_ofNames hnil hfront
        obtain ⟨c, rest, hc, -⟩ := exists_head_ofNames hnil hfront
        have hne : ofNames front ≠ "" := by
          intro h
          rw [h] at hc
          simp at hc
        have hlast : isAbsolute last = false := by
          have h := isAbsolute_ofNames (List.cons_ne_nil last []) fun name hname =>
            hcomponents name (List.mem_append_right _ hname)
          rwa [ofNames_singleton] at h
        apply String.toList_injective
        rw [ih hnil hfront, toList_join hlast,
          stem_join hrelative hne (getLast?_ofNames hnil hfront),
          toList_join (isAbsolute_ofNames hnames hcomponents),
          toList_ofNames_append hnil (List.cons_ne_nil last []), ofNames_singleton]
        simp

theorem trimMarks_eq_self {marks : List (Option Part × List Char)}
    (hfirst : ∀ m ∈ marks.head?, m.1.isSome = true)
    (hlast : ∀ m ∈ marks.getLast?, m.1.isSome = true) :
    trimMarks marks = marks := by
  have hdrop : marks.dropWhile (·.1.isNone) = marks := by
    cases marks with
    | nil => rfl
    | cons m rest =>
        have hm := hfirst m rfl
        rw [List.dropWhile_cons_of_neg (by simpa [Option.isSome_iff_ne_none] using hm)]
  rw [trimMarks, hdrop, List.rdropWhile_eq_self_iff]
  intro hne
  have hm := hlast _ (List.getLast?_eq_some_getLast hne)
  simpa [Option.isSome_iff_ne_none] using hm

/-- Taking the base off leaves a stretch of the names. Only single dots can be missing, so nothing
is where neither the first name nor the last is one. -/
theorem dropBase?_names (base : String) (hnames : names ≠ [])
    (hcomponents : ∀ name ∈ names, IsComponent name) :
    (∃ kept, kept <:+: names.map String.toList ∧
      dropBase? base (join base (ofNames names)) = some (String.ofList (['/'].intercalate kept))) ∧
    (names.head? ≠ some "." → names.getLast? ≠ some "." →
      dropBase? base (join base (ofNames names)) = some (ofNames names)) := by
  obtain ⟨marks, hdrop, htexts, hparts⟩ :=
    exists_dropBase?_join base (isAbsolute_ofNames hnames hcomponents)
  rw [rawParts_ofNames hnames hcomponents] at htexts
  -- A name that is no dot stands for a part.
  have hsome {m : Option Part × List Char} {o : Option String} (hm : m ∈ marks)
      (ho : o.map String.toList = some m.2) (hdot : o ≠ some ".") : m.1.isSome = true := by
    obtain ⟨name, rfl, hname⟩ := Option.map_eq_some_iff.mp ho
    have hmem : m.2 ∈ names.map String.toList := htexts ▸ List.mem_map_of_mem hm
    obtain ⟨name', hname', heq⟩ := List.mem_map.mp hmem
    refine hparts m hm ?_ ?_
    · rw [← heq]
      simpa using (hcomponents name' hname').ne_empty
    · intro h
      refine hdot (congrArg some (String.toList_injective ?_))
      rw [hname, h]
      decide
  refine ⟨⟨(trimMarks marks).map (·.2), ?_, by rw [hdrop, between_eq]⟩, ?_⟩
  · rw [← htexts]
    exact (trimMarks_isInfix marks).map _
  · intro hfirst hlast
    have htrim : trimMarks marks = marks := by
      refine trimMarks_eq_self ?_ ?_
      · intro m hm
        refine hsome (List.mem_of_head? hm) ?_ hfirst
        rw [← List.head?_map, ← htexts, List.head?_map, Option.mem_def.mp hm]
        rfl
      · intro m hm
        refine hsome (List.mem_of_getLast? hm) ?_ hlast
        rw [← List.getLast?_map, ← htexts, List.getLast?_map, Option.mem_def.mp hm]
        rfl
    rw [hdrop, between_eq, htrim, htexts, ofNames]

end SecretScan.Path
