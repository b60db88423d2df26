import SecretScan.ScanOptions
import SecretScan.Proofs.Path

/-!
# Keys of paths below a root

The key of a path below a root does not depend on the root: it is made of the names alone. So the
key of a folder stands at the front of the key of all that is below it, and whatever excludes the
folder by its path excludes that, too.
-/

namespace SecretScan.Text

theorem replaceChar_eq_self {old new : Char} {text : List Char} (h : old ∉ text) :
    replaceChar old new text = text := by
  have hkept : ∀ c ∈ text, (if c = old then new else c) = c := by
    intro c hc
    rw [if_neg]
    rintro rfl
    exact h hc
  rw [replaceChar, List.map_congr_left hkept, List.map_id']

end SecretScan.Text

namespace SecretScan.Exclusions

open SecretScan.Path

variable {names more : List String}

/-! ## Keys -/

/-- The key of a file, from its path relative to the root. -/
def keyText (relative : List Char) : List Char :=
  '/' :: (Text.replaceChar '\\' '/' relative).dropWhile (· == '/')

/-- A key with a slash behind it. -/
def folderText (key : List Char) : List Char :=
  if key.getLast? = some '/' then key else key ++ ['/']

theorem toList_keyOf {root path relative : String} (h : dropBase? root path = some relative)
    (isFolder : Bool) : (keyOf root path isFolder).toList =
      if isFolder then folderText (keyText relative.toList) else keyText relative.toList := by
  rw [keyOf, h, String.toList_ofList]
  cases isFolder with
  | false =>
      simp only [Option.getD_some, Bool.false_and, Bool.false_eq_true, if_false]
      rfl
  | true =>
      simp only [Option.getD_some, Bool.true_and, bne_iff_ne, ne_eq, ite_not, if_true]
      rfl

theorem toList_keyOf_below (root : String) (hnames : names ≠ [])
    (hname : ∀ name ∈ names, IsName name) (isFolder : Bool) :
    (keyOf root (below root names) isFolder).toList =
      if isFolder then folderText (keyText (ofNames names).toList)
      else keyText (ofNames names).toList := by
  have hcomponents : ∀ name ∈ names, IsComponent name := fun name h => (hname name h).toIsComponent
  rw [below_eq_join root hnames hcomponents]
  refine toList_keyOf ((dropBase?_names root hnames hcomponents).2 ?_ ?_) isFolder
  · exact fun h => (hname "." (List.mem_of_head? h)).ne_dot rfl
  · exact fun h => (hname "." (List.mem_of_getLast? h)).ne_dot rfl

/-- The key of a folder stands at the front of the key of what is below it. -/
theorem folderText_isPrefix (folder rest : List Char) :
    folderText (keyText folder) <+: keyText (folder ++ '/' :: rest) := by
  have hreplace : Text.replaceChar '\\' '/' (folder ++ '/' :: rest) =
      Text.replaceChar '\\' '/' folder ++ '/' :: Text.replaceChar '\\' '/' rest := by
    simp [Text.replaceChar]
  rw [keyText, keyText, hreplace, List.dropWhile_append]
  cases hkey : (Text.replaceChar '\\' '/' folder).dropWhile (· == '/') with
  | nil => exact ⟨_, rfl⟩
  | cons c key =>
      have hfull : '/' :: (c :: key ++ '/' :: Text.replaceChar '\\' '/' rest) =
          ('/' :: c :: key ++ ['/']) ++ Text.replaceChar '\\' '/' rest := by simp
      rw [if_neg (by simp), hfull, folderText]
      split
      · exact ⟨'/' :: Text.replaceChar '\\' '/' rest, by simp⟩
      · exact List.prefix_append _ _

theorem keyOf_folder_isPrefix (root : String) (hnames : names ≠ []) (hmore : more ≠ [])
    (hname : ∀ name ∈ names ++ more, IsName name) :
    (keyOf root (below root names) true).toList <+:
      (keyOf root (below root (names ++ more)) false).toList := by
  have hfront : ∀ name ∈ names, IsName name := fun name h => hname name (List.mem_append_left _ h)
  rw [toList_keyOf_below root hnames hfront,
    toList_keyOf_below root (List.append_ne_nil_of_left_ne_nil hnames more) hname,
    toList_ofNames_append hnames hmore, if_pos rfl, if_neg Bool.false_ne_true]
  exact folderText_isPrefix _ _

/-! ## Keys and names -/

/-- With a slash in front, texts with slashes between them are texts with a slash in front of
each. -/
theorem rooted_eq_flatMap {raws : List (List Char)} (h : raws ≠ []) :
    '/' :: ['/'].intercalate raws = raws.flatMap ('/' :: ·) := by
  induction raws with
  | nil => exact absurd rfl h
  | cons raw rest ih =>
      by_cases hrest : rest = []
      · subst hrest
        simp [List.intercalate_singleton]
      · rw [List.intercalate_cons_of_ne_nil hrest, List.flatMap_cons, ← ih hrest]
        simp

theorem rooted_isInfix {kept raws : List (List Char)} (h : kept <:+: raws) :
    '/' :: ['/'].intercalate kept <:+: '/' :: ['/'].intercalate raws := by
  by_cases hkept : kept = []
  · subst hkept
    exact (List.prefix_append ['/'] (['/'].intercalate raws)).isInfix
  · obtain ⟨front, back, rfl⟩ := h
    rw [rooted_eq_flatMap hkept, rooted_eq_flatMap (by simp [hkept]), List.flatMap_append,
      List.flatMap_append]
    exact List.infix_append _ _ _

/-- Where the texts have no slashes of either kind, the key is the path with a slash in front. -/
theorem keyText_intercalate {raws : List (List Char)}
    (hraws : ∀ raw ∈ raws, raw ≠ [] ∧ '/' ∉ raw ∧ '\\' ∉ raw) :
    keyText (['/'].intercalate raws) = '/' :: ['/'].intercalate raws := by
  have hnone : '\\' ∉ ['/'].intercalate raws := by
    by_cases hnil : raws = []
    · simp [hnil]
    · intro h
      have hrooted : '\\' ∈ '/' :: ['/'].intercalate raws := List.mem_cons_of_mem '/' h
      rw [rooted_eq_flatMap hnil] at hrooted
      obtain ⟨raw, hraw, hmem⟩ := List.mem_flatMap.mp hrooted
      rcases List.mem_cons.mp hmem with hslash | hin
      · exact absurd hslash (by decide)
      · exact (hraws raw hraw).2.2 hin
  rw [keyText, Text.replaceChar_eq_self hnone]
  cases raws with
  | nil => rfl
  | cons raw rest =>
      obtain ⟨hne, hslash, -⟩ := hraws raw List.mem_cons_self
      obtain ⟨c, tail, rfl⟩ := List.exists_cons_of_ne_nil hne
      have hc : c ≠ '/' := by
        rintro rfl
        exact hslash List.mem_cons_self
      rw [List.intercalate_cons_cons_left, List.dropWhile_cons_of_neg (by simpa using hc)]

/-- The key of a path of names is found in the path with a slash in front, and is this path where
neither the first name nor the last is a dot. -/
theorem keyOf_join (root : String) (hnames : names ≠ [])
    (hcomponents : ∀ name ∈ names, IsComponent name) (hback : ∀ name ∈ names, '\\' ∉ name.toList) :
    (keyOf root (join root (ofNames names)) false).toList <:+: '/' :: (ofNames names).toList ∧
      (names.head? ≠ some "." → names.getLast? ≠ some "." →
        (keyOf root (join root (ofNames names)) false).toList = '/' :: (ofNames names).toList) := by
  have hraws {kept : List (List Char)} (hkept : kept <:+: names.map String.toList) :
      ∀ raw ∈ kept, raw ≠ [] ∧ '/' ∉ raw ∧ '\\' ∉ raw := by
    intro raw hraw
    obtain ⟨name, hname, rfl⟩ := List.mem_map.mp (hkept.subset hraw)
    exact ⟨by simpa using (hcomponents name hname).ne_empty, (hcomponents name hname).no_slash,
      hback name hname⟩
  obtain ⟨⟨kept, hkept, hdrop⟩, hwhole⟩ := dropBase?_names root hnames hcomponents
  refine ⟨?_, ?_⟩
  · rw [toList_keyOf hdrop, if_neg Bool.false_ne_true, String.toList_ofList,
      keyText_intercalate (hraws hkept), toList_ofNames]
    exact rooted_isInfix hkept
  · intro hfirst hlast
    rw [toList_keyOf (hwhole hfirst hlast), if_neg Bool.false_ne_true, toList_ofNames,
      keyText_intercalate (hraws (List.infix_refl _))]

/-! ## What is excluded -/

theorem containsPath_iff {e : Exclusions} {text : String} :
    e.containsPath text = true ↔ ∃ p ∈ e.paths, p ≠ "" ∧ p.toList <:+: text.toList := by
  simp only [containsPath, List.any_eq_true, Bool.and_eq_true, decide_eq_true_eq, Text.occurs,
    Text.occursIn_iff]

theorem containsPath_of_isInfix {e : Exclusions} {text text' : String}
    (h : text.toList <:+: text'.toList) (hcontains : e.containsPath text = true) :
    e.containsPath text' = true := by
  obtain ⟨p, hp, hne, hstands⟩ := containsPath_iff.mp hcontains
  exact containsPath_iff.mpr ⟨p, hp, hne, hstands.trans h⟩

/-- Does the key end with one of the excluded extensions? Empty ones exclude nothing. -/
def endsExcluded (e : Exclusions) (key : String) : Bool :=
  e.extensions.any fun x => x ≠ "" && Text.endsWith x.toList key.toList

theorem excludes_eq (e : Exclusions) (key : String) :
    e.excludes key = (e.containsPath key || e.endsExcluded key) := rfl

end SecretScan.Exclusions
