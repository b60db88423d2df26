import SecretScan.Proofs.Prefilter
import Mathlib.Data.Finset.Card
import Mathlib.Data.Finset.Dedup

/-!
# The prefilter selects exactly

The table of a registry has every keyword once, in lowercase, and no others. So the numbers of the
detectors with a keyword in a text come out once each and in order, whatever keywords overlap,
contain each other or are shared, and the table is as long as there are different keywords.
-/

namespace SecretScan.Prefilter

open SecretScan.Text

/-- The keywords in a table. -/
def words (known : List (List Char × List Nat)) : List (List Char) := known.map Prod.fst

/-- A table in which every keyword stands once and has a detector. -/
structure IsIndex (known : List (List Char × List Nat)) : Prop where
  distinct : (words known).Nodup
  owned : ∀ entry ∈ known, entry.2 ≠ []

variable {known : List (List Char × List Nat)} {low : List Char}

theorem isIndex_nil : IsIndex [] := ⟨List.nodup_nil, nofun⟩

theorem isIndex_cons_iff {k : List Char} {owners : List Nat} :
    IsIndex ((k, owners) :: known) ↔ (k ∉ words known ∧ owners ≠ []) ∧ IsIndex known := by
  constructor
  · rintro ⟨hdistinct, howned⟩
    obtain ⟨hk, hrest⟩ := List.nodup_cons.mp hdistinct
    obtain ⟨howners, hentries⟩ := List.forall_mem_cons.mp howned
    exact ⟨⟨hk, howners⟩, hrest, hentries⟩
  · rintro ⟨⟨hk, howners⟩, hrest⟩
    exact ⟨List.nodup_cons.mpr ⟨hk, hrest.distinct⟩,
      List.forall_mem_cons.mpr ⟨howners, hrest.owned⟩⟩

/-- A keyword is in a table just if the table says that some detector has it. -/
theorem IsIndex.mem_words_iff (h : IsIndex known) : low ∈ words known ↔ ∃ i, Notes known low i := by
  constructor
  · intro hlow
    obtain ⟨⟨k, owners⟩, hentry, rfl⟩ := List.mem_map.mp hlow
    obtain ⟨i, hi⟩ := List.exists_mem_of_ne_nil owners (h.owned _ hentry)
    exact ⟨i, owners, hentry, hi⟩
  · rintro ⟨i, owners, hentry, -⟩
    exact List.mem_map.mpr ⟨_, hentry, rfl⟩

theorem IsIndex.note (h : IsIndex known) (j : Nat) (k : List Char) : IsIndex (note j k known) := by
  induction known with
  | nil => exact isIndex_cons_iff.mpr ⟨⟨List.not_mem_nil, List.cons_ne_nil j []⟩, isIndex_nil⟩
  | cons entry rest ih =>
      obtain ⟨other, owners⟩ := entry
      obtain ⟨⟨hother, howners⟩, hrest⟩ := isIndex_cons_iff.mp h
      rw [Prefilter.note]
      by_cases hk : other = k
      · rw [if_pos hk]
        refine isIndex_cons_iff.mpr ⟨⟨hother, ?_⟩, hrest⟩
        split
        · exact howners
        · exact List.append_ne_nil_of_left_ne_nil howners [j]
      · rw [if_neg hk]
        refine isIndex_cons_iff.mpr ⟨⟨fun hmem => ?_, howners⟩, ih hrest⟩
        -- Nothing is noted but the new keyword.
        obtain ⟨i, hi⟩ := (ih hrest).mem_words_iff.mp hmem
        rcases notes_note_iff.mp hi with hold | ⟨hnew, -⟩
        · exact hother (hrest.mem_words_iff.mpr ⟨i, hold⟩)
        · exact hk hnew

theorem IsIndex.noteAll (h : IsIndex known) (j : Nat) (keywords : List String) :
    IsIndex (noteAll known j keywords) := by
  induction keywords generalizing known with
  | nil => exact h
  | cons k keywords ih =>
      have hstep : IsIndex (if (lower k.toList).isEmpty then known
          else Prefilter.note j (lower k.toList) known) := by
        split
        · exact h
        · exact h.note j _
      exact ih hstep

theorem IsIndex.collect (h : IsIndex known) (j : Nat) (detectors : List Detector) :
    IsIndex (collect known j detectors) := by
  induction detectors generalizing known j with
  | nil => exact h
  | cons d rest ih => exact ih (h.noteAll j d.keywords) (j + 1)

/-- The keywords of a registry in lowercase, each once; those without characters are left out. -/
def lowKeywords (r : Registry) : Finset (List Char) :=
  ((r.detectors.flatMap Detector.keywords).map fun k => lower k.toList).toFinset.erase []

theorem mem_lowKeywords_iff {r : Registry} :
    low ∈ lowKeywords r ↔ ∃ d ∈ r.detectors, IsLowKeyword d.keywords low := by
  simp only [lowKeywords, Finset.mem_erase, List.mem_toFinset, List.mem_map, List.mem_flatMap,
    IsLowKeyword]
  constructor
  · rintro ⟨hne, k, ⟨d, hd, hk⟩, hlow⟩
    exact ⟨d, hd, hne, k, hk, hlow⟩
  · rintro ⟨d, hd, hne, k, hk, hlow⟩
    exact ⟨hne, k, ⟨d, hd, hk⟩, hlow⟩

theorem isIndex_ofRegistry (r : Registry) : IsIndex (ofRegistry r).keywords :=
  isIndex_nil.collect 0 r.detectors

theorem mem_words_ofRegistry_iff {r : Registry} :
    low ∈ words (ofRegistry r).keywords ↔ low ∈ lowKeywords r := by
  rw [(isIndex_ofRegistry r).mem_words_iff, mem_lowKeywords_iff]
  constructor
  · rintro ⟨i, hi⟩
    rcases notes_collect_iff.mp hi with ⟨owners, hnil, -⟩ | ⟨n, d, hd, -, hlow⟩
    · exact absurd hnil List.not_mem_nil
    · exact ⟨d, List.mem_of_getElem? hd, hlow⟩
  · rintro ⟨d, hd, hlow⟩
    obtain ⟨n, hn⟩ := List.mem_iff_getElem?.mp hd
    exact ⟨0 + n, notes_collect_iff.mpr (Or.inr ⟨n, d, hn, rfl, hlow⟩)⟩

theorem keywordCount_eq (r : Registry) : (ofRegistry r).keywordCount = (lowKeywords r).card := by
  have hwords : (words (ofRegistry r).keywords).toFinset = lowKeywords r :=
    Finset.ext fun low => List.mem_toFinset.trans mem_words_ofRegistry_iff
  calc
    (ofRegistry r).keywordCount = (words (ofRegistry r).keywords).length :=
      (List.length_map _).symm
    _ = (words (ofRegistry r).keywords).toFinset.card :=
      (List.toFinset_card_of_nodup (isIndex_ofRegistry r).distinct).symm
    _ = (lowKeywords r).card := by rw [hwords]

theorem select_ascends (p : Prefilter) (text : List Char) : (p.select text).Pairwise (· < ·) :=
  List.pairwise_lt_range.filter _

/-- For every text the prefilter gives the numbers of just those detectors that have a keyword in
the text, both taken in lowercase, in ascending order and each once. It counts the different
keywords. -/
theorem selects_just_by_keywords (r : Registry) :
    (∀ text, ((ofRegistry r).select text).Pairwise (· < ·) ∧
      ∀ i, i ∈ (ofRegistry r).select text ↔ ∃ d, r.get? i = some d ∧ ∃ k ∈ d.keywords,
        lower k.toList ≠ [] ∧ lower k.toList <:+: lower text) ∧
    (ofRegistry r).keywordCount = (lowKeywords r).card :=
  ⟨fun text => ⟨select_ascends _ text, fun _ => mem_select_iff⟩, keywordCount_eq r⟩

-- Keywords within each other, overlapping ones, and one that two detectors share in two cases.
example :
    let p := ofRegistry ⟨[.custom ⟨"short", ["SK_"], []⟩, .custom ⟨"long", ["sk_live_", ""], []⟩,
      .custom ⟨"other", ["gcp"], []⟩, .custom ⟨"shared", ["_key", "sk_LIVE_"], []⟩]⟩
    p.select "sk_live_key".toList = [0, 1, 3] ∧ p.keywordCount = 4 := by
  decide +kernel

end SecretScan.Prefilter
