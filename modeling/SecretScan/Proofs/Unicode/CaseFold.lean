import SecretScan.Proofs.Pattern.Within
import Mathlib.Data.List.Chain

/-!
# Characters that differ only by case

The runs of the case folding do not meet, and what they lead to is not folded any further. So the
characters that differ from one only by case are those with the same representative.
-/

namespace SecretScan.Unicode

/-! ## Runs one after the other -/

namespace CaseRun

variable {r s : CaseRun} {m n : Nat}

/-- The run leads from one code point to another. -/
def Maps (r : CaseRun) (n m : Nat) : Prop :=
  r.first ≤ n ∧ n ≤ r.last ∧ (n - r.first) % r.stride = 0 ∧ m = r.target + (n - r.first)

theorem image?_eq_some_iff : r.image? n = some m ↔ r.Maps n m := by
  rw [image?, Option.ite_none_right_eq_some, Option.some.injEq]
  simp only [Bool.and_eq_true, decide_eq_true_eq, beq_iff_eq, Maps, and_assoc, eq_comm (a := m)]

theorem preimage?_eq_some_iff (h : r.first ≤ r.last) : r.preimage? m = some n ↔ r.Maps n m := by
  rw [preimage?, Option.ite_none_right_eq_some, Option.some.injEq]
  simp only [Bool.and_eq_true, decide_eq_true_eq, beq_iff_eq, Maps]
  constructor
  · rintro ⟨⟨⟨hlow, hhigh⟩, hstride⟩, rfl⟩
    rw [Nat.add_sub_cancel_left]
    omega
  · rintro ⟨hlow, hhigh, hstride, rfl⟩
    rw [Nat.add_sub_cancel_left]
    omega

/-- Does a run, in which there is something, end before another one begins? -/
def Before (r s : CaseRun) : Prop := r.first ≤ r.last ∧ r.last < s.first

instance (r s : CaseRun) : Decidable (r.Before s) := inferInstanceAs (Decidable (_ ∧ _))

instance : IsTrans CaseRun Before where
  trans _ _ _ h h' := ⟨h.1, Nat.lt_of_lt_of_le h.2 (Nat.le_trans h'.1 (Nat.le_of_lt h'.2))⟩

/-- Does no image of a run belong to these ascending runs? They are apart, or the images fall
between the code points of a run. -/
def misses (r : CaseRun) : List CaseRun → Bool
  | [] => true
  | s :: rest =>
    bif s.last.blt r.target then r.misses rest
    else bif (r.target + (r.last - r.first)).blt s.first then true
    else
      s.stride == 2 && (r.target + s.first) % 2 == 1 && (r.stride == 2 || r.first == r.last) &&
        r.misses rest

/-- An image is not mapped again by a run that the images miss. -/
theorem not_maps_of_misses {runs : List CaseRun} (hruns : runs.Pairwise Before)
    (h : r.misses runs = true) (hr : r.Maps n m) : ∀ s ∈ runs, ∀ m', ¬ s.Maps m m' := by
  obtain ⟨hlow, hhigh, hstride, rfl⟩ := hr
  induction runs with
  | nil => exact nofun
  | cons s rest ih =>
      obtain ⟨hbehind, hrest⟩ := List.pairwise_cons.mp hruns
      rw [misses, cond_eq_ite, cond_eq_ite] at h
      simp only [Nat.blt_eq] at h
      rintro t ht m' ⟨htlow, hthigh, htstride, hm'⟩
      split_ifs at h with hbelow habove
      · rcases List.mem_cons.mp ht with rfl | ht
        · omega
        · exact ih hrest h t ht m' ⟨htlow, hthigh, htstride, hm'⟩
      · rcases List.mem_cons.mp ht with rfl | ht
        · omega
        · have hbefore := hbehind t ht
          rw [Before] at hbefore
          omega
      · simp only [Bool.and_eq_true, beq_iff_eq, Bool.or_eq_true] at h
        obtain ⟨⟨⟨htwo, hodd⟩, hparity⟩, h⟩ := h
        rcases List.mem_cons.mp ht with rfl | ht
        -- An even number of steps leads from one odd number to another.
        · rw [htwo] at htstride
          rcases hparity with hr | hr
          · rw [hr] at hstride
            omega
          · omega
        · exact ih hrest h t ht m' ⟨htlow, hthigh, htstride, hm'⟩

end CaseRun

/-! ## The runs of the case folding -/

/-- Are these code points those of characters? -/
def areScalars (first last : Nat) : Prop :=
  last < 0xD800 ∨ 0xDFFF < first ∧ last < 0x110000

instance (first last : Nat) : Decidable (areScalars first last) :=
  inferInstanceAs (Decidable (_ ∨ _))

theorem foldRuns_ascend : foldRuns.IsChain CaseRun.Before := by decide +kernel

theorem foldRuns_scalars : ∀ r ∈ foldRuns, r.first ≤ r.last ∧ areScalars r.first r.last ∧
    areScalars r.target (r.target + (r.last - r.first)) := by decide +kernel

theorem foldRuns_misses : foldRuns.all (·.misses foldRuns) = true := by decide +kernel

variable {r s : CaseRun} {m n : Nat}

/-- A code point belongs to one run at most. -/
theorem maps_unique (hr : r ∈ foldRuns) (hs : s ∈ foldRuns) (h : r.Maps n m) {m' : Nat}
    (h' : s.Maps n m') : m = m' := by
  have hpairs : foldRuns.Pairwise CaseRun.Before := List.isChain_iff_pairwise.mp foldRuns_ascend
  have happart {r s : CaseRun} (hrs : r.Before s) (hr : r.Maps n m) (hs : s.Maps n m') : m = m' :=
    absurd (Nat.le_trans hs.1 hr.2.1) (Nat.not_le_of_lt hrs.2)
  refine List.Pairwise.forall_of_forall_of_flip
    (R := fun r s => r.Maps n m → s.Maps n m' → m = m') ?_ (hpairs.imp happart) ?_ hr hs h h'
  · intro r _ hr hr'
    exact hr.2.2.2.trans hr'.2.2.2.symm
  · refine hpairs.imp fun hrs hr hs => ?_
    exact absurd (Nat.le_trans hr.1 hs.2.1) (Nat.not_le_of_lt hrs.2)

/-- The code point that represents those which differ only by case. -/
def foldPoint (n : Nat) : Nat := (foldRuns.findSome? (·.image? n)).getD n

theorem foldPoint_of_maps (hr : r ∈ foldRuns) (h : r.Maps n m) : foldPoint n = m := by
  rw [foldPoint]
  cases hfind : foldRuns.findSome? (·.image? n) with
  | none =>
      rw [List.findSome?_eq_none_iff] at hfind
      have himage := CaseRun.image?_eq_some_iff.mpr h
      rw [hfind r hr] at himage
      cases himage
  | some k =>
      obtain ⟨s, hs, himage⟩ := List.exists_of_findSome?_eq_some hfind
      exact maps_unique hs hr (CaseRun.image?_eq_some_iff.mp himage) h

/-- What represents a code point: one that a run maps it to, or itself. -/
theorem foldPoint_cases (n : Nat) :
    (∃ r ∈ foldRuns, r.Maps n (foldPoint n)) ∨
      (∀ r ∈ foldRuns, ∀ m, ¬ r.Maps n m) ∧ foldPoint n = n := by
  cases hfind : foldRuns.findSome? (·.image? n) with
  | none =>
      refine Or.inr ⟨fun r hr m hm => ?_, by rw [foldPoint, hfind]; rfl⟩
      have himage := CaseRun.image?_eq_some_iff.mpr hm
      rw [List.findSome?_eq_none_iff.mp hfind r hr] at himage
      cases himage
  | some k =>
      obtain ⟨s, hs, himage⟩ := List.exists_of_findSome?_eq_some hfind
      have hmaps := CaseRun.image?_eq_some_iff.mp himage
      exact Or.inl ⟨s, hs, (foldPoint_of_maps hs hmaps).symm ▸ hmaps⟩

/-- What represents a code point is not folded any further. -/
theorem foldPoint_foldPoint (n : Nat) : foldPoint (foldPoint n) = foldPoint n := by
  rcases foldPoint_cases n with ⟨r, hr, h⟩ | ⟨-, h⟩
  · have hpairs : foldRuns.Pairwise CaseRun.Before := List.isChain_iff_pairwise.mp foldRuns_ascend
    have hnone := CaseRun.not_maps_of_misses hpairs (List.all_eq_true.mp foldRuns_misses r hr) h
    rcases foldPoint_cases (foldPoint n) with ⟨s, hs, h'⟩ | ⟨-, h'⟩
    · exact absurd h' (hnone s hs _)
    · exact h'
  · rw [h, h]

/-! ## Characters -/

theorem isValidChar_of_areScalars {first last : Nat} (h : areScalars first last) (hlow : first ≤ n)
    (hhigh : n ≤ last) : n.isValidChar := by
  rw [areScalars] at h
  rw [Nat.isValidChar]
  omega

theorem toNat_ofNat (h : n.isValidChar) : (Char.ofNat n).toNat = n := by
  rw [Char.ofNat, dif_pos h]
  rfl

theorem toNat_ofNat_of_maps (hr : r ∈ foldRuns) (h : r.Maps n m) :
    (Char.ofNat n).toNat = n ∧ (Char.ofNat m).toNat = m := by
  obtain ⟨-, hpoints, himages⟩ := foldRuns_scalars r hr
  obtain ⟨hlow, hhigh, -, rfl⟩ := h
  have htarget : r.target + (n - r.first) ≤ r.target + (r.last - r.first) :=
    Nat.add_le_add_left (Nat.sub_le_sub_right hhigh _) _
  exact ⟨toNat_ofNat (isValidChar_of_areScalars hpoints hlow hhigh),
    toNat_ofNat (isValidChar_of_areScalars himages (Nat.le_add_right _ _) htarget)⟩

/-- Within ASCII only the capital letters are folded. -/
theorem foldPoint_of_lt (h : n < 128) : foldPoint n = (asciiRun.image? n).getD n := by
  rcases foldPoint_cases n with ⟨r, hr, hmaps⟩ | ⟨hnone, hself⟩
  · rcases foldRuns_beyond_ascii r hr with rfl | ⟨hfirst, -⟩
    · rw [CaseRun.image?_eq_some_iff.mpr hmaps]
      rfl
    · exact absurd (Nat.le_trans hfirst hmaps.1) (Nat.not_le_of_lt h)
  · cases himage : asciiRun.image? n with
    | none => exact hself
    | some m => exact absurd (CaseRun.image?_eq_some_iff.mp himage) (hnone _ (.head _) m)

theorem foldChar_ascii :
    ∀ n < 128, foldChar (Char.ofNat n) = Char.ofNat ((asciiRun.image? n).getD n) := by
  decide

theorem foldChar_eq (c : Char) : foldChar c = Char.ofNat (foldPoint c.toNat) := by
  by_cases hc : c.toNat < 128
  · have hascii := foldChar_ascii c.toNat hc
    rwa [Char.ofNat_toNat, ← foldPoint_of_lt hc] at hascii
  · rw [foldChar, if_neg hc, foldPoint]
    cases foldRuns.findSome? (·.image? c.toNat) with
    | none => exact (Char.ofNat_toNat c).symm
    | some m => rfl

theorem toNat_foldChar (c : Char) : (foldChar c).toNat = foldPoint c.toNat := by
  rw [foldChar_eq]
  rcases foldPoint_cases c.toNat with ⟨r, hr, h⟩ | ⟨-, h⟩
  · exact (toNat_ofNat_of_maps hr h).2
  · rw [h, Char.ofNat_toNat]

@[simp] theorem foldChar_foldChar (c : Char) : foldChar (foldChar c) = foldChar c := by
  rw [foldChar_eq (foldChar c), toNat_foldChar, foldPoint_foldPoint, ← foldChar_eq]

/-- The representative, and all that runs map to it. -/
def classOf (runs : List CaseRun) (c : Char) : List Char :=
  foldChar c :: runs.filterMap fun r => (r.preimage? (foldChar c).toNat).map Char.ofNat

theorem mem_classOf_iff {c d : Char} : d ∈ classOf foldRuns c ↔ foldChar d = foldChar c := by
  rw [classOf, List.mem_cons, List.mem_filterMap]
  constructor
  · rintro (rfl | ⟨r, hr, hd⟩)
    · exact foldChar_foldChar c
    · obtain ⟨n, hn, rfl⟩ := Option.map_eq_some_iff.mp hd
      have hmaps := (CaseRun.preimage?_eq_some_iff (foldRuns_scalars r hr).1).mp hn
      rw [foldChar_eq, (toNat_ofNat_of_maps hr hmaps).1, foldPoint_of_maps hr hmaps,
        Char.ofNat_toNat]
  · intro h
    rcases foldPoint_cases d.toNat with ⟨r, hr, hmaps⟩ | ⟨-, hself⟩
    · refine Or.inr ⟨r, hr, Option.map_eq_some_iff.mpr ⟨d.toNat, ?_, Char.ofNat_toNat d⟩⟩
      rw [CaseRun.preimage?_eq_some_iff (foldRuns_scalars r hr).1, ← h, toNat_foldChar]
      exact hmaps
    · refine Or.inl ?_
      rw [← h, foldChar_eq, hself, Char.ofNat_toNat]

/-- The runs that lead to ASCII. -/
def runsToAscii : List CaseRun :=
  [asciiRun, ⟨0x17F, 0x17F, 1, 0x73⟩, ⟨0x212A, 0x212A, 1, 0x6B⟩]

theorem filter_foldRuns : foldRuns.filter (·.target < 128) = runsToAscii := by decide

theorem classOf_ascii {c : Char} (hc : c.toNat < 128) :
    classOf foldRuns c = classOf runsToAscii c := by
  have hfold : (foldChar c).toNat < 128 := by
    rw [toNat_foldChar, foldPoint_of_lt hc]
    cases himage : asciiRun.image? c.toNat with
    | none => exact hc
    | some m =>
        obtain ⟨-, hhigh, -, rfl⟩ := CaseRun.image?_eq_some_iff.mp himage
        have hhigh : c.toNat ≤ 0x5A := hhigh
        show 0x61 + (c.toNat - 0x41) < 128
        omega
  rw [classOf, classOf, ← filter_foldRuns, List.filterMap_filter]
  refine congrArg _ (List.filterMap_congr fun r _ => ?_)
  split
  · rfl
  · rename_i htarget
    have hnone : r.preimage? (foldChar c).toNat = none := by
      rw [CaseRun.preimage?, if_neg]
      simp only [decide_eq_true_eq] at htarget
      simp only [Bool.and_eq_true, decide_eq_true_eq]
      omega
    rw [hnone]
    rfl

/-- Of ASCII the members are listed by hand. -/
theorem caseVariants_ascii : ((List.range 128).map Char.ofNat).all (fun c =>
    (caseVariants c).all (classOf runsToAscii c).contains &&
      (classOf runsToAscii c).all (caseVariants c).contains) = true := by
  decide

/-- The characters that differ from one only by case are those with the same representative. -/
theorem mem_caseVariants_iff {c d : Char} : d ∈ caseVariants c ↔ foldChar d = foldChar c := by
  rw [← mem_classOf_iff]
  by_cases hc : c.toNat < 128
  · rw [classOf_ascii hc]
    have hmem : c ∈ (List.range 128).map Char.ofNat :=
      List.mem_map.mpr ⟨c.toNat, List.mem_range.mpr hc, Char.ofNat_toNat c⟩
    have hboth := List.all_eq_true.mp caseVariants_ascii c hmem
    rw [Bool.and_eq_true, List.all_eq_true, List.all_eq_true] at hboth
    exact ⟨fun h => List.contains_iff_mem.mp (hboth.1 d h),
      fun h => List.contains_iff_mem.mp (hboth.2 d h)⟩
  · rw [caseVariants, if_neg hc]
    rfl

end SecretScan.Unicode
