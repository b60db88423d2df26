import SecretScan.Pattern.CharSet

/-!
# Sets within sets

Whether a small set of characters lies within another one is decided by listing its members. Only
the letters `k` and `s` of ASCII differ merely by case from characters beyond it.
-/

namespace SecretScan

namespace Unicode

/-- The case folding of ASCII. -/
def asciiRun : CaseRun := ⟨0x41, 0x5A, 1, 0x61⟩

/-- All other runs lie beyond ASCII, and so do their images but for the folded forms of two
characters. -/
theorem foldRuns_beyond_ascii : ∀ r ∈ foldRuns, r = asciiRun ∨ 128 ≤ r.first ∧
    (128 ≤ r.target ∨ r.last = r.first ∧ (r.target = 'k'.toNat ∨ r.target = 's'.toNat)) := by
  decide +kernel

/-- Is a character beyond ASCII, or one of the few that differ by case from such a one? The last is
what stands for a code point that is none. -/
def BeyondAscii (c : Char) : Prop := 128 ≤ c.toNat ∨ c ∈ ['k', 's', 'K', 'S', '\x00']

instance (c : Char) : Decidable (BeyondAscii c) :=
  inferInstanceAs (Decidable (128 ≤ c.toNat ∨ c ∈ ['k', 's', 'K', 'S', '\x00']))

theorem beyondAscii_ofNat {n : Nat} (h : 128 ≤ n) : BeyondAscii (Char.ofNat n) := by
  by_cases hvalid : n.isValidChar
  · exact Or.inl (by rw [Char.ofNat, dif_pos hvalid]; exact h)
  · have hnull : Char.ofNat n = '\x00' := dif_neg hvalid
    rw [hnull]
    decide

theorem beyondAscii_image {r : CaseRun} (hr : r ∈ foldRuns) {m n : Nat} (hm : 128 ≤ m)
    (h : r.image? m = some n) : BeyondAscii (Char.ofNat n) := by
  rw [CaseRun.image?, Option.ite_none_right_eq_some] at h
  obtain ⟨hin, himage⟩ := h
  obtain rfl := Option.some.inj himage
  simp only [Bool.and_eq_true, decide_eq_true_eq] at hin
  rcases foldRuns_beyond_ascii r hr with rfl | ⟨-, hbeyond | ⟨hlast, htarget⟩⟩
  · exact absurd hin.1.2 (Nat.not_le.mpr (Nat.lt_of_lt_of_le (by decide) hm))
  · exact beyondAscii_ofNat (by omega)
  · have hzero : m - r.first = 0 := by omega
    rw [hzero]
    rcases htarget with hk | hs
    · rw [hk]
      decide
    · rw [hs]
      decide

theorem beyondAscii_preimage {r : CaseRun} (hr : r ∈ foldRuns) {c : Char} (hc : BeyondAscii c)
    {n : Nat} (h : r.preimage? c.toNat = some n) : BeyondAscii (Char.ofNat n) := by
  rcases foldRuns_beyond_ascii r hr with rfl | ⟨hfirst, -⟩
  · rcases hc with hc | hc
    · rw [CaseRun.preimage?, Option.ite_none_right_eq_some] at h
      simp only [Bool.and_eq_true, decide_eq_true_eq] at h
      have htop : asciiRun.target = 97 := rfl
      have hspan : asciiRun.last - asciiRun.first = 25 := rfl
      omega
    · have hall : ['k', 's', 'K', 'S', '\x00'].all (fun c => (asciiRun.preimage? c.toNat).all
          fun n => decide (BeyondAscii (Char.ofNat n))) = true := by
        decide
      exact of_decide_eq_true
        (Option.all_eq_true _ _ |>.mp (List.all_eq_true.mp hall c hc) n h)
  · rw [CaseRun.preimage?, Option.ite_none_right_eq_some] at h
    obtain rfl := Option.some.inj h.2
    exact beyondAscii_ofNat (by omega)

/-- What differs only by case from a character beyond ASCII is beyond it too, or one of the few. -/
theorem beyondAscii_of_mem_caseVariants {c d : Char} (hc : 128 ≤ c.toNat)
    (hd : d ∈ caseVariants c) : BeyondAscii d := by
  have hfold : BeyondAscii (foldChar c) := by
    rw [foldChar, if_neg (Nat.not_lt.mpr hc)]
    cases hfind : foldRuns.findSome? (·.image? c.toNat) with
    | none => exact Or.inl hc
    | some n =>
        obtain ⟨r, hr, himage⟩ := List.exists_of_findSome?_eq_some hfind
        exact beyondAscii_image hr hc himage
  rw [caseVariants, if_neg (Nat.not_lt.mpr hc)] at hd
  rcases List.mem_cons.mp hd with rfl | hrun
  · exact hfold
  · obtain ⟨r, hr, hpre⟩ := List.mem_filterMap.mp hrun
    obtain ⟨n, hn, rfl⟩ := Option.map_eq_some_iff.mp hpre
    exact beyondAscii_preimage hr hfold hn

end Unicode

namespace CharSet

open Unicode

/-- So many characters, with the code points from one on. -/
def charsFrom (low count : Nat) : List Char := (List.range' low count).map Char.ofNat

theorem mem_charsFrom {low count : Nat} {c : Char} (hlow : low ≤ c.toNat)
    (hhigh : c.toNat < low + count) : c ∈ charsFrom low count :=
  List.mem_map.mpr ⟨c.toNat, List.mem_range'_1.mpr ⟨hlow, hhigh⟩, Char.ofNat_toNat c⟩

/-- Do all members of a set belong to another one, as far as they can be listed? -/
def within : CharSet → CharSet → Bool
  | single c, g => g.mem c
  | range low high, g => (charsFrom low.toNat (high.toNat + 1 - low.toNat)).all g.mem
  | union a b, g => a.within g && b.within g
  | ignoreCase (single c), g => decide (¬ BeyondAscii c) &&
      ((charsFrom 0 128).filter fun d => (caseVariants d).contains c).all g.mem
  | _, _ => false

theorem mem_of_within {s g : CharSet} {c : Char} (h : s.within g = true) (hc : s.mem c = true) :
    g.mem c = true := by
  induction s with
  | single d =>
      obtain rfl := beq_iff_eq.mp hc
      exact h
  | range low high =>
      obtain ⟨hlow, hhigh⟩ := Bool.and_eq_true_iff.mp hc
      have hlow : low.toNat ≤ c.toNat := of_decide_eq_true hlow
      have hhigh : c.toNat ≤ high.toNat := of_decide_eq_true hhigh
      exact List.all_eq_true.mp h c (mem_charsFrom hlow (by omega))
  | union a b iha ihb =>
      obtain ⟨ha, hb⟩ := Bool.and_eq_true_iff.mp h
      exact (Bool.or_eq_true_iff.mp hc).elim (iha ha) (ihb hb)
  | ignoreCase s _ =>
      cases s with
      | single d =>
          obtain ⟨hd, hall⟩ := Bool.and_eq_true_iff.mp h
          obtain ⟨e, he, hed⟩ := List.any_eq_true.mp hc
          obtain rfl := beq_iff_eq.mp hed
          have hascii : c.toNat < 128 := Nat.lt_of_not_le fun hbeyond =>
            of_decide_eq_true hd (beyondAscii_of_mem_caseVariants hbeyond he)
          refine List.all_eq_true.mp hall c (List.mem_filter.mpr ⟨?_, ?_⟩)
          · exact mem_charsFrom (Nat.zero_le _) (by omega)
          · exact List.contains_iff_mem.mpr he
      | _ => cases h
  | _ => cases h

end CharSet

end SecretScan
