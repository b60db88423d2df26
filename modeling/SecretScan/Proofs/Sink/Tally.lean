import SecretScan.Sink
import SecretScan.Proofs.Json.Members
import Mathlib.Algebra.BigOperators.Group.List.Basic
import Mathlib.Algebra.GroupWithZero.Nat

/-!
# The totals of a sink

The totals are kept by hand, one finding at a time. They are what can be counted in the findings: a
list of counts in the order of the names, with a count for every name that occurs, is determined by
the findings, whatever their order.
-/

namespace SecretScan

namespace Sink

/-! ## Counts by name -/

theorem countUp_cons (name n : String) (k : Nat) (counts : List (String × Nat)) :
    countUp name ((n, k) :: counts) =
      if name < n then (name, (((n, k) :: counts).lookup name).getD 0 + 1) :: (n, k) :: counts
      else if name = n then (name, k + 1) :: counts
      else (n, k) :: countUp name counts := by
  unfold countUp
  rw [Json.insertMember]
  split
  · rfl
  · split
    · rename_i heq
      simp [heq]
    · rename_i hne
      simp [List.lookup_cons, beq_eq_false_iff_ne.mpr hne]

/-- Counting adds one to the sum. -/
theorem sum_countUp {counts : List (String × Nat)} (h : Json.Sorted counts) (name : String) :
    ((countUp name counts).map Prod.snd).sum = (counts.map Prod.snd).sum + 1 := by
  induction counts with
  | nil => rfl
  | cons first rest ih =>
      obtain ⟨n, k⟩ := first
      rw [countUp_cons]
      split
      · rename_i hlt
        have hnone : ((n, k) :: rest).lookup name = none := by
          refine List.lookup_eq_none_iff.mpr fun m hm => ?_
          have hm : n ≤ m.1 := by
            rcases List.mem_cons.mp hm with rfl | hm
            · exact le_rfl
            · exact ((List.pairwise_cons.mp h).1 m hm).le
          simpa using (hlt.trans_le hm).ne
        simp [hnone, Nat.add_comm]
      · split
        · simp [Nat.add_right_comm]
        · simp [ih h.tail, Nat.add_assoc]

/-- After counting a name, its count is one more, and the other counts are as before. -/
theorem mem_countUp {counts : List (String × Nat)} (h : Json.Sorted counts) {name n : String}
    {k : Nat} : (n, k) ∈ countUp name counts ↔
      (n = name ∧ k = (counts.lookup name).getD 0 + 1) ∨ (n ≠ name ∧ (n, k) ∈ counts) := by
  rw [countUp, Json.mem_insertMember h, Prod.mk.injEq, and_comm (a := (n, k) ∈ counts)]

/-! ## Several findings -/

@[simp] theorem options_emit (s : Sink) (f : Finding) : (s.emit f).options = s.options := rfl

theorem emitAll_cons (s : Sink) (f : Finding) (fs : List Finding) :
    s.emitAll (f :: fs) = (s.emit f).emitAll fs := rfl

theorem emitAll_append (s : Sink) (fs gs : List Finding) :
    s.emitAll (fs ++ gs) = (s.emitAll fs).emitAll gs :=
  List.foldl_append

theorem presented_emitAll (s : Sink) (fs : List Finding) :
    (s.emitAll fs).presented = s.presented ++ fs.map s.viewOf := by
  induction fs generalizing s with
  | nil => simp [emitAll]
  | cons f fs ih =>
      rw [emitAll_cons, ih]
      simp [presented, emit, viewOf]

theorem findings_emitAll (s : Sink) (fs : List Finding) :
    (s.emitAll fs).findings = s.findings ++ fs.map (kept s.options) := by
  induction fs generalizing s with
  | nil => simp [emitAll]
  | cons f fs ih =>
      rw [emitAll_cons, ih]
      simp [emit]

/-! ## Totals and findings -/

/-- How many of several findings a detector has made. -/
def madeBy (fs : List Finding) (detector : String) : Nat :=
  fs.countP fun f => f.hit.detector == detector

/-- What is counted of a finding. -/
def counted (f : Finding) : String × Bool := (f.hit.detector, f.hit.verified)

theorem counted_present (o : SinkOptions) (f : Finding) : counted (present o f) = counted f := by
  rw [present]
  split <;> rfl

end Sink

namespace Summary

/-- The totals of a summary are what can be counted in the findings. -/
structure Tallies (s : Summary) (fs : List Finding) : Prop where
  total_eq_length : s.total = fs.length
  total_eq_add : s.total = s.verified + s.unverified
  total_eq_sum : s.total = (s.byDetector.map Prod.snd).sum
  verified : s.verified = fs.countP fun f => f.hit.verified
  sorted : Json.Sorted s.byDetector
  mem_byDetector : ∀ name n, (name, n) ∈ s.byDetector ↔ n = Sink.madeBy fs name ∧ 0 < n

/-- The counts of a summary. -/
def counts (s : Summary) : Nat × Nat × Nat × List (String × Nat) :=
  (s.total, s.verified, s.unverified, s.byDetector)

namespace Tallies

variable {s : Summary} {fs : List Finding}

theorem lookup_byDetector (h : s.Tallies fs) (name : String) :
    (s.byDetector.lookup name).getD 0 = Sink.madeBy fs name := by
  cases hlookup : s.byDetector.lookup name with
  | some n =>
      exact ((h.mem_byDetector name n).mp (h.sorted.distinctNames.lookup_eq_some_iff.mp hlookup)).1
  | none =>
      by_contra hne
      have hpos : 0 < Sink.madeBy fs name := Nat.pos_of_ne_zero (Ne.symm hne)
      have hmem := (h.mem_byDetector name _).mpr ⟨rfl, hpos⟩
      rw [h.sorted.distinctNames.lookup_eq_some_iff.mpr hmem] at hlookup
      cases hlookup

/-- The order of the findings does not count, nor what else they say. -/
theorem of_perm {gs : List Finding} (h : s.Tallies fs)
    (hperm : (fs.map Sink.counted).Perm (gs.map Sink.counted)) : s.Tallies gs where
  total_eq_length := by
    rw [h.total_eq_length]
    simpa using hperm.length_eq
  total_eq_add := h.total_eq_add
  total_eq_sum := h.total_eq_sum
  verified := by
    have hcount := hperm.countP_eq (·.2)
    rw [List.countP_map, List.countP_map] at hcount
    exact h.verified.trans hcount
  sorted := h.sorted
  mem_byDetector := by
    intro name n
    have hcount := hperm.countP_eq (·.1 == name)
    rw [List.countP_map, List.countP_map] at hcount
    have hmade : Sink.madeBy fs name = Sink.madeBy gs name := hcount
    rw [h.mem_byDetector, hmade]

/-- The findings determine the counts. -/
theorem counts_eq {t : Summary} (h : s.Tallies fs) (ht : t.Tallies fs) : s.counts = t.counts := by
  have htotal : s.total = t.total := h.total_eq_length.trans ht.total_eq_length.symm
  have hverified : s.verified = t.verified := h.verified.trans ht.verified.symm
  have hunverified : s.unverified = t.unverified := by
    have := h.total_eq_add
    have := ht.total_eq_add
    omega
  have hbyDetector : s.byDetector = t.byDetector := by
    refine h.sorted.ext ht.sorted fun ⟨name, n⟩ => ?_
    rw [h.mem_byDetector, ht.mem_byDetector]
  rw [counts, counts, htotal, hverified, hunverified, hbyDetector]

end Tallies

end Summary

namespace Sink

variable {s : Sink} {startedAt : Timestamp} {now : Nat}

theorem tallies_new (o : SinkOptions) (startedAt : Timestamp) (now : Nat) :
    (({ options := o } : Sink).summary startedAt now).Tallies [] where
  total_eq_length := rfl
  total_eq_add := rfl
  total_eq_sum := rfl
  verified := rfl
  sorted := .nil
  mem_byDetector := by
    intro name n
    simp [madeBy, summary]

theorem tallies_start (h : (s.summary startedAt now).Tallies s.findings) (moment : Nat) :
    ((s.start moment).summary startedAt now).Tallies (s.start moment).findings :=
  ⟨h.1, h.2, h.3, h.4, h.5, h.6⟩

theorem tallies_finish (h : (s.summary startedAt now).Tallies s.findings) (moment : Nat) :
    ((s.finish moment).summary startedAt now).Tallies (s.finish moment).findings :=
  ⟨h.1, h.2, h.3, h.4, h.5, h.6⟩

theorem tallies_emit (h : (s.summary startedAt now).Tallies s.findings) (f : Finding) :
    ((s.emit f).summary startedAt now).Tallies (s.emit f).findings where
  total_eq_length := rfl
  total_eq_add := by
    have hadd : s.findings.length = s.verified + s.unverified := h.total_eq_add
    cases hv : f.hit.verified <;> simp [summary, emit, kept, hv, hadd] <;> omega
  total_eq_sum := by
    have hsorted : Json.Sorted s.byDetector := h.sorted
    have hsum : s.findings.length = (s.byDetector.map Prod.snd).sum := h.total_eq_sum
    change (s.findings ++ [kept s.options f]).length =
      ((countUp f.hit.detector s.byDetector).map Prod.snd).sum
    rw [sum_countUp hsorted, List.length_append, List.length_singleton, hsum]
  verified := by
    have hverified : s.verified = s.findings.countP fun f => f.hit.verified := h.verified
    cases hv : f.hit.verified <;> simp [summary, emit, kept, hv, hverified]
  sorted := Json.sorted_insertMember h.sorted
  mem_byDetector := by
    intro name n
    have hmade : madeBy (s.emit f).findings name =
        madeBy s.findings name + if f.hit.detector = name then 1 else 0 := by
      simp [madeBy, emit, kept, List.countP_append, List.countP_cons]
    have hlookup : (s.byDetector.lookup f.hit.detector).getD 0 = madeBy s.findings f.hit.detector :=
      h.lookup_byDetector f.hit.detector
    have hmem : (name, n) ∈ s.byDetector ↔ n = madeBy s.findings name ∧ 0 < n :=
      h.mem_byDetector name n
    have hsorted : Json.Sorted s.byDetector := h.sorted
    change (name, n) ∈ countUp f.hit.detector s.byDetector ↔ _
    rw [mem_countUp hsorted, hmade, hlookup, hmem]
    by_cases hname : name = f.hit.detector
    · subst hname
      simp
      omega
    · simp [hname, Ne.symm hname]

theorem tallies_emitAll (h : (s.summary startedAt now).Tallies s.findings) (fs : List Finding) :
    ((s.emitAll fs).summary startedAt now).Tallies (s.emitAll fs).findings := by
  induction fs generalizing s with
  | nil => exact h
  | cons f fs ih => exact ih (tallies_emit h f)

/-- The totals are those of the findings as they are shown, too. -/
theorem tallies_presented (h : (s.summary startedAt now).Tallies s.findings) :
    (s.summary startedAt now).Tallies s.presented := by
  refine h.of_perm (.of_eq ?_)
  rw [presented, List.map_map]
  exact List.map_congr_left fun f _ => (counted_present s.options f).symm

end Sink

end SecretScan
