import SecretScan.Redaction.Sharing
import Mathlib.Algebra.Order.Group.Nat
import Mathlib.Data.List.Perm.Basic
import Mathlib.Logic.Relation
import Mathlib.Order.WellFounded

/-!
# The cache of a redactor does not show

Whatever a redactor keeps is what its rules make of the text that it is kept under. So an answer
from the cache is the answer that would have been worked out, however many calls share the cache
and however their steps alternate.
-/

namespace SecretScan

namespace Redactor

/-- The answer that rules give for a value, without a cache. -/
def answerBy (rules : List ActiveRule) (v : Json) : Json :=
  (reshape? v (ActiveRule.applyAll rules (keyOf v))).getD
    (.str (String.ofList (ActiveRule.applyAll rules (keyOf v))))

/-! ## The cache as a store -/

theorem mem_of_lookup {key value : List Char} {cache : RedactionCache}
    (h : cache.lookup key = some value) : (key, value) ∈ cache := by
  obtain ⟨front, back, rfl, -⟩ := List.lookup_eq_some_iff.mp h
  exact List.mem_append_right front List.mem_cons_self

theorem mem_put {capacity : Nat} {key value : List Char} {cache : RedactionCache}
    {entry : List Char × List Char} (h : entry ∈ put capacity key value cache) :
    entry = (key, value) ∨ entry ∈ cache := by
  rw [put] at h
  split at h
  · exact Or.inr h
  · split at h
    · rcases List.mem_cons.mp h with rfl | hold
      · exact Or.inl rfl
      · exact Or.inr (List.mem_filter.mp hold).1
    · rcases List.mem_cons.mp h with rfl | hold
      · exact Or.inl rfl
      · split at hold
        · exact Or.inr (List.dropLast_subset cache hold)
        · exact Or.inr hold

theorem length_put_le {capacity : Nat} {key value : List Char} {cache : RedactionCache}
    (h : cache.length ≤ capacity) : (put capacity key value cache).length ≤ capacity := by
  rw [put]
  split
  · exact h
  · rename_i hpos
    split
    -- A key that is there leaves its old place.
    · rename_i hany
      obtain ⟨entry, hentry, hkey⟩ := List.any_eq_true.mp hany
      have hlt : (cache.filter (·.1 ≠ key)).length < cache.length :=
        List.length_filter_lt_length_iff_exists.mpr ⟨entry, hentry, by simpa using hkey⟩
      rw [List.length_cons]
      omega
    · split
      · rw [List.length_cons, List.length_dropLast]
        omega
      · rw [List.length_cons]
        omega

/-! ## What every step keeps -/

/-- A redactor for these rules and of this capacity that keeps nothing but what its rules make of
the keys, and no more than it may. -/
structure Faithful (rules : List ActiveRule) (capacity : Nat) (r : Redactor) : Prop where
  rules_eq : r.rules = rules
  capacity_eq : r.capacity = capacity
  kept : ∀ entry ∈ r.cache, entry.2 = ActiveRule.applyAll rules entry.1
  bounded : r.cache.length ≤ capacity

variable {rules : List ActiveRule} {capacity : Nat} {r s : Redactor} {v : Json}

theorem faithful_new (rules : List ActiveRule) (capacity : Nat) :
    Faithful rules capacity (new rules capacity) :=
  ⟨rfl, rfl, nofun, Nat.zero_le capacity⟩

theorem Faithful.look (h : Faithful rules capacity r) (v : Json) :
    Faithful rules capacity (r.look v).1 := by
  rw [Redactor.look]
  split
  · exact ⟨h.rules_eq, h.capacity_eq, h.kept, h.bounded⟩
  · exact ⟨h.rules_eq, h.capacity_eq, h.kept, h.bounded⟩

/-- An answer that is found is the one that the rules give. -/
theorem Faithful.look_answer (h : Faithful rules capacity r) {w : Json}
    (hlook : (r.look v).2 = some w) : w = answerBy rules v := by
  rw [Redactor.look] at hlook
  split at hlook
  · rename_i cached hcached
    have hkept : cached = ActiveRule.applyAll rules (keyOf v) := h.kept _ (mem_of_lookup hcached)
    have hshape : reshape? v (ActiveRule.applyAll rules (keyOf v)) = some w := by
      rw [← hkept]
      exact hlook
    rw [answerBy, hshape, Option.getD_some]
  · simp at hlook

theorem Faithful.redactFresh (h : Faithful rules capacity r) (v : Json) :
    Faithful rules capacity (r.redactFresh v).1 := by
  rw [Redactor.redactFresh]
  split
  · refine ⟨h.rules_eq, h.capacity_eq, ?_, ?_⟩
    · intro entry hentry
      rcases mem_put hentry with rfl | hold
      · rw [h.rules_eq]
      · exact h.kept entry hold
    · rw [h.capacity_eq]
      exact length_put_le h.bounded
  · exact h

theorem Faithful.redactFresh_answer (h : Faithful rules capacity r) (v : Json) :
    (r.redactFresh v).2 = answerBy rules v := by
  rw [Redactor.redactFresh, answerBy, ← h.rules_eq]
  split
  · rename_i w hw
    rw [hw, Option.getD_some]
  · rename_i hw
    rw [hw, Option.getD_none]

/-- Where an answer is found, nothing more is done; else it is worked out. -/
theorem redact_eq (r : Redactor) (v : Json) :
    (∃ w, r.look v = ((r.redact v).1, some w) ∧ (r.redact v).2 = w) ∨
      ∃ r', r.look v = (r', none) ∧ r'.redactFresh v = r.redact v := by
  rw [Redactor.redact]
  split
  · rename_i r' w hlook
    exact Or.inl ⟨w, hlook, rfl⟩
  · rename_i r' hlook
    exact Or.inr ⟨r', hlook, rfl⟩

theorem Faithful.redact_answer (h : Faithful rules capacity r) (v : Json) :
    (r.redact v).2 = answerBy rules v := by
  rcases redact_eq r v with ⟨w, hlook, hw⟩ | ⟨r', hlook, hfresh⟩
  · rw [hw]
    exact h.look_answer (by rw [hlook])
  · have hmiss := h.look v
    rw [hlook] at hmiss
    rw [← hfresh]
    exact hmiss.redactFresh_answer v

end Redactor

/-! ## Calls -/

namespace RedactionCall

/-- What a call returns from a redactor with these rules and without a cache. -/
def plain (rules : List ActiveRule) (c : RedactionCall) : Redacted := (c.run (.new rules 0)).2

theorem run_eq (r : Redactor) (c : RedactionCall) :
    c.run r = ((r.redact c.input).1, c.answer (r.redact c.input).2) := by
  cases c with
  | value v => rfl
  | text t => rfl

theorem plain_eq (rules : List ActiveRule) (c : RedactionCall) :
    c.plain rules = c.answer (Redactor.answerBy rules c.input) := by
  rw [plain, run_eq, (Redactor.faithful_new rules 0).redact_answer]

theorem map_fst_runAll (r : Redactor) (calls : List RedactionCall) :
    (runAll r calls).2.map Prod.fst = calls := by
  induction calls generalizing r with
  | nil => rfl
  | cons c rest ih => rw [runAll, List.map_cons, ih]

end RedactionCall

/-! ## Calls at the same time -/

namespace Sharing

/-- Calls of a new redactor. -/
def start (rules : List ActiveRule) (capacity : Nat) (calls : List RedactionCall) : Sharing where
  redactor := .new rules capacity
  waiting := calls

/-- The calls in every stage. -/
def calls (s : Sharing) : List RedactionCall :=
  s.waiting ++ (s.working ++ s.returned.map Prod.fst)

/-- A bound for the number of steps that are still to be taken. -/
def work (s : Sharing) : Nat := 2 * s.waiting.length + s.working.length

/-- The redactor is faithful, and every call that has returned has returned what it would have
without a cache. -/
structure Plain (rules : List ActiveRule) (capacity : Nat) (s : Sharing) : Prop where
  faithful : s.redactor.Faithful rules capacity
  returned : ∀ out ∈ s.returned, out.2 = out.1.plain rules

variable {rules : List ActiveRule} {capacity : Nat} {s t : Sharing}

theorem plain_start (rules : List ActiveRule) (capacity : Nat) (calls : List RedactionCall) :
    Plain rules capacity (start rules capacity calls) :=
  ⟨Redactor.faithful_new rules capacity, nofun⟩

theorem Plain.returned_snoc (h : Plain rules capacity s) {c : RedactionCall} {w : Json}
    (hw : w = Redactor.answerBy rules c.input) :
    ∀ out ∈ s.returned ++ [(c, c.answer w)], out.2 = out.1.plain rules := by
  intro out hout
  rcases List.mem_append.mp hout with hold | hnew
  · exact h.returned out hold
  · obtain rfl := List.mem_singleton.mp hnew
    rw [RedactionCall.plain_eq, hw]

theorem Next.plain (hnext : Next s t) (h : Plain rules capacity s) : Plain rules capacity t := by
  cases hnext with
  | @hit before after c r w waiting look =>
      have hlook := h.faithful.look c.input
      have hanswer := h.faithful.look_answer (v := c.input) (w := w) (by rw [look])
      rw [look] at hlook
      exact ⟨hlook, h.returned_snoc hanswer⟩
  | @miss before after c r waiting look =>
      have hlook := h.faithful.look c.input
      rw [look] at hlook
      exact ⟨hlook, h.returned⟩
  | @finish before after c r w working fresh =>
      have hfresh := h.faithful.redactFresh c.input
      have hanswer := h.faithful.redactFresh_answer c.input
      rw [fresh] at hfresh hanswer
      exact ⟨hfresh, h.returned_snoc hanswer⟩

theorem perm_to_end {α : Type} (before after tail : List α) (x : α) :
    (before ++ after ++ (tail ++ [x])).Perm (before ++ x :: after ++ tail) := by
  have hlast : (before ++ after ++ (tail ++ [x])).Perm (x :: (before ++ (after ++ tail))) := by
    simpa only [List.append_assoc] using List.perm_append_singleton x (before ++ after ++ tail)
  have hmiddle : (before ++ x :: (after ++ tail)).Perm (x :: (before ++ (after ++ tail))) :=
    List.perm_middle
  simpa only [List.append_assoc, List.cons_append] using hlast.trans hmiddle.symm

/-- No call is lost or made twice. -/
theorem Next.calls_perm (hnext : Next s t) : t.calls.Perm s.calls := by
  cases hnext with
  | @hit before after c r w waiting look =>
      have hmove := perm_to_end before after (s.working ++ s.returned.map Prod.fst) c
      simpa [calls, waiting] using hmove
  | @miss before after c r waiting look =>
      have hmove := (perm_to_end before after s.working c).append_right (s.returned.map Prod.fst)
      simpa [calls, waiting] using hmove
  | @finish before after c r w working fresh =>
      have hmove := (perm_to_end before after (s.returned.map Prod.fst) c).append_left s.waiting
      simpa [calls, working] using hmove

theorem Next.work_lt (hnext : Next s t) : t.work < s.work := by
  cases hnext with
  | hit waiting look =>
      simp only [work, waiting, List.length_append, List.length_cons]
      omega
  | miss waiting look =>
      simp only [work, waiting, List.length_append, List.length_cons, List.length_nil]
      omega
  | finish working fresh =>
      simp only [work, working, List.length_append, List.length_cons]
      omega

/-- As long as a call has not returned, one of the calls can take a step. -/
theorem isOver_or_exists_next (s : Sharing) : s.IsOver ∨ ∃ t, Next s t := by
  cases hworking : s.working with
  | cons c after =>
      have hworking : s.working = [] ++ c :: after := hworking
      exact Or.inr ⟨_, .finish hworking rfl⟩
  | nil =>
      cases hwaiting : s.waiting with
      | nil => exact Or.inl ⟨hwaiting, hworking⟩
      | cons c after =>
          have hwaiting : s.waiting = [] ++ c :: after := hwaiting
          rcases hlook : s.redactor.look c.input with ⟨r, _ | w⟩
          · exact Or.inr ⟨_, .miss hwaiting hlook⟩
          · exact Or.inr ⟨_, .hit hwaiting hlook⟩

/-! ## Whole schedules -/

theorem Plain.of_reaches (h : Plain rules capacity s) (hreach : Relation.ReflTransGen Next s t) :
    Plain rules capacity t := by
  induction hreach with
  | refl => exact h
  | tail _ hnext ih => exact hnext.plain ih

theorem calls_perm_of_reaches (hreach : Relation.ReflTransGen Next s t) :
    t.calls.Perm s.calls := by
  induction hreach with
  | refl => exact List.Perm.refl _
  | tail _ hnext ih => exact hnext.calls_perm.trans ih

theorem IsOver.calls_eq (h : s.IsOver) : s.calls = s.returned.map Prod.fst := by
  rw [calls, h.1, h.2]
  rfl

theorem not_endless (schedule : ℕ → Sharing) : ¬ ∀ n, Next (schedule n) (schedule (n + 1)) := by
  intro h
  obtain ⟨n, hn⟩ := WellFounded.not_rel_apply_succ (r := (· < ·)) fun n => (schedule n).work
  exact hn (h n).work_lt

/-- A call that is not interrupted does what it does by itself. -/
theorem reaches_run (r : Redactor) (c : RedactionCall) (rest : List RedactionCall)
    (returned : List (RedactionCall × Redacted)) :
    Relation.ReflTransGen Next ⟨r, c :: rest, [], returned⟩
      ⟨(c.run r).1, rest, [], returned ++ [(c, (c.run r).2)]⟩ := by
  let s : Sharing := ⟨r, c :: rest, [], returned⟩
  have hwaiting : s.waiting = [] ++ c :: rest := rfl
  rw [RedactionCall.run_eq]
  rcases Redactor.redact_eq r c.input with ⟨w, hlook, rfl⟩ | ⟨r', hlook, hfresh⟩
  · have hhit := Next.hit hwaiting hlook
    exact Relation.ReflTransGen.single hhit
  · let t : Sharing := ⟨r', rest, [c], returned⟩
    have hmiss : Next s t := .miss hwaiting hlook
    have hworking : t.working = [] ++ c :: [] := rfl
    have hfinish := Next.finish hworking hfresh
    exact (Relation.ReflTransGen.single hmiss).tail hfinish

/-- One call after the other is one of the schedules. -/
theorem reaches_runAll (r : Redactor) (calls : List RedactionCall)
    (returned : List (RedactionCall × Redacted)) :
    Relation.ReflTransGen Next ⟨r, calls, [], returned⟩
      ⟨(RedactionCall.runAll r calls).1, [], [], returned ++ (RedactionCall.runAll r calls).2⟩ := by
  induction calls generalizing r returned with
  | nil =>
      rw [RedactionCall.runAll, List.append_nil]
  | cons c rest ih =>
      have hrest := ih (c.run r).1 (returned ++ [(c, (c.run r).2)])
      rw [List.append_assoc] at hrest
      exact (reaches_run r c rest returned).trans hrest

end Sharing

theorem Redactor.faithful_runAll (rules : List ActiveRule) (capacity : Nat)
    (calls : List RedactionCall) :
    Redactor.Faithful rules capacity (RedactionCall.runAll (.new rules capacity) calls).1 :=
  ((Sharing.plain_start rules capacity calls).of_reaches
    (Sharing.reaches_runAll _ calls [])).faithful

/-! ## The cache does not show -/

/-- With a cache of any size every call returns what it would without one: if calls come one after
the other, and if they come at the same time and their steps alternate in any way. The cache never
holds more than it may, and every call does return. -/
theorem cache_does_not_show (rules : List ActiveRule) (capacity : Nat)
    (calls : List RedactionCall) :
    let alone := RedactionCall.runAll (.new rules capacity) calls
    let start := Sharing.start rules capacity calls
    (alone.2 = calls.map (fun c => (c, c.plain rules)) ∧ alone.1.cache.length ≤ capacity) ∧
    (∀ s, Relation.ReflTransGen Sharing.Next start s →
      s.redactor.cache.length ≤ capacity ∧
      (∀ out ∈ s.returned, out.2 = out.1.plain rules) ∧
      (s.IsOver ∨ ∃ t, Sharing.Next s t) ∧
      (s.IsOver → (s.returned.map Prod.fst).Perm calls)) ∧
    ∀ schedule : ℕ → Sharing, schedule 0 = start →
      ¬ ∀ n, Sharing.Next (schedule n) (schedule (n + 1)) := by
  intro alone start
  have hplain : start.Plain rules capacity := Sharing.plain_start rules capacity calls
  refine ⟨?_, ?_, fun schedule _ => Sharing.not_endless schedule⟩
  · have halone := hplain.of_reaches (Sharing.reaches_runAll (.new rules capacity) calls [])
    have houts : ∀ out ∈ alone.2, id out = (out.1, out.1.plain rules) := by
      intro out hout
      exact Prod.ext rfl (halone.returned out hout)
    refine ⟨?_, halone.faithful.bounded⟩
    calc
      alone.2 = alone.2.map id := (List.map_id alone.2).symm
      _ = alone.2.map fun out => (out.1, out.1.plain rules) := List.map_congr_left houts
      _ = (alone.2.map Prod.fst).map fun c => (c, c.plain rules) := by
        rw [List.map_map]
        rfl
      _ = calls.map fun c => (c, c.plain rules) := by rw [RedactionCall.map_fst_runAll]
  · intro s hs
    have hs' := hplain.of_reaches hs
    refine ⟨hs'.faithful.bounded, hs'.returned, s.isOver_or_exists_next, ?_⟩
    intro hover
    have hperm := Sharing.calls_perm_of_reaches hs
    rw [hover.calls_eq] at hperm
    simpa [start, Sharing.start, Sharing.calls] using hperm

end SecretScan
