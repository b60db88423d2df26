import SecretScan.Proofs.Redaction.Cache

/-!
# The cache as a queue

A call puts its key into the cache if the key is not there and what has been worked out can be kept.
A call that finds its key changes nothing but a count. So the cache is the end of the list of all
keys that were ever put in: what leaves it is what has been in it longest, however often it was
asked for.
-/

namespace SecretScan

namespace Redactor

/-- The keys of the results that a redactor holds, the latest first. -/
def held (r : Redactor) : List (List Char) := r.cache.map Prod.fst

/-- A redacted text can be given in the shape of a value: always for a string, else if it can be
read. -/
def Fits (v : Json) (redacted : List Char) : Prop :=
  (∃ s, v = .str s) ∨ (Json.parse? redacted).isSome = true

theorem isSome_reshape?_iff {v : Json} {redacted : List Char} :
    (reshape? v redacted).isSome = true ↔ Fits v redacted := by
  cases v with
  | str s => exact iff_of_true rfl (Or.inl ⟨s, rfl⟩)
  | _ => exact ⟨Or.inr, fun h => h.elim (fun ⟨_, hstr⟩ => nomatch hstr) id⟩

variable {rules : List ActiveRule} {capacity : Nat} {r s : Redactor} {v : Json}
  {key value : List Char}

theorem mem_held_of_lookup {cache : RedactionCache} (h : cache.lookup key = some value) :
    key ∈ cache.map Prod.fst :=
  List.mem_map.mpr ⟨(key, value), mem_of_lookup h, rfl⟩

theorem exists_lookup_of_mem_held {cache : RedactionCache} (h : key ∈ cache.map Prod.fst) :
    ∃ value, cache.lookup key = some value := by
  refine Option.ne_none_iff_exists'.mp fun hnone => ?_
  obtain ⟨entry, hentry, rfl⟩ := List.mem_map.mp h
  simpa using List.lookup_eq_none_iff.mp hnone entry hentry

/-- A new key goes to the head, and what is beyond the capacity leaves at the end. -/
theorem put_of_not_mem {cache : RedactionCache} (hkey : key ∉ cache.map Prod.fst)
    (hbound : cache.length ≤ capacity) :
    put capacity key value cache = ((key, value) :: cache).take capacity := by
  have hnone : ¬ cache.any (·.1 = key) = true := by
    intro hany
    obtain ⟨entry, hentry, heq⟩ := List.any_eq_true.mp hany
    exact hkey (List.mem_map.mpr ⟨entry, hentry, of_decide_eq_true heq⟩)
  cases capacity with
  | zero =>
      obtain rfl := List.eq_nil_of_length_eq_zero (Nat.le_zero.mp hbound)
      rfl
  | succ capacity =>
      rw [put, if_neg (Nat.succ_ne_zero capacity), if_neg hnone, List.take_succ_cons]
      split
      · have hfull : cache.length - 1 = capacity := by omega
        rw [List.dropLast_eq_take, hfull]
      · rw [List.take_of_length_le (by omega)]

/-! ## What a call does -/

/-- What a call can do to a redactor: find its key, put it in, or neither. -/
inductive Effect (rules : List ActiveRule) (capacity : Nat) (v : Json) (r : Redactor) :
    Redactor → Prop
  | found (held : keyOf v ∈ r.held) : Effect rules capacity v r { r with hits := r.hits + 1 }
  | kept (held : keyOf v ∉ r.held) (fits : Fits v (ActiveRule.applyAll rules (keyOf v))) :
      Effect rules capacity v r { r with
        misses := r.misses + 1
        cache := ((keyOf v, ActiveRule.applyAll rules (keyOf v)) :: r.cache).take capacity }
  | unkept (held : keyOf v ∉ r.held) (unfit : ¬ Fits v (ActiveRule.applyAll rules (keyOf v))) :
      Effect rules capacity v r { r with misses := r.misses + 1 }

theorem Faithful.effect (h : Faithful rules capacity r) (v : Json) :
    Effect rules capacity v r (r.redact v).1 := by
  obtain rfl := h.rules_eq
  obtain rfl := h.capacity_eq
  have hfits := @isSome_reshape?_iff v (ActiveRule.applyAll r.rules (keyOf v))
  by_cases hheld : keyOf v ∈ r.held
  · obtain ⟨cached, hcached⟩ := exists_lookup_of_mem_held hheld
    obtain rfl : cached = ActiveRule.applyAll r.rules (keyOf v) := h.kept _ (mem_of_lookup hcached)
    -- What does not fit when it is found does not fit either when it is worked out again.
    have hsame : (r.redact v).1 = { r with hits := r.hits + 1 } := by
      cases hshape : reshape? v (ActiveRule.applyAll r.rules (keyOf v)) <;>
        simp only [redact, Redactor.look, Redactor.redactFresh, hcached, hshape]
    exact hsame ▸ .found hheld
  · have hnone : r.cache.lookup (keyOf v) = none :=
      Option.eq_none_iff_forall_ne_some.mpr fun value hvalue => hheld (mem_held_of_lookup hvalue)
    cases hshape : reshape? v (ActiveRule.applyAll r.rules (keyOf v)) with
    | some w =>
        have hput : (r.redact v).1 = { r with
            misses := r.misses + 1
            cache := ((keyOf v, ActiveRule.applyAll r.rules (keyOf v)) :: r.cache).take
              r.capacity } := by
          simp only [redact, Redactor.look, Redactor.redactFresh, hnone, hshape,
            put_of_not_mem hheld h.bounded]
        exact hput ▸ .kept hheld (hfits.mp (by rw [hshape]; rfl))
    | none =>
        have hsame : (r.redact v).1 = { r with misses := r.misses + 1 } := by
          simp only [redact, Redactor.look, Redactor.redactFresh, hnone, hshape]
        exact hsame ▸ .unkept hheld fun hfit => by simpa [hshape] using hfits.mpr hfit

theorem Effect.faithful (h : Effect rules capacity v r s) (hr : Faithful rules capacity r) :
    Faithful rules capacity s := by
  cases h with
  | found _ => exact ⟨hr.rules_eq, hr.capacity_eq, hr.kept, hr.bounded⟩
  | unkept _ _ => exact ⟨hr.rules_eq, hr.capacity_eq, hr.kept, hr.bounded⟩
  | kept _ _ =>
      refine ⟨hr.rules_eq, hr.capacity_eq, fun entry hentry => ?_, List.length_take_le _ _⟩
      rcases List.mem_cons.mp (List.mem_of_mem_take hentry) with rfl | hold
      · rfl
      · exact hr.kept entry hold

theorem Effect.counts (h : Effect rules capacity v r s) :
    s.hits = r.hits + (if keyOf v ∈ r.held then 1 else 0) ∧
      s.misses = r.misses + (if keyOf v ∈ r.held then 0 else 1) := by
  cases h with
  | found held => rw [if_pos held, if_pos held]; exact ⟨rfl, rfl⟩
  | kept held _ => rw [if_neg held, if_neg held]; exact ⟨rfl, rfl⟩
  | unkept held _ => rw [if_neg held, if_neg held]; exact ⟨rfl, rfl⟩

theorem Effect.cache_eq_of_held (h : Effect rules capacity v r s) (hheld : keyOf v ∈ r.held) :
    s.cache = r.cache := by
  cases h with
  | found _ => rfl
  | kept held _ => exact absurd hheld held
  | unkept held _ => exact absurd hheld held

/-- The cache changes just if the key is put in, and then the key stands at its head. -/
theorem Effect.cache_ne_iff (h : Effect rules capacity v r s)
    (hbound : r.cache.length ≤ capacity) :
    s.cache ≠ r.cache ↔
      0 < capacity ∧ keyOf v ∉ r.held ∧ Fits v (ActiveRule.applyAll rules (keyOf v)) := by
  cases h with
  | found held => exact iff_of_false (fun h => h rfl) fun h => h.2.1 held
  | unkept held unfit => exact iff_of_false (fun h => h rfl) fun h => unfit h.2.2
  | kept held fits =>
      refine ⟨fun hne => ⟨Nat.pos_of_ne_zero ?_, held, fits⟩, ?_⟩
      · rintro rfl
        exact hne (List.eq_nil_of_length_eq_zero (Nat.le_zero.mp hbound)).symm
      · rintro ⟨hpos, -, -⟩ heq
        obtain ⟨n, rfl⟩ := Nat.exists_eq_succ_of_ne_zero hpos.ne'
        have hhead : (keyOf v, ActiveRule.applyAll rules (keyOf v)) ∈ r.cache := by
          rw [← heq]
          exact List.mem_cons_self
        exact held (List.mem_map.mpr ⟨_, hhead, rfl⟩)

theorem Effect.cache_eq_of_ne (h : Effect rules capacity v r s) (hne : s.cache ≠ r.cache) :
    s.cache = ((keyOf v, ActiveRule.applyAll rules (keyOf v)) :: r.cache).take capacity := by
  cases h with
  | found _ => exact absurd rfl hne
  | kept _ _ => rfl
  | unkept _ _ => exact absurd rfl hne

/-- A key that is put in pushes out the one held longest, if there are as many as may be. -/
theorem Effect.held_eq_of_ne (h : Effect rules capacity v r s) (hbound : r.cache.length ≤ capacity)
    (hne : s.cache ≠ r.cache) :
    s.held = keyOf v :: if r.held.length < capacity then r.held else r.held.dropLast := by
  obtain ⟨hpos, -, -⟩ := (h.cache_ne_iff hbound).mp hne
  obtain ⟨n, rfl⟩ := Nat.exists_eq_succ_of_ne_zero hpos.ne'
  have hlength : r.held.length = r.cache.length := List.length_map _
  rw [held, h.cache_eq_of_ne hne, List.map_take, List.map_cons, List.take_succ_cons]
  change keyOf v :: r.held.take n = _
  split
  · rw [List.take_of_length_le (by omega)]
  · have hfull : r.held.length - 1 = n := by omega
    rw [List.dropLast_eq_take, hfull]

/-- What a call does to the cache does not depend on the counts. -/
theorem Effect.cache_eq {r' s' : Redactor} (h : Effect rules capacity v r s)
    (h' : Effect rules capacity v r' s') (heq : r.cache = r'.cache) : s.cache = s'.cache := by
  have hheld : r.held = r'.held := congrArg (List.map Prod.fst) heq
  cases h with
  | found held => rw [h'.cache_eq_of_held (hheld ▸ held), heq]
  | kept held fits =>
      cases h' with
      | found held' => exact absurd (hheld ▸ held') held
      | kept _ _ => rw [heq]
      | unkept _ unfit => exact absurd fits unfit
  | unkept held unfit =>
      cases h' with
      | found held' => exact absurd (hheld ▸ held') held
      | kept _ fits => exact absurd fits unfit
      | unkept _ _ => exact heq

/-! ## Calls one after the other -/

/-- The results for the last of these keys, as many as may be kept, the latest first. -/
def latest (rules : List ActiveRule) (capacity : Nat) (keys : List (List Char)) : RedactionCache :=
  (keys.reverse.map fun key => (key, ActiveRule.applyAll rules key)).take capacity

theorem latest_snoc (rules : List ActiveRule) (capacity : Nat) (keys : List (List Char))
    (key : List Char) :
    latest rules capacity (keys ++ [key]) =
      ((key, ActiveRule.applyAll rules key) :: latest rules capacity keys).take capacity := by
  rw [latest, latest, List.reverse_concat, List.map_cons]
  cases capacity with
  | zero => rfl
  | succ n =>
      rw [List.take_succ_cons, List.take_succ_cons, List.take_take, Nat.min_eq_left (Nat.le_succ n)]

theorem reverse_latest (rules : List ActiveRule) (capacity : Nat) (keys : List (List Char)) :
    (latest rules capacity keys).reverse =
      (keys.drop (keys.length - min capacity keys.length)).map fun key =>
        (key, ActiveRule.applyAll rules key) := by
  have hlength : keys.length - min capacity keys.length = keys.length - capacity := by omega
  rw [latest, ← List.map_take, List.take_reverse, ← List.map_reverse, List.reverse_reverse, hlength]

end Redactor

namespace RedactionCall

open Redactor

/-- The key of what a call redacts. -/
def key (c : RedactionCall) : List Char := keyOf c.input

/-- Does a call put its key into the cache, so that the cache is not the same after it? -/
def Inserts (r : Redactor) (c : RedactionCall) : Prop := (c.run r).1.cache ≠ r.cache

instance (r : Redactor) (c : RedactionCall) : Decidable (c.Inserts r) :=
  inferInstanceAs (Decidable ((c.run r).1.cache ≠ r.cache))

/-- The keys that calls one after the other put into the cache, the earliest first. -/
def inserted (r : Redactor) : List RedactionCall → List (List Char)
  | [] => []
  | c :: rest => (if c.Inserts r then [c.key] else []) ++ inserted (c.run r).1 rest

variable {rules : List ActiveRule} {capacity : Nat} {r s : Redactor}

theorem effect (h : Faithful rules capacity r) (c : RedactionCall) :
    Effect rules capacity c.input r (c.run r).1 := by
  rw [run_eq]
  exact h.effect c.input

theorem faithful_run (h : Faithful rules capacity r) (c : RedactionCall) :
    Faithful rules capacity (c.run r).1 :=
  (c.effect h).faithful h

theorem latest_run (h : Faithful rules capacity r) {keys : List (List Char)}
    (hcache : r.cache = latest rules capacity keys) (c : RedactionCall) :
    (c.run r).1.cache =
      latest rules capacity (keys ++ if c.Inserts r then [c.key] else []) := by
  by_cases hc : c.Inserts r
  · rw [if_pos hc, latest_snoc, ← hcache]
    exact (c.effect h).cache_eq_of_ne hc
  · rw [if_neg hc, List.append_nil, ← hcache]
    exact not_not.mp hc

/-- The cache is the end of the list of all keys that were put in. -/
theorem latest_runAll (h : Faithful rules capacity r) {keys : List (List Char)}
    (hcache : r.cache = latest rules capacity keys) (calls : List RedactionCall) :
    (runAll r calls).1.cache = latest rules capacity (keys ++ inserted r calls) := by
  induction calls generalizing r keys with
  | nil => rw [inserted, List.append_nil]; exact hcache
  | cons c rest ih =>
      rw [inserted, ← List.append_assoc]
      exact ih (faithful_run h c) (latest_run h hcache c)

theorem counts_runAll (h : Faithful rules capacity r) (calls : List RedactionCall) :
    (runAll r calls).1.hits + (runAll r calls).1.misses = r.hits + r.misses + calls.length := by
  induction calls generalizing r with
  | nil => rfl
  | cons c rest ih =>
      have hone : (c.run r).1.hits + (c.run r).1.misses = r.hits + r.misses + 1 := by
        obtain ⟨hhits, hmisses⟩ := (c.effect h).counts
        rw [hhits, hmisses]
        split <;> omega
      calc
        (runAll r (c :: rest)).1.hits + (runAll r (c :: rest)).1.misses =
            (c.run r).1.hits + (c.run r).1.misses + rest.length := ih (faithful_run h c)
        _ = r.hits + r.misses + (c :: rest).length := by rw [hone, List.length_cons]; omega

/-- Two redactors with the same cache go on alike, whatever they have counted. -/
theorem inserted_congr (hr : Faithful rules capacity r) (hs : Faithful rules capacity s)
    (heq : r.cache = s.cache) (calls : List RedactionCall) :
    inserted r calls = inserted s calls ∧ (runAll r calls).1.cache = (runAll s calls).1.cache := by
  induction calls generalizing r s with
  | nil => exact ⟨rfl, heq⟩
  | cons c rest ih =>
      have hrun : (c.run r).1.cache = (c.run s).1.cache := (c.effect hr).cache_eq (c.effect hs) heq
      have hinserts : c.Inserts r ↔ c.Inserts s := by rw [Inserts, Inserts, hrun, heq]
      obtain ⟨hkeys, hcache⟩ := ih (faithful_run hr c) (faithful_run hs c) hrun
      exact ⟨by rw [inserted, inserted, hkeys]; simp only [hinserts], hcache⟩

end RedactionCall

/-- After any calls, one after the other, a redactor holds the results for the last of the keys that
were put in, as many as its capacity allows, and it has counted every call. The next call finds its
key just if that is held, and puts it in just if there is room for any, it is not held and what has
been worked out fits; then the key held longest leaves, if there are as many as may be. A call that
finds its key leaves the cache as it is, and makes no difference to what any later calls put in and
hold. -/
theorem cache_is_queue_of_keys (rules : List ActiveRule) (capacity : Nat)
    (calls : List RedactionCall) :
    let r := (RedactionCall.runAll (.new rules capacity) calls).1
    let inserted := RedactionCall.inserted (.new rules capacity) calls
    r.cache.reverse = (inserted.drop (inserted.length - min capacity inserted.length)).map
        (fun key => (key, ActiveRule.applyAll rules key)) ∧
      r.stats.hits + r.stats.misses = calls.length ∧
      ∀ c : RedactionCall, let r' := (c.run r).1
        (r'.stats.hits = r.stats.hits + (if c.key ∈ r.held then 1 else 0) ∧
          r'.stats.misses = r.stats.misses + if c.key ∈ r.held then 0 else 1) ∧
        (c.Inserts r ↔ 0 < capacity ∧ c.key ∉ r.held ∧
          Redactor.Fits c.input (ActiveRule.applyAll rules c.key)) ∧
        (c.Inserts r → r'.held =
          c.key :: if r.held.length < capacity then r.held else r.held.dropLast) ∧
        (c.key ∈ r.held → r'.cache = r.cache ∧ ∀ later,
          RedactionCall.inserted r' later = RedactionCall.inserted r later ∧
            (RedactionCall.runAll r' later).1.cache = (RedactionCall.runAll r later).1.cache) := by
  intro r inserted
  have hr : r.Faithful rules capacity := Redactor.faithful_runAll rules capacity calls
  have hnew := Redactor.faithful_new rules capacity
  have hempty : (Redactor.new rules capacity).cache = Redactor.latest rules capacity [] :=
    List.take_nil.symm
  have hcache : r.cache = Redactor.latest rules capacity inserted :=
    RedactionCall.latest_runAll hnew hempty calls
  refine ⟨by rw [hcache, Redactor.reverse_latest], ?_, fun c => ?_⟩
  · have hcounts := RedactionCall.counts_runAll hnew calls
    exact hcounts.trans (Nat.zero_add _)
  · have heffect := c.effect hr
    refine ⟨heffect.counts, heffect.cache_ne_iff hr.bounded, heffect.held_eq_of_ne hr.bounded,
      fun hheld => ?_⟩
    have hsame := heffect.cache_eq_of_held hheld
    exact ⟨hsame, RedactionCall.inserted_congr (RedactionCall.faithful_run hr c) hr hsame⟩

-- The number finds what was kept for the text, and yet the text is the first to leave.
example :
    let r := (RedactionCall.runAll (.new [] 2) [.text "1", .text "a", .value (.int 1), .text "b"]).1
    r.stats = ⟨1, 3, 2, 2⟩ ∧ r.held = ["b".toList, "a".toList] := by
  decide

end SecretScan
