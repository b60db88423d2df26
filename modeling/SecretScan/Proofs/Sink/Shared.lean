import SecretScan.Sink.Shared
import SecretScan.Proofs.Sink.Tally
import Mathlib.Logic.Relation

/-!
# A shared sink keeps its views together

The lock makes one order of the calls of all producers. Whatever that order is, the findings are
those of the calls in it, what has been shown is what the findings look like, and the totals are
what can be counted in them. That a finding is made ready without the lock does no harm, since the
options on which it depends never change.
-/

namespace SecretScan

/-- A list is made up of several ones by taking the first item of any of them, again and again. -/
inductive Interleaving {α : Type} : List (List α) → List α → Prop
  | done {ls : List (List α)} (empty : ∀ l ∈ ls, l = []) : Interleaving ls []
  | take {front back : List (List α)} {a : α} {l rest : List α}
      (h : Interleaving (front ++ l :: back) rest) :
      Interleaving (front ++ (a :: l) :: back) (a :: rest)

/-- The calls of one producer alone come in their order. -/
theorem Interleaving.single {α : Type} (l : List α) : Interleaving [l] l := by
  induction l with
  | nil => exact .done (by simp)
  | cons a l ih => exact @Interleaving.take _ [] [] a l l ih

namespace Sink

/-- What a producer has made ready is its next finding, as it is kept and shown. -/
def Producer.IsSound (o : SinkOptions) (p : Producer) : Prop :=
  ∀ keep view, p.prepared = some (keep, view) →
    ∃ f rest, p.calls = .emit f :: rest ∧ keep = kept o f ∧ view = present o keep

theorem Producer.isSound_of_none {o : SinkOptions} {calls : List Call} :
    IsSound o ⟨calls, none⟩ := by
  intro keep view h
  cases h

namespace Shared

variable {o : SinkOptions} {s t : Shared}

/-- The calls that each of the producers has left. -/
def left (s : Shared) : List (List Call) := s.producers.map (·.calls)

/-- The findings that have come in, in the order of the calls. -/
def emitted (s : Shared) : List Finding := s.taken.filterMap Call.finding?

/-! ## One step -/

/-- The views of a sink agree: the findings, what has been shown, and the totals. -/
structure Agrees (o : SinkOptions) (s : Shared) : Prop where
  options : s.sink.options = o
  findings : s.sink.findings = s.emitted.map (kept o)
  shown : s.shown = s.sink.presented
  tallies : ∀ startedAt now, (s.sink.summary startedAt now).Tallies s.sink.findings
  producers : ∀ p ∈ s.producers, p.IsSound o

theorem agrees_new (o : SinkOptions) (calls : List (List Call)) : Agrees o (new o calls) where
  options := rfl
  findings := rfl
  shown := rfl
  tallies := tallies_new o
  producers := by
    intro p hp
    obtain ⟨cs, -, rfl⟩ := List.mem_map.mp hp
    exact Producer.isSound_of_none

/-- One producer takes a step; the others stay as they are. -/
theorem Agrees.replace (h : Agrees o s) {front back : List Producer} {old p : Producer}
    (hproducers : s.producers = front ++ old :: back) (hp : p.IsSound o) :
    ∀ q ∈ front ++ p :: back, q.IsSound o := by
  intro q hq
  rcases List.mem_append.mp hq with hfront | hback
  · exact h.producers q (by simp [hproducers, hfront])
  · rcases List.mem_cons.mp hback with rfl | hback
    · exact hp
    · exact h.producers q (by simp [hproducers, hback])

theorem Next.agrees (hnext : Next s t) (h : Agrees o s) : Agrees o t := by
  cases hnext with
  | start now producers =>
      exact {
        options := h.options
        findings := by simp [emitted, List.filterMap_cons, Call.finding?, Sink.start, h.findings]
        shown := h.shown
        tallies := fun startedAt moment => tallies_start (h.tallies startedAt moment) now
        producers := h.replace producers Producer.isSound_of_none }
  | finish now producers =>
      exact {
        options := h.options
        findings := by simp [emitted, List.filterMap_cons, Call.finding?, Sink.finish, h.findings]
        shown := h.shown
        tallies := fun startedAt moment => tallies_finish (h.tallies startedAt moment) now
        producers := h.replace producers Producer.isSound_of_none }
  | @prepare front back f rest producers =>
      refine ⟨h.options, h.findings, h.shown, h.tallies, h.replace producers ?_⟩
      rintro keep view hready
      obtain ⟨rfl, rfl⟩ := Prod.mk.inj (Option.some.inj hready)
      rw [h.options]
      exact ⟨f, rest, rfl, rfl, rfl⟩
  | @store front back f keep view rest producers =>
      obtain ⟨f', rest', hcalls, rfl, rfl⟩ :=
        h.producers ⟨.emit f :: rest, some (keep, view)⟩ (by simp [producers]) keep view rfl
      obtain ⟨hf, -⟩ := List.cons.inj hcalls
      obtain rfl := Call.emit.inj hf
      -- What was made ready is what the sink makes of the finding itself.
      have hstore : s.sink.store (kept o f) = s.sink.emit f := by rw [emit_eq_store, h.options]
      rw [hstore]
      exact {
        options := h.options
        findings := by simp [emitted, Call.finding?, Sink.emit, h.findings, h.options]
        shown := by simp [h.shown, presented, Sink.emit, h.options]
        tallies := fun startedAt moment => tallies_emit (h.tallies startedAt moment) f
        producers := h.replace producers Producer.isSound_of_none }

/-- What is there stays there, and in its order. -/
theorem Next.grows (hnext : Next s t) :
    s.sink.findings <+: t.sink.findings ∧ s.shown <+: t.shown := by
  cases hnext with
  | start now producers => exact ⟨List.prefix_rfl, List.prefix_rfl⟩
  | finish now producers => exact ⟨List.prefix_rfl, List.prefix_rfl⟩
  | prepare producers => exact ⟨List.prefix_rfl, List.prefix_rfl⟩
  | store producers => exact ⟨List.prefix_append _ _, List.prefix_append _ _⟩

/-- A call that is made is the next one of a producer. -/
theorem Next.interleaving (hnext : Next s t) {rest : List Call} (h : Interleaving t.left rest) :
    ∃ made, t.taken = s.taken ++ made ∧ Interleaving s.left (made ++ rest) := by
  cases hnext with
  | start now producers =>
      refine ⟨[.start], rfl, ?_⟩
      simp only [left, producers, List.map_append, List.map_cons] at h ⊢
      exact .take h
  | finish now producers =>
      refine ⟨[.finish], rfl, ?_⟩
      simp only [left, producers, List.map_append, List.map_cons] at h ⊢
      exact .take h
  | prepare producers =>
      refine ⟨[], (List.append_nil _).symm, ?_⟩
      simpa only [left, producers, List.map_append, List.map_cons, List.nil_append] using h
  | @store front back f keep view calls producers =>
      refine ⟨[.emit f], rfl, ?_⟩
      simp only [left, producers, List.map_append, List.map_cons] at h ⊢
      exact .take h

/-- As long as there are calls, one can be made. -/
theorem isOver_or_exists_next (h : Agrees o s) : s.IsOver ∨ ∃ t, Next s t := by
  by_cases hover : s.IsOver
  · exact .inl hover
  · obtain ⟨p, hp, hcalls⟩ : ∃ p ∈ s.producers, p.calls ≠ [] := by
      simpa [IsOver] using hover
    obtain ⟨front, back, hproducers⟩ := List.append_of_mem hp
    obtain ⟨calls, prepared⟩ := p
    refine .inr ?_
    cases prepared with
    | some ready =>
        obtain ⟨f, rest, rfl, -, -⟩ := h.producers _ hp ready.1 ready.2 rfl
        exact ⟨_, .store hproducers⟩
    | none =>
        cases calls with
        | nil => exact absurd rfl hcalls
        | cons call rest =>
            cases call with
            | start => exact ⟨_, .start 0 hproducers⟩
            | emit f => exact ⟨_, .prepare hproducers⟩
            | finish => exact ⟨_, .finish 0 hproducers⟩

/-! ## Whole runs -/

theorem agrees_of_reaches {calls : List (List Call)}
    (hreach : Relation.ReflTransGen Next (new o calls) s) : Agrees o s := by
  induction hreach with
  | refl => exact agrees_new o calls
  | tail _ hnext ih => exact hnext.agrees ih

theorem grows_of_reaches (hreach : Relation.ReflTransGen Next s t) :
    s.sink.findings <+: t.sink.findings ∧ s.shown <+: t.shown := by
  induction hreach with
  | refl => exact ⟨List.prefix_rfl, List.prefix_rfl⟩
  | tail _ hnext ih => exact ⟨ih.1.trans hnext.grows.1, ih.2.trans hnext.grows.2⟩

theorem interleaving_of_reaches (hreach : Relation.ReflTransGen Next s t) {rest : List Call}
    (h : Interleaving t.left rest) :
    ∃ made, t.taken = s.taken ++ made ∧ Interleaving s.left (made ++ rest) := by
  induction hreach generalizing rest with
  | refl => exact ⟨[], (List.append_nil _).symm, h⟩
  | tail _ hnext ih =>
      obtain ⟨later, hlater, h⟩ := hnext.interleaving h
      obtain ⟨made, hmade, h⟩ := ih h
      refine ⟨made ++ later, ?_, ?_⟩
      · rw [hlater, hmade, List.append_assoc]
      · rwa [List.append_assoc]

/-- Every order that leaves the calls of each producer in theirs can come about. -/
theorem exists_reaches_of_interleaving {ls : List (List Call)} {order : List Call}
    (h : Interleaving ls order) (s : Shared)
    (hs : s.producers = ls.map fun cs => { calls := cs }) :
    ∃ t, Relation.ReflTransGen Next s t ∧ t.IsOver ∧ t.taken = s.taken ++ order := by
  induction h generalizing s with
  | done empty =>
      refine ⟨s, .refl, ?_, (List.append_nil _).symm⟩
      intro p hp
      rw [hs] at hp
      obtain ⟨cs, hcs, rfl⟩ := List.mem_map.mp hp
      exact empty cs hcs
  | @take front back call l rest h ih =>
      rw [List.map_append, List.map_cons] at hs
      obtain ⟨u, hu, hproducers, htaken⟩ : ∃ u, Relation.ReflTransGen Next s u ∧
          u.producers = (front ++ l :: back).map (fun cs => { calls := cs }) ∧
          u.taken = s.taken ++ [call] := by
        rw [List.map_append, List.map_cons]
        cases call with
        | start => exact ⟨_, .single (.start 0 hs), rfl, rfl⟩
        | finish => exact ⟨_, .single (.finish 0 hs), rfl, rfl⟩
        | emit f => exact ⟨_, .tail (.single (.prepare hs)) (.store rfl), rfl, rfl⟩
      obtain ⟨t, ht, hover, horder⟩ := ih u hproducers
      refine ⟨t, hu.trans ht, hover, ?_⟩
      rw [horder, htaken, List.append_assoc, List.singleton_append]

theorem interleaving_left_of_isOver {s : Shared} (hover : s.IsOver) : Interleaving s.left [] := by
  refine .done fun l hl => ?_
  obtain ⟨p, hp, rfl⟩ := List.mem_map.mp hl
  exact hover p hp

end Shared

/-- However the calls of several producers alternate, the totals are what can be counted in the
findings, these are the ones that have come in, as they are kept and in the order of the calls, and
what has been shown is what they look like. They stay as they are when others come in. The orders of
the calls are just those that leave the calls of each producer in theirs, and the totals do not
depend on the order. -/
theorem views_of_shared_sink_agree (o : SinkOptions) (calls : List (List Call)) :
    (∀ s, Relation.ReflTransGen Shared.Next (.new o calls) s →
      (∀ startedAt now, (s.sink.summary startedAt now).Tallies s.sink.findings) ∧
      s.sink.findings = s.emitted.map (kept o) ∧
      s.shown = s.sink.presented ∧
      (∀ t, Relation.ReflTransGen Shared.Next s t →
        s.sink.findings <+: t.sink.findings ∧ s.shown <+: t.shown) ∧
      (s.IsOver ∨ ∃ t, Shared.Next s t)) ∧
    (∀ order, Interleaving calls order ↔
      ∃ s, Relation.ReflTransGen Shared.Next (.new o calls) s ∧ s.IsOver ∧ s.taken = order) ∧
    ∀ calls' s t, Relation.ReflTransGen Shared.Next (.new o calls) s →
      Relation.ReflTransGen Shared.Next (.new o calls') t → s.emitted.Perm t.emitted →
      ∀ startedAt now startedAt' now',
        (s.sink.summary startedAt now).counts = (t.sink.summary startedAt' now').counts := by
  refine ⟨fun s hs => ?_, fun order => ⟨fun h => ?_, ?_⟩, ?_⟩
  · have hagrees := Shared.agrees_of_reaches hs
    exact ⟨hagrees.tallies, hagrees.findings, hagrees.shown,
      fun t ht => Shared.grows_of_reaches ht, Shared.isOver_or_exists_next hagrees⟩
  · exact Shared.exists_reaches_of_interleaving h (.new o calls) rfl
  · rintro ⟨s, hs, hover, rfl⟩
    obtain ⟨made, hmade, h⟩ :=
      Shared.interleaving_of_reaches hs (Shared.interleaving_left_of_isOver hover)
    have hleft : (Shared.new o calls).left = calls := by
      simp [Shared.left, Shared.new, Function.comp_def]
    have htaken : s.taken = made := hmade
    rwa [hleft, List.append_nil, ← htaken] at h
  · intro calls' s t hs ht hperm startedAt now startedAt' now'
    have hagrees := Shared.agrees_of_reaches hs
    have hagrees' := Shared.agrees_of_reaches ht
    have hfindings : (s.sink.findings.map counted).Perm (t.sink.findings.map counted) := by
      rw [hagrees.findings, hagrees'.findings]
      exact (hperm.map _).map _
    exact ((hagrees.tallies startedAt now).of_perm hfindings).counts_eq
      (hagrees'.tallies startedAt' now')

end Sink

end SecretScan
