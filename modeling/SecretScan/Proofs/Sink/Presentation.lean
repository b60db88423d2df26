import SecretScan.Proofs.Json.Order
import SecretScan.Proofs.Sink.Masking
import SecretScan.Proofs.Sink.Shared

/-!
# What can be told from masked views

Two runs of a shared sink are compared, into which findings come that differ only in values with as
many characters and the same ones first. Whatever the sink does to the findings besides masking, all
that is shown is then the same, though each run keeps its findings as they are. Every run has such a
counterpart, since no step looks at a value.
-/

namespace SecretScan

/-! ## One value, one finding -/

/-- A text shows a value with every character behind the first ones replaced. -/
structure Text.Masks (value shown : String) : Prop where
  length_eq : shown.toList.length = value.toList.length
  chars : ∀ i x, value.toList[i]? = some x →
    shown.toList[i]? = some (if i < visibleChars then x else maskChar)

theorem Text.masks_mask (value : String) : Masks value (mask value visibleChars) := by
  have htext : (mask value visibleChars).toList = maskChars visibleChars value.toList :=
    String.toList_ofList
  refine ⟨by rw [htext, length_maskChars], ?_⟩
  intro i x hx
  obtain ⟨hlt, -⟩ := List.getElem?_eq_some_iff.mp hx
  rw [htext, maskChars]
  by_cases hi : i < visibleChars
  · have hfront : i < (value.toList.take visibleChars).length := by
      rw [List.length_take]
      exact lt_min hi hlt
    rw [if_pos hi, List.getElem?_append_left hfront, List.getElem?_take_of_lt hi, hx]
  · have hback : (value.toList.take visibleChars).length ≤ i :=
      Nat.le_trans (List.length_take_le _ _) (Nat.le_of_not_lt hi)
    rw [if_neg hi, List.getElem?_append_right hback, List.getElem?_replicate_of_lt]
    rw [List.length_take]
    omega

namespace Finding

/-- The same findings, but for values that look alike. -/
structure Alike (f g : Finding) : Prop where
  value : Option.Rel Text.Alike f.hit.value g.hit.value
  rest : g = { f with hit := { f.hit with value := g.hit.value } }

/-- A view shows a finding as it is kept, with its value masked. -/
structure ShownAs (o : SinkOptions) (f view : Finding) : Prop where
  value : Option.Rel Text.Masks f.hit.value view.hit.value
  rest : view = { Sink.kept o f with hit := { f.hit with value := view.hit.value } }

variable {o : SinkOptions} {f g : Finding}

/-- Neither the path nor the address of a finding depends on its value, nor does the view of it on
more than what the values have in common. -/
theorem Alike.view_eq (h : f.Alike g) (hmask : o.mask = true) :
    Sink.present o (Sink.kept o f) = Sink.present o (Sink.kept o g) := by
  obtain ⟨hvalue, hrest⟩ := h
  rw [hrest]
  simp only [Sink.present, Sink.kept, hmask, if_true, map_mask_eq_of_rel hvalue]

theorem Alike.counted_eq (h : f.Alike g) :
    Sink.counted (Sink.kept o f) = Sink.counted (Sink.kept o g) := by
  rw [h.rest]
  rfl

theorem shownAs_present (hmask : o.mask = true) (f : Finding) :
    f.ShownAs o (Sink.present o (Sink.kept o f)) := by
  rw [Sink.present, if_pos hmask]
  refine ⟨?_, rfl⟩
  show Option.Rel Text.Masks f.hit.value (f.hit.value.map fun v => Text.mask v Text.visibleChars)
  cases f.hit.value with
  | none => exact .none
  | some v => exact .some (Text.masks_mask v)

end Finding

namespace Sink

/-! ## What is shown of two runs -/

/-- Nothing that is shown tells two runs apart: not the findings as they come in, nor the findings
presented, nor the report of a run that has taken as long. As a text the report is the same. In JSON
the order in which the details of a hit are written is not fixed, so there the reports are the same
but for the order of members: what is one of them in some order is the other as well. -/
structure Shared.LooksLike (s t : Shared) : Prop where
  shown : s.shown = t.shown
  presented : s.sink.presented = t.sink.presented
  blocks : ∀ format colours, s.shown.map (Console.findingText format colours) =
    t.shown.map (Console.findingText format colours)
  reports : ∀ startedAt now now', s.sink.elapsed now = t.sink.elapsed now' →
    (∀ colours, Console.reportText .text colours (s.sink.report startedAt now) =
      Console.reportText .text colours (t.sink.report startedAt now')) ∧
    ∀ v, Json.Same (s.sink.report startedAt now).toJson v ↔
      Json.Same (t.sink.report startedAt now').toJson v

namespace Shared

variable {o : SinkOptions} {s t : Shared}

/-- What has been shown are the views of the findings that have come in. -/
theorem Agrees.shown_eq_map (h : Agrees o s) :
    s.shown = s.emitted.map fun f => present o (kept o f) := by
  rw [h.shown, presented, h.options, h.findings, List.map_map]
  rfl

theorem Agrees.hits_eq (h : Agrees o s) :
    s.sink.findings.map (·.hit) = s.emitted.map (·.hit) := by
  rw [h.findings, List.map_map]
  rfl

theorem Agrees.presented_eq_findings (h : Agrees o s) (hmask : o.mask = false) :
    s.sink.presented = s.sink.findings := by
  have hpresent : present o = id := by
    funext f
    rw [present, if_neg (Bool.eq_false_iff.mp hmask)]
    rfl
  rw [presented, h.options, hpresent, List.map_id]

/-- Runs into which alike findings have come look like each other. -/
theorem Agrees.looksLike (h : Agrees o s) (h' : Agrees o t) (hmask : o.mask = true)
    (halike : List.Forall₂ Finding.Alike s.emitted t.emitted) : s.LooksLike t := by
  have hshown : s.shown = t.shown := by
    rw [h.shown_eq_map, h'.shown_eq_map, ← List.forall₂_eq_eq_eq, List.forall₂_map_left_iff,
      List.forall₂_map_right_iff]
    exact halike.imp fun f g hfg => hfg.view_eq hmask
  have hpresented : s.sink.presented = t.sink.presented := by
    rw [← h.shown, ← h'.shown, hshown]
  have hcounted : s.sink.findings.map counted = t.sink.findings.map counted := by
    rw [h.findings, h'.findings, List.map_map, List.map_map, ← List.forall₂_eq_eq_eq,
      List.forall₂_map_left_iff, List.forall₂_map_right_iff]
    exact halike.imp fun f g hfg => hfg.counted_eq
  have hreport : ∀ startedAt now now', s.sink.elapsed now = t.sink.elapsed now' →
      s.sink.report startedAt now = t.sink.report startedAt now' := by
    intro startedAt now now' helapsed
    have hcounts : (s.sink.summary startedAt now).counts = (t.sink.summary startedAt now').counts :=
      ((h.tallies startedAt now).of_perm (.of_eq hcounted)).counts_eq (h'.tallies startedAt now')
    simp only [Summary.counts, summary, Prod.mk.injEq] at hcounts
    obtain ⟨htotal, hverified, hunverified, hbyDetector⟩ := hcounts
    rw [report, report, hpresented, summary, summary, helapsed, htotal, hverified, hunverified,
      hbyDetector]
  refine ⟨hshown, hpresented, fun format colours => by rw [hshown], ?_⟩
  intro startedAt now now' helapsed
  rw [hreport startedAt now now' helapsed]
  exact ⟨fun _ => rfl, fun _ => .rfl⟩

end Shared

/-! ## Two runs side by side -/

/-- The same calls, but for findings that look alike. -/
inductive Call.Alike : Call → Call → Prop
  | start : Alike .start .start
  | emit {f g : Finding} (h : f.Alike g) : Alike (.emit f) (.emit g)
  | finish : Alike .finish .finish

/-- Two producers have alike calls left, and both have made the next one ready or neither has. -/
structure Producer.Alike (p q : Producer) : Prop where
  calls : List.Forall₂ Call.Alike p.calls q.calls
  prepared : Option.Rel (fun _ _ => True) p.prepared q.prepared

theorem forall₂_emitted {cs ds : List Call} (h : List.Forall₂ Call.Alike cs ds) :
    List.Forall₂ Finding.Alike (cs.filterMap Call.finding?) (ds.filterMap Call.finding?) := by
  induction h with
  | nil => exact .nil
  | cons hcd _ ih =>
      cases hcd with
      | start => exact ih
      | emit h => exact .cons h ih
      | finish => exact ih

/-- A place in a list has one like it in a list of related items. -/
theorem exists_split_of_forall₂ {α β : Type} {R : α → β → Prop} {front back : List α} {a : α}
    {bs : List β} (h : List.Forall₂ R (front ++ a :: back) bs) :
    ∃ front' b back', bs = front' ++ b :: back' ∧ R a b ∧
      ∀ c d, R c d → List.Forall₂ R (front ++ c :: back) (front' ++ d :: back') := by
  induction front generalizing bs with
  | nil =>
      obtain ⟨b, back', hab, hback, rfl⟩ := List.forall₂_cons_left_iff.mp h
      exact ⟨[], b, back', rfl, hab, fun c d hcd => .cons hcd hback⟩
  | cons x front ih =>
      obtain ⟨y, ys, hxy, hys, rfl⟩ := List.forall₂_cons_left_iff.mp h
      obtain ⟨front', b, back', rfl, hab, hput⟩ := ih hys
      exact ⟨y :: front', b, back', rfl, hab, fun c d hcd => .cons hxy (hput c d hcd)⟩

namespace Shared

variable {s s' t : Shared}

/-- Two runs have come equally far: their clocks agree, and so do their producers, but for values
that look alike. -/
structure Alike (s t : Shared) : Prop where
  started : s.sink.started = t.sink.started
  finished : s.sink.finished = t.sink.finished
  producers : List.Forall₂ Producer.Alike s.producers t.producers
  taken : List.Forall₂ Call.Alike s.taken t.taken

/-- The producer whose turn it is has one like it in the other run. -/
theorem exists_producer {front back ps : List Producer} {call : Call} {rest : List Call}
    {prepared : Option (Finding × Finding)}
    (h : List.Forall₂ Producer.Alike (front ++ ⟨call :: rest, prepared⟩ :: back) ps) :
    ∃ front' call' rest' prepared' back', ps = front' ++ ⟨call' :: rest', prepared'⟩ :: back' ∧
      call.Alike call' ∧ List.Forall₂ Call.Alike rest rest' ∧
      Option.Rel (fun _ _ => True) prepared prepared' ∧
      ∀ p q : Producer, p.Alike q →
        List.Forall₂ Producer.Alike (front ++ p :: back) (front' ++ q :: back') := by
  obtain ⟨front', ⟨calls, prepared'⟩, back', rfl, ⟨hcalls, hprepared⟩, hput⟩ :=
    exists_split_of_forall₂ h
  obtain ⟨call', rest', hcall, hrest, rfl⟩ := List.forall₂_cons_left_iff.mp hcalls
  exact ⟨front', call', rest', prepared', back', rfl, hcall, hrest, hprepared, hput⟩

/-- Whatever step is taken in one of the runs can be taken in the other one, at the same time. -/
theorem Next.exists_alike (hnext : Next s s') (h : s.Alike t) : ∃ t', Next t t' ∧ s'.Alike t' := by
  obtain ⟨hstarted, hfinished, hproducers, htaken⟩ := h
  cases hnext with
  | @start front back rest now producers =>
      rw [producers] at hproducers
      obtain ⟨front', call, rest', prepared, back', ht, hcall, hrest, hready, hput⟩ :=
        exists_producer hproducers
      cases hcall
      cases hready
      exact ⟨_, .start now ht, rfl, rfl, hput _ _ ⟨hrest, .none⟩,
        List.rel_append htaken (.cons .start .nil)⟩
  | @finish front back rest now producers =>
      rw [producers] at hproducers
      obtain ⟨front', call, rest', prepared, back', ht, hcall, hrest, hready, hput⟩ :=
        exists_producer hproducers
      cases hcall
      cases hready
      exact ⟨_, .finish now ht, hstarted, rfl, hput _ _ ⟨hrest, .none⟩,
        List.rel_append htaken (.cons .finish .nil)⟩
  | @prepare front back f rest producers =>
      rw [producers] at hproducers
      obtain ⟨front', call, rest', prepared, back', ht, hcall, hrest, hready, hput⟩ :=
        exists_producer hproducers
      cases hcall with
      | emit hfg =>
          cases hready
          exact ⟨_, .prepare ht, hstarted, hfinished,
            hput _ _ ⟨.cons (.emit hfg) hrest, .some trivial⟩, htaken⟩
  | @store front back f keep view rest producers =>
      rw [producers] at hproducers
      obtain ⟨front', call, rest', prepared, back', ht, hcall, hrest, hready, hput⟩ :=
        exists_producer hproducers
      cases hcall with
      | emit hfg =>
          cases hready
          exact ⟨_, .store ht, hstarted, hfinished, hput _ _ ⟨hrest, .none⟩,
            List.rel_append htaken (.cons (.emit hfg) .nil)⟩

/-- A run has a counterpart that takes the same steps at the same times. -/
theorem exists_alike_of_reaches (hreach : Relation.ReflTransGen Next s s') (h : s.Alike t) :
    ∃ t', Relation.ReflTransGen Next t t' ∧ s'.Alike t' := by
  induction hreach with
  | refl => exact ⟨t, .refl, h⟩
  | tail _ hnext ih =>
      obtain ⟨u, hu, halike⟩ := ih
      obtain ⟨t', ht', halike'⟩ := hnext.exists_alike halike
      exact ⟨t', .tail hu ht', halike'⟩

theorem alike_new (o : SinkOptions) {calls calls' : List (List Call)}
    (h : List.Forall₂ (List.Forall₂ Call.Alike) calls calls') :
    (new o calls).Alike (new o calls') := by
  refine ⟨rfl, rfl, ?_, .nil⟩
  show List.Forall₂ Producer.Alike (calls.map fun cs => { calls := cs })
    (calls'.map fun cs => { calls := cs })
  rw [List.forall₂_map_left_iff, List.forall₂_map_right_iff]
  exact h.imp fun cs ds hcs => ⟨hcs, .none⟩

theorem Alike.emitted (h : s.Alike t) : List.Forall₂ Finding.Alike s.emitted t.emitted :=
  forall₂_emitted h.taken

theorem Alike.elapsed_eq (h : s.Alike t) (now : Nat) : s.sink.elapsed now = t.sink.elapsed now := by
  rw [elapsed, elapsed, h.started, h.finished]

end Shared

/-- Masked views depend on the visible beginnings and the lengths of the values alone. However the
calls of several producers alternate, the sink keeps all hits as they have come in; without masking
its views are what it keeps, and with masking each view shows its finding with the value masked, and
runs into which alike findings come look like each other. For findings that are alike every run has
such a counterpart, in which all happens at the same times. -/
theorem masked_views_depend_on_visible_part {o : SinkOptions} {calls : List (List Call)}
    {s : Shared} (hs : Relation.ReflTransGen Shared.Next (.new o calls) s) :
    s.sink.findings = s.emitted.map (kept o) ∧
      s.sink.findings.map (·.hit) = s.emitted.map (·.hit) ∧
      (o.mask = false → s.shown = s.sink.findings ∧ s.sink.presented = s.sink.findings) ∧
      (o.mask = true → s.sink.presented = s.shown ∧
        List.Forall₂ (Finding.ShownAs o) s.emitted s.shown ∧
        ∀ calls' t, Relation.ReflTransGen Shared.Next (.new o calls') t →
          List.Forall₂ Finding.Alike s.emitted t.emitted → s.LooksLike t) ∧
      ∀ calls', List.Forall₂ (List.Forall₂ Call.Alike) calls calls' →
        ∃ t, Relation.ReflTransGen Shared.Next (.new o calls') t ∧
          List.Forall₂ Finding.Alike s.emitted t.emitted ∧
          ∀ now, s.sink.elapsed now = t.sink.elapsed now := by
  have hagrees := Shared.agrees_of_reaches hs
  refine ⟨hagrees.findings, hagrees.hits_eq, ?_, ?_, ?_⟩
  · intro hmask
    have hpresented := hagrees.presented_eq_findings hmask
    exact ⟨hagrees.shown.trans hpresented, hpresented⟩
  · intro hmask
    refine ⟨hagrees.shown.symm, ?_, ?_⟩
    · rw [hagrees.shown_eq_map, List.forall₂_map_right_iff, List.forall₂_same]
      exact fun f _ => Finding.shownAs_present hmask f
    · intro calls' t ht halike
      exact hagrees.looksLike (Shared.agrees_of_reaches ht) hmask halike
  · intro calls' hcalls
    obtain ⟨t, ht, halike⟩ := Shared.exists_alike_of_reaches hs (Shared.alike_new o hcalls)
    exact ⟨t, ht, halike.emitted, halike.elapsed_eq⟩

/-- A finding of a value. -/
def findingOf (value : String) : Finding :=
  .inFile ⟨"token", some value, false, some 0, []⟩ "src/notes.txt" 3

/-- A run in which this finding comes in. -/
def callsFor (value : String) : List Call := [.start, .emit (findingOf value), .finish]

theorem exists_run_for (o : SinkOptions) (value : String) :
    ∃ s, Relation.ReflTransGen Shared.Next (.new o [callsFor value]) s ∧
      s.emitted = [findingOf value] := by
  obtain ⟨s, hs, -, htaken⟩ :=
    Shared.exists_reaches_of_interleaving (.single (callsFor value)) (.new o [callsFor value]) rfl
  refine ⟨s, hs, ?_⟩
  rw [Shared.emitted, htaken]
  rfl

/-- Characters are hidden, not bytes: these two values begin with the same five characters, and
these take eight bytes. -/
theorem masked_umlauts_look_alike :
    let o : SinkOptions := { mask := true, displayRoot := some "src", sourceUrl := some "repo" }
    ∃ s t, Relation.ReflTransGen Shared.Next (.new o [callsFor "päßwörter"]) s ∧
      Relation.ReflTransGen Shared.Next (.new o [callsFor "päßwöchen"]) t ∧
      s.LooksLike t ∧ s.sink.findings.map (·.hit.value) = [some "päßwörter"] ∧
      t.sink.findings.map (·.hit.value) = [some "päßwöchen"] := by
  intro o
  obtain ⟨s, hs, hemitted⟩ := exists_run_for o "päßwörter"
  obtain ⟨t, ht, hemitted'⟩ := exists_run_for o "päßwöchen"
  have halike : List.Forall₂ Finding.Alike s.emitted t.emitted := by
    rw [hemitted, hemitted']
    exact .cons ⟨.some (by decide), rfl⟩ .nil
  obtain ⟨hfindings, -, -, hmasked, -⟩ := masked_views_depend_on_visible_part hs
  obtain ⟨hfindings', -⟩ := masked_views_depend_on_visible_part ht
  obtain ⟨-, -, hlooks⟩ := hmasked rfl
  refine ⟨s, t, hs, ht, hlooks _ t ht halike, ?_, ?_⟩
  · rw [hfindings, hemitted]
    rfl
  · rw [hfindings', hemitted']
    rfl

end Sink

end SecretScan
