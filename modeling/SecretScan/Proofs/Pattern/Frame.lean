import SecretScan.Proofs.Pattern.Matches

/-!
# Matching in a stretch of a text

A text can stand in a larger one, as a line stands in a file. A pattern that cannot tell the ends of
the stretch from the ends of a text matches there what it matches in the stretch by itself, only
further on: not just the same matches are possible, but the same ones are found first.
-/

namespace SecretScan

/-- Where a text stands in a larger one: the character before it, the number of bytes before it, and
what follows. -/
structure Frame where
  before : Option Char
  shift : Nat
  after : List Char

namespace Frame

/-- A place of a text as a place of the larger one. -/
def cursor (F : Frame) (c : Cursor) : Cursor :=
  ⟨c.before.or F.before, F.shift + c.offset, c.rest ++ F.after⟩

/-- A stretch of a text as one of the larger text. -/
def span (F : Frame) (s : Span) : Span := ⟨F.cursor s.first, F.cursor s.last⟩

/-- Captures in a text as captures in the larger one. -/
def captures (F : Frame) (cs : List (Nat × Span)) : List (Nat × Span) :=
  cs.map fun c => (c.1, F.span c.2)

/-- The progress of a match in a text as progress in the larger one. -/
def progress (F : Frame) (s : Progress) : Progress := ⟨F.cursor s.cursor, F.captures s.captures⟩

/-- A match in a text as a match in the larger one. -/
def found (F : Frame) (m : Match) : Match := ⟨F.span m.whole, F.captures m.captures⟩

/-- A pattern does not notice the ends of a stretch: no set has the character that follows, and no
condition tells the neighbours from the ends of a text. -/
def Suits (F : Frame) : Pattern → Prop
  | .empty => True
  | .set s => ∀ x ∈ F.after.head?, s.mem x = false
  | .look l => ∀ before after,
      l.holds (before.or F.before) (after.or F.after.head?) = l.holds before after
  | .seq p q => F.Suits p ∧ F.Suits q
  | .alt p q => F.Suits p ∧ F.Suits q
  | .group _ p => F.Suits p
  | .iter p _ _ _ => F.Suits p

end Frame

/-! ## What lies ahead of a match -/

/-- A match has gone on from one place to another, and has captured stretches of the text. -/
structure Progress.Ahead (s t : Progress) : Prop where
  spells : ∃ w, s.cursor.Spells w t.cursor
  captures : ∀ c ∈ t.captures, c ∈ s.captures ∨
    (∃ v, s.cursor.Spells v c.2.first) ∧ ∃ w, c.2.first.Spells w c.2.last

namespace Progress

theorem Ahead.refl (s : Progress) : s.Ahead s :=
  ⟨⟨[], .refl s.cursor⟩, fun _ => Or.inl⟩

theorem Ahead.trans {s t u : Progress} (h : s.Ahead t) (h' : t.Ahead u) : s.Ahead u := by
  obtain ⟨v, hv⟩ := h.spells
  obtain ⟨w, hw⟩ := h'.spells
  refine ⟨⟨v ++ w, hv.trans hw⟩, fun c hc => ?_⟩
  rcases h'.captures c hc with hold | hnew
  · exact h.captures c hold
  · obtain ⟨⟨u, hu⟩, hstretch⟩ := hnew
    exact Or.inr ⟨⟨v ++ u, hv.trans hu⟩, hstretch⟩

theorem ahead_of_spells {s : Progress} {w : List Char} {c : Cursor} (h : s.cursor.Spells w c) :
    s.Ahead { s with cursor := c } :=
  ⟨⟨w, h⟩, fun _ => Or.inl⟩

theorem Ahead.capture {s t : Progress} (h : s.Ahead t) (index : Nat) :
    s.Ahead { t with captures := (index, ⟨s.cursor, t.cursor⟩) :: t.captures } := by
  refine ⟨h.spells, fun c hc => ?_⟩
  rcases List.mem_cons.mp hc with rfl | hold
  · exact Or.inr ⟨⟨[], .refl s.cursor⟩, h.spells⟩
  · exact h.captures c hold

/-- Whoever has gone on and not stayed has less text before him. -/
theorem Ahead.length_rest_lt {s t : Progress} (h : s.Ahead t)
    (hne : t.cursor.offset ≠ s.cursor.offset) :
    t.cursor.rest.length < s.cursor.rest.length := by
  obtain ⟨w, hw⟩ := h.spells
  cases w with
  | nil => exact absurd hw.offset_eq hne
  | cons x w =>
      rw [hw.rest_eq, List.cons_append, List.length_cons, List.length_append]
      omega

end Progress

theorem Cursor.Spells.frame {c d : Cursor} {w : List Char} (h : c.Spells w d) (F : Frame) :
    (F.cursor c).Spells w (F.cursor d) := by
  refine ⟨?_, ?_, ?_⟩
  · rw [Frame.cursor, Frame.cursor, h.rest_eq, List.append_assoc]
  · rw [Frame.cursor, Frame.cursor, h.before_eq, Option.or_assoc]
  · rw [Frame.cursor, Frame.cursor, h.offset_eq, Nat.add_assoc]

/-! ## Steps -/

namespace Pattern

/-- A step does the same in the stretch as in the text by itself. -/
def Framed (F : Frame) (body : Step) : Prop :=
  ∀ s k k', (∀ t, s.Ahead t → k (F.progress t) = (k' t).map F.progress) →
    body (F.progress s) k = (body s k').map F.progress

variable {F : Frame} {body : Step}

theorem map_orElse (greedy : Bool) (more done : Option Progress) (f : Progress → Progress) :
    (if greedy then orElse more fun _ => done else orElse done fun _ => more).map f =
      if greedy then orElse (more.map f) fun _ => done.map f
      else orElse (done.map f) fun _ => more.map f := by
  cases greedy <;> cases more <;> cases done <;> rfl

theorem Framed.exactly (h : Framed F body) (n : Nat) : Framed F (exactly body n) := by
  induction n with
  | zero =>
      intro s k k' hk
      exact hk s (.refl s)
  | succ n ih =>
      intro s k k' hk
      exact h s _ _ fun t hst => ih t _ _ fun u htu => hk u (hst.trans htu)

theorem Framed.upTo (h : Framed F body) (greedy : Bool) (n : Nat) :
    Framed F (upTo body greedy n) := by
  induction n with
  | zero =>
      intro s k k' hk
      exact hk s (.refl s)
  | succ n ih =>
      intro s k k' hk
      have hmore := h s (fun t => Pattern.upTo body greedy n t k)
        (fun t => Pattern.upTo body greedy n t k')
        fun t hst => ih t k k' fun u htu => hk u (hst.trans htu)
      rw [Pattern.upTo, Pattern.upTo, map_orElse, ← hmore, ← hk s (.refl s)]

/-- How a repetition goes on behind one more of its bodies. -/
def onward (body : Step) (greedy : Bool) (left : List Char) (s : Progress) (k : Next) : Next :=
  match left with
  | [] => k
  | _ :: left => fun t =>
    if t.cursor.offset = s.cursor.offset then k t else star body greedy left t k

theorem star_eq (body : Step) (greedy : Bool) (left : List Char) (s : Progress) (k : Next) :
    star body greedy left s k =
      if greedy then orElse (body s (onward body greedy left s k)) fun _ => k s
      else orElse (k s) fun _ => body s (onward body greedy left s k) := by
  cases left with
  | nil => rfl
  | cons x left => rfl

theorem onward_of_eq {greedy : Bool} {left : List Char} {s t : Progress} {k : Next}
    (h : t.cursor.offset = s.cursor.offset) : onward body greedy left s k t = k t := by
  cases left with
  | nil => rfl
  | cons x left => exact if_pos h

theorem onward_of_ne {greedy : Bool} {x : Char} {left : List Char} {s t : Progress} {k : Next}
    (h : t.cursor.offset ≠ s.cursor.offset) :
    onward body greedy (x :: left) s k t = star body greedy left t k := if_neg h

/-- The bounds for the repetitions may differ, as long as the text ends before any of them is
reached. -/
theorem Framed.star (h : Framed F body) (greedy : Bool) (left left' : List Char) {s : Progress}
    {k k' : Next} (hk : ∀ t, s.Ahead t → k (F.progress t) = (k' t).map F.progress)
    (hleft : s.cursor.rest.length ≤ left.length) (hleft' : s.cursor.rest.length ≤ left'.length) :
    star body greedy left (F.progress s) k = (star body greedy left' s k').map F.progress := by
  induction hn : s.cursor.rest.length using Nat.strongRecOn generalizing s left left' with
  | ind n ih =>
      have hmore : body (F.progress s) (onward body greedy left (F.progress s) k) =
          (body s (onward body greedy left' s k')).map F.progress := by
        refine h s _ _ fun t hst => ?_
        by_cases hoff : t.cursor.offset = s.cursor.offset
        · rw [onward_of_eq hoff, onward_of_eq (congrArg (F.shift + ·) hoff)]
          exact hk t hst
        · have hlt := hst.length_rest_lt hoff
          have hoff' : (F.progress t).cursor.offset ≠ (F.progress s).cursor.offset :=
            fun heq => hoff (Nat.add_left_cancel heq)
          obtain ⟨x, left, rfl⟩ := List.exists_cons_of_length_pos (l := left) (by omega)
          obtain ⟨y, left', rfl⟩ := List.exists_cons_of_length_pos (l := left') (by omega)
          simp only [List.length_cons] at hleft hleft'
          rw [onward_of_ne hoff, onward_of_ne hoff']
          exact ih _ (by omega) left left' (fun u htu => hk u (hst.trans htu)) (by omega)
            (by omega) rfl
      rw [star_eq, star_eq, map_orElse, ← hk s (.refl s), hmore]

theorem Framed.repeated (h : Framed F body) (min : Nat) (max : Option Nat) (greedy : Bool) :
    Framed F (repeated body min max greedy) := by
  intro s k k' hk
  refine h.exactly min s _ _ fun t hst => ?_
  have hk : ∀ u, t.Ahead u → k (F.progress u) = (k' u).map F.progress :=
    fun u htu => hk u (hst.trans htu)
  cases max with
  | none =>
      refine h.star greedy _ _ hk ?_ (Nat.le_refl _)
      simp only [Frame.progress, Frame.cursor, List.length_append]
      omega
  | some m => exact h.upTo greedy (m - min) t k k' hk

/-! ## Sets -/

variable {set : CharSet}

theorem step?_cursor (h : F.Suits (.set set)) (c : Cursor) :
    (F.cursor c).step? set = (c.step? set).map F.cursor := by
  obtain ⟨before, offset, rest⟩ := c
  cases rest with
  | nil =>
      cases hafter : F.after with
      | nil => simp [Frame.cursor, Cursor.step?, hafter]
      | cons x after =>
          have hx : set.mem x = false := h x (by simp [hafter])
          simp [Frame.cursor, Cursor.step?, hafter, hx]
  | cons x rest =>
      by_cases hx : set.mem x = true
      · simp [Frame.cursor, Cursor.step?, hx, Nat.add_assoc]
      · simp [Frame.cursor, Cursor.step?, hx]

theorem stepExactly?_cursor (h : F.Suits (.set set)) (n : Nat) (c : Cursor) :
    (F.cursor c).stepExactly? set n = (c.stepExactly? set n).map F.cursor := by
  induction n generalizing c with
  | zero => rfl
  | succ n ih =>
      rw [Cursor.stepExactly?, Cursor.stepExactly?, step?_cursor h]
      cases c.step? set with
      | none => rfl
      | some d => exact ih d

theorem reach_cursor (h : F.Suits (.set set)) (limit : Option Nat) (before : Option Char)
    (offset : Nat) (text : List Char) (found : List Cursor) :
    Cursor.reach set limit (before.or F.before) (F.shift + offset) (text ++ F.after)
        (found.map F.cursor) =
      (Cursor.reach set limit before offset text found).map F.cursor := by
  induction text generalizing limit before offset found with
  | nil =>
      cases hafter : F.after with
      | nil => simp [Cursor.reach, Frame.cursor, hafter]
      | cons x after =>
          have hx : set.mem x = false := h x (by simp [hafter])
          simp [Cursor.reach, Frame.cursor, hafter, hx]
  | cons x rest ih =>
      rw [List.cons_append, Cursor.reach, Cursor.reach]
      split
      · have hrest := ih (limit.map (· - 1)) (some x) (offset + x.utf8Size)
          (⟨before, offset, x :: rest⟩ :: found)
        simpa [Frame.cursor, Nat.add_assoc] using hrest
      · simp [Frame.cursor]

theorem findSome?_eq_map {α : Type} {f f' : α → Option Progress} {places : List α}
    (h : ∀ p ∈ places, f p = (f' p).map F.progress) :
    places.findSome? f = (places.findSome? f').map F.progress := by
  induction places with
  | nil => rfl
  | cons p places ih =>
      rw [List.findSome?_cons, List.findSome?_cons, h p List.mem_cons_self]
      cases f' p with
      | some r => rfl
      | none => exact ih fun q hq => h q (List.mem_cons_of_mem p hq)

theorem spells_of_repeats_step {set : CharSet} {n : Nat} {c d : Cursor}
    (h : Repeats (fun c d => c.step? set = some d) n c d) : ∃ w, c.Spells w d := by
  refine h.spells fun c d hstep => ?_
  obtain ⟨x, -, hx⟩ := Cursor.step?_eq_some_iff.mp hstep
  exact ⟨[x], hx⟩

theorem framed_repeatedSet (h : F.Suits (.set set)) (min : Nat) (max : Option Nat)
    (greedy : Bool) : Framed F (repeatedSet set min max greedy) := by
  intro s k k' hk
  rw [repeatedSet, repeatedSet]
  have hexactly : (F.progress s).cursor.stepExactly? set min =
      (s.cursor.stepExactly? set min).map F.cursor := stepExactly?_cursor h min s.cursor
  rw [hexactly]
  cases hc : s.cursor.stepExactly? set min with
  | none => rfl
  | some c =>
      have hreach := reach_cursor h (max.map (· - min)) c.before c.offset c.rest []
      -- Every place that is tried lies ahead.
      have hplaces : ∀ p ∈ Cursor.reach set (max.map (· - min)) c.before c.offset c.rest [],
          k { F.progress s with cursor := F.cursor p } =
            (k' { s with cursor := p }).map F.progress := by
        intro p hp
        rcases repeats_of_mem_reach hp with hnil | ⟨n, -, hn⟩
        · simp at hnil
        · obtain ⟨v, hv⟩ := spells_of_repeats_step (repeats_of_stepExactly? hc)
          obtain ⟨w, hw⟩ := spells_of_repeats_step hn
          exact hk _ (Progress.ahead_of_spells (hv.trans hw))
      have hframed : Cursor.reach set (max.map (· - min)) (F.cursor c).before (F.cursor c).offset
          (F.cursor c).rest [] =
          (Cursor.reach set (max.map (· - min)) c.before c.offset c.rest []).map F.cursor :=
        hreach
      simp only [Option.map_some, hframed]
      cases greedy with
      | true =>
          simp only [if_true, List.findSome?_map]
          exact findSome?_eq_map hplaces
      | false =>
          simp only [Bool.false_eq_true, if_false, ← List.map_reverse, List.findSome?_map]
          exact findSome?_eq_map fun p hp => hplaces p (List.mem_reverse.mp hp)

/-! ## Runs -/

/-- A run in a stretch that suits the pattern is the run in the text by itself. -/
theorem framed_run {p : Pattern} (h : F.Suits p) : Framed F p.run := by
  induction p with
  | empty =>
      intro s k k' hk
      exact hk s (.refl s)
  | set cs =>
      intro s k k' hk
      have hstep : (F.progress s).cursor.step? cs = (s.cursor.step? cs).map F.cursor :=
        step?_cursor h s.cursor
      rw [run, run, hstep]
      cases hc : s.cursor.step? cs with
      | none => rfl
      | some c =>
          obtain ⟨x, -, hx⟩ := Cursor.step?_eq_some_iff.mp hc
          exact hk _ (Progress.ahead_of_spells hx)
  | look l =>
      intro s k k' hk
      have hhead : (F.progress s).cursor.rest.head? = s.cursor.rest.head?.or F.after.head? := by
        simp [Frame.progress, Frame.cursor, List.head?_append]
      have hholds : l.holds (F.progress s).cursor.before (F.progress s).cursor.rest.head? =
          l.holds s.cursor.before s.cursor.rest.head? := by
        rw [hhead]
        exact h _ _
      rw [run, run, hholds]
      split
      · exact hk s (.refl s)
      · rfl
  | seq p q ihp ihq =>
      intro s k k' hk
      exact ihp h.1 s _ _ fun t hst => ihq h.2 t _ _ fun u htu => hk u (hst.trans htu)
  | alt p q ihp ihq =>
      intro s k k' hk
      rw [run, run, ihp h.1 s k k' hk, ihq h.2 s k k' hk]
      exact (map_orElse true (p.run s k') (q.run s k') F.progress).symm
  | group index p ih =>
      intro s k k' hk
      exact ih h s _ _ fun t hst => hk _ (hst.capture index)
  | iter p min max greedy ih =>
      cases p with
      | set cs => exact framed_repeatedSet h min max greedy
      | _ => exact (ih h).repeated min max greedy

/-! ## What a match has captured -/

/-- The whole text as a stretch of itself. -/
def wholeText : Frame := ⟨none, 0, []⟩

theorem wholeText_suits (p : Pattern) : wholeText.Suits p := by
  induction p with
  | empty => trivial
  | set s => exact fun x hx => by simp [wholeText] at hx
  | look l => exact fun before after => by simp [wholeText]
  | seq p q ihp ihq => exact ⟨ihp, ihq⟩
  | alt p q ihp ihq => exact ⟨ihp, ihq⟩
  | group _ p ih => exact ih
  | iter p _ _ _ ih => exact ih

theorem wholeText_cursor (c : Cursor) : wholeText.cursor c = c := by
  simp [wholeText, Frame.cursor]

theorem wholeText_progress (s : Progress) : wholeText.progress s = s := by
  have hcaptures : wholeText.captures s.captures = s.captures := by
    simp [Frame.captures, Frame.span, wholeText_cursor]
  rw [Frame.progress, wholeText_cursor, hcaptures]

/-- A match that is found lies ahead, and its captures are stretches of the text. -/
theorem ahead_of_run {p : Pattern} {s r : Progress} (h : p.run s some = some r) : s.Ahead r := by
  classical
  -- The rest of the work may as well refuse whatever does not lie ahead.
  have hguard := framed_run (wholeText_suits p) s some
    (fun t => if s.Ahead t then some t else none) fun t hst => by rw [if_pos hst]; rfl
  rw [wholeText_progress, h] at hguard
  obtain ⟨r', hrun, hr⟩ := Option.map_eq_some_iff.mp hguard.symm
  rw [wholeText_progress] at hr
  obtain rfl : r' = r := hr
  obtain ⟨t, -, ht⟩ := p.sound_run _ _ _ hrun
  rw [Option.ite_none_right_eq_some] at ht
  obtain ⟨hahead, heq⟩ := ht
  obtain rfl := Option.some.inj heq
  exact hahead

end Pattern

end SecretScan
