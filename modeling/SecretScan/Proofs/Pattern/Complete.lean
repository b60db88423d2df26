import SecretScan.Proofs.Pattern.Takes

/-!
# What a search cannot miss

A run succeeds wherever the pattern matches up to a place from which the rest of the work
succeeds. So the leftmost match is where the pattern first matches at all, and a search that finds
nothing leaves a text in which it matches nowhere. A pattern that ends with as many characters of
a set as there are leaves none of them behind its match.
-/

namespace SecretScan

namespace Pattern

/-! ## Runs -/

/-- A step of a match succeeds if the relation leads to places from which the rest does. -/
def Complete (body : Step) (R : Cursor → Cursor → Prop) : Prop :=
  ∀ s k d, R s.cursor d → (∀ t : Progress, t.cursor = d → (k t).isSome = true) →
    (body s k).isSome = true

theorem isSome_orElse (greedy : Bool) {more done : Option Progress} :
    (if greedy then orElse more fun _ => done else orElse done fun _ => more).isSome =
      (more.isSome || done.isSome) := by
  cases greedy <;> cases more <;> cases done <;> rfl

variable {body : Step} {R : Cursor → Cursor → Prop}

theorem Complete.exactly (hbody : Complete body R) (n : Nat) :
    Complete (exactly body n) (Repeats R n) := by
  induction n with
  | zero =>
      intro s k d h hk
      exact hk s h
  | succ n ih =>
      rintro s k d ⟨m, hfirst, hrest⟩ hk
      refine hbody s _ m hfirst ?_
      rintro t rfl
      exact ih t k d hrest hk

theorem Complete.upTo (hbody : Complete body R) (greedy : Bool) (n : Nat) :
    Complete (upTo body greedy n) fun c d => ∃ m, m ≤ n ∧ Repeats R m c d := by
  induction n with
  | zero =>
      rintro s k d ⟨m, hm, h⟩ hk
      obtain rfl := Nat.le_zero.mp hm
      exact hk s h
  | succ n ih =>
      rintro s k d ⟨m, hm, h⟩ hk
      rw [Pattern.upTo, isSome_orElse, Bool.or_eq_true]
      cases m with
      | zero => exact Or.inr (hk s h)
      | succ m =>
          obtain ⟨e, hfirst, hrest⟩ := h
          refine Or.inl (hbody s _ e hfirst ?_)
          rintro t rfl
          exact ih t k d ⟨m, Nat.le_of_succ_le_succ hm, hrest⟩ hk

/-- A repetition that takes nothing can be left out, and all others leave less text. -/
theorem Complete.star (hbody : Complete body R) (hR : ∀ c d, R c d → ∃ w, c.Spells w d)
    (greedy : Bool) {left : List Char} {s : Progress} {k : Next} {n : Nat} {d : Cursor}
    (hleft : s.cursor.rest.length ≤ left.length) (h : Repeats R n s.cursor d)
    (hk : ∀ t : Progress, t.cursor = d → (k t).isSome = true) :
    (star body greedy left s k).isSome = true := by
  induction n generalizing s left with
  | zero =>
      rw [star_eq, isSome_orElse, Bool.or_eq_true]
      exact Or.inr (hk s h)
  | succ n ih =>
      obtain ⟨e, hfirst, hrest⟩ := h
      obtain ⟨w, hw⟩ := hR _ _ hfirst
      by_cases hstays : w = []
      · obtain rfl := hstays
        rw [← hw.eq_of_nil] at hrest
        exact ih hleft hrest
      · have hpos := List.length_pos_iff.mpr hstays
        have hlength : s.cursor.rest.length = w.length + e.rest.length := by
          rw [hw.rest_eq, List.length_append]
        obtain ⟨x, left, rfl⟩ := List.exists_cons_of_length_pos (l := left) (by omega)
        rw [star_eq, isSome_orElse, Bool.or_eq_true]
        refine Or.inl (hbody s _ e hfirst ?_)
        rintro t rfl
        have hmoves : t.cursor.offset ≠ s.cursor.offset := by
          have hbytes := Text.byteLength_pos hstays
          rw [hw.offset_eq]
          omega
        rw [onward_of_ne hmoves]
        rw [List.length_cons] at hleft
        exact ih (by omega) hrest

theorem repeats_add {m n : Nat} {c d : Cursor} (h : Repeats R (m + n) c d) :
    ∃ e, Repeats R m c e ∧ Repeats R n e d := by
  induction m generalizing c with
  | zero => exact ⟨c, rfl, by rwa [Nat.zero_add] at h⟩
  | succ m ih =>
      rw [Nat.succ_add] at h
      obtain ⟨e, hfirst, hrest⟩ := h
      obtain ⟨e', hm, hn⟩ := ih hrest
      exact ⟨e', ⟨e, hfirst, hm⟩, hn⟩

theorem Complete.repeated (hbody : Complete body R) (hR : ∀ c d, R c d → ∃ w, c.Spells w d)
    (min : Nat) (max : Option Nat) (greedy : Bool) :
    Complete (repeated body min max greedy) fun c d =>
      ∃ more, (∀ m ∈ max, more ≤ m - min) ∧ Repeats R (min + more) c d := by
  rintro s k d ⟨more, hmore, h⟩ hk
  obtain ⟨e, hmin, hrest⟩ := repeats_add h
  refine hbody.exactly min s _ e hmin ?_
  rintro t rfl
  cases max with
  | none => exact hbody.star hR greedy (Nat.le_refl _) hrest hk
  | some m => exact hbody.upTo greedy (m - min) t k d ⟨more, hmore m rfl, hrest⟩ hk

theorem stepExactly?_of_repeats {set : CharSet} {n : Nat} {c d : Cursor}
    (h : Repeats (fun c d => c.step? set = some d) n c d) : c.stepExactly? set n = some d := by
  induction n generalizing c with
  | zero => exact congrArg some h
  | succ n ih =>
      obtain ⟨e, hfirst, hrest⟩ := h
      rw [Cursor.stepExactly?, hfirst]
      exact ih hrest

theorem mem_reach_of_mem {set : CharSet} {limit : Option Nat} {before : Option Char}
    {offset : Nat} {text : List Char} {found : List Cursor} {d : Cursor} (h : d ∈ found) :
    d ∈ Cursor.reach set limit before offset text found := by
  induction text generalizing limit before offset found with
  | nil => exact List.mem_cons_of_mem _ h
  | cons x rest ih =>
      rw [Cursor.reach]
      split
      · exact ih (List.mem_cons_of_mem _ h)
      · exact List.mem_cons_of_mem _ h

/-- Every place that some characters of the set lead to is reached, within the limit. -/
theorem mem_reach_of_repeats {set : CharSet} {limit : Option Nat} {before : Option Char}
    {offset : Nat} {text : List Char} {found : List Cursor} {d : Cursor} {n : Nat}
    (hn : ∀ m ∈ limit, n ≤ m)
    (h : Repeats (fun c d => c.step? set = some d) n ⟨before, offset, text⟩ d) :
    d ∈ Cursor.reach set limit before offset text found := by
  induction n generalizing limit before offset text found with
  | zero =>
      obtain rfl : (⟨before, offset, text⟩ : Cursor) = d := h
      cases text with
      | nil => exact List.mem_cons_self
      | cons x rest =>
          rw [Cursor.reach]
          split
          · exact mem_reach_of_mem List.mem_cons_self
          · exact List.mem_cons_self
  | succ n ih =>
      obtain ⟨e, hfirst, hrest⟩ := h
      cases text with
      | nil => cases hfirst
      | cons x rest =>
          obtain ⟨hmem, he⟩ := Option.ite_none_right_eq_some.mp hfirst
          obtain rfl := Option.some.inj he
          have hlimit : limit ≠ some 0 := by
            rintro rfl
            exact absurd (hn 0 rfl) (Nat.not_succ_le_zero n)
          rw [Cursor.reach, if_pos (by simp [hlimit, hmem])]
          refine ih (fun m hm => ?_) hrest
          obtain ⟨m', hm', rfl⟩ := Option.map_eq_some_iff.mp hm
          have hle := hn m' hm'
          omega

theorem complete_repeatedSet (set : CharSet) (min : Nat) (max : Option Nat) (greedy : Bool) :
    Complete (repeatedSet set min max greedy) fun c d =>
      ∃ more, (∀ m ∈ max, more ≤ m - min) ∧
        Repeats (fun c d => c.step? set = some d) (min + more) c d := by
  rintro s k d ⟨more, hmore, h⟩ hk
  obtain ⟨e, hmin, hrest⟩ := repeats_add h
  rw [repeatedSet, stepExactly?_of_repeats hmin]
  have hreach : d ∈ Cursor.reach set (max.map (· - min)) e.before e.offset e.rest [] := by
    refine mem_reach_of_repeats (fun m hm => ?_) hrest
    obtain ⟨m', hm', rfl⟩ := Option.map_eq_some_iff.mp hm
    exact hmore m' hm'
  rw [List.findSome?_isSome_iff]
  refine ⟨d, ?_, hk _ rfl⟩
  cases greedy with
  | true => exact hreach
  | false => exact List.mem_reverse.mpr hreach

/-- A run succeeds if the pattern matches up to a place from which the rest of the work succeeds. -/
theorem complete_run (p : Pattern) : Complete p.run p.Matches := by
  induction p with
  | empty =>
      intro s k d h hk
      exact hk s h
  | set cs =>
      intro s k d h hk
      have hstep : s.cursor.step? cs = some d := h
      rw [run, hstep]
      exact hk _ rfl
  | look l =>
      rintro s k d ⟨hholds, h⟩ hk
      rw [run, if_pos hholds]
      exact hk s h
  | seq p q ihp ihq =>
      rintro s k d ⟨m, hp, hq⟩ hk
      refine ihp s _ m hp ?_
      rintro t rfl
      exact ihq t k d hq hk
  | alt p q ihp ihq =>
      intro s k d h hk
      have horElse : (run (alt p q) s k).isSome = ((run p s k).isSome || (run q s k).isSome) :=
        isSome_orElse true
      rw [horElse, Bool.or_eq_true]
      exact h.imp (fun hp => ihp s k d hp hk) fun hq => ihq s k d hq hk
  | group index p ih =>
      intro s k d h hk
      exact ih s _ d h fun t ht => hk _ ht
  | iter p min max greedy ih =>
      cases p with
      | set cs => exact complete_repeatedSet cs min max greedy
      | _ => exact ih.repeated (fun _ _ => Matches.spells) min max greedy

/-! ## The end of a run -/

/-- The set of which a pattern takes as many characters as there are, last of all. -/
def greedyEnd? : Pattern → Option CharSet
  | seq _ q => q.greedyEnd?
  | iter (set s) _ none true => some s
  | _ => none

theorem exists_head_reach {set : CharSet} {before : Option Char} {offset : Nat} {text : List Char}
    {found : List Cursor} :
    ∃ d places, Cursor.reach set none before offset text found = d :: places ∧
      ∀ x ∈ d.rest.head?, set.mem x = false := by
  induction text generalizing before offset found with
  | nil => exact ⟨_, _, rfl, nofun⟩
  | cons x rest ih =>
      rw [Cursor.reach]
      split
      · exact ih
      · rename_i hstops
        refine ⟨_, _, rfl, fun y hy => ?_⟩
        obtain rfl := Option.some.inj hy
        simpa using hstops

theorem run_some_iter {s : CharSet} {min : Nat} {t r : Progress}
    (h : run (iter (set s) min none true) t some = some r) :
    ∀ x ∈ r.cursor.rest.head?, s.mem x = false := by
  have hrun : repeatedSet s min none true t some = some r := h
  rw [repeatedSet] at hrun
  split at hrun
  · cases hrun
  · rename_i c hc
    obtain ⟨d, places, hplaces, hd⟩ :=
      @exists_head_reach s c.before c.offset c.rest []
    simp only [Option.map_none, hplaces, if_true, List.findSome?_cons] at hrun
    obtain rfl := Option.some.inj hrun
    exact hd

/-- Behind a match of such a pattern stands no character of the set. -/
theorem head?_of_greedyEnd? {p : Pattern} {s : CharSet} {t r : Progress} (h : p.run t some = some r)
    (hs : p.greedyEnd? = some s) : ∀ x ∈ r.cursor.rest.head?, s.mem x = false := by
  induction p generalizing t with
  | seq p q _ ihq =>
      obtain ⟨t', -, ht'⟩ := p.sound_run _ _ _ h
      exact ihq ht' hs
  | iter p min max greedy _ =>
      rw [greedyEnd?.eq_def] at hs
      split at hs
      · cases ‹iter p min max greedy = seq _ _›
      · rename_i s' min' heq
        cases heq
        obtain rfl := Option.some.inj hs
        exact run_some_iter h
      · cases hs
  | _ => cases hs

theorem greedyEnd?_of_runOut? {p lead : Pattern} {s : CharSet} (h : p.runOut? = some (lead, s)) :
    p.greedyEnd? = some s := by
  induction p generalizing lead with
  | seq p q _ ihq =>
      obtain ⟨⟨lead, s⟩, hq, hlead⟩ := Option.map_eq_some_iff.mp h
      obtain ⟨-, rfl⟩ := Prod.mk.inj hlead
      exact ihq hq
  | iter p min max greedy _ =>
      rw [runOut?.eq_def] at h
      split at h
      · cases ‹iter p min max greedy = seq _ _›
      · rename_i s' heq
        cases heq
        obtain ⟨-, rfl⟩ := Prod.mk.inj (Option.some.inj h)
        rfl
      · cases h
  | _ => cases h

/-! ## Searching -/

variable {p : Pattern} {c d : Cursor} {m : Match}

theorem matchAt?_isSome_iff : (p.matchAt? c).isSome = true ↔ ∃ d, p.Matches c d := by
  constructor
  · intro h
    obtain ⟨m, hm⟩ := Option.isSome_iff_exists.mp h
    obtain ⟨r, hrun, -⟩ := Option.map_eq_some_iff.mp hm
    obtain ⟨t, ht, -⟩ := p.sound_run _ _ _ hrun
    exact ⟨t.cursor, ht⟩
  · rintro ⟨d, hd⟩
    rw [matchAt?, Option.isSome_map]
    exact p.complete_run ⟨c, []⟩ some d hd fun t _ => rfl

theorem takes_of_matchAt? (h : p.matchAt? c = some m) :
    m.whole.first = c ∧ p.Matches c m.whole.last ∧
      ∀ s ∈ p.greedyEnd?, ∀ x ∈ m.whole.last.rest.head?, s.mem x = false := by
  obtain ⟨r, hrun, rfl⟩ := Option.map_eq_some_iff.mp h
  obtain ⟨t, ht, hr⟩ := p.sound_run _ _ _ hrun
  obtain rfl := Option.some.inj hr
  exact ⟨rfl, ht, fun s hs => head?_of_greedyEnd? hrun hs⟩

/-- Nowhere in a text does the pattern match, where the character given stands before it. -/
def TakesNothing (p : Pattern) (before : Option Char) (text : List Char) : Prop :=
  ∀ u w v, text = u ++ (w ++ v) → ¬ p.Takes (u.getLast?.or before) w v.head?

/-- The pattern does not match from any place in the first text on, where the second follows it. -/
def TakesNothingFrom (p : Pattern) (before : Option Char) (front back : List Char) : Prop :=
  ∀ u w v, front ++ back = u ++ (w ++ v) → u.length < front.length →
    ¬ p.Takes (u.getLast?.or before) w v.head?

/-- No match at a place: the pattern takes nothing there. -/
theorem not_takes_of_matchAt? {w v : List Char} (h : p.matchAt? c = none)
    (hrest : c.rest = w ++ v) :
    ¬ p.Takes c.before w v.head? := by
  intro htakes
  have hspells : c.Spells w ⟨w.getLast?.or c.before, c.offset + Text.byteLength w, v⟩ :=
    ⟨hrest, rfl, rfl⟩
  have hsome := matchAt?_isSome_iff.mpr ⟨_, (matches_iff_takes hspells).mpr htakes⟩
  rw [h] at hsome
  cases hsome

theorem takesNothing_of_findFrom? {before : Option Char} {offset : Nat} {text : List Char}
    (h : p.findFrom? before offset text = none) : p.TakesNothing before text := by
  induction text generalizing before offset with
  | nil =>
      intro u w v htext
      obtain ⟨rfl, hwv⟩ := List.append_eq_nil_iff.mp htext.symm
      exact not_takes_of_matchAt? (c := ⟨before, offset, []⟩) h hwv.symm
  | cons x rest ih =>
      rw [findFrom?] at h
      split at h
      · cases h
      · rename_i hnone
        intro u w v htext
        cases u with
        | nil => exact not_takes_of_matchAt? (c := ⟨before, offset, x :: rest⟩) hnone htext
        | cons y u =>
            obtain ⟨rfl, hrest⟩ := List.cons.inj htext
            have hlater := ih h u w v hrest
            rwa [List.getLast?_cons, Option.some_or, ← Option.or_some]

/-- What a search finds is taken by the pattern, as far as it goes, and nothing is taken before. -/
theorem takes_of_findFrom? {before : Option Char} {offset : Nat} {text : List Char}
    (h : p.findFrom? before offset text = some m) :
    ∃ gap w, Cursor.Spells ⟨before, offset, text⟩ gap m.whole.first ∧
      m.whole.first.Spells w m.whole.last ∧
      p.Takes (gap.getLast?.or before) w m.whole.last.rest.head? ∧
      (∀ s ∈ p.greedyEnd?, ∀ x ∈ m.whole.last.rest.head?, s.mem x = false) ∧
      p.TakesNothingFrom before gap (w ++ m.whole.last.rest) := by
  have hhere {c : Cursor} (hm : p.matchAt? c = some m) :
      ∃ gap w, c.Spells gap m.whole.first ∧ m.whole.first.Spells w m.whole.last ∧
        p.Takes (gap.getLast?.or c.before) w m.whole.last.rest.head? ∧
        (∀ s ∈ p.greedyEnd?, ∀ x ∈ m.whole.last.rest.head?, s.mem x = false) ∧
        p.TakesNothingFrom c.before gap (w ++ m.whole.last.rest) := by
    obtain ⟨hfirst, hmatches, hgreedy⟩ := takes_of_matchAt? hm
    obtain ⟨w, hw⟩ := hmatches.spells
    refine ⟨[], w, hfirst ▸ .refl c, hfirst ▸ hw, (matches_iff_takes hw).mp hmatches, hgreedy, ?_⟩
    rintro u w v - hlt
    exact absurd hlt (Nat.not_lt_zero _)
  induction text generalizing before offset with
  | nil => exact hhere h
  | cons x rest ih =>
      rw [findFrom?] at h
      split at h
      · rename_i m' hm
        obtain rfl := Option.some.inj h
        exact hhere hm
      · rename_i hnone
        obtain ⟨gap, w, hgap, hw, htakes, hgreedy, hnothing⟩ := ih h
        refine ⟨x :: gap, w, (Cursor.Spells.next before offset x rest).trans hgap, hw, ?_, hgreedy,
          ?_⟩
        · rwa [List.getLast?_cons, Option.some_or, ← Option.or_some]
        · intro u w' v htext hlt
          cases u with
          | nil =>
              have hrest : rest = gap ++ (w ++ m.whole.last.rest) :=
                hgap.rest_eq.trans (by rw [hw.rest_eq])
              exact not_takes_of_matchAt? (c := ⟨before, offset, x :: rest⟩) hnone
                ((congrArg (x :: ·) hrest).trans htext)
          | cons y u =>
              obtain ⟨rfl, hrest⟩ := List.cons.inj htext
              have hlater := hnothing u w' v hrest (Nat.lt_of_succ_lt_succ hlt)
              rwa [List.getLast?_cons, Option.some_or, ← Option.or_some]

theorem occursIn_eq_false_iff {text : List Char} :
    p.occursIn text = false ↔ p.TakesNothing none text := by
  rw [occursIn, find?, findAfter?, Option.isSome_eq_false_iff, Option.isNone_iff_eq_none]
  refine ⟨takesNothing_of_findFrom?, fun hnothing => ?_⟩
  refine Option.eq_none_iff_forall_ne_some.mpr fun m hm => ?_
  obtain ⟨gap, w, hgap, hw, htakes, -⟩ := takes_of_findFrom? hm
  exact hnothing gap w m.whole.last.rest (hgap.rest_eq.trans (by rw [hw.rest_eq])) htakes

end Pattern

end SecretScan
