import SecretScan.Proofs.Pattern.Frame

/-!
# Numbers of captures

The numbers of its captures have no say in what a pattern matches. With other numbers it goes the
same ways in the same order, whatever was captured before, so that a pattern can be read as a part
of a larger one without finding anything else.
-/

namespace SecretScan

/-- The pattern with other numbers for its captures. -/
def Pattern.renumbered (σ : Nat → Nat) : Pattern → Pattern
  | empty => empty
  | set s => set s
  | look l => look l
  | seq p q => seq (p.renumbered σ) (q.renumbered σ)
  | alt p q => alt (p.renumbered σ) (q.renumbered σ)
  | group index p => group (σ index) (p.renumbered σ)
  | iter p min max greedy => iter (p.renumbered σ) min max greedy

/-- How far a match has come, with other numbers for its captures and with those made before. -/
def Progress.renumbered (σ : Nat → Nat) (earlier : List (Nat × Span)) (s : Progress) : Progress :=
  ⟨s.cursor, s.captures.map (fun c => (σ c.1, c.2)) ++ earlier⟩

namespace Pattern

variable {σ : Nat → Nat}

@[simp] theorem size_renumbered (p : Pattern) : (p.renumbered σ).size = p.size := by
  induction p with
  | empty => rfl
  | set s => rfl
  | look l => rfl
  | seq p q ihp ihq => rw [renumbered, size, size, ihp, ihq]
  | alt p q ihp ihq => rw [renumbered, size, size, ihp, ihq]
  | group index p ih => rw [renumbered, size, size, ih]
  | iter p min max greedy ih => cases max <;> simp only [renumbered, size, ih]

theorem matches_renumbered (p : Pattern) : (p.renumbered σ).Matches = p.Matches := by
  induction p with
  | empty => rfl
  | set s => rfl
  | look l => rfl
  | seq p q ihp ihq =>
      funext c d
      rw [renumbered, Matches, Matches, ihp, ihq]
  | alt p q ihp ihq =>
      funext c d
      rw [renumbered, Matches, Matches, ihp, ihq]
  | group index p ih =>
      funext c d
      rw [renumbered, Matches, Matches, ih]
  | iter p min max greedy ih =>
      funext c d
      rw [renumbered, Matches, Matches, ih]

/-! ## The same ways -/

/-- A step goes the ways of another one, in their order, with other numbers for the captures. What
the rest of the work makes of it may differ as well, by `g`. -/
def Follows (σ : Nat → Nat) (earlier : List (Nat × Span)) (body body' : Step) : Prop :=
  ∀ s k k' (g : Progress → Progress),
    (∀ t, k' (t.renumbered σ earlier) = (k t).map g) →
      body' (s.renumbered σ earlier) k' = (body s k).map g

variable {earlier : List (Nat × Span)} {body body' : Step}

theorem Follows.exactly (h : Follows σ earlier body body') (n : Nat) :
    Follows σ earlier (exactly body n) (exactly body' n) := by
  induction n with
  | zero =>
      intro s k k' g hk
      exact hk s
  | succ n ih =>
      intro s k k' g hk
      exact h s _ _ g fun t => ih t k k' g hk

theorem Follows.upTo (h : Follows σ earlier body body') (greedy : Bool) (n : Nat) :
    Follows σ earlier (upTo body greedy n) (upTo body' greedy n) := by
  induction n with
  | zero =>
      intro s k k' g hk
      exact hk s
  | succ n ih =>
      intro s k k' g hk
      have hmore := h s (fun t => Pattern.upTo body greedy n t k)
        (fun t => Pattern.upTo body' greedy n t k') g fun t => ih t k k' g hk
      rw [Pattern.upTo, Pattern.upTo, map_orElse, hmore, hk s]

theorem Follows.star (h : Follows σ earlier body body') (greedy : Bool) (left : List Char) :
    Follows σ earlier (star body greedy left) (star body' greedy left) := by
  induction left with
  | nil =>
      intro s k k' g hk
      rw [Pattern.star, Pattern.star, map_orElse, h s k k' g hk, hk s]
  | cons x left ih =>
      intro s k k' g hk
      have hmore : body' (s.renumbered σ earlier)
          (onward body' greedy (x :: left) (s.renumbered σ earlier) k') =
            (body s (onward body greedy (x :: left) s k)).map g := by
        refine h s _ _ g fun t => ?_
        have hcursor (u : Progress) : (u.renumbered σ earlier).cursor = u.cursor := rfl
        by_cases hoff : t.cursor.offset = s.cursor.offset
        · rw [onward_of_eq hoff, onward_of_eq (by rwa [hcursor, hcursor])]
          exact hk t
        · rw [onward_of_ne hoff, onward_of_ne (by rwa [hcursor, hcursor])]
          exact ih t k k' g hk
      rw [star_eq, star_eq, map_orElse, hmore, hk s]

theorem Follows.repeated (h : Follows σ earlier body body') (min : Nat) (max : Option Nat)
    (greedy : Bool) :
    Follows σ earlier (repeated body min max greedy) (repeated body' min max greedy) := by
  intro s k k' g hk
  refine h.exactly min s _ _ g fun t => ?_
  cases max with
  | none => exact h.star greedy _ t k k' g hk
  | some m => exact h.upTo greedy (m - min) t k k' g hk

theorem follows_repeatedSet (set : CharSet) (min : Nat) (max : Option Nat) (greedy : Bool) :
    Follows σ earlier (repeatedSet set min max greedy) (repeatedSet set min max greedy) := by
  intro s k k' g hk
  have hplaces (places : List Cursor) :
      places.findSome? (fun p => k' { s.renumbered σ earlier with cursor := p }) =
        (places.findSome? fun p => k { s with cursor := p }).map g := by
    rw [List.map_findSome?]
    exact congrArg places.findSome? (funext fun p => hk { s with cursor := p })
  rw [repeatedSet, repeatedSet]
  cases hc : s.cursor.stepExactly? set min with
  | none =>
      have hc' : (s.renumbered σ earlier).cursor.stepExactly? set min = none := hc
      rw [hc']
      rfl
  | some c =>
      have hc' : (s.renumbered σ earlier).cursor.stepExactly? set min = some c := hc
      rw [hc']
      exact hplaces _

/-- With other numbers for its captures a pattern goes the same ways in the same order. -/
theorem follows_run (p : Pattern) (σ : Nat → Nat) (earlier : List (Nat × Span)) :
    Follows σ earlier p.run (p.renumbered σ).run := by
  induction p with
  | empty =>
      intro s k k' g hk
      exact hk s
  | set cs =>
      intro s k k' g hk
      have hstep : (s.renumbered σ earlier).cursor.step? cs = s.cursor.step? cs := rfl
      rw [renumbered, run, run, hstep]
      cases s.cursor.step? cs with
      | none => rfl
      | some c => exact hk { s with cursor := c }
  | look l =>
      intro s k k' g hk
      have hcursor : (s.renumbered σ earlier).cursor = s.cursor := rfl
      rw [renumbered, run, run, hcursor]
      split
      · exact hk s
      · rfl
  | seq p q ihp ihq =>
      intro s k k' g hk
      exact ihp s _ _ g fun t => ihq t k k' g hk
  | alt p q ihp ihq =>
      intro s k k' g hk
      rw [renumbered, run, run, ihp s k k' g hk, ihq s k k' g hk]
      exact (map_orElse true (p.run s k) (q.run s k) g).symm
  | group index p ih =>
      intro s k k' g hk
      exact ih s _ _ g fun t =>
        hk { t with captures := (index, ⟨s.cursor, t.cursor⟩) :: t.captures }
  | iter p min max greedy ih =>
      cases p with
      | set cs => exact follows_repeatedSet cs min max greedy
      | _ => exact ih.repeated min max greedy

/-! ## A pattern as a capture -/

/-- A pattern that is captured as a whole makes the match that it makes by itself. -/
theorem run_group_renumbered (p : Pattern) (index : Nat) (s : Progress) :
    (group index (p.renumbered σ)).run s some = (p.matchAt? s.cursor).map fun m =>
      ⟨m.whole.last,
        (index, m.whole) :: (m.captures.map (fun c => (σ c.1, c.2)) ++ s.captures)⟩ := by
  have hfollows := p.follows_run σ s.captures ⟨s.cursor, []⟩ some
    (fun t => some { t with captures := (index, ⟨s.cursor, t.cursor⟩) :: t.captures })
    (fun t => ⟨t.cursor, (index, ⟨s.cursor, t.cursor⟩) ::
      (t.captures.map (fun c => (σ c.1, c.2)) ++ s.captures)⟩) fun t => rfl
  rw [matchAt?, Option.map_map]
  exact hfollows

theorem matchAt?_group_renumbered (p : Pattern) (index : Nat) (c : Cursor) :
    (group index (p.renumbered σ)).matchAt? c = (p.matchAt? c).map fun m =>
      ⟨m.whole, (index, m.whole) :: m.captures.map fun c => (σ c.1, c.2)⟩ := by
  rw [matchAt?, run_group_renumbered, Option.map_map]
  cases h : p.matchAt? c with
  | none => rfl
  | some m =>
      obtain ⟨r, -, rfl⟩ := Option.map_eq_some_iff.mp h
      simp

theorem find?_group_renumbered (p : Pattern) (index : Nat) (text : List Char) :
    (group index (p.renumbered σ)).find? text = (p.find? text).map fun m =>
      ⟨m.whole, (index, m.whole) :: m.captures.map fun c => (σ c.1, c.2)⟩ := by
  have hfrom (before : Option Char) (offset : Nat) :
      (group index (p.renumbered σ)).findFrom? before offset text =
        (p.findFrom? before offset text).map fun m =>
          ⟨m.whole, (index, m.whole) :: m.captures.map fun c => (σ c.1, c.2)⟩ := by
    induction text generalizing before offset with
    | nil => exact p.matchAt?_group_renumbered index ⟨before, offset, []⟩
    | cons x rest ih =>
        rw [findFrom?, findFrom?, matchAt?_group_renumbered]
        cases p.matchAt? ⟨before, offset, x :: rest⟩ with
        | none => exact ih (some x) (offset + x.utf8Size)
        | some m => rfl
  exact hfrom none 0

end Pattern

end SecretScan
