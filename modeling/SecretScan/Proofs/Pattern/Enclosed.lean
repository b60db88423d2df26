import SecretScan.Proofs.Pattern.ClosedSteps
import SecretScan.Proofs.Pattern.Groups

/-!
# A pattern within another

The reading of a pattern goes the same way inside a group of a larger one, with greater numbers
for its captures, as long as it does not close the group around it. With a parenthesis behind the
pattern, what has been read of it is read there too, and what is refused is refused.
-/

namespace SecretScan.Pattern

/-! ## Readings inside groups -/

/-- A piece with greater numbers for its captures. -/
def Piece.raised (k : Nat) (x : Piece) : Piece :=
  ⟨x.pattern.map (·.renumbered (· + k)), x.depth⟩

/-- An open group with greater numbers for the captures. -/
def OpenGroup.raised (k : Nat) (g : OpenGroup) : OpenGroup :=
  ⟨g.index.map (· + k), g.flags, g.branches.map (Piece.raised k), g.items.map (Piece.raised k)⟩

/-- The same reading inside other groups, of which `k` have a number. -/
def Reading.inside (outer : List OpenGroup) (k : Nat) (r : Reading) : Reading :=
  ⟨r.flags, r.stack.map (OpenGroup.raised k) ++ outer, r.branches.map (Piece.raised k),
    r.items.map (Piece.raised k), r.groups + k, r.names⟩

variable {outer : List OpenGroup} {k : Nat}

theorem renumbered_seqs (σ : Nat → Nat) (ps : List Pattern) :
    (seqs ps).renumbered σ = seqs (ps.map (·.renumbered σ)) := by
  induction ps with
  | nil => rfl
  | cons p ps ih =>
      cases ps with
      | nil => rfl
      | cons q ps => exact congrArg (seq (p.renumbered σ)) ih

theorem renumbered_alts (σ : Nat → Nat) (ps : List Pattern) :
    (alts ps).renumbered σ = alts (ps.map (·.renumbered σ)) := by
  induction ps with
  | nil => rfl
  | cons p ps ih =>
      cases ps with
      | nil => rfl
      | cons q ps => exact congrArg (alt (p.renumbered σ)) ih

theorem filterMap_raised (items : List Piece) :
    (items.map (Piece.raised k)).filterMap (·.pattern) =
      (items.filterMap (·.pattern)).map (·.renumbered (· + k)) := by
  rw [List.filterMap_map, List.map_filterMap]
  rfl

theorem map_depth_raised (items : List Piece) :
    (items.map (Piece.raised k)).map (·.depth) = items.map (·.depth) := by
  rw [List.map_map]
  rfl

theorem branch_raised (items : List Piece) :
    branch (items.map (Piece.raised k)) = (branch items).raised k := by
  cases items with
  | nil => rfl
  | cons item items =>
      cases items with
      | nil => cases h : item.pattern <;> simp [branch, Piece.raised, h, renumbered]
      | cons item' items =>
          let all := item :: item' :: items
          show Piece.mk (some (seqs ((all.map (Piece.raised k)).reverse.filterMap (·.pattern))))
            (1 + ((all.map (Piece.raised k)).map (·.depth)).foldl max 0) = _
          rw [← List.map_reverse, filterMap_raised, map_depth_raised, ← renumbered_seqs]
          rfl

theorem choice_raised (branches items : List Piece) :
    choice (branches.map (Piece.raised k)) (items.map (Piece.raised k)) =
      (choice branches items).raised k := by
  cases branches with
  | nil => exact branch_raised items
  | cons b branches =>
      let all := (branch items :: b :: branches).reverse
      have hall : (branch (items.map (Piece.raised k)) :: (b :: branches).map
          (Piece.raised k)).reverse = all.map (Piece.raised k) := by
        rw [branch_raised, ← List.map_cons, ← List.map_reverse]
      show Piece.mk (some (alts (List.filterMap (·.pattern)
          (branch (items.map (Piece.raised k)) :: (b :: branches).map (Piece.raised k)).reverse)))
        (1 + (List.map (·.depth) (branch (items.map (Piece.raised k)) ::
          (b :: branches).map (Piece.raised k)).reverse).foldl max 0) = _
      rw [hall, filterMap_raised, map_depth_raised, ← renumbered_alts]
      rfl

/-! ## Steps inside groups -/

namespace Reading

variable (r : Reading)

theorem closeGroup_inside (h : r.stack ≠ []) :
    (r.inside outer k).closeGroup = r.closeGroup.map (·.inside outer k) := by
  obtain ⟨g, stack, hstack⟩ := List.exists_cons_of_ne_nil h
  simp only [closeGroup, inside, hstack, List.map_cons, List.cons_append, choice_raised]
  cases hindex : g.index with
  | none => cases hp : (choice r.branches r.items).pattern <;>
      simp [OpenGroup.raised, Piece.raised, Except.map, hindex, hp, renumbered]
  | some i => cases hp : (choice r.branches r.items).pattern <;>
      simp [OpenGroup.raised, Piece.raised, Except.map, hindex, hp, renumbered]

theorem repeatLast_inside (min : Nat) (max : Option Nat) (greedy : Bool) :
    (r.inside outer k).repeatLast min max greedy =
      (r.repeatLast min max greedy).map (·.inside outer k) := by
  cases hitems : r.items with
  | nil => simp [repeatLast, inside, hitems, Except.map]
  | cons item items =>
      obtain ⟨p, depth⟩ := item
      cases p <;>
        simp [repeatLast, inside, hitems, Piece.raised, Except.map, renumbered]

theorem openNumbered_inside :
    (r.inside outer k).openNumbered = r.openNumbered.inside outer k := by
  simp [openNumbered, openGroup, inside, OpenGroup.raised, Nat.add_right_comm]

theorem openNamed_inside (text : List Char) :
    (r.inside outer k).openNamed text =
      (r.openNamed text).map fun a => (a.1.inside outer k, a.2) := by
  simp only [openNamed]
  cases readGroupName text with
  | error e => rfl
  | ok a =>
      show (if r.names.contains a.1 then _ else _) =
          Except.map _ (if r.names.contains a.1 then _ else _)
      split
      · rfl
      · simp [inside, openGroup, OpenGroup.raised, Except.map, Nat.add_right_comm, pure,
          Except.pure]

theorem openFlags_inside (text : List Char) :
    (r.inside outer k).openFlags text =
      (r.openFlags text).map fun a => (a.1.inside outer k, a.2) := by
  rw [openFlags_eq, openFlags_eq]
  show (r.flags.read [] text).bind _ = _
  cases r.flags.read [] text with
  | error e => rfl
  | ok a =>
      show (if a.2.2.head? = some ')' then _ else _) =
        Except.map _ (if a.2.2.head? = some ')' then _ else _)
      split_ifs <;> rfl

theorem openAny_inside (text : List Char) :
    (r.inside outer k).openAny text =
      (r.openAny text).map fun a => (a.1.inside outer k, a.2) := by
  by_cases hhead : (r.flags.skip text).head? = some '?'
  · obtain ⟨rest, hskip⟩ := List.head?_eq_some_iff.mp hhead
    rw [openAny_eq r hskip, openAny_eq (r.inside outer k) hskip]
    split
    · rfl
    · cases behindName? rest with
      | none => exact r.openFlags_inside rest
      | some more => exact r.openNamed_inside more
  · rw [openAny_eq_of_ne r hhead, openAny_eq_of_ne (r.inside outer k) hhead, openNumbered_inside]
    rfl

theorem closeCount_inside (low : Nat) (high : Option Nat) (text : List Char) :
    (r.inside outer k).closeCount low high text =
      (r.closeCount low high text).map fun a => (a.1.inside outer k, a.2) := by
  by_cases hclose : text.head? = some '}'
  · obtain ⟨rest, rfl⟩ := List.head?_eq_some_iff.mp hclose
    simp only [closeCount]
    split
    · rfl
    · have hflags : (r.inside outer k).flags = r.flags := rfl
      rw [repeatLast_inside, hflags]
      cases r.repeatLast low high _ <;> rfl
  · rw [closeCount_of_ne _ low high hclose, closeCount_of_ne _ low high hclose]
    rfl

theorem readCount_inside (text : List Char) :
    (r.inside outer k).readCount text =
      (r.readCount text).map fun a => (a.1.inside outer k, a.2) := by
  have hitems : ((r.inside outer k).items.head?.bind (·.pattern)).isNone =
      (r.items.head?.bind (·.pattern)).isNone := by
    cases hitems : r.items with
    | nil => simp [inside, hitems]
    | cons item items => cases hp : item.pattern <;> simp [inside, hitems, Piece.raised, hp]
  rw [readCount_eq, readCount_eq, hitems]
  split
  · rfl
  · show (readNumber r.flags (r.flags.skip text)).bind _ = _
    cases readNumber r.flags (r.flags.skip text) with
    | error e => rfl
    | ok a =>
        show (countBehind r.flags a.1 a.2).bind _ =
            Except.map _ ((countBehind r.flags a.1 a.2).bind _)
        cases countBehind r.flags a.1 a.2 with
        | error e => rfl
        | ok b => exact r.closeCount_inside b.1 b.2.1 b.2.2

/-- Inside other groups each step is the same, unless it would close one of them. -/
theorem step_inside {c : Char} (h : r.stack ≠ [] ∨ c ≠ ')') (rest : List Char) :
    (r.inside outer k).step c rest = (r.step c rest).map fun a => (a.1.inside outer k, a.2) := by
  have hmap {a : Except Fault Reading} {b : Except Fault Reading} (text : List Char)
      (hab : b = a.map (·.inside outer k)) : b.map (fun r => (r, text)) =
        (a.map fun r => (r, text)).map fun a => (a.1.inside outer k, a.2) := by
    subst hab
    cases a <;> rfl
  have hset (a : Except Fault CharSet) :
      (a.map fun s => ((r.inside outer k).add (.set s) 0, rest)) =
        (a.map fun s => (r.add (.set s) 0, rest)).map fun a => (a.1.inside outer k, a.2) := by
    cases a <;> rfl
  have hflags : (r.inside outer k).flags = r.flags := rfl
  simp only [step, hflags]
  split
  · exact r.openAny_inside rest
  · exact hmap rest (r.closeGroup_inside (h.resolve_right fun hne => hne rfl))
  · show Except.ok (Reading.mk _ _ (branch (r.items.map (Piece.raised k)) :: _) _ _ _, _) = _
    rw [branch_raised]
    rfl
  · cases readSet r.flags rest <;> rfl
  · exact hmap _ (r.repeatLast_inside _ _ _)
  · exact hmap _ (r.repeatLast_inside _ _ _)
  · exact hmap _ (r.repeatLast_inside _ _ _)
  · exact r.readCount_inside rest
  · exact hset _
  · rfl
  · rfl
  · cases Primitive.read r.flags rest with
    | error e => rfl
    | ok a =>
        obtain ⟨p, rest⟩ := a
        cases p with
        | char c byte =>
            show ((charSet r.flags c byte).map _).bind _ =
                Except.map _ (((charSet r.flags c byte).map _).bind _)
            cases charSet r.flags c byte <;> rfl
        | dot =>
            show ((dotSet r.flags).map _).bind _ = Except.map _ (((dotSet r.flags).map _).bind _)
            cases dotSet r.flags <;> rfl
        | look l => rfl
        | set s => rfl
  · exact hset _

/-! ## Readings to the end -/

/-- What a reading comes to at the end of the text. -/
def ended : Except Fault Piece :=
  if r.stack.isEmpty then .ok (choice r.branches r.items) else .error .unclosedGroup

variable {r} {n b b' : Nat} {text text' : List Char} {c : Char} {e : Fault} {piece : Piece}

theorem finish_of_nil (h : r.flags.skip text = []) : r.finish b text = r.ended := by
  cases b <;> simp [finish, h, ended]

theorem finish_of_cons {rest : List Char} (h : r.flags.skip text = c :: rest) :
    r.finish (b + 1) text = (r.step c rest).bind fun a => a.1.finish b a.2 := by
  rw [finish.eq_def]
  simp only [h]
  rfl

theorem finish_zero {rest : List Char} (h : r.flags.skip text = c :: rest) :
    r.finish 0 text = .error .unclosedGroup := by
  rw [finish.eq_def]
  simp only [h]

theorem finish_of_last (h : r.flags.skip text = [')']) :
    r.finish (b + 1) text = r.closeGroup.bind ended := by
  rw [finish_of_cons h, step]
  cases r.closeGroup with
  | error e => rfl
  | ok r' => exact finish_of_nil (r'.flags.skip_nil)

theorem ended_of_ne (h : r.stack ≠ []) : r.ended = .error .unclosedGroup := by
  rw [ended, if_neg]
  rwa [List.isEmpty_iff]

theorem stack_eq_nil_of_ended (h : r.ended = .ok piece) :
    r.stack = [] ∧ piece = choice r.branches r.items := by
  rw [ended] at h
  split at h
  · rename_i hstack
    exact ⟨List.isEmpty_iff.mp hstack, (Except.ok.inj h).symm⟩
  · cases h

theorem inside_stack_ne_nil (r : Reading) (houter : outer ≠ []) : (r.inside outer k).stack ≠ [] :=
  List.append_ne_nil_of_right_ne_nil _ houter

/-- Once the parenthesis is used up, a group that is open stays open. -/
theorem finish_spent (h : Spent r.flags text) (hstack : r.stack ≠ []) (b : Nat) :
    ∃ e, r.finish b text = .error e := by
  rcases h with rfl | ⟨more, rfl, hmore⟩
  · exact ⟨_, (finish_of_nil r.flags.skip_nil).trans (ended_of_ne hstack)⟩
  · have hskip : r.flags.skip ('{' :: more) = '{' :: more := skip_brace r.flags more
    cases b with
    | zero => exact ⟨_, finish_zero hskip⟩
    | succ b =>
        have hcount : ∃ e, r.readCount more = .error e := by
          rw [readCount_eq, hmore]
          split
          · exact ⟨_, rfl⟩
          · exact ⟨.badCount, rfl⟩
        obtain ⟨e, he⟩ := hcount
        refine ⟨e, ?_⟩
        rw [finish_of_cons hskip, step, he]
        rfl

theorem bind_eq_ok {α β : Type} {a : Except Fault α} {g : α → Except Fault β} {y : β}
    (h : a.bind g = .ok y) : ∃ x, a = .ok x ∧ g x = .ok y := by
  cases a with
  | error e => cases h
  | ok x => exact ⟨x, rfl, h⟩

/-- A step that succeeds closes no group where none is open. -/
theorem stack_ne_nil_or_of_step {rest : List Char} {a : Reading × List Char}
    (h : r.step c rest = .ok a) : r.stack ≠ [] ∨ c ≠ ')' := by
  by_contra hcon
  obtain ⟨hstack, hc⟩ := not_or.mp hcon
  rw [not_not.mp hc, step, closeGroup, not_not.mp hstack] at h
  cases h

/-- What a reading makes of the text with a parenthesis behind it, inside other groups: once the
pattern has been read, the parenthesis closes a group, or it has been swallowed by a comment. -/
theorem finish_inside_of_ok (h : r.finish b text = .ok piece) (htail : Tail n text text')
    (hb : n ≤ b) :
    ∃ r₁ : Reading, r₁.stack = [] ∧ piece = choice r₁.branches r₁.items ∧
      ((∀ outer k b', n < b' → (r.inside outer k).finish b' text' = (r₁.inside outer k).ended) ∨
        ∀ outer k b', n < b' →
          (r.inside outer k).finish b' text' = (r₁.inside outer k).closeGroup.bind ended) := by
  induction n using Nat.strongRecOn generalizing r b text text' with
  | ind n ih =>
      rcases htail.skip_cases r.flags with ⟨hskip, hskip'⟩ | ⟨hskip, hskip'⟩ |
        ⟨n, c, rest, rest', rfl, hskip, hskip', hrest⟩
      · obtain ⟨hstack, hpiece⟩ := stack_eq_nil_of_ended ((finish_of_nil hskip).symm.trans h)
        exact ⟨r, hstack, hpiece, Or.inl fun outer k b' _ => finish_of_nil hskip'⟩
      · obtain ⟨hstack, hpiece⟩ := stack_eq_nil_of_ended ((finish_of_nil hskip).symm.trans h)
        refine ⟨r, hstack, hpiece, Or.inr fun outer k b' hb' => ?_⟩
        obtain ⟨b', rfl⟩ := Nat.exists_eq_succ_of_ne_zero (Nat.ne_zero_of_lt hb')
        exact finish_of_last hskip'
      · obtain ⟨b, rfl⟩ := Nat.exists_eq_add_of_le' (Nat.le_of_add_left_le hb)
        rw [finish_of_cons hskip] at h
        obtain ⟨⟨r', more⟩, hstep, hfinish⟩ := bind_eq_ok h
        have hclose := stack_ne_nil_or_of_step hstep
        obtain ⟨more', hstep', hmore⟩ :
            ∃ more', r.step c rest' = .ok (r', more') ∧ Tail n more more' := by
          have halike := alike_step r c hrest
          rw [hstep] at halike
          generalize r.step c rest' = a at halike ⊢
          cases halike with
          | @read _ b hsame =>
              obtain ⟨rfl, hmore⟩ := hsame
              exact ⟨_, rfl, hmore⟩
        obtain ⟨r₁, hstack, hpiece, hbehind⟩ := ih n (Nat.lt_succ_self n) hfinish hmore
          (Nat.le_of_succ_le_succ hb)
        have hgo (outer : List OpenGroup) (k b' : Nat) (hb' : n + 1 < b') :
            ∃ b'', n < b'' ∧
              (r.inside outer k).finish b' text' = (r'.inside outer k).finish b'' more' := by
          obtain ⟨b', rfl⟩ := Nat.exists_eq_succ_of_ne_zero (Nat.ne_zero_of_lt hb')
          refine ⟨b', Nat.lt_of_succ_lt_succ hb', ?_⟩
          rw [finish_of_cons (r := r.inside outer k) hskip', step_inside r hclose, hstep']
          rfl
        refine ⟨r₁, hstack, hpiece, hbehind.imp ?_ ?_⟩
        · intro h outer k b' hb'
          obtain ⟨b'', hb'', heq⟩ := hgo outer k b' hb'
          exact heq.trans (h outer k b'' hb'')
        · intro h outer k b' hb'
          obtain ⟨b'', hb'', heq⟩ := hgo outer k b' hb'
          exact heq.trans (h outer k b'' hb'')

/-- What is refused is refused inside other groups too, with a parenthesis behind it, unless it was
refused for a parenthesis too many. -/
theorem finish_inside_of_error (h : r.finish b text = .error e) (he : e ≠ .unopenedGroup)
    (htail : Tail n text text') (hb : n ≤ b) (houter : outer ≠ []) (k b' : Nat) :
    ∃ e', (r.inside outer k).finish b' text' = .error e' := by
  induction n using Nat.strongRecOn generalizing r b b' text text' with
  | ind n ih =>
      rcases htail.skip_cases r.flags with ⟨hskip, hskip'⟩ | ⟨hskip, hskip'⟩ |
        ⟨n, c, rest, rest', rfl, hskip, hskip', hrest⟩
      · exact ⟨_, (finish_of_nil (r := r.inside outer k) hskip').trans
          (ended_of_ne (r.inside_stack_ne_nil houter))⟩
      · cases b' with
        | zero => exact ⟨_, finish_zero (r := r.inside outer k) hskip'⟩
        | succ b' =>
            have hstack : r.stack ≠ [] := by
              intro hstack
              rw [finish_of_nil hskip, ended, hstack] at h
              cases h
            rw [finish_of_last (r := r.inside outer k) hskip', closeGroup_inside r hstack]
            cases r.closeGroup with
            | error e => exact ⟨e, rfl⟩
            | ok r' => exact ⟨_, ended_of_ne (r'.inside_stack_ne_nil houter)⟩
      · obtain ⟨b, rfl⟩ := Nat.exists_eq_add_of_le' (Nat.le_of_add_left_le hb)
        rw [finish_of_cons hskip] at h
        cases b' with
        | zero => exact ⟨_, finish_zero (r := r.inside outer k) hskip'⟩
        | succ b' =>
            have hclose : r.stack ≠ [] ∨ c ≠ ')' := by
              by_contra hcon
              obtain ⟨hstack, hc⟩ := not_or.mp hcon
              rw [not_not.mp hc, step, closeGroup, not_not.mp hstack] at h
              exact he (Except.error.inj h).symm
            rw [finish_of_cons (r := r.inside outer k) hskip', step_inside r hclose]
            have halike := alike_step r c hrest
            generalize r.step c rest = a, r.step c rest' = a' at h halike ⊢
            cases halike with
            | @read x y hsame =>
                obtain ⟨hreading, hmore⟩ := hsame
                exact ih n (Nat.lt_succ_self n) (hreading ▸ h) hmore (Nat.le_of_succ_le_succ hb) b'
            | refused e₁ e₂ => exact ⟨e₂, rfl⟩
            | @late _ y hspent =>
                exact finish_spent (r := y.1.inside outer k) hspent
                  (y.1.inside_stack_ne_nil houter) b'

end Reading

/-! ## A pattern as the first capture -/

/-- A piece as the first capture. -/
def Piece.captured (x : Piece) : Piece :=
  ⟨some (.group 1 ((x.pattern.getD .empty).renumbered (· + 1))), x.depth + 1⟩

/-- A piece within the limits, as a pattern. -/
def Piece.checked (x : Piece) : Except Fault Pattern :=
  if maxDepth < x.depth then .error .nestedTooDeep
  else if maxSize < (x.pattern.getD .empty).size then .error .tooLarge
  else .ok (x.pattern.getD .empty)

/-- The reading at the beginning of the first capture, behind what stands in front of it. -/
def Reading.atCapture (items : List Piece) : Reading :=
  ({} : Reading).inside [⟨some 1, {}, [], items⟩] 1

/-- A text is a pattern just if it is read to its end, and the piece that it is keeps to the
limits. -/
theorem parse_of_finish {text : List Char} {x : Except Fault Piece}
    (h : Reading.finish text.length {} text = x) : parse text = x.bind Piece.checked :=
  congrArg (Except.bind · Piece.checked) h

theorem checked_eq_ok_iff {x : Piece} {q : Pattern} :
    x.checked = .ok q ↔
      x.depth ≤ maxDepth ∧ (x.pattern.getD .empty).size ≤ maxSize ∧ x.pattern.getD .empty = q := by
  rw [Piece.checked]
  split_ifs with hdepth hsize
  · exact iff_of_false nofun fun h => absurd h.1 (Nat.not_le_of_lt hdepth)
  · exact iff_of_false nofun fun h => absurd h.2.1 (Nat.not_le_of_lt hsize)
  · simp [Nat.le_of_not_lt hdepth, Nat.le_of_not_lt hsize]

theorem checked_ne_unopenedGroup (x : Piece) : x.checked ≠ .error .unopenedGroup := by
  rw [Piece.checked]
  split_ifs <;> simp

theorem size_le_of_mem {q : Pattern} {ps : List Pattern} (h : q ∈ ps) :
    q.size ≤ (seqs ps).size := by
  induction ps with
  | nil => cases h
  | cons p ps ih =>
      cases ps with
      | nil => exact (List.mem_singleton.mp h) ▸ Nat.le_refl _
      | cons p' ps =>
          show q.size ≤ p.size + (seqs (p' :: ps)).size
          rcases List.mem_cons.mp h with rfl | h
          · exact Nat.le_add_right _ _
          · exact Nat.le_trans (ih h) (Nat.le_add_left _ _)

/-- What is read with the first capture at the end is a sequence. -/
theorem branch_captured (x : Piece) (items : List Piece) :
    (branch (x.captured :: items)).pattern.getD .empty =
      seqs (items.reverse.filterMap (·.pattern) ++
        [.group 1 ((x.pattern.getD .empty).renumbered (· + 1))]) := by
  cases items with
  | nil => rfl
  | cons item items =>
      show seqs ((x.captured :: item :: items).reverse.filterMap (·.pattern)) = _
      rw [List.reverse_cons, List.filterMap_append]
      rfl

theorem le_foldl_max (m : Nat) (ns : List Nat) : m ≤ ns.foldl max m := by
  induction ns generalizing m with
  | nil => exact Nat.le_refl m
  | cons n ns ih => exact Nat.le_trans (Nat.le_max_left m n) (ih (max m n))

theorem depth_le_branch_captured (x : Piece) (items : List Piece) :
    x.depth ≤ (branch (x.captured :: items)).depth := by
  cases items with
  | nil => exact Nat.le_succ _
  | cons item items =>
      show x.depth ≤ 1 + ((item :: items).map (·.depth)).foldl max (max 0 (x.depth + 1))
      exact Nat.le_trans (Nat.le_trans (Nat.le_succ _) (Nat.le_max_right _ _))
        (Nat.le_trans (le_foldl_max _ _) (Nat.le_add_left _ _))

theorem closeGroup_captured {r : Reading} (hstack : r.stack = []) (items : List Piece) :
    (r.inside [⟨some 1, {}, [], items⟩] 1).closeGroup.bind Reading.ended =
      .ok (branch ((choice r.branches r.items).captured :: items)) := by
  simp only [Reading.closeGroup, Reading.inside, hstack, choice_raised]
  obtain ⟨inner, depth⟩ := choice r.branches r.items
  cases inner <;> rfl

variable {p : List Char} {piece : Piece} {e : Fault} {items : List Piece} {b : Nat}

/-- With a parenthesis behind it a pattern is read to its end as a capture, or the parenthesis is
lost and the capture is never closed. -/
theorem finish_atCapture_of_ok (h : Reading.finish p.length {} p = .ok piece) :
    parse (p ++ [')']) = .error .unopenedGroup ∧
        (∀ items b, p.length < b → (Reading.atCapture items).finish b (p ++ [')']) =
          .ok (branch (piece.captured :: items))) ∨
      parse (p ++ [')']) ≠ .error .unopenedGroup ∧
        ∀ items b, p.length < b →
          (Reading.atCapture items).finish b (p ++ [')']) = .error .unclosedGroup := by
  have hlength : p.length < (p ++ [')']).length := by
    rw [List.length_append]
    exact Nat.lt_succ_self _
  obtain ⟨r₁, hstack, rfl, hlost | hread⟩ :=
    Reading.finish_inside_of_ok h (Tail.append p) (Nat.le_refl _)
  · refine Or.inr ⟨?_, fun items b hb => ?_⟩
    · have hparse : parse (p ++ [')']) = (r₁.inside [] 0).ended.bind Piece.checked :=
        parse_of_finish (hlost [] 0 _ hlength)
      have hended : (r₁.inside [] 0).ended =
          .ok (choice (r₁.inside [] 0).branches (r₁.inside [] 0).items) := by
        rw [Reading.ended, if_pos]
        simp [Reading.inside, hstack]
      rw [hparse, hended]
      exact checked_ne_unopenedGroup _
    · rw [Reading.atCapture, hlost _ 1 b hb]
      exact Reading.ended_of_ne (r₁.inside_stack_ne_nil (List.cons_ne_nil _ _))
  · refine Or.inl ⟨?_, fun items b hb => ?_⟩
    · have hparse : parse (p ++ [')']) =
          ((r₁.inside [] 0).closeGroup.bind Reading.ended).bind Piece.checked :=
        parse_of_finish (hread [] 0 _ hlength)
      rw [hparse, Reading.closeGroup]
      simp [Reading.inside, hstack, Except.bind]
    · rw [Reading.atCapture, hread _ 1 b hb, closeGroup_captured hstack]

/-- A pattern that is read as a capture is a pattern by itself, and the parenthesis behind it is
read, unless the pattern has one that closes the capture too early. -/
theorem of_finish_atCapture (h : parse p ≠ .error .unopenedGroup) {q : Pattern}
    (hb : p.length < b)
    (hread : ((Reading.atCapture items).finish b (p ++ [')'])).bind Piece.checked = .ok q) :
    ∃ q₁, parse p = .ok q₁ ∧ parse (p ++ [')']) = .error .unopenedGroup ∧
      q = seqs (items.reverse.filterMap (·.pattern) ++ [.group 1 (q₁.renumbered (· + 1))]) := by
  obtain ⟨whole, hwhole, hchecked⟩ := Reading.bind_eq_ok hread
  obtain ⟨hdepth, hsize, rfl⟩ := checked_eq_ok_iff.mp hchecked
  cases hfinish : Reading.finish p.length {} p with
  | error e =>
      have he : e ≠ .unopenedGroup := by
        rintro rfl
        exact h (parse_of_finish hfinish)
      obtain ⟨e', he'⟩ := Reading.finish_inside_of_error hfinish he (Tail.append p) (Nat.le_refl _)
        (List.cons_ne_nil ⟨some 1, {}, [], items⟩ []) 1 b
      rw [Reading.atCapture, he'] at hwhole
      cases hwhole
  | ok piece =>
      rcases finish_atCapture_of_ok hfinish with ⟨hclosed, hcaptured⟩ | ⟨-, hlost⟩
      · obtain rfl := Except.ok.inj ((hcaptured items b hb).symm.trans hwhole)
        rw [branch_captured] at hsize ⊢
        refine ⟨_, ?_, hclosed, rfl⟩
        have hpiece : parse p = piece.checked := parse_of_finish hfinish
        refine hpiece.trans (checked_eq_ok_iff.mpr ⟨?_, ?_, rfl⟩)
        · exact Nat.le_trans (depth_le_branch_captured piece items) hdepth
        · have hmem := size_le_of_mem (List.mem_append_right
            (items.reverse.filterMap (·.pattern)) (List.mem_singleton_self
              (group 1 ((piece.pattern.getD .empty).renumbered (· + 1)))))
          rw [size, size_renumbered] at hmem
          exact Nat.le_trans (Nat.le_trans (Nat.le_add_right _ 64) hmem) hsize
      · rw [hlost items b hb] at hwhole
        cases hwhole

/-- A pattern by itself, behind which the parenthesis is read, is read as a capture, if the limits
allow it. -/
theorem finish_atCapture_of_valid (items : List Piece) {q : Pattern} (h : parse p = .ok q)
    (hclosed : parse (p ++ [')']) = .error .unopenedGroup) (hb : p.length < b) :
    ∃ whole, (Reading.atCapture items).finish b (p ++ [')']) = .ok whole := by
  obtain ⟨piece, hpiece, -⟩ := Reading.bind_eq_ok h
  rcases finish_atCapture_of_ok hpiece with ⟨-, hcaptured⟩ | ⟨hopen, -⟩
  · exact ⟨_, hcaptured items b hb⟩
  · exact absurd hclosed hopen

end SecretScan.Pattern
