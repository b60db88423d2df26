import SecretScan.Text.Basic
import SecretScan.Pattern.Search

/-!
# What a pattern matches

A pattern relates the places where a match can begin to those where it can end, whatever the order
in which the ways are tried. A run of the pattern only ends at a place that it relates to the one
where it began.
-/

namespace SecretScan

/-! ## From place to place -/

namespace Text

theorem foldl_utf8Size (n : Nat) (text : List Char) :
    text.foldl (fun n c => n + c.utf8Size) n = n + byteLength text := by
  rw [byteLength]
  induction text generalizing n with
  | nil => rfl
  | cons c text ih =>
      rw [List.foldl_cons, ih, List.foldl_cons, ih (0 + c.utf8Size), Nat.zero_add, Nat.add_assoc]

@[simp] theorem byteLength_nil : byteLength [] = 0 := rfl

@[simp] theorem byteLength_cons (c : Char) (text : List Char) :
    byteLength (c :: text) = c.utf8Size + byteLength text := by
  rw [byteLength, List.foldl_cons, foldl_utf8Size, Nat.zero_add]

@[simp] theorem byteLength_append (a b : List Char) :
    byteLength (a ++ b) = byteLength a + byteLength b := by
  induction a with
  | nil => simp
  | cons c a ih => simp [ih, Nat.add_assoc]

end Text

namespace Cursor

/-- The characters `w` lead from one place to another. -/
structure Spells (c : Cursor) (w : List Char) (d : Cursor) : Prop where
  rest_eq : c.rest = w ++ d.rest
  before_eq : d.before = w.getLast?.or c.before
  offset_eq : d.offset = c.offset + Text.byteLength w

theorem Spells.refl (c : Cursor) : c.Spells [] c :=
  ⟨rfl, rfl, rfl⟩

theorem Spells.trans {b c d : Cursor} {v w : List Char} (h : b.Spells v c) (h' : c.Spells w d) :
    b.Spells (v ++ w) d := by
  refine ⟨?_, ?_, ?_⟩
  · rw [h.rest_eq, h'.rest_eq, List.append_assoc]
  · rw [h'.before_eq, h.before_eq, List.getLast?_append, Option.or_assoc]
  · rw [h'.offset_eq, h.offset_eq, Text.byteLength_append, Nat.add_assoc]

theorem Spells.next (before : Option Char) (offset : Nat) (x : Char) (rest : List Char) :
    Spells ⟨before, offset, x :: rest⟩ [x] ⟨some x, offset + x.utf8Size, rest⟩ :=
  ⟨rfl, rfl, by simp⟩

theorem step?_eq_some_iff {s : CharSet} {c d : Cursor} :
    c.step? s = some d ↔ ∃ x, s.mem x = true ∧ c.Spells [x] d := by
  obtain ⟨before, offset, rest⟩ := c
  cases rest with
  | nil =>
      constructor
      · intro h
        simp [step?] at h
      · rintro ⟨x, -, hrest, -⟩
        simp at hrest
  | cons y rest =>
      constructor
      · intro h
        simp only [step?, Option.ite_none_right_eq_some, Option.some.injEq] at h
        obtain ⟨hmem, rfl⟩ := h
        exact ⟨y, hmem, .next before offset y rest⟩
      · rintro ⟨x, hmem, hrest, hbefore, hoffset⟩
        obtain ⟨rfl, rfl⟩ := List.cons.inj hrest
        simp only [List.getLast?_singleton, Option.some_or, Text.byteLength_cons,
          Text.byteLength_nil, Nat.add_zero] at hbefore hoffset
        simp [step?, hmem, ← hbefore, ← hoffset]

end Cursor

/-! ## Repetition -/

namespace Pattern

/-- So many steps of a relation between places. -/
def Repeats (R : Cursor → Cursor → Prop) : Nat → Cursor → Cursor → Prop
  | 0, c, d => c = d
  | n + 1, c, d => ∃ m, R c m ∧ Repeats R n m d

theorem Repeats.append {R : Cursor → Cursor → Prop} {m n : Nat} {b c d : Cursor}
    (h : Repeats R m b c) (h' : Repeats R n c d) : Repeats R (m + n) b d := by
  induction m generalizing b with
  | zero =>
      obtain rfl : b = c := h
      rwa [Nat.zero_add]
  | succ m ih =>
      obtain ⟨a, hfirst, hrest⟩ := h
      rw [Nat.succ_add]
      exact ⟨a, hfirst, ih hrest⟩

/-- The places at which a match of a pattern can begin and end. Where the bounds of a repetition
contradict each other, the least number counts. -/
def Matches : Pattern → Cursor → Cursor → Prop
  | empty, c, d => c = d
  | set s, c, d => c.step? s = some d
  | look l, c, d => l.holds c.before c.rest.head? = true ∧ c = d
  | seq p q, c, d => ∃ m, Matches p c m ∧ Matches q m d
  | alt p q, c, d => Matches p c d ∨ Matches q c d
  | group _ p, c, d => Matches p c d
  | iter p min max _, c, d =>
    ∃ more, (∀ m ∈ max, more ≤ m - min) ∧ Repeats (Matches p) (min + more) c d

/-! ## Runs -/

/-- A step of a match that succeeds has gone on from a place that the relation allows. -/
def Sound (body : Step) (R : Cursor → Cursor → Prop) : Prop :=
  ∀ s k r, body s k = some r → ∃ t : Progress, R s.cursor t.cursor ∧ k t = some r

/-- Of two ways, tried in either order, one has succeeded. -/
theorem eq_some_of_orElse (greedy : Bool) {more done : Option Progress} {r : Progress}
    (h : (if greedy then orElse more fun _ => done else orElse done fun _ => more) = some r) :
    more = some r ∨ done = some r := by
  cases greedy with
  | true =>
      cases more with
      | none => exact Or.inr h
      | some t => exact Or.inl h
  | false =>
      cases done with
      | none => exact Or.inl h
      | some t => exact Or.inr h

variable {body : Step} {R : Cursor → Cursor → Prop}

theorem Sound.exactly (hbody : Sound body R) (n : Nat) :
    Sound (exactly body n) (Repeats R n) := by
  induction n with
  | zero =>
      intro s k r h
      exact ⟨s, rfl, h⟩
  | succ n ih =>
      intro s k r h
      obtain ⟨t, hst, ht⟩ := hbody _ _ _ h
      obtain ⟨u, htu, hu⟩ := ih _ _ _ ht
      exact ⟨u, ⟨t.cursor, hst, htu⟩, hu⟩

theorem Sound.upTo (hbody : Sound body R) (greedy : Bool) (n : Nat) :
    Sound (upTo body greedy n) fun c d => ∃ m, m ≤ n ∧ Repeats R m c d := by
  induction n with
  | zero =>
      intro s k r h
      exact ⟨s, ⟨0, Nat.le_refl 0, rfl⟩, h⟩
  | succ n ih =>
      intro s k r h
      rw [Pattern.upTo] at h
      rcases eq_some_of_orElse greedy h with hmore | hdone
      · obtain ⟨t, hst, ht⟩ := hbody _ _ _ hmore
        obtain ⟨u, ⟨m, hm, htu⟩, hu⟩ := ih _ _ _ ht
        exact ⟨u, ⟨m + 1, Nat.succ_le_succ hm, t.cursor, hst, htu⟩, hu⟩
      · exact ⟨s, ⟨0, Nat.zero_le _, rfl⟩, hdone⟩

theorem Sound.star (hbody : Sound body R) (greedy : Bool) (left : List Char) :
    Sound (star body greedy left) fun c d => ∃ m, Repeats R m c d := by
  induction left with
  | nil =>
      intro s k r h
      rw [Pattern.star] at h
      rcases eq_some_of_orElse greedy h with hlast | hdone
      · obtain ⟨t, hst, ht⟩ := hbody _ _ _ hlast
        exact ⟨t, ⟨1, t.cursor, hst, rfl⟩, ht⟩
      · exact ⟨s, ⟨0, rfl⟩, hdone⟩
  | cons _ left ih =>
      intro s k r h
      rw [Pattern.star] at h
      rcases eq_some_of_orElse greedy h with hmore | hdone
      · obtain ⟨t, hst, ht⟩ := hbody _ _ _ hmore
        split at ht
        -- Nothing follows an iteration that matched nothing.
        · exact ⟨t, ⟨1, t.cursor, hst, rfl⟩, ht⟩
        · obtain ⟨u, ⟨m, htu⟩, hu⟩ := ih _ _ _ ht
          exact ⟨u, ⟨m + 1, t.cursor, hst, htu⟩, hu⟩
      · exact ⟨s, ⟨0, rfl⟩, hdone⟩

theorem Sound.repeated (hbody : Sound body R) (min : Nat) (max : Option Nat) (greedy : Bool) :
    Sound (repeated body min max greedy) fun c d =>
      ∃ more, (∀ m ∈ max, more ≤ m - min) ∧ Repeats R (min + more) c d := by
  intro s k r h
  obtain ⟨t, hst, ht⟩ := hbody.exactly min _ _ _ h
  cases max with
  | none =>
      obtain ⟨u, ⟨more, htu⟩, hu⟩ := hbody.star greedy _ _ _ _ ht
      exact ⟨u, ⟨more, nofun, hst.append htu⟩, hu⟩
  | some m =>
      obtain ⟨u, ⟨more, hmore, htu⟩, hu⟩ := hbody.upTo greedy _ _ _ _ ht
      refine ⟨u, ⟨more, ?_, hst.append htu⟩, hu⟩
      intro m' hm'
      obtain rfl := Option.some.inj hm'
      exact hmore

theorem repeats_of_stepExactly? {set : CharSet} {n : Nat} {c d : Cursor}
    (h : c.stepExactly? set n = some d) :
    Repeats (fun c d => c.step? set = some d) n c d := by
  induction n generalizing c with
  | zero => exact Option.some.inj h
  | succ n ih =>
      obtain ⟨m, hm, hrest⟩ := Option.bind_eq_some_iff.mp h
      exact ⟨m, hm, ih hrest⟩

/-- The places reached are those found before, and those some characters of the set further on. -/
theorem repeats_of_mem_reach {set : CharSet} {limit : Option Nat} {before : Option Char}
    {offset : Nat} {text : List Char} {found : List Cursor} {d : Cursor}
    (h : d ∈ Cursor.reach set limit before offset text found) :
    d ∈ found ∨ ∃ n, (∀ m ∈ limit, n ≤ m) ∧
      Repeats (fun c d => c.step? set = some d) n ⟨before, offset, text⟩ d := by
  induction text generalizing limit before offset found with
  | nil =>
      rcases List.mem_cons.mp h with rfl | h
      · exact Or.inr ⟨0, fun m _ => Nat.zero_le m, rfl⟩
      · exact Or.inl h
  | cons x rest ih =>
      rw [Cursor.reach] at h
      split at h
      · rename_i hgo
        rw [Bool.and_eq_true, bne_iff_ne] at hgo
        rcases ih h with hfound | ⟨n, hn, hrest⟩
        · rcases List.mem_cons.mp hfound with rfl | hfound
          · exact Or.inr ⟨0, fun m _ => Nat.zero_le m, rfl⟩
          · exact Or.inl hfound
        -- The limit of the rest is one less, and it was not 0.
        · refine Or.inr ⟨n + 1, ?_, _, if_pos hgo.2, hrest⟩
          intro m hm
          have hpos : m ≠ 0 := by
            rintro rfl
            exact hgo.1 hm
          have hle := hn (m - 1) (Option.mem_map_of_mem _ hm)
          omega
      · rcases List.mem_cons.mp h with rfl | h
        · exact Or.inr ⟨0, fun m _ => Nat.zero_le m, rfl⟩
        · exact Or.inl h

theorem sound_repeatedSet (set : CharSet) (min : Nat) (max : Option Nat) (greedy : Bool) :
    Sound (repeatedSet set min max greedy) fun c d =>
      ∃ more, (∀ m ∈ max, more ≤ m - min) ∧
        Repeats (fun c d => c.step? set = some d) (min + more) c d := by
  intro s k r h
  rw [repeatedSet] at h
  split at h
  · simp at h
  · rename_i c hc
    obtain ⟨d, hd, hk⟩ := List.exists_of_findSome?_eq_some h
    have hreach : d ∈ Cursor.reach set (max.map (· - min)) c.before c.offset c.rest [] := by
      cases greedy with
      | true => exact hd
      | false => exact List.mem_reverse.mp hd
    rcases repeats_of_mem_reach hreach with hnil | ⟨more, hmore, hrest⟩
    · simp at hnil
    · refine ⟨{ s with cursor := d }, ⟨more, ?_, (repeats_of_stepExactly? hc).append hrest⟩, hk⟩
      intro m hm
      exact hmore _ (Option.mem_map_of_mem _ hm)

/-- A run ends at a place that the pattern relates to the one where it began, and goes on from
there. -/
theorem sound_run (p : Pattern) : Sound p.run p.Matches := by
  induction p with
  | empty =>
      intro s k r h
      exact ⟨s, rfl, h⟩
  | set cs =>
      intro s k r h
      rw [run] at h
      split at h
      · rename_i c hc
        exact ⟨{ s with cursor := c }, hc, h⟩
      · simp at h
  | look l =>
      intro s k r h
      rw [run, Option.ite_none_right_eq_some] at h
      exact ⟨s, ⟨h.1, rfl⟩, h.2⟩
  | seq p q ihp ihq =>
      intro s k r h
      obtain ⟨t, hst, ht⟩ := ihp _ _ _ h
      obtain ⟨u, htu, hu⟩ := ihq _ _ _ ht
      exact ⟨u, ⟨t.cursor, hst, htu⟩, hu⟩
  | alt p q ihp ihq =>
      intro s k r h
      rcases eq_some_of_orElse true h with hp | hq
      · obtain ⟨t, hst, ht⟩ := ihp _ _ _ hp
        exact ⟨t, Or.inl hst, ht⟩
      · obtain ⟨t, hst, ht⟩ := ihq _ _ _ hq
        exact ⟨t, Or.inr hst, ht⟩
  | group index p ih =>
      intro s k r h
      obtain ⟨t, hst, ht⟩ := ih _ _ _ h
      exact ⟨{ t with captures := (index, ⟨s.cursor, t.cursor⟩) :: t.captures }, hst, ht⟩
  | iter p min max greedy ih =>
      -- A single set is repeated by a loop of its own.
      cases p with
      | set cs => exact sound_repeatedSet cs min max greedy
      | _ => exact ih.repeated min max greedy

/-! ## What a match spells -/

theorem Repeats.spells {R : Cursor → Cursor → Prop} (hR : ∀ c d, R c d → ∃ w, c.Spells w d)
    {n : Nat} {c d : Cursor} (h : Repeats R n c d) : ∃ w, c.Spells w d := by
  induction n generalizing c with
  | zero =>
      obtain rfl : c = d := h
      exact ⟨[], .refl c⟩
  | succ n ih =>
      obtain ⟨m, hfirst, hrest⟩ := h
      obtain ⟨v, hv⟩ := hR c m hfirst
      obtain ⟨w, hw⟩ := ih hrest
      exact ⟨v ++ w, hv.trans hw⟩

theorem Matches.spells {p : Pattern} {c d : Cursor} (h : p.Matches c d) : ∃ w, c.Spells w d := by
  induction p generalizing c d with
  | empty =>
      obtain rfl : c = d := h
      exact ⟨[], .refl c⟩
  | set s =>
      obtain ⟨x, -, hx⟩ := Cursor.step?_eq_some_iff.mp h
      exact ⟨[x], hx⟩
  | look l =>
      obtain ⟨-, rfl⟩ := h
      exact ⟨[], .refl c⟩
  | seq p q ihp ihq =>
      obtain ⟨m, hp, hq⟩ := h
      obtain ⟨v, hv⟩ := ihp hp
      obtain ⟨w, hw⟩ := ihq hq
      exact ⟨v ++ w, hv.trans hw⟩
  | alt p q ihp ihq =>
      rcases h with hp | hq
      · exact ihp hp
      · exact ihq hq
  | group _ p ih => exact ih h
  | iter p min max greedy ih =>
      obtain ⟨more, -, h⟩ := h
      exact h.spells fun _ _ => ih

/-! ## Searching -/

/-- Does a match begin `w` further on than a place, and does the pattern relate its ends? -/
def Finds (p : Pattern) (c : Cursor) (m : Match) : Prop :=
  (∃ w, c.Spells w m.whole.first) ∧ p.Matches m.whole.first m.whole.last

theorem Finds.of_spells {p : Pattern} {c d : Cursor} {w : List Char} {m : Match}
    (hcd : c.Spells w d) (h : p.Finds d m) : p.Finds c m := by
  obtain ⟨⟨v, hv⟩, hm⟩ := h
  exact ⟨⟨w ++ v, hcd.trans hv⟩, hm⟩

theorem finds_of_matchAt? {p : Pattern} {c : Cursor} {m : Match} (h : p.matchAt? c = some m) :
    p.Finds c m := by
  obtain ⟨r, hrun, rfl⟩ := Option.map_eq_some_iff.mp h
  obtain ⟨t, ht, hr⟩ := p.sound_run _ _ _ hrun
  obtain rfl := Option.some.inj hr
  exact ⟨⟨[], .refl c⟩, ht⟩

theorem finds_of_findFrom? {p : Pattern} {before : Option Char} {offset : Nat} {text : List Char}
    {m : Match} (h : p.findFrom? before offset text = some m) :
    p.Finds ⟨before, offset, text⟩ m := by
  induction text generalizing before offset with
  | nil => exact finds_of_matchAt? h
  | cons c rest ih =>
      rw [findFrom?] at h
      split at h
      · rename_i m' hm'
        obtain rfl := Option.some.inj h
        exact finds_of_matchAt? hm'
      · exact (ih h).of_spells (.next before offset c rest)

theorem finds_of_nextMatch? {p : Pattern} {c : Cursor} {last : Option Nat} {m : Match}
    (h : p.nextMatch? c last = some m) : p.Finds c m := by
  rw [nextMatch?] at h
  split at h
  · simp at h
  · rename_i m' hm'
    split at h
    -- An empty match right behind the last one is passed over for the next character.
    · obtain ⟨d, hd, hfind⟩ := Option.bind_eq_some_iff.mp h
      obtain ⟨x, -, hx⟩ := Cursor.step?_eq_some_iff.mp hd
      exact (finds_of_findFrom? hfind).of_spells hx
    · obtain rfl := Option.some.inj h
      exact finds_of_findFrom? hm'

theorem finds_of_mem_matchesFrom {p : Pattern} {n : Nat} {c : Cursor} {last : Option Nat}
    {found : List Match} {m : Match} (h : m ∈ p.matchesFrom n c last found) :
    m ∈ found ∨ p.Finds c m := by
  induction n generalizing c last found with
  | zero => exact Or.inl (List.mem_reverse.mp h)
  | succ n ih =>
      rw [matchesFrom] at h
      split at h
      · exact Or.inl (List.mem_reverse.mp h)
      · rename_i next hnext
        have hfinds := finds_of_nextMatch? hnext
        rcases ih h with hfound | hlater
        · rcases List.mem_cons.mp hfound with rfl | hfound
          · exact Or.inr hfinds
          · exact Or.inl hfound
        · obtain ⟨⟨v, hv⟩, hmatches⟩ := hfinds
          obtain ⟨w, hw⟩ := hmatches.spells
          exact Or.inr (hlater.of_spells (hv.trans hw))

theorem finds_of_mem_findAll {p : Pattern} {text : List Char} {m : Match}
    (h : m ∈ p.findAll text) : p.Finds (.atStart text) m := by
  rcases finds_of_mem_matchesFrom h with hnil | hfinds
  · simp at hnil
  · exact hfinds

end Pattern

end SecretScan
