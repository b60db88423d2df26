import SecretScan.Proofs.Pattern.Spellable

/-!
# What a pattern takes between two neighbours

Whether a pattern matches a stretch of a text depends on the stretch and on the characters right
before and right behind it, and on nothing else. Its conditions look at these two only if they stand
at an end of the pattern.
-/

namespace SecretScan

theorem Cursor.Spells.split {c d : Cursor} {u v : List Char} (h : c.Spells (u ++ v) d) :
    ∃ m, c.Spells u m ∧ m.Spells v d := by
  refine ⟨⟨u.getLast?.or c.before, c.offset + Text.byteLength u, v ++ d.rest⟩,
    ⟨?_, rfl, rfl⟩, ⟨rfl, ?_, ?_⟩⟩
  · rw [h.rest_eq, List.append_assoc]
  · rw [h.before_eq, List.getLast?_append, Option.or_assoc]
  · rw [h.offset_eq, Text.byteLength_append, Nat.add_assoc]

theorem Cursor.Spells.head?_rest {c d : Cursor} {w : List Char} (h : c.Spells w d) :
    c.rest.head? = w.head?.or d.rest.head? := by
  rw [h.rest_eq, List.head?_append]

theorem Cursor.Spells.eq_of_nil {c d : Cursor} (h : c.Spells [] d) : c = d := by
  obtain ⟨before, offset, rest⟩ := c
  obtain ⟨before', offset', rest'⟩ := d
  obtain ⟨hrest, hbefore, hoffset⟩ := h
  obtain rfl : rest = rest' := hrest
  obtain rfl : before' = before := hbefore
  obtain rfl : offset' = offset := hoffset
  rfl

namespace Pattern

/-- So many stretches of a kind, one behind the other, each between its neighbours. -/
def InTurn (T : Option Char → List Char → Option Char → Prop) :
    Nat → Option Char → List Char → Option Char → Prop
  | 0, _, w, _ => w = []
  | n + 1, before, w, after =>
    ∃ u v, w = u ++ v ∧ T before u (v.head?.or after) ∧ InTurn T n (u.getLast?.or before) v after

/-- Does a pattern match a stretch between these neighbours, `none` being an end of the text? -/
def Takes : Pattern → Option Char → List Char → Option Char → Prop
  | empty, _, w, _ => w = []
  | set s, _, w, _ => ∃ x, w = [x] ∧ s.mem x = true
  | look l, before, w, after => w = [] ∧ l.holds before after = true
  | seq p q, before, w, after =>
    ∃ u v, w = u ++ v ∧ Takes p before u (v.head?.or after) ∧ Takes q (u.getLast?.or before) v after
  | alt p q, before, w, after => Takes p before w after ∨ Takes q before w after
  | group _ p, before, w, after => Takes p before w after
  | iter p min max _, before, w, after =>
    ∃ more, (∀ m ∈ max, more ≤ m - min) ∧ InTurn (Takes p) (min + more) before w after

variable {p q : Pattern} {c d : Cursor} {w : List Char} {before before' after after' : Option Char}

theorem repeats_iff_inTurn {R : Cursor → Cursor → Prop}
    {T : Option Char → List Char → Option Char → Prop} (hR : ∀ c d, R c d → ∃ w, c.Spells w d)
    (hRT : ∀ {c d w}, c.Spells w d → (R c d ↔ T c.before w d.rest.head?)) {n : Nat}
    (h : c.Spells w d) : Repeats R n c d ↔ InTurn T n c.before w d.rest.head? := by
  induction n generalizing c w with
  | zero =>
      constructor
      · rintro rfl
        exact h.unique (.refl c)
      · rintro rfl
        exact h.eq_of_nil
  | succ n ih =>
      constructor
      · rintro ⟨m, hfirst, hrest⟩
        obtain ⟨u, hu⟩ := hR c m hfirst
        obtain ⟨v, hv⟩ := hrest.spells hR
        obtain rfl := h.unique (hu.trans hv)
        refine ⟨u, v, rfl, ?_, ?_⟩
        · rw [← hv.head?_rest]
          exact (hRT hu).mp hfirst
        · rw [← hu.before_eq]
          exact (ih hv).mp hrest
      · rintro ⟨u, v, rfl, hfirst, hrest⟩
        obtain ⟨m, hu, hv⟩ := h.split
        rw [← hv.head?_rest] at hfirst
        rw [← hu.before_eq] at hrest
        exact ⟨m, (hRT hu).mpr hfirst, (ih hv).mpr hrest⟩

/-- What a pattern matches from one place to another, it takes between the characters around. -/
theorem matches_iff_takes (h : c.Spells w d) : p.Matches c d ↔ p.Takes c.before w d.rest.head? := by
  induction p generalizing c d w with
  | empty =>
      constructor
      · rintro rfl
        exact h.unique (.refl c)
      · rintro rfl
        exact h.eq_of_nil
  | set s =>
      rw [Matches, Takes, Cursor.step?_eq_some_iff]
      constructor
      · rintro ⟨x, hmem, hx⟩
        exact ⟨x, h.unique hx, hmem⟩
      · rintro ⟨x, rfl, hmem⟩
        exact ⟨x, hmem, h⟩
  | look l =>
      constructor
      · rintro ⟨hholds, rfl⟩
        exact ⟨h.unique (.refl c), hholds⟩
      · rintro ⟨rfl, hholds⟩
        obtain rfl := h.eq_of_nil
        exact ⟨hholds, rfl⟩
  | seq p q ihp ihq =>
      constructor
      · rintro ⟨m, hp, hq⟩
        obtain ⟨u, hu⟩ := hp.spells
        obtain ⟨v, hv⟩ := hq.spells
        obtain rfl := h.unique (hu.trans hv)
        refine ⟨u, v, rfl, ?_, ?_⟩
        · rw [← hv.head?_rest]
          exact (ihp hu).mp hp
        · rw [← hu.before_eq]
          exact (ihq hv).mp hq
      · rintro ⟨u, v, rfl, hp, hq⟩
        obtain ⟨m, hu, hv⟩ := h.split
        rw [← hv.head?_rest] at hp
        rw [← hu.before_eq] at hq
        exact ⟨m, (ihp hu).mpr hp, (ihq hv).mpr hq⟩
  | alt p q ihp ihq => exact or_congr (ihp h) (ihq h)
  | group _ p ih => exact ih h
  | iter p min max _ ih =>
      exact exists_congr fun more => and_congr_right fun _ =>
        repeats_iff_inTurn (fun _ _ => Matches.spells) ih h

/-- A stretch by itself, between its neighbours. -/
theorem spells_between (before after : Option Char) (w : List Char) :
    Cursor.Spells ⟨before, 0, w ++ after.toList⟩ w
      ⟨w.getLast?.or before, Text.byteLength w, after.toList⟩ :=
  ⟨rfl, rfl, (Nat.zero_add _).symm⟩

theorem Takes.matches (h : p.Takes before w after) :
    p.Matches ⟨before, 0, w ++ after.toList⟩
      ⟨w.getLast?.or before, Text.byteLength w, after.toList⟩ := by
  rw [matches_iff_takes (spells_between before after w)]
  cases after <;> exact h

theorem Takes.minLength_le (h : p.Takes before w after) : p.minLength ≤ w.length := by
  obtain ⟨v, hv, hlen⟩ := h.matches.minLength_le
  rwa [(spells_between before after w).unique hv]

/-- Some character of a match is not one of those with which the pattern matches nothing. -/
theorem Takes.not_forall_mem {chars : List Char} (h : p.Takes before w after)
    (hchars : p.spellable chars = false) : ¬ ∀ x ∈ w, x ∈ chars := by
  intro hw
  rw [h.matches.spellable (spells_between before after w) hw] at hchars
  cases hchars

/-! ## Conditions at the ends -/

/-- The conditions that can look at the character before a match. -/
def startLooks : Pattern → List Look
  | empty | set _ => []
  | look l => [l]
  | seq p q => p.startLooks ++ (if p.minLength = 0 then q.startLooks else [])
  | alt p q => p.startLooks ++ q.startLooks
  | group _ p => p.startLooks
  | iter p _ _ _ => p.startLooks

/-- The conditions that can look at the character behind a match. -/
def endLooks : Pattern → List Look
  | empty | set _ => []
  | look l => [l]
  | seq p q => q.endLooks ++ (if q.minLength = 0 then p.endLooks else [])
  | alt p q => p.endLooks ++ q.endLooks
  | group _ p => p.endLooks
  | iter p _ _ _ => p.endLooks

/-- The character before may change as long as all conditions that see it still hold. -/
theorem Takes.change_before (h : p.Takes before w after)
    (hlooks : ∀ l ∈ p.startLooks, l.holds before (w.head?.or after) = true →
      l.holds before' (w.head?.or after) = true) : p.Takes before' w after := by
  induction p generalizing before before' w after with
  | empty => exact h
  | set s => exact h
  | look l =>
      obtain ⟨rfl, hholds⟩ := h
      exact ⟨rfl, hlooks l (List.mem_singleton_self l) hholds⟩
  | seq p q ihp ihq =>
      obtain ⟨u, v, rfl, hp, hq⟩ := h
      rw [List.head?_append, Option.or_assoc] at hlooks
      refine ⟨u, v, rfl, ihp hp fun l hl => hlooks l (List.mem_append_left _ hl), ?_⟩
      cases u with
      | nil =>
          have hmin : p.minLength = 0 := Nat.le_zero.mp hp.minLength_le
          refine ihq hq fun l hl => hlooks l (List.mem_append_right _ ?_)
          rwa [if_pos hmin]
      | cons x u =>
          rw [List.getLast?_cons, Option.some_or] at hq ⊢
          exact hq
  | alt p q ihp ihq =>
      refine h.imp (fun hp => ihp hp fun l hl => ?_) (fun hq => ihq hq fun l hl => ?_)
      · exact hlooks l (List.mem_append_left _ hl)
      · exact hlooks l (List.mem_append_right _ hl)
  | group _ p ih => exact ih h hlooks
  | iter p min max greedy ih =>
      obtain ⟨more, hmore, h⟩ := h
      refine ⟨more, hmore, ?_⟩
      generalize min + more = n at h ⊢
      induction n generalizing before before' w with
      | zero => exact h
      | succ n ihn =>
          obtain ⟨u, v, rfl, hfirst, hrest⟩ := h
          rw [List.head?_append, Option.or_assoc] at hlooks
          refine ⟨u, v, rfl, ih hfirst hlooks, ?_⟩
          cases u with
          | nil => exact ihn hlooks hrest
          | cons x u =>
              rw [List.getLast?_cons, Option.some_or] at hrest ⊢
              exact hrest

/-- The character behind may change as long as all conditions that see it still hold. -/
theorem Takes.change_after (h : p.Takes before w after)
    (hlooks : ∀ l ∈ p.endLooks, l.holds (w.getLast?.or before) after = true →
      l.holds (w.getLast?.or before) after' = true) : p.Takes before w after' := by
  induction p generalizing before w after after' with
  | empty => exact h
  | set s => exact h
  | look l =>
      obtain ⟨rfl, hholds⟩ := h
      exact ⟨rfl, hlooks l (List.mem_singleton_self l) hholds⟩
  | seq p q ihp ihq =>
      obtain ⟨u, v, rfl, hp, hq⟩ := h
      rw [List.getLast?_append, Option.or_assoc] at hlooks
      refine ⟨u, v, rfl, ?_, ihq hq fun l hl => hlooks l (List.mem_append_left _ hl)⟩
      cases v with
      | nil =>
          have hmin : q.minLength = 0 := Nat.le_zero.mp hq.minLength_le
          refine ihp hp fun l hl => hlooks l (List.mem_append_right _ ?_)
          rwa [if_pos hmin]
      | cons x v => exact hp
  | alt p q ihp ihq =>
      refine h.imp (fun hp => ihp hp fun l hl => ?_) (fun hq => ihq hq fun l hl => ?_)
      · exact hlooks l (List.mem_append_left _ hl)
      · exact hlooks l (List.mem_append_right _ hl)
  | group _ p ih => exact ih h hlooks
  | iter p min max greedy ih =>
      obtain ⟨more, hmore, h⟩ := h
      refine ⟨more, hmore, ?_⟩
      generalize min + more = n at h ⊢
      induction n generalizing before w with
      | zero => exact h
      | succ n ihn =>
          obtain ⟨u, v, rfl, hfirst, hrest⟩ := h
          rw [List.getLast?_append, Option.or_assoc] at hlooks
          refine ⟨u, v, rfl, ?_, ihn hlooks hrest⟩
          cases v with
          | nil => exact ih hfirst hlooks
          | cons x v => exact hfirst

/-- Does every match begin with this condition? -/
def opensWith (l : Look) : Pattern → Bool
  | look l' => l' == l
  | seq p _ => p.opensWith l
  | group _ p => p.opensWith l
  | _ => false

/-- Does every match end with this condition? -/
def closesWith (l : Look) : Pattern → Bool
  | look l' => l' == l
  | seq _ q => q.closesWith l
  | group _ p => p.closesWith l
  | _ => false

theorem Takes.holds_of_opensWith {l : Look} (h : p.Takes before w after)
    (hl : p.opensWith l = true) : l.holds before (w.head?.or after) = true := by
  induction p generalizing before w after with
  | look l' =>
      obtain rfl := beq_iff_eq.mp hl
      obtain ⟨rfl, hholds⟩ := h
      exact hholds
  | seq p q ihp _ =>
      obtain ⟨u, v, rfl, hp, -⟩ := h
      rw [List.head?_append, Option.or_assoc]
      exact ihp hp hl
  | group _ p ih => exact ih h hl
  | _ => cases hl

theorem Takes.holds_of_closesWith {l : Look} (h : p.Takes before w after)
    (hl : p.closesWith l = true) : l.holds (w.getLast?.or before) after = true := by
  induction p generalizing before w after with
  | look l' =>
      obtain rfl := beq_iff_eq.mp hl
      obtain ⟨rfl, hholds⟩ := h
      exact hholds
  | seq p q _ ihq =>
      obtain ⟨u, v, rfl, -, hq⟩ := h
      rw [List.getLast?_append, Option.or_assoc]
      exact ihq hq hl
  | group _ p ih => exact ih h hl
  | _ => cases hl

/-! ## Characters at the ends -/

/-- The sets to which the first character of a match can belong. -/
def headSets : Pattern → List CharSet
  | empty | look _ => []
  | set s => [s]
  | seq p q => p.headSets ++ (if p.minLength = 0 then q.headSets else [])
  | alt p q => p.headSets ++ q.headSets
  | group _ p => p.headSets
  | iter p _ _ _ => p.headSets

/-- The sets to which the last character of a match can belong. -/
def lastSets : Pattern → List CharSet
  | empty | look _ => []
  | set s => [s]
  | seq p q => q.lastSets ++ (if q.minLength = 0 then p.lastSets else [])
  | alt p q => p.lastSets ++ q.lastSets
  | group _ p => p.lastSets
  | iter p _ _ _ => p.lastSets

/-- The first character of several stretches in turn is that of one of them. -/
theorem InTurn.exists_head {T : Option Char → List Char → Option Char → Prop} {n : Nat} {x : Char}
    (h : InTurn T n before w after) (hx : w.head? = some x) :
    ∃ before' u after', T before' u after' ∧ u.head? = some x := by
  induction n generalizing before w with
  | zero =>
      obtain rfl : w = [] := h
      cases hx
  | succ n ih =>
      obtain ⟨u, v, rfl, hfirst, hrest⟩ := h
      cases u with
      | nil => exact ih hrest hx
      | cons y u => exact ⟨_, y :: u, _, hfirst, hx⟩

/-- The last character of several stretches in turn is that of one of them. -/
theorem InTurn.exists_getLast {T : Option Char → List Char → Option Char → Prop} {n : Nat}
    {x : Char} (h : InTurn T n before w after) (hx : w.getLast? = some x) :
    ∃ before' u after', T before' u after' ∧ u.getLast? = some x := by
  induction n generalizing before w with
  | zero =>
      obtain rfl : w = [] := h
      cases hx
  | succ n ih =>
      obtain ⟨u, v, rfl, hfirst, hrest⟩ := h
      rw [List.getLast?_append] at hx
      cases hv : v.getLast? with
      | none =>
          rw [hv] at hx
          exact ⟨_, u, _, hfirst, hx⟩
      | some y =>
          rw [hv] at hx
          exact ih hrest (hv.trans hx)

theorem Takes.exists_headSet {x : Char} (h : p.Takes before w after) (hx : w.head? = some x) :
    ∃ s ∈ p.headSets, s.mem x = true := by
  induction p generalizing before w after with
  | empty =>
      obtain rfl : w = [] := h
      cases hx
  | set s =>
      obtain ⟨y, rfl, hmem⟩ := h
      obtain rfl := Option.some.inj hx
      exact ⟨s, List.mem_singleton_self s, hmem⟩
  | look l =>
      obtain ⟨rfl, -⟩ := h
      cases hx
  | seq p q ihp ihq =>
      obtain ⟨u, v, rfl, hp, hq⟩ := h
      cases u with
      | nil =>
          have hmin : p.minLength = 0 := Nat.le_zero.mp hp.minLength_le
          obtain ⟨s, hs, hmem⟩ := ihq hq hx
          exact ⟨s, List.mem_append_right _ (by rwa [if_pos hmin]), hmem⟩
      | cons y u =>
          obtain ⟨s, hs, hmem⟩ := ihp hp hx
          exact ⟨s, List.mem_append_left _ hs, hmem⟩
  | alt p q ihp ihq =>
      rcases h with hp | hq
      · obtain ⟨s, hs, hmem⟩ := ihp hp hx
        exact ⟨s, List.mem_append_left _ hs, hmem⟩
      · obtain ⟨s, hs, hmem⟩ := ihq hq hx
        exact ⟨s, List.mem_append_right _ hs, hmem⟩
  | group _ p ih => exact ih h hx
  | iter p min max greedy ih =>
      obtain ⟨more, -, h⟩ := h
      obtain ⟨_, u, _, hu, hhead⟩ := h.exists_head hx
      exact ih hu hhead

theorem Takes.exists_lastSet {x : Char} (h : p.Takes before w after) (hx : w.getLast? = some x) :
    ∃ s ∈ p.lastSets, s.mem x = true := by
  induction p generalizing before w after with
  | empty =>
      obtain rfl : w = [] := h
      cases hx
  | set s =>
      obtain ⟨y, rfl, hmem⟩ := h
      obtain rfl := Option.some.inj hx
      exact ⟨s, List.mem_singleton_self s, hmem⟩
  | look l =>
      obtain ⟨rfl, -⟩ := h
      cases hx
  | seq p q ihp ihq =>
      obtain ⟨u, v, rfl, hp, hq⟩ := h
      rw [List.getLast?_append] at hx
      cases hv : v.getLast? with
      | none =>
          obtain rfl := List.getLast?_eq_none_iff.mp hv
          have hmin : q.minLength = 0 := Nat.le_zero.mp hq.minLength_le
          obtain ⟨s, hs, hmem⟩ := ihp hp hx
          exact ⟨s, List.mem_append_right _ (by rwa [if_pos hmin]), hmem⟩
      | some y =>
          rw [hv] at hx
          obtain rfl := Option.some.inj hx
          obtain ⟨s, hs, hmem⟩ := ihq hq hv
          exact ⟨s, List.mem_append_left _ hs, hmem⟩
  | alt p q ihp ihq =>
      rcases h with hp | hq
      · obtain ⟨s, hs, hmem⟩ := ihp hp hx
        exact ⟨s, List.mem_append_left _ hs, hmem⟩
      · obtain ⟨s, hs, hmem⟩ := ihq hq hx
        exact ⟨s, List.mem_append_right _ hs, hmem⟩
  | group _ p ih => exact ih h hx
  | iter p min max greedy ih =>
      obtain ⟨more, -, h⟩ := h
      obtain ⟨_, u, _, hu, hlast⟩ := h.exists_getLast hx
      exact ih hu hlast

/-- What holds of all characters of each stretch holds of all characters of several ones in turn. -/
theorem InTurn.forall_mem {T : Option Char → List Char → Option Char → Prop} {P : Char → Prop}
    {n : Nat} (hT : ∀ {before w after}, T before w after → ∀ x ∈ w, P x)
    (h : InTurn T n before w after) : ∀ x ∈ w, P x := by
  induction n generalizing before w with
  | zero =>
      obtain rfl : w = [] := h
      exact List.forall_mem_nil P
  | succ n ih =>
      obtain ⟨u, v, rfl, hfirst, hrest⟩ := h
      exact List.forall_mem_append.mpr ⟨hT hfirst, ih hrest⟩

/-- Is every set of a pattern one of these? -/
def allSets (ok : CharSet → Bool) : Pattern → Bool
  | empty | look _ => true
  | set s => ok s
  | seq p q => p.allSets ok && q.allSets ok
  | alt p q => p.allSets ok && q.allSets ok
  | group _ p => p.allSets ok
  | iter p _ _ _ => p.allSets ok

/-- What holds of the members of every set of a pattern holds of every character of a match. -/
theorem Takes.forall_mem_of_allSets {ok : CharSet → Bool} {P : Char → Prop}
    (h : p.Takes before w after) (hp : p.allSets ok = true)
    (hok : ∀ s, ok s = true → ∀ x, s.mem x = true → P x) : ∀ x ∈ w, P x := by
  induction p generalizing before w after with
  | empty =>
      obtain rfl : w = [] := h
      exact List.forall_mem_nil _
  | set s =>
      obtain ⟨y, rfl, hmem⟩ := h
      exact List.forall_mem_singleton.mpr (hok s hp y hmem)
  | look l =>
      obtain ⟨rfl, -⟩ := h
      exact List.forall_mem_nil _
  | seq p q ihp ihq =>
      obtain ⟨hokp, hokq⟩ := Bool.and_eq_true_iff.mp hp
      obtain ⟨u, v, rfl, hfirst, hrest⟩ := h
      exact List.forall_mem_append.mpr ⟨ihp hfirst hokp, ihq hrest hokq⟩
  | alt p q ihp ihq =>
      obtain ⟨hokp, hokq⟩ := Bool.and_eq_true_iff.mp hp
      exact h.elim (fun hfirst => ihp hfirst hokp) fun hsecond => ihq hsecond hokq
  | group _ p ih => exact ih h hp
  | iter p min max greedy ih =>
      obtain ⟨more, -, h⟩ := h
      exact h.forall_mem fun hmatch => ih hmatch hp

theorem allSets_of_avoids {x : Char} (h : p.avoids x = true) :
    p.allSets (fun s => !s.mem x) = true := by
  induction p with
  | empty => rfl
  | set s => exact h
  | look l => rfl
  | seq p q ihp ihq =>
      obtain ⟨hp, hq⟩ := Bool.and_eq_true_iff.mp h
      exact Bool.and_eq_true_iff.mpr ⟨ihp hp, ihq hq⟩
  | alt p q ihp ihq =>
      obtain ⟨hp, hq⟩ := Bool.and_eq_true_iff.mp h
      exact Bool.and_eq_true_iff.mpr ⟨ihp hp, ihq hq⟩
  | group _ p ih => exact ih h
  | iter p _ _ _ ih => exact ih h

/-- No character of a match is one that the pattern avoids. -/
theorem Takes.not_mem_of_avoids {x : Char} (h : p.Takes before w after)
    (hx : p.avoids x = true) : x ∉ w := by
  have hne : ∀ y ∈ w, y ≠ x := by
    refine h.forall_mem_of_allSets (allSets_of_avoids hx) fun s hs y hy heq => ?_
    simp [← heq, hy] at hs
  exact fun hmem => hne x hmem rfl

/-- The set of which a pattern takes as many characters as there are, first of all. -/
def runUp? : Pattern → Option CharSet
  | seq p _ => p.runUp?
  | iter (set s) _ none _ => some s
  | _ => none

/-- A match can begin further to the front. -/
theorem Takes.cons_of_runUp? {s : CharSet} {x : Char} (h : p.Takes (some x) w after)
    (hs : p.runUp? = some s) (hx : s.mem x = true) : p.Takes before (x :: w) after := by
  induction p generalizing w after with
  | seq p q ihp _ =>
      obtain ⟨u, v, rfl, hp, hq⟩ := h
      refine ⟨x :: u, v, rfl, ihp hp hs, ?_⟩
      rw [List.getLast?_cons, Option.some_or]
      cases hu : u.getLast? <;> simpa [hu] using hq
  | iter p min max greedy _ =>
      cases p with
      | set s' =>
          cases max with
          | some m => cases hs
          | none =>
              obtain rfl := Option.some.inj hs
              obtain ⟨more, -, h⟩ := h
              exact ⟨more + 1, nofun, [x], w, rfl, ⟨x, rfl, hx⟩, h⟩
      | _ => cases hs
  | _ => cases hs

/-- A pattern that ends with at least one character of a set: what stands before, and the set. -/
def runOut? : Pattern → Option (Pattern × CharSet)
  | seq p q => q.runOut?.map fun (lead, s) => (seq p lead, s)
  | iter (set s) 1 none true => some (empty, s)
  | _ => none

theorem inTurn_set_iff {s : CharSet} {n : Nat} :
    InTurn (Takes (set s)) n before w after ↔ w.length = n ∧ ∀ x ∈ w, s.mem x = true := by
  induction n generalizing before w with
  | zero =>
      rw [InTurn, List.length_eq_zero_iff]
      refine ⟨?_, And.left⟩
      rintro rfl
      exact ⟨rfl, nofun⟩
  | succ n ih =>
      constructor
      · rintro ⟨u, v, rfl, ⟨x, rfl, hx⟩, hrest⟩
        obtain ⟨hlen, hv⟩ := ih.mp hrest
        exact ⟨congrArg (· + 1) hlen, List.forall_mem_cons.mpr ⟨hx, hv⟩⟩
      · rintro ⟨hlen, hw⟩
        obtain ⟨x, w, rfl⟩ := List.exists_cons_of_length_eq_add_one hlen
        obtain ⟨hx, hw⟩ := List.forall_mem_cons.mp hw
        exact ⟨[x], w, rfl, ⟨x, rfl, hx⟩, ih.mpr ⟨Nat.succ.inj hlen, hw⟩⟩

theorem takes_iff_of_runOut? {lead : Pattern} {s : CharSet} (hs : p.runOut? = some (lead, s)) :
    p.Takes before w after ↔ ∃ u v, w = u ++ v ∧ v ≠ [] ∧ (∀ x ∈ v, s.mem x = true) ∧
      lead.Takes before u (v.head?.or after) := by
  induction p generalizing before w lead with
  | seq p q _ ihq =>
      obtain ⟨⟨lead, s⟩, hq, hlead⟩ := Option.map_eq_some_iff.mp hs
      obtain ⟨rfl, rfl⟩ := Prod.mk.inj hlead
      constructor
      · rintro ⟨u, v, rfl, hu, hv⟩
        obtain ⟨v, r, rfl, hne, hr, hv⟩ := (ihq hq).mp hv
        refine ⟨u ++ v, r, (List.append_assoc ..).symm, hne, hr, u, v, rfl, ?_, hv⟩
        rwa [List.head?_append, Option.or_assoc] at hu
      · rintro ⟨w, r, rfl, hne, hr, u, v, rfl, hu, hv⟩
        refine ⟨u, v ++ r, List.append_assoc .., ?_, (ihq hq).mpr ⟨v, r, rfl, hne, hr, hv⟩⟩
        rwa [List.head?_append, Option.or_assoc]
  | iter p min max greedy _ =>
      rw [runOut?.eq_def] at hs
      split at hs
      · cases ‹iter p min max greedy = seq _ _›
      · rename_i s' _ heq
        cases heq
        obtain ⟨rfl, rfl⟩ := Prod.mk.inj (Option.some.inj hs)
        constructor
        · rintro ⟨more, -, h⟩
          obtain ⟨hlen, hw⟩ := inTurn_set_iff.mp h
          refine ⟨[], w, rfl, ?_, hw, rfl⟩
          rintro rfl
          rw [List.length_nil] at hlen
          omega
        · rintro ⟨u, v, rfl, hne, hv, rfl⟩
          have hpos := List.length_pos_iff.mpr hne
          exact ⟨v.length - 1, nofun, inTurn_set_iff.mpr ⟨by rw [List.nil_append]; omega, hv⟩⟩
      · cases hs
  | _ => cases hs

end Pattern

end SecretScan
