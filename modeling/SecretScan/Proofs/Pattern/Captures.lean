import SecretScan.Proofs.Pattern.Successive

/-!
# Patterns that are one capture

Many patterns are one capture, with conditions before it and behind it. Conditions take nothing, so
what is captured is the whole match, in whatever way the pattern has matched.
-/

namespace SecretScan

namespace Pattern

/-- Is a pattern made of conditions only? Such a pattern goes nowhere and captures nothing. -/
def bare : Pattern → Bool
  | empty | look _ => true
  | seq p q => p.bare && q.bare
  | _ => false

/-- Is a pattern one capture with this number, but for conditions around it? -/
def encloses (index : Nat) : Pattern → Bool
  | group i _ => i == index
  | seq p q => p.encloses index && q.bare || p.bare && q.encloses index
  | _ => false

variable {p : Pattern} {index : Nat} {s r : Progress} {k : Next} {c : Cursor} {m : Match}

/-- Behind a condition a run goes on from where it was. -/
theorem next_of_run_bare (hp : p.bare = true) (h : p.run s k = some r) : k s = some r := by
  induction p generalizing s k with
  | empty => exact h
  | look l =>
      rw [run, Option.ite_none_right_eq_some] at h
      exact h.2
  | seq p q ihp ihq =>
      obtain ⟨hbarep, hbareq⟩ := Bool.and_eq_true_iff.mp hp
      have hq : q.run s k = some r := ihp (k := fun t => q.run t k) hbarep h
      exact ihq hbareq hq
  | _ => cases hp

/-- A run that succeeds has gone on from a place at which the last capture with the number is all
that lies between. -/
theorem exists_capture_of_run (hp : p.encloses index = true) (h : p.run s k = some r) :
    ∃ t, k t = some r ∧ t.captures.lookup index = some ⟨s.cursor, t.cursor⟩ := by
  induction p generalizing s k with
  | group i p _ =>
      obtain rfl := beq_iff_eq.mp hp
      obtain ⟨t, -, ht⟩ := p.sound_run _ _ _ h
      exact ⟨_, ht, List.lookup_cons_self⟩
  | seq p q ihp ihq =>
      rcases Bool.or_eq_true_iff.mp hp with hfirst | hsecond
      · obtain ⟨hencloses, hbare⟩ := Bool.and_eq_true_iff.mp hfirst
        obtain ⟨t, ht, hlookup⟩ := ihp hencloses h
        exact ⟨t, next_of_run_bare hbare ht, hlookup⟩
      · obtain ⟨hbare, hencloses⟩ := Bool.and_eq_true_iff.mp hsecond
        have hq : q.run s k = some r := next_of_run_bare (k := fun t => q.run t k) hbare h
        exact ihq hencloses hq
  | _ => cases hp

theorem group?_of_matchAt? (hp : p.encloses index = true) (h : p.matchAt? c = some m) :
    m.group? index = some m.whole := by
  obtain ⟨r, hrun, rfl⟩ := Option.map_eq_some_iff.mp h
  obtain ⟨t, ht, hlookup⟩ := exists_capture_of_run hp hrun
  obtain rfl := Option.some.inj ht
  by_cases hzero : index = 0
  · rw [Match.group?, if_pos hzero]
  · rw [Match.group?, if_neg hzero]
    exact hlookup

/-- The capture of a pattern that is one capture is the whole match. -/
theorem group?_of_mem_findAll {text : List Char} (hp : p.encloses index = true)
    (h : m ∈ p.findAll text) : m.group? index = some m.whole := by
  obtain ⟨d, -, hmatch⟩ := (p.successive_findAll text).exists_place h
  exact group?_of_matchAt? hp hmatch

end Pattern

end SecretScan
