import SecretScan.Proofs.Redaction.Uncovered

/-!
# A rule that keeps a heading

The rule for bearer tokens puts the word that announces a token back in front of the brackets.
That word could announce another match, together with what stands before it. It does not: where it
ends no token begins, and where it begins, the match that it stands for began with a character
that the token of another match would have taken.
-/

namespace SecretScan

open Pattern

namespace ActiveRule

/-- A rule that replaces a lead and a token, which is as many characters of a set as there are, by a
heading and a word in brackets. -/
structure Heads (r : ActiveRule) (lead : Pattern) (token : CharSet) (heading : List Char) :
    Prop where
  replacement : ∃ word ∈ bracketedWords, r.replacement.toList = heading ++ '[' :: (word ++ [']'])
  starts : ∀ s ∈ r.pattern.headSets, s.within token = true
  free : ∀ p ∈ [r.pattern, lead], p.endLooks.isEmpty = true
  short : heading.length < r.pattern.minLength
  led : 0 < lead.minLength
  /-- Within the heading no token follows the end of a lead. -/
  within : ∀ pair ∈ heading.zip heading.tail, token.mem pair.2 = true →
    ∀ s ∈ lead.lastSets, s.mem pair.1 = false

instance (r : ActiveRule) (lead : Pattern) (token : CharSet) (heading : List Char) :
    Decidable (r.Heads lead token heading) :=
  decidable_of_iff
    ((∃ word ∈ bracketedWords, r.replacement.toList = heading ++ '[' :: (word ++ [']'])) ∧
      (∀ s ∈ r.pattern.headSets, s.within token = true) ∧
      (∀ p ∈ [r.pattern, lead], p.endLooks.isEmpty = true) ∧
      heading.length < r.pattern.minLength ∧ 0 < lead.minLength ∧
      ∀ pair ∈ heading.zip heading.tail, token.mem pair.2 = true →
        ∀ s ∈ lead.lastSets, s.mem pair.1 = false)
    ⟨fun ⟨hr, hs, hf, hl, h0, hw⟩ => ⟨hr, hs, hf, hl, h0, hw⟩,
      fun h => ⟨h.replacement, h.starts, h.free, h.short, h.led, h.within⟩⟩

variable {r : ActiveRule} {lead : Pattern} {token : CharSet} {heading : List Char}
  {before before' after : Option Char} {u w : List Char}

theorem Heads.endLooks_eq (h : r.Heads lead token heading) {p : Pattern}
    (hp : p ∈ [r.pattern, lead]) : p.endLooks = [] :=
  List.isEmpty_iff.mp (h.free p hp)

theorem Heads.ne_nil (h : r.Heads lead token heading) (hw : r.pattern.Takes before w after) :
    w ≠ [] :=
  List.ne_nil_of_length_pos
    (Nat.lt_of_le_of_lt (Nat.zero_le _) (Nat.lt_of_lt_of_le h.short hw.minLength_le))

/-- What stands before a text does not matter for a match in it, if no token can go on there. -/
theorem Heads.change_before (h : r.Heads lead token heading)
    (hw : r.pattern.Takes (u.getLast?.or before') w after)
    (hbefore : before' = before ∨ ∀ x ∈ (u ++ w).head?, token.mem x = false) :
    r.pattern.Takes (u.getLast?.or before) w after := by
  cases u with
  | cons x u =>
      rw [List.getLast?_cons, Option.some_or] at hw ⊢
      exact hw
  | nil =>
      rcases hbefore with rfl | hhead
      · exact hw
      · obtain ⟨x, w, rfl⟩ := List.exists_cons_of_ne_nil (h.ne_nil hw)
        obtain ⟨s, hs, hmem⟩ := hw.exists_headSet rfl
        have hx := CharSet.mem_of_within (h.starts s hs) hmem
        rw [hhead x rfl] at hx
        cases hx

theorem mem_zip_tail {α : Type} {a b : List α} {x y : α} :
    (x, y) ∈ (a ++ x :: y :: b).zip (a ++ x :: y :: b).tail := by
  induction a with
  | nil => exact List.mem_cons_self
  | cons z a ih =>
      cases a with
      | nil => exact List.mem_cons_of_mem _ List.mem_cons_self
      | cons z' a => exact List.mem_cons_of_mem _ ih

variable {f g m rest text result word : List Char}

/-- No match begins in a gap and ends in the heading behind it. -/
theorem Heads.not_takes_across (h : r.Heads lead token heading)
    (hsplit : r.pattern.runOut? = some (lead, token))
    (hnothing : r.pattern.TakesNothingFrom before (u ++ f) (m ++ rest))
    (hm : r.pattern.Takes before' m rest.head?) (hheading : g <+: heading) :
    ¬ r.pattern.Takes (u.getLast?.or before) (f ++ g) after := by
  intro hw
  obtain ⟨lead', token', heq, hne, htoken, hlead⟩ := (takes_iff_of_runOut? hsplit).mp hw
  have hledne : lead' ≠ [] :=
    List.ne_nil_of_length_pos (Nat.lt_of_lt_of_le h.led hlead.minLength_le)
  obtain ⟨x, token', rfl⟩ := List.exists_cons_of_ne_nil hne
  have hcases : (∃ a y, lead' = f ++ (a ++ [y]) ∧ g = (a ++ [y]) ++ x :: token') ∨
      ∃ a, f = lead' ++ a ∧ x :: token' = a ++ g := by
    rcases List.append_eq_append_iff.mp heq with ⟨a, hlead', hg⟩ | ⟨a, hf, htoken'⟩
    · rcases List.eq_nil_or_concat a with rfl | ⟨a, y, rfl⟩
      · exact Or.inr ⟨[], by simpa using hlead'.symm, by simpa using hg.symm⟩
      · rw [List.concat_eq_append] at hlead' hg
        exact Or.inl ⟨a, y, hlead', hg⟩
    · exact Or.inr ⟨a, hf, htoken'⟩
  rcases hcases with ⟨a, y, rfl, rfl⟩ | ⟨a, rfl, htoken'⟩
  -- The lead would end within the heading, and a token follow there.
  · obtain ⟨e, rfl⟩ := hheading
    obtain ⟨s, hs, hmem⟩ := hlead.exists_lastSet (x := y) (by simp)
    have hpair : (y, x) ∈ ((a ++ [y]) ++ x :: token' ++ e).zip
        ((a ++ [y]) ++ x :: token' ++ e).tail := by
      rw [List.append_assoc, List.append_assoc]
      exact mem_zip_tail
    rw [h.within _ hpair (htoken x List.mem_cons_self) s hs] at hmem
    cases hmem
  -- The token could go on with the first character of the match that the heading stands for.
  · obtain ⟨z, m, rfl⟩ := List.exists_cons_of_ne_nil (h.ne_nil hm)
    obtain ⟨s, hs, hmem⟩ := hm.exists_headSet rfl
    have hz := CharSet.mem_of_within (h.starts s hs) hmem
    have hfree : lead.endLooks = [] := h.endLooks_eq (by simp)
    have htakes :
        r.pattern.Takes (u.getLast?.or before) (lead' ++ (a ++ [z])) (m ++ rest).head? := by
      refine (takes_iff_of_runOut? hsplit).mpr
        ⟨lead', a ++ [z], rfl, by simp, ?_, hlead.change_after (by simp [hfree])⟩
      intro c hc
      rcases List.mem_append.mp hc with hc | hc
      · exact htoken c (by rw [htoken']; exact List.mem_append_left _ hc)
      · rwa [List.mem_singleton.mp hc]
    refine hnothing u _ (m ++ rest) (by simp) ?_ htakes
    have hpos := List.length_pos_iff.mpr hledne
    simp only [List.length_append]
    omega

/-- No match stands within a gap and the heading behind it. -/
theorem Heads.not_takes_in_front (h : r.Heads lead token heading)
    (hsplit : r.pattern.runOut? = some (lead, token)) {gap e : List Char}
    (hnothing : r.pattern.TakesNothingFrom before gap (m ++ rest))
    (hm : r.pattern.Takes (gap.getLast?.or before) m rest.head?)
    (hbefore : before' = before ∨ ∀ x ∈ (gap ++ (m ++ rest)).head?, token.mem x = false)
    (heq : gap ++ heading = u ++ (w ++ e)) :
    ¬ r.pattern.Takes (u.getLast?.or before') w after := by
  intro hw
  have hlen := Nat.lt_of_lt_of_le h.short hw.minLength_le
  -- The heading alone is too short, so the match begins within the gap.
  obtain ⟨f, rfl, hf, hne⟩ : ∃ f, gap = u ++ f ∧ w ++ e = f ++ heading ∧ u ++ f ≠ [] := by
    have hlengths := congrArg List.length heq
    simp only [List.length_append] at hlengths
    rcases List.append_eq_append_iff.mp heq with ⟨f, rfl, -⟩ | ⟨f, rfl, hf⟩
    · rw [List.length_append] at hlengths
      omega
    · refine ⟨f, rfl, hf, List.ne_nil_of_length_pos ?_⟩
      simp only [List.length_append] at hlengths ⊢
      omega
  have hhead : before' = before ∨ ∀ x ∈ (u ++ w).head?, token.mem x = false := by
    refine hbefore.imp_right fun hhead x hx => hhead x ?_
    have hall : (u ++ f ++ heading).head? = some x := by
      rw [heq, ← List.append_assoc, List.head?_append, hx]
      rfl
    obtain ⟨c, rest', hc⟩ := List.exists_cons_of_ne_nil hne
    rw [hc] at hall ⊢
    exact hall
  have hw := h.change_before hw hhead
  rcases List.append_eq_append_iff.mp hf with ⟨g, rfl, -⟩ | ⟨g, rfl, hheading⟩
  · have hfree : r.pattern.endLooks = [] := h.endLooks_eq (by simp)
    have hgap : r.pattern.Takes (u.getLast?.or before) w (g ++ (m ++ rest)).head? :=
      hw.change_after (by simp [hfree])
    refine hnothing u w _ (by simp) ?_ hgap
    simp only [List.length_append]
    omega
  · exact h.not_takes_across hsplit hnothing hm ⟨e, hheading.symm⟩ hw

/-- Such a rule leaves nothing that it matches. -/
theorem Heads.takesNothing (h : r.Heads lead token heading)
    (hsplit : r.pattern.runOut? = some (lead, token)) (hr : r.SparesWords)
    (hword : word ∈ bracketedWords)
    (hreplaces : r.pattern.Replaces (heading ++ '[' :: (word ++ [']'])) before text result)
    (hbefore : before' = before ∨ ∀ x ∈ text.head?, token.mem x = false) :
    r.pattern.TakesNothing before' result := by
  induction hreplaces generalizing before' with
  | @rest before text hnothing =>
      rintro u w v rfl htakes
      refine hnothing u w v rfl (h.change_before htakes (hbefore.imp_right fun hhead x hx => ?_))
      refine hhead x ?_
      rw [← List.append_assoc, List.head?_append, hx]
      rfl
  | @found before gap m rest result hm hnothing hgreedy _ ih =>
      intro u w v hresult htakes
      have hne := h.ne_nil htakes
      have hcut : (gap ++ heading) ++ '[' :: (word ++ ']' :: result) = u ++ (w ++ v) := by
        rw [← hresult]
        simp
      rcases append_cons_eq_append hcut (hr.not_mem htakes (by decide)) hne with
        ⟨e, hgap, -⟩ | ⟨e, rfl, hbehind⟩
      · exact h.not_takes_in_front hsplit hnothing hm hbefore hgap htakes
      rcases append_cons_eq_append hbehind (hr.not_mem htakes (by decide)) hne with
        ⟨e', rfl, -⟩ | ⟨e', rfl, hlater⟩
      · exact absurd (fun x hx => by simp [hx]) (htakes.not_forall_mem (hr.spares _ hword))
      have hnothing : r.pattern.TakesNothing (some ']') result :=
        ih (Or.inr (hgreedy token (greedyEnd?_of_runOut? hsplit)))
      refine hnothing e' w v hlater ?_
      have hlast : (gap ++ heading ++ '[' :: (word ++ ']' :: e')).getLast? =
          e'.getLast?.or (some ']') := by
        have hassoc : gap ++ heading ++ '[' :: (word ++ ']' :: e') =
            (gap ++ heading ++ '[' :: word) ++ ([']'] ++ e') := by simp
        rw [hassoc, List.getLast?_append, List.getLast?_append, List.getLast?_singleton,
          Option.or_assoc, Option.some_or]
      rwa [hlast, Option.or_assoc, Option.some_or] at htakes

/-- A rule that keeps a heading leaves nothing that is its own. -/
theorem Heads.onlyUncovered_apply (h : r.Heads lead token heading)
    (hsplit : r.pattern.runOut? = some (lead, token)) (hr : r.SparesWords) (text : List Char) :
    OnlyUncovered [r] (r.apply text) := by
  intro q hq a x b hresult htakes
  obtain rfl := List.mem_singleton.mp hq
  obtain ⟨word, hword, hreplacement⟩ := h.replacement
  have hreplaces :
      q.pattern.Replaces (heading ++ '[' :: (word ++ [']'])) none text (q.apply text) := by
    rw [← hreplacement]
    exact replaces_replaceAll hr.stops.full _ _
  refine absurd ?_ (h.takesNothing hsplit hr hword hreplaces (Or.inl rfl) a x b hresult)
  rwa [Option.or_none]

end ActiveRule

end SecretScan
