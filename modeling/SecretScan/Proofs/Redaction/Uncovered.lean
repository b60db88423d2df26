import SecretScan.Proofs.Pattern.Replaces
import SecretScan.Proofs.Pattern.Within
import SecretScan.Proofs.Redaction.Numbers
import SecretScan.Proofs.Redaction.Standard

/-!
# What a replacement uncovers

A replacement gives its neighbours a bracket to stand at, where there was a character that could
keep a rule from matching. Most rules leave nothing there that an earlier one could take: they
begin and end at the boundaries that the earlier one asks for, or they take every character with
which it could begin or end. The two rules that do not are those for telephone numbers and for
addresses.
-/

namespace SecretScan

open Pattern

namespace ActiveRule

/-- The names of the rules that may find something right behind a replacement which was not theirs
before. -/
def shownBehind (replacement : String) : List String :=
  if replacement = "[REDACTED_EMAIL]" then ["ssn", "credit_card", "phone"] else []

/-- The names of the rules that may find something right before a replacement. -/
def shownBefore (replacement : String) : List String :=
  if replacement = "[REDACTED_EMAIL]" then ["ssn", "credit_card", "phone"]
  else if replacement = "[REDACTED_PHONE]" then
    ["aws_access_key_id", "ssn", "credit_card", "phone"]
  else []

/-- What a rule matches between two stretches came to light by a replacement next to it. -/
def Uncovered (q : ActiveRule) (before after : List Char) : Prop :=
  ∃ replacement : String, q.name ∈ shownBehind replacement ∧ replacement.toList <:+ before ∨
    q.name ∈ shownBefore replacement ∧ replacement.toList <+: after

/-- Whatever some rules match in a text came to light by a replacement. -/
def OnlyUncovered (rules : List ActiveRule) (text : List Char) : Prop :=
  ∀ q ∈ rules, ∀ before found after, text = before ++ (found ++ after) →
    q.pattern.Takes before.getLast? found after.head? → q.Uncovered before after

/-- The condition at the ends of most patterns. -/
def boundary : Look := .wordBoundary false

/-- The second rule puts a word in brackets, and next to it the first one finds nothing new, but for
the cases in the two tables. -/
structure Apart (q r : ActiveRule) : Prop where
  brackets : ∃ word ∈ bracketedWords, r.replacement.toList = '[' :: (word ++ [']'])
  starts : ∀ l ∈ q.pattern.startLooks, l = boundary
  ends : ∀ l ∈ q.pattern.endLooks, l = boundary
  behind : q.pattern.startLooks = [] ∨ r.pattern.closesWith boundary = true ∨
    (∃ s ∈ r.pattern.greedyEnd?, ∀ s' ∈ q.pattern.headSets, s'.within s = true) ∨
    q.name ∈ shownBehind r.replacement
  ahead : q.pattern.endLooks = [] ∨ r.pattern.opensWith boundary = true ∨
    (∃ s ∈ r.pattern.runUp?, ∀ s' ∈ q.pattern.lastSets, s'.within s = true) ∨
    q.name ∈ shownBefore r.replacement

instance (q r : ActiveRule) : Decidable (q.Apart r) :=
  decidable_of_iff
    ((∃ word ∈ bracketedWords, r.replacement.toList = '[' :: (word ++ [']'])) ∧
      (∀ l ∈ q.pattern.startLooks, l = boundary) ∧ (∀ l ∈ q.pattern.endLooks, l = boundary) ∧
      (q.pattern.startLooks.isEmpty = true ∨ r.pattern.closesWith boundary = true ∨
        r.pattern.greedyEnd?.any (fun s => q.pattern.headSets.all (·.within s)) = true ∨
        q.name ∈ shownBehind r.replacement) ∧
      (q.pattern.endLooks.isEmpty = true ∨ r.pattern.opensWith boundary = true ∨
        r.pattern.runUp?.any (fun s => q.pattern.lastSets.all (·.within s)) = true ∨
        q.name ∈ shownBefore r.replacement)) <| by
    simp only [List.isEmpty_iff, Option.any_eq_true, List.all_eq_true]
    exact ⟨fun ⟨hb, hs, he, hl, hr⟩ => ⟨hb, hs, he, hl, hr⟩,
      fun h => ⟨h.brackets, h.starts, h.ends, h.behind, h.ahead⟩⟩

variable {q r : ActiveRule} {x y m : List Char} {before before' after after' : Option Char}

/-- Right behind a match of the second rule the first one takes what it would take there behind a
bracket. -/
theorem Apart.takes_behind (h : q.Apart r) (hx : x ≠ []) (hq : q.pattern.Takes before' x after)
    (hm : r.pattern.Takes before m (x ++ y).head?)
    (hgreedy : ∀ s ∈ r.pattern.greedyEnd?, ∀ c ∈ (x ++ y).head?, s.mem c = false) :
    q.name ∈ shownBehind r.replacement ∨ q.pattern.Takes (m.getLast?.or before) x after := by
  obtain ⟨c, x, rfl⟩ := List.exists_cons_of_ne_nil hx
  rcases h.behind with hnone | hcloses | ⟨s, hs, hwithin⟩ | hshown
  · exact Or.inr (hq.change_before (by simp [hnone]))
  · refine Or.inr (hq.change_before fun l hl _ => ?_)
    obtain rfl := h.starts l hl
    exact hm.holds_of_closesWith hcloses
  · obtain ⟨s', hs', hmem⟩ := hq.exists_headSet rfl
    have hc := CharSet.mem_of_within (hwithin s' hs') hmem
    rw [hgreedy s hs c rfl] at hc
    cases hc
  · exact Or.inl hshown

/-- Right before a match of the second rule the first one takes what it would take there before a
bracket. -/
theorem Apart.takes_ahead (h : q.Apart r) (hx : x ≠ []) (hq : q.pattern.Takes before x after')
    (hm : r.pattern.Takes (x.getLast?.or before) m after)
    (hnothing : ∀ c ∈ x.getLast?, ¬ r.pattern.Takes before' (c :: m) after) :
    q.name ∈ shownBefore r.replacement ∨ q.pattern.Takes before x (m.head?.or after) := by
  obtain ⟨c, hc⟩ : ∃ c, x.getLast? = some c := ⟨_, List.getLast?_eq_some_getLast hx⟩
  rcases h.ahead with hnone | hopens | ⟨s, hs, hwithin⟩ | hshown
  · exact Or.inr (hq.change_after (by simp [hnone]))
  · refine Or.inr (hq.change_after fun l hl _ => ?_)
    obtain rfl := h.ends l hl
    exact hm.holds_of_opensWith hopens
  · obtain ⟨s', hs', hmem⟩ := hq.exists_lastSet hc
    rw [hc, Option.some_or] at hm
    exact absurd (hm.cons_of_runUp? hs (CharSet.mem_of_within (hwithin s' hs') hmem))
      (hnothing c hc)
  · exact Or.inl hshown

/-! ## One rule -/

/-- A rule that stops at marks and matches nothing in the words that stand in brackets. -/
structure SparesWords (r : ActiveRule) : Prop where
  stops : r.StopsAtMarks
  spares : ∀ word ∈ bracketedWords, r.pattern.spellable word = false

instance (r : ActiveRule) : Decidable r.SparesWords :=
  decidable_of_iff (r.StopsAtMarks ∧ ∀ word ∈ bracketedWords, r.pattern.spellable word = false)
    ⟨fun h => ⟨h.1, h.2⟩, fun h => ⟨h.stops, h.spares⟩⟩

theorem SparesWords.ne_nil (h : r.SparesWords) (hx : r.pattern.Takes before x after) : x ≠ [] :=
  List.ne_nil_of_length_pos (Nat.lt_of_lt_of_le h.stops.full hx.minLength_le)

theorem SparesWords.not_mem (h : r.SparesWords) (hx : r.pattern.Takes before x after) {c : Char}
    (hc : c ∈ marks) : c ∉ x :=
  hx.not_mem_of_avoids (h.stops.avoids c hc)

variable {text result front front' e e' back back' : List Char}

/-- At the beginning of a gap. -/
theorem Apart.front_of_gap (h : q.Apart r) (hx : x ≠ [])
    (hgap : Gap r.pattern r.replacement.toList none text result front front' (e ++ (x ++ e')) back
      back') (htakes : q.pattern.Takes (front' ++ e).getLast? x after) :
    (q.name ∈ shownBehind r.replacement ∧ r.replacement.toList <:+ front' ++ e) ∨
      q.pattern.Takes (front ++ e).getLast? x after := by
  cases he : e.getLast? with
  | some c =>
      rw [List.getLast?_append, he] at htakes ⊢
      exact Or.inr htakes
  | none =>
      obtain rfl := List.getLast?_eq_none_iff.mp he
      simp only [List.append_nil, List.nil_append] at hgap htakes ⊢
      rcases hgap.behind with ⟨rfl, rfl⟩ | ⟨a, m, a', rfl, rfl, hm, hgreedy⟩
      · exact Or.inr htakes
      · rw [List.append_assoc] at hm hgreedy
        refine (h.takes_behind hx htakes hm hgreedy).imp (fun hshown => ?_) fun hbehind => ?_
        · exact ⟨hshown, List.suffix_append _ _⟩
        · rwa [Option.or_none, ← List.getLast?_append] at hbehind

/-- At the end of a gap. -/
theorem Apart.back_of_gap (h : q.Apart r) (hx : x ≠ [])
    (hgap : Gap r.pattern r.replacement.toList none text result front front' (e ++ (x ++ e')) back
      back') (htakes : q.pattern.Takes (front ++ e).getLast? x (e' ++ back').head?) :
    (q.name ∈ shownBefore r.replacement ∧ r.replacement.toList <+: e' ++ back') ∨
      q.pattern.Takes (front ++ e).getLast? x (e' ++ back).head? := by
  cases e' with
  | cons c e' => exact Or.inr htakes
  | nil =>
      simp only [List.append_nil, List.nil_append] at hgap htakes ⊢
      rcases hgap.ahead with ⟨rfl, rfl⟩ | ⟨m, b, b', rfl, rfl, hm⟩
      · exact Or.inr htakes
      · rw [List.getLast?_append, Option.or_assoc, Option.or_none, ← List.getLast?_append] at hm
        -- The match would have been found one character before.
        have hnothing : ∀ c ∈ x.getLast?,
            ¬ r.pattern.Takes ((e ++ x.dropLast).getLast?.or (front.getLast?.or none)) (c :: m)
              b.head? := by
          intro c hc
          obtain ⟨x, rfl⟩ := List.getLast?_eq_some_iff.mp hc
          rw [List.dropLast_concat]
          refine hgap.nothing (e ++ x) (c :: m) b (by simp) ?_
          simp only [List.length_append, List.length_singleton]
          omega
        refine (h.takes_ahead hx htakes hm hnothing).imp (fun hshown => ?_) fun hahead => ?_
        · exact ⟨hshown, List.prefix_append _ _⟩
        · rwa [List.head?_append]

/-- What the first rule matches in the result of the second one has been uncovered by it, or the
first rule matched it before, in the same gap between two matches of the second one. -/
theorem Apart.uncovered_or_taken (h : q.Apart r) (hq : q.SparesWords) (hr : r.SparesWords)
    {a b : List Char} (hresult : r.apply text = a ++ (x ++ b))
    (htakes : q.pattern.Takes a.getLast? x b.head?) :
    q.Uncovered a b ∨ ∃ front front' e e' back back', Gap r.pattern r.replacement.toList none text
      (r.apply text) front front' (e ++ (x ++ e')) back back' ∧ a = front' ++ e ∧ b = e' ++ back' ∧
      q.pattern.Takes (front ++ e).getLast? x (e' ++ back).head? := by
  obtain ⟨word, hword, hreplacement⟩ := h.brackets
  have hx := hq.ne_nil htakes
  have hreplaces : r.pattern.Replaces ('[' :: (word ++ [']'])) none text (r.apply text) := by
    rw [← hreplacement]
    exact replaces_replaceAll hr.stops.full _ _
  rcases hreplaces.exists_gap hresult hx (hq.not_mem htakes (by decide))
    (hq.not_mem htakes (by decide)) with
    ⟨e, e', rfl⟩ | ⟨front, front', e, e', back, back', hgap, rfl, rfl⟩
  · exact absurd (fun c hc => by simp [hc]) (htakes.not_forall_mem (hq.spares _ hword))
  · rw [← hreplacement] at hgap
    rcases h.front_of_gap hx hgap htakes with hshown | htakes
    · exact Or.inl ⟨r.replacement, Or.inl hshown⟩
    rcases h.back_of_gap hx hgap htakes with hshown | htakes
    · exact Or.inl ⟨r.replacement, Or.inr hshown⟩
    · exact Or.inr ⟨front, front', e, e', back, back', hgap, rfl, rfl, htakes⟩

theorem bracketed_of_mem_shown {name replacement : String}
    (h : name ∈ shownBehind replacement ∨ name ∈ shownBefore replacement) :
    ∃ word ∈ bracketedWords, replacement.toList = '[' :: (word ++ [']']) := by
  rw [shownBehind, shownBefore] at h
  split_ifs at h with hemail hphone
  · subst hemail
    exact ⟨"REDACTED_EMAIL".toList, by decide, by decide⟩
  · subst hphone
    exact ⟨"REDACTED_PHONE".toList, by decide, by decide⟩
  · simp at h

/-- A match next to a replacement stays next to it. -/
theorem Uncovered.of_gap (hr : r.SparesWords)
    (hgap : Gap r.pattern r.replacement.toList none text result front front' (e ++ (x ++ e')) back
      back') (h : q.Uncovered (front ++ e) (e' ++ back)) :
    q.Uncovered (front' ++ e) (e' ++ back') := by
  have hopen := hr.stops.avoids '[' (by decide)
  have hclose := hr.stops.avoids ']' (by decide)
  obtain ⟨replacement, ⟨hshown, hbehind⟩ | ⟨hshown, hahead⟩⟩ := h
  · obtain ⟨word, hword, heq⟩ := bracketed_of_mem_shown (Or.inl hshown)
    rw [heq] at hbehind
    refine ⟨replacement, Or.inl ⟨hshown, ?_⟩⟩
    rw [heq]
    exact hgap.bracketed_behind hr.stops.full hopen hclose (hr.spares word hword) hbehind
  · obtain ⟨word, hword, heq⟩ := bracketed_of_mem_shown (Or.inr hshown)
    rw [heq] at hahead
    refine ⟨replacement, Or.inr ⟨hshown, ?_⟩⟩
    rw [heq]
    exact hgap.bracketed_ahead hr.stops.full hopen hclose (hr.spares word hword) hahead

/-- Such a rule leaves nothing that is its own but what it has uncovered. -/
theorem Apart.onlyUncovered_apply (h : r.Apart r) (hr : r.SparesWords) (text : List Char) :
    OnlyUncovered [r] (r.apply text) := by
  intro q hq a x b hresult htakes
  obtain rfl := List.mem_singleton.mp hq
  rcases h.uncovered_or_taken hr hr hresult htakes with
    huncovered | ⟨front, front', e, e', back, back', hgap, rfl, rfl, htaken⟩
  · exact huncovered
  -- No match begins in a gap.
  · rw [List.getLast?_append, ← Option.or_none (o := front.getLast?)] at htaken
    refine absurd htaken (hgap.nothing e x (e' ++ back) (by simp) ?_)
    have hpos := List.length_pos_iff.mpr (hr.ne_nil htaken)
    simp only [List.length_append]
    omega

/-- One more rule: of what the rules before it can match there is only what it or one of them has
uncovered. -/
theorem OnlyUncovered.snoc {rules : List ActiveRule} (h : OnlyUncovered rules text)
    (hrules : ∀ q ∈ rules, q.Apart r ∧ q.SparesWords) (hr : r.SparesWords)
    (hself : OnlyUncovered [r] (r.apply text)) : OnlyUncovered (rules ++ [r]) (r.apply text) := by
  intro q hq a x b hresult htakes
  rcases List.mem_append.mp hq with hmem | hlast
  · obtain ⟨hapart, hspares⟩ := hrules q hmem
    rcases hapart.uncovered_or_taken hspares hr hresult htakes with
      huncovered | ⟨front, front', e, e', back, back', hgap, rfl, rfl, htaken⟩
    · exact huncovered
    · refine (h q hmem (front ++ e) x (e' ++ back) ?_ htaken).of_gap hr hgap
      rw [hgap.text_eq]
      simp
  · exact hself q hlast a x b hresult htakes

end ActiveRule

end SecretScan
