import SecretScan.Proofs.Redaction.Heading
import SecretScan.Proofs.Redaction.Lists

/-!
# A second pass

Each standard rule leaves nothing that it or an earlier one matches, but for what it uncovers next
to its replacements. Every replacement brings a bracket more into the text, so a text stays as it
is just if no rule matches in it. A second pass thus changes a redacted text just if something in
it has been uncovered.
-/

namespace SecretScan

open Pattern

namespace ActiveRule

/-! ## Layers of rules -/

/-- Every rule is apart from all later ones, and leaves nothing that is its own. -/
structure Layered (rules : List ActiveRule) : Prop where
  apart : rules.Pairwise Apart
  spares : ∀ r ∈ rules, r.SparesWords
  own : ∀ r ∈ rules, ∀ text, OnlyUncovered [r] (r.apply text)

variable {rules : List ActiveRule} {r : ActiveRule} {text : List Char}

theorem Layered.of_append {later : List ActiveRule} (h : Layered (rules ++ later)) :
    Layered rules where
  apart := (List.pairwise_append.mp h.apart).1
  spares := fun r hr => h.spares r (List.mem_append_left _ hr)
  own := fun r hr => h.own r (List.mem_append_left _ hr)

/-- After layered rules there is nothing for any of them but what has been uncovered. The
induction is on the rules from the last one. -/
theorem Layered.onlyUncovered (h : Layered rules) (text : List Char) :
    OnlyUncovered rules (applyAll rules text) := by
  induction rules using List.reverseRecOn with
  | nil => exact fun q hq => absurd hq List.not_mem_nil
  | append_singleton rules r ih =>
      have happly : applyAll (rules ++ [r]) text = r.apply (applyAll rules text) := by
        rw [applyAll, applyAll, List.foldl_append]
        rfl
      have hr : r ∈ rules ++ [r] := by simp
      rw [happly]
      refine (ih h.of_append).snoc (fun q hq => ⟨?_, ?_⟩) (h.spares r hr) (h.own r hr _)
      · exact (List.pairwise_append.mp h.apart).2.2 q hq r (List.mem_singleton_self r)
      · exact h.spares q (List.mem_append_left _ hq)

/-! ## Texts that stay -/

end ActiveRule

/-- There are at least as many brackets in the result, and as many only if nothing was replaced. -/
theorem Pattern.Replaces.count_le {p : Pattern} {replacement : List Char} {before : Option Char}
    {text result : List Char} (h : p.Replaces replacement before text result)
    (havoids : p.avoids '[' = true) (hbracket : '[' ∈ replacement) :
    text.count '[' ≤ result.count '[' ∧
      (result.count '[' ≤ text.count '[' → p.TakesNothing before text) := by
  induction h with
  | rest hnothing => exact ⟨Nat.le_refl _, fun _ => hnothing⟩
  | found htakes _ _ _ ih =>
      have hmatch := List.count_eq_zero.mpr (htakes.not_mem_of_avoids havoids)
      have hmore := List.count_pos_iff.mpr hbracket
      simp only [List.count_append, hmatch]
      omega

namespace ActiveRule

variable {rules : List ActiveRule} {r : ActiveRule} {text : List Char}

/-- A rule that brings a bracket with it, and takes none away. -/
def AddsBracket (r : ActiveRule) : Prop := r.StopsAtMarks ∧ '[' ∈ r.replacement.toList

instance (r : ActiveRule) : Decidable r.AddsBracket :=
  inferInstanceAs (Decidable (r.StopsAtMarks ∧ '[' ∈ r.replacement.toList))

theorem AddsBracket.count_le (h : r.AddsBracket) (text : List Char) :
    text.count '[' ≤ (r.apply text).count '[' ∧
      ((r.apply text).count '[' ≤ text.count '[' → r.pattern.occursIn text = false) := by
  obtain ⟨hle, hnothing⟩ := (replaces_replaceAll h.1.full r.replacement.toList text).count_le
    (h.1.avoids '[' (by decide)) h.2
  exact ⟨hle, fun hge => occursIn_eq_false_iff.mpr (hnothing hge)⟩

theorem count_le_applyAll (h : ∀ r ∈ rules, r.AddsBracket) (text : List Char) :
    text.count '[' ≤ (applyAll rules text).count '[' := by
  induction rules generalizing text with
  | nil => exact Nat.le_refl _
  | cons r rules ih =>
      obtain ⟨hr, hrules⟩ := List.forall_mem_cons.mp h
      exact (hr.count_le text).1.trans (ih hrules (r.apply text))

/-- A text stays as it is just if no rule matches in it. -/
theorem applyAll_eq_self_iff (h : ∀ r ∈ rules, r.AddsBracket) :
    applyAll rules text = text ↔ ∀ r ∈ rules, r.pattern.occursIn text = false := by
  refine ⟨fun hstays => ?_, applyAll_of_not_occursIn⟩
  induction rules with
  | nil => exact fun r hr => absurd hr List.not_mem_nil
  | cons r rules ih =>
      obtain ⟨hr, hrules⟩ := List.forall_mem_cons.mp h
      have hcount : (applyAll rules (r.apply text)).count '[' = text.count '[' :=
        congrArg (List.count '[') hstays
      have hlater := count_le_applyAll hrules (r.apply text)
      have hnone : r.pattern.occursIn text = false := (hr.count_le text).2 (by omega)
      have hsame : r.apply text = text := replaceAll_of_not_occursIn hnone _
      rw [applyAll, List.foldl_cons, hsame] at hstays
      exact List.forall_mem_cons.mpr ⟨hnone, ih hrules hstays⟩

end ActiveRule

/-! ## The standard rules -/

namespace RedactionRules

open ActiveRule

/-- All that is to be checked of the standard rules: every pair in their order, and each rule with
itself, where the first one keeps its heading. -/
theorem standardActive_checked : standardActive.Pairwise Apart ∧
    ∀ r ∈ standardActive, r.SparesWords ∧ r.AddsBracket ∧ (r.Apart r ∨
      r.pattern.runOut?.any (fun split =>
        decide (r.Heads split.1 split.2 "Bearer ".toList)) = true) := by
  rw [standardActive_eq]
  decide +kernel

theorem standardActive_layered : Layered standardActive := by
  obtain ⟨hpairs, heach⟩ := standardActive_checked
  refine ⟨hpairs, fun r hr => (heach r hr).1, fun r hr text => ?_⟩
  obtain ⟨hspares, -, hapart | hany⟩ := heach r hr
  · exact hapart.onlyUncovered_apply hspares text
  · obtain ⟨⟨lead, token⟩, hsplit, hheads⟩ := Option.any_eq_true _ _ |>.mp hany
    exact (of_decide_eq_true hheads).onlyUncovered_apply hsplit hspares text

theorem standardActive_addsBracket : ∀ r ∈ standardActive, r.AddsBracket :=
  fun r hr => (standardActive_checked.2 r hr).2.1

end RedactionRules

open ActiveRule

/-- With the standard rules, and whatever else is redacted before and in between: after each of
the rules, all that it or an earlier one still matches has been uncovered by a replacement right
before or behind it, as the two tables say. A second pass changes a redacted text just if there is
such a match in it. -/
theorem second_pass_changes_iff_uncovered (capacity : Nat) (calls later : List RedactionCall)
    (s : String) :
    let rules := RedactionRules.standardActive
    let redacted := fun (calls : List RedactionCall) (text : String) =>
      ((RedactionCall.runAll (.new rules capacity) calls).1.redactText text).2
    let first := redacted calls s
    let second := redacted (calls ++ .text s :: later) first
    (∀ done rest, rules = done ++ rest → OnlyUncovered done (applyAll done s.toList)) ∧
    (second ≠ first ↔ ∃ q ∈ rules, ∃ before found after, first.toList = before ++ (found ++ after) ∧
      q.pattern.Takes before.getLast? found after.head? ∧ q.Uncovered before after) := by
  intro rules redacted first second
  have hlayered : Layered rules := RedactionRules.standardActive_layered
  have hredacted (calls : List RedactionCall) (text : String) :
      redacted calls text = String.ofList (applyAll rules text.toList) :=
    (Redactor.faithful_runAll rules capacity calls).redactText_answer text
  have hfirst : first.toList = applyAll rules s.toList := by
    rw [show first = _ from hredacted calls s, String.toList_ofList]
  have hsecond : second = first ↔ applyAll rules first.toList = first.toList := by
    rw [show second = _ from hredacted _ first, ← String.toList_inj, String.toList_ofList]
  refine ⟨?_, ?_⟩
  · intro done rest hrules
    rw [hrules] at hlayered
    exact hlayered.of_append.onlyUncovered s.toList
  · rw [Ne, hsecond, applyAll_eq_self_iff RedactionRules.standardActive_addsBracket]
    simp only [occursIn_eq_false_iff, TakesNothing, Option.or_none, not_forall, not_not,
      exists_prop]
    refine exists_congr fun q => and_congr_right fun hq => ?_
    refine exists_congr fun before => exists_congr fun found => exists_congr fun after => ?_
    refine and_congr_right fun htext => ⟨fun htakes => ⟨htakes, ?_⟩, And.left⟩
    rw [hfirst] at htext
    exact hlayered.onlyUncovered s.toList q hq before found after htext htakes

/-- Cases of the two tables: the rule named matches in the result, and did not match in the text.
For a number before an address it takes a digit beyond ASCII. -/
example : ∀ case ∈ [("ssn", "a@b.com123-45-6789", "[REDACTED_EMAIL]123-45-6789"),
    ("credit_card", "a@b.com1234567890123456", "[REDACTED_EMAIL]1234567890123456"),
    ("phone", "a@b.com555-123-4567", "[REDACTED_EMAIL]555-123-4567"),
    ("aws_access_key_id", "AKIA0123456789ABCDEF1-555-123-4567",
      "AKIA0123456789ABCDEF[REDACTED_PHONE]"),
    ("ssn", "123-45-6789123-555-123-4567", "123-45-6789[REDACTED_PHONE]"),
    ("credit_card", "1234567890123456123-555-123-4567", "1234567890123456[REDACTED_PHONE]"),
    ("phone", "555-123-4567123-555-123-4567", "555-123-4567[REDACTED_PHONE]")],
    applyAll RedactionRules.standardInOrder case.2.1.toList = case.2.2.toList ∧
      ∃ q ∈ RedactionRules.standardInOrder, q.name = case.1 ∧
      q.pattern.occursIn case.2.2.toList = true := by
  decide +kernel

/-- A number behind an address comes to light with the address redacted, and a second pass redacts
it too. -/
theorem uncovered_number_is_redacted_next :
    let redacted := fun (calls : List RedactionCall) (text : String) =>
      ((RedactionCall.runAll (.new RedactionRules.standardActive 1000) calls).1.redactText text).2
    redacted [] "a@b.com123-45-6789" = "[REDACTED_EMAIL]123-45-6789" ∧
    redacted [.text "a@b.com123-45-6789"] "[REDACTED_EMAIL]123-45-6789" =
      "[REDACTED_EMAIL][REDACTED_SSN]" ∧
    ¬ ∀ s, redacted [.text s] (redacted [] s) = redacted [] s := by
  intro redacted
  have hredacted (calls : List RedactionCall) (text : String) : redacted calls text =
      String.ofList (applyAll RedactionRules.standardInOrder text.toList) := by
    rw [← RedactionRules.standardActive_eq]
    exact (Redactor.faithful_runAll RedactionRules.standardActive 1000 calls).redactText_answer text
  obtain ⟨hfirst, hsecond⟩ : redacted [] "a@b.com123-45-6789" = "[REDACTED_EMAIL]123-45-6789" ∧
      redacted [.text "a@b.com123-45-6789"] "[REDACTED_EMAIL]123-45-6789" =
        "[REDACTED_EMAIL][REDACTED_SSN]" := by
    rw [hredacted, hredacted]
    decide +kernel
  refine ⟨hfirst, hsecond, fun h => ?_⟩
  have hsame := h "a@b.com123-45-6789"
  rw [hfirst, hsecond] at hsame
  exact absurd hsame (by decide)

end SecretScan
