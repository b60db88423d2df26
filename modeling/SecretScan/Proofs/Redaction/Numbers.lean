import SecretScan.Proofs.Json.Readings
import SecretScan.Proofs.Pattern.Spellable
import SecretScan.Proofs.Redaction.Untouched

/-!
# Redacted numbers

What the standard rules find in a number they replace by a word in brackets, and no later rule
changes such a word. So a redacted number is the number, or it cannot be read.
-/

namespace SecretScan

open ActiveRule

namespace Pattern

variable {p : Pattern} {replacement text : List Char}

/-- A text is left as it is, or the first match in it gives way. -/
theorem replaceAll_cases (hp : 0 < p.minLength) (replacement text : List Char) :
    p.replaceAll replacement text = text ∨
      ∃ front found back, text = front ++ (found ++ back) ∧
        ∃ later, p.replaceAll replacement text = front ++ (replacement ++ later) := by
  rw [replaceAll_eq hp replacement (Nat.lt_succ_self text.length)]
  cases hfind : p.findAfter? (.atStart text) with
  | none => exact Or.inl (replaced_of_none hfind)
  | some m =>
      obtain ⟨v, w, hv, hw, -⟩ := spells_of_findAfter? hp hfind
      refine Or.inr ⟨v, w, m.whole.last.rest, ?_, _, replaced_of_some hfind hv⟩
      rw [← hw.rest_eq, ← hv.rest_eq]
      rfl

end Pattern

namespace ActiveRule

/-- The words that the standard rules put in brackets. -/
def bracketedWords : List (List Char) :=
  ["REDACTED", "REDACTED_JWT", "REDACTED_AWS_KEY", "REDACTED_SSN", "REDACTED_CARD",
    "REDACTED_EMAIL", "REDACTED_PHONE", "REDACTED_IP"].map String.toList

/-- A number in which something has been replaced: what stands before the first bracket is left of
the number, and a word follows. -/
def IsBroken (text : List Char) : Prop :=
  ∃ front word back, text = front ++ '[' :: (word ++ ']' :: back) ∧
    (∀ c ∈ front, c ∈ Json.numberChars) ∧ word ∈ bracketedWords

/-- A rule that leaves all numbers or replaces what it finds by a word in brackets, and leaves these
words. -/
structure BreaksNumbers (r : ActiveRule) : Prop where
  replaces : r.pattern.spellable Json.numberChars = false ∨
    ∃ word ∈ bracketedWords, r.replacement.toList = '[' :: (word ++ [']'])
  leaves : ∀ word ∈ bracketedWords, r.apply word = word

instance (r : ActiveRule) : Decidable r.BreaksNumbers :=
  decidable_of_iff ((r.pattern.spellable Json.numberChars = false ∨
      ∃ word ∈ bracketedWords, r.replacement.toList = '[' :: (word ++ [']'])) ∧
    ∀ word ∈ bracketedWords, r.apply word = word)
    ⟨fun h => ⟨h.1, h.2⟩, fun h => ⟨h.replaces, h.leaves⟩⟩

variable {r : ActiveRule} {rules : List ActiveRule} {text : List Char}

theorem BreaksNumbers.apply_number (h : r.BreaksNumbers) (hr : r.StopsAtMarks)
    (htext : ∀ c ∈ text, c ∈ Json.numberChars) : r.apply text = text ∨ IsBroken (r.apply text) := by
  rcases h.replaces with hspell | ⟨word, hword, hreplacement⟩
  · exact Or.inl (Pattern.replaceAll_of_not_occursIn
      (Pattern.occursIn_of_not_spellable hspell htext) _)
  · refine (Pattern.replaceAll_cases hr.full r.replacement.toList text).imp_right ?_
    rintro ⟨front, found, back, rfl, later, heq⟩
    refine ⟨front, word, later, ?_, fun c hc => htext c (by simp [hc]), hword⟩
    rw [apply, heq, hreplacement]
    simp

theorem BreaksNumbers.apply_broken (h : r.BreaksNumbers) (hr : r.StopsAtMarks)
    (htext : IsBroken text) : IsBroken (r.apply text) := by
  obtain ⟨front, word, back, rfl, hfront, hword⟩ := htext
  have hcut {x : Char} (hx : x ∈ marks) (text rest : List Char) :
      r.apply (text ++ x :: rest) = r.apply text ++ x :: r.apply rest :=
    Pattern.replaceAll_cut (hr.avoids x hx) hr.full _ text rest
  rw [hcut (by decide), hcut (by decide), h.leaves word hword]
  rcases h.apply_number hr hfront with heq | ⟨front', word', back', heq, hfront', hword'⟩
  · rw [heq]
    exact ⟨front, word, _, rfl, hfront, hword⟩
  · rw [heq]
    exact ⟨front', word', back' ++ '[' :: (word ++ ']' :: r.apply back), by simp, hfront', hword'⟩

theorem isBroken_applyAll (h : ∀ r ∈ rules, r.BreaksNumbers ∧ r.StopsAtMarks)
    (htext : IsBroken text) : IsBroken (applyAll rules text) := by
  induction rules generalizing text with
  | nil => exact htext
  | cons r rules ih =>
      obtain ⟨⟨hr, hstops⟩, hrules⟩ := List.forall_mem_cons.mp h
      exact ih hrules (hr.apply_broken hstops htext)

/-- Under such rules a number stays as it is or breaks. -/
theorem applyAll_number (h : ∀ r ∈ rules, r.BreaksNumbers ∧ r.StopsAtMarks)
    (htext : ∀ c ∈ text, c ∈ Json.numberChars) :
    applyAll rules text = text ∨ IsBroken (applyAll rules text) := by
  induction rules with
  | nil => exact Or.inl rfl
  | cons r rules ih =>
      obtain ⟨⟨hr, hstops⟩, hrules⟩ := List.forall_mem_cons.mp h
      rw [applyAll, List.foldl_cons]
      rcases hr.apply_number hstops htext with heq | hbroken
      · rw [heq]
        exact ih hrules
      · exact Or.inr (isBroken_applyAll hrules hbroken)

/-- A broken number is not read, wherever it stands. -/
theorem IsBroken.hasReading (h : IsBroken text) (P : Json → Prop) :
    Json.HasReading (fun d => ∀ w, d.toJson? = some w → P w) text := by
  obtain ⟨front, word, back, rfl, hfront, hword⟩ := h
  have hhead : ∀ word ∈ bracketedWords, ∃ rest, word = 'R' :: rest := by
    simp only [bracketedWords, List.map_cons, List.map_nil, List.forall_mem_cons]
    exact ⟨⟨_, rfl⟩, ⟨_, rfl⟩, ⟨_, rfl⟩, ⟨_, rfl⟩, ⟨_, rfl⟩, ⟨_, rfl⟩, ⟨_, rfl⟩, ⟨_, rfl⟩, nofun⟩
  obtain ⟨rest, rfl⟩ := hhead word hword
  have hnone (fuel level : Nat) (rest : List Char) :
      Json.readValue fuel level ('R' :: rest) = none := by
    cases fuel <;> rfl
  exact (Json.hasReading_false hfront hnone (by decide) (by decide) _).imp fun _ => False.elim

end ActiveRule

theorem RedactionRules.standardActive_breaksNumbers : ∀ r ∈ standardActive, r.BreaksNumbers := by
  rw [standardActive_eq]
  decide +kernel

end SecretScan
