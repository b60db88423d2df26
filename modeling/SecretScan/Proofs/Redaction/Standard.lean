import SecretScan.Proofs.Redaction.Rules

/-!
# The standard rules

The standard rules with their patterns as they are read, in the order in which they apply: rules
are sorted by a total order, so they come in the one order in which each precedes all later ones.
What is to be checked of the rules is checked of this list, without reading the patterns again.
-/

namespace SecretScan

deriving instance DecidableEq for Unicode.RangeTable, CharSet, Pattern, ActiveRule

namespace ActiveRule

variable {a b c : ActiveRule}

theorem precedes_iff : a.precedes b = true ↔ b.priority < a.priority ∨ a.priority = b.priority ∧
    (b.source.utf8ByteSize < a.source.utf8ByteSize ∨
      a.source.utf8ByteSize = b.source.utf8ByteSize ∧ a.name ≤ b.name) := by
  rw [precedes]
  by_cases hpriority : a.priority = b.priority
  · by_cases hsize : a.source.utf8ByteSize = b.source.utf8ByteSize
    · simp [hpriority, hsize]
    · simp [hpriority, hsize]
  · simp [hpriority]

theorem precedes_trans (hab : a.precedes b = true) (hbc : b.precedes c = true) :
    a.precedes c = true := by
  rw [precedes_iff] at *
  rcases hab with hab | ⟨hab, hab' | ⟨hab', hname⟩⟩
  · left; omega
  · omega
  · rcases hbc with hbc | ⟨hbc, hbc' | ⟨hbc', hname'⟩⟩
    · left; omega
    · omega
    · exact Or.inr ⟨by omega, Or.inr ⟨by omega, String.le_trans hname hname'⟩⟩

theorem precedes_total (a b : ActiveRule) : (a.precedes b || b.precedes a) = true := by
  rw [Bool.or_eq_true, precedes_iff, precedes_iff]
  rcases String.le_total a.name b.name with hname | hname <;> grind

theorem name_eq_of_precedes (hab : a.precedes b = true) (hba : b.precedes a = true) :
    a.name = b.name := by
  rw [precedes_iff] at hab hba
  rcases hab with hab | ⟨hab, hab' | ⟨hab', hname⟩⟩
  · omega
  · omega
  · rcases hba with hba | ⟨hba, hba' | ⟨hba', hname'⟩⟩
    · omega
    · omega
    · exact String.le_antisymm hname hname'

end ActiveRule

namespace RedactionRules

section

open Pattern CharSet

/-- The standard rules with their patterns as they are read, in the order in which they apply. -/
def standardInOrder : List ActiveRule :=
  let boundary : Pattern := look (.wordBoundary false)
  let one (c : Char) : Pattern := set (single c)
  let many (s : CharSet) : Pattern := iter (set s) 1 none true
  let perhaps (p : Pattern) : Pattern := iter p 0 (some 1) true
  let digits (least most : Nat) : Pattern := iter (set digit) least (some most) true
  let gap : Pattern := set (unions [single '-', single '.', blank])
  let ascii (others : List Char) : CharSet := unions
    ([range 'A' 'Z', range 'a' 'z', range '0' '9'] ++ others.map single)
  let part : Pattern := many (ascii ['_', '-'])
  [⟨"bearer_token", 20, r"(?i)\bbearer\s+[A-Za-z0-9._~+/=-]+",
      seqs (boundary :: ['b', 'e', 'a', 'r', 'e', 'r'].map (fun c => set (ignoreCase (single c))) ++
        [many blank, many (ignoreCase (ascii ['.', '_', '~', '+', '/', '=', '-']))]),
      "Bearer [REDACTED]"⟩,
    ⟨"jwt", 10, r"\beyJ[A-Za-z0-9_-]+\.[A-Za-z0-9_-]+\.[A-Za-z0-9_-]+",
      seqs [boundary, one 'e', one 'y', one 'J', part, one '.', part, one '.', part],
      "[REDACTED_JWT]"⟩,
    ⟨"aws_access_key_id", 10, r"\b(?:AKIA|ASIA)[0-9A-Z]{16}\b",
      seqs [boundary, alt (literal ['A', 'K', 'I', 'A']) (literal ['A', 'S', 'I', 'A']),
        iter (set (union (range '0' '9') (range 'A' 'Z'))) 16 (some 16) true, boundary],
      "[REDACTED_AWS_KEY]"⟩,
    ⟨"ssn", 10, r"\b\d{3}-\d{2}-\d{4}\b",
      seqs [boundary, digits 3 3, one '-', digits 2 2, one '-', digits 4 4, boundary],
      "[REDACTED_SSN]"⟩,
    ⟨"credit_card", 5, r"\b(?:\d{4}[- ]?){3}\d{1,4}\b",
      seqs [boundary,
        iter (seq (digits 4 4) (perhaps (set (union (single '-') (single ' '))))) 3 (some 3) true,
        digits 1 4, boundary],
      "[REDACTED_CARD]"⟩,
    ⟨"phone", 0, r"(?:\+?\d{1,3}[-.\s])?\(?\b\d{3}\)?[-.\s]\d{3}[-.\s]\d{4}\b",
      seqs [perhaps (seqs [perhaps (one '+'), digits 1 3, gap]), perhaps (one '('), boundary,
        digits 3 3, perhaps (one ')'), gap, digits 3 3, gap, digits 4 4, boundary],
      "[REDACTED_PHONE]"⟩,
    ⟨"email", 0, r"[A-Za-z0-9._%+-]+@[A-Za-z0-9.-]+\.[A-Za-z]{2,}",
      seqs [many (ascii ['.', '_', '%', '+', '-']), one '@', many (ascii ['.', '-']), one '.',
        iter (set (union (range 'A' 'Z') (range 'a' 'z'))) 2 none true],
      "[REDACTED_EMAIL]"⟩,
    ⟨"ipv4", 0, r"\b(?:\d{1,3}\.){3}\d{1,3}\b",
      seqs [boundary, iter (seq (digits 1 3) (one '.')) 3 (some 3) true, digits 1 3, boundary],
      "[REDACTED_IP]"⟩]

end

theorem exists_read_standard : ∃ all,
    (standard.rules.mapM fun rule => activate rule.1 rule.2) = .ok all ∧
      all.Perm standardInOrder := by
  have hread : (standard.rules.mapM fun rule => activate rule.1 rule.2).toOption.any
      (fun all => decide (all.Perm standardInOrder)) = true := by
    decide +kernel
  cases hall : standard.rules.mapM fun rule => activate rule.1 rule.2 with
  | error e => simp [hall, Except.toOption] at hread
  | ok all => exact ⟨all, rfl, by simpa [hall, Except.toOption] using hread⟩

/-- The active rules of any rules; none if one of them cannot be read. -/
def activeOf (r : RedactionRules) : List ActiveRule :=
  match r.compile with
  | .ok rs => rs
  | .error _ => []

section

-- The two sides are the same as they stand; reading the rules to compare them takes long.
attribute [local irreducible] standard

theorem standardActive_eq_activeOf : standardActive = activeOf standard := rfl

end

theorem exists_compile_standard : ∃ all,
    standard.compile = .ok (List.mergeSort all ActiveRule.precedes) ∧ all.Perm standardInOrder := by
  obtain ⟨all, hread, hperm⟩ := exists_read_standard
  refine ⟨all, ?_, hperm⟩
  rw [compile, hread]
  rfl

theorem standard_compile : standard.compile = .ok standardActive := by
  obtain ⟨all, hcompile, -⟩ := exists_compile_standard
  rw [hcompile, standardActive_eq_activeOf, activeOf, hcompile]

theorem standardActive_eq : standardActive = standardInOrder := by
  obtain ⟨all, hcompile, hperm⟩ := exists_compile_standard
  rw [standardActive_eq_activeOf, activeOf, hcompile]
  have hsortedPerm := (List.mergeSort_perm all ActiveRule.precedes).trans hperm
  have hsorted := @List.pairwise_mergeSort _ ActiveRule.precedes
    (fun _ _ _ => ActiveRule.precedes_trans) ActiveRule.precedes_total all
  have hordered : standardInOrder.Pairwise (ActiveRule.precedes · ·) := by decide +kernel
  have hnames : ∀ a ∈ standardInOrder, ∀ b ∈ standardInOrder, a.name = b.name → a = b := by
    decide +kernel
  refine hsortedPerm.eq_of_pairwise (fun a b ha hb hab hba => ?_) hsorted hordered
  exact hnames a (hsortedPerm.mem_iff.mp ha) b hb (ActiveRule.name_eq_of_precedes hab hba)

theorem standardActive_stopsAtMarks : ∀ r ∈ standardActive, r.StopsAtMarks := by
  rw [standardActive_eq]
  decide +kernel

end RedactionRules

end SecretScan
