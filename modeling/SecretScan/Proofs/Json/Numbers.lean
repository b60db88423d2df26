import SecretScan.Json.Reader
import SecretScan.Json.Writer
import SecretScan.Proofs.Text.Occurrence

/-!
# Reading written numbers

The digits of a natural number are those of its tenth part and one more. They are read back one by
one, and no number of 64 bits loses a digit on the way.
-/

namespace SecretScan

open Decimal

/-! ## Digits -/

namespace Decimal

theorem log2_tenth_lt {n : Nat} (h : 10 ≤ n) : (n / 10).log2 < n.log2 := by
  have hlt : n < 2 ^ (n.log2 + 1) := Nat.lt_log2_self
  refine (Nat.log2_lt (by omega)).mpr ?_
  rw [Nat.pow_succ] at hlt
  omega

/-- The bound on the number of digits is never met. -/
theorem digitsOnto_eq {fuel n : Nat} (hfuel : n.log2 < fuel) (rest : List Char) :
    digitsOnto fuel n rest = natDigits n ++ rest := by
  induction n using Nat.strongRecOn generalizing fuel rest with
  | ind n ih =>
      obtain ⟨fuel, rfl⟩ := Nat.exists_eq_succ_of_ne_zero (Nat.ne_zero_of_lt hfuel)
      rw [natDigits, digitsOnto, digitsOnto]
      by_cases hn : n < 10
      · rw [if_pos hn, if_pos hn]
        rfl
      · have hlog := log2_tenth_lt (Nat.le_of_not_lt hn)
        have hlt : n / 10 < n := by omega
        rw [if_neg hn, if_neg hn, ih _ hlt (by omega), ih _ hlt hlog, List.append_assoc]
        rfl

theorem natDigits_of_lt {n : Nat} (h : n < 10) : natDigits n = [digitChar n] := by
  rw [natDigits, digitsOnto, if_pos h]

theorem natDigits_of_le {n : Nat} (h : 10 ≤ n) :
    natDigits n = natDigits (n / 10) ++ [digitChar (n % 10)] := by
  rw [natDigits, digitsOnto, if_neg (by omega), digitsOnto_eq (log2_tenth_lt h)]

theorem isDigit_digitChar : ∀ d < 10, isDigit (digitChar d) = true := by decide

theorem digitValue_digitChar : ∀ d < 10, digitValue (digitChar d) = d := by decide

theorem digitChar_ne_zero : ∀ d < 10, d ≠ 0 → digitChar d ≠ '0' := by decide

theorem isDigit_of_mem_natDigits {n : Nat} : ∀ c ∈ natDigits n, isDigit c = true := by
  induction n using Nat.strongRecOn with
  | ind n ih =>
      by_cases hn : n < 10
      · rw [natDigits_of_lt hn]
        simpa using isDigit_digitChar n hn
      · rw [natDigits_of_le (by omega), List.forall_mem_append]
        refine ⟨ih (n / 10) (by omega), ?_⟩
        simpa using isDigit_digitChar (n % 10) (by omega)

/-- Only zero is written with a leading zero. -/
theorem exists_natDigits_eq_cons {n : Nat} (h : n ≠ 0) :
    ∃ c digits, natDigits n = c :: digits ∧ isDigit c = true ∧ c ≠ '0' := by
  induction n using Nat.strongRecOn with
  | ind n ih =>
      by_cases hn : n < 10
      · exact ⟨_, _, natDigits_of_lt hn, isDigit_digitChar n hn, digitChar_ne_zero n hn h⟩
      · obtain ⟨c, digits, heq, hc⟩ := ih (n / 10) (by omega) (by omega)
        exact ⟨c, _, by rw [natDigits_of_le (by omega), heq]; rfl, hc⟩

end Decimal

namespace Json

theorem whole_append (d : Digits) (front back : List Char) :
    d.whole (front ++ back) = (d.whole front).whole back := by
  induction front generalizing d with
  | nil => rfl
  | cons c front ih =>
      rw [List.cons_append, Digits.whole, Digits.whole]
      split <;> exact ih _

theorem whole_natDigits {n : Nat} (h : n ≤ maxWhole) :
    Digits.whole ⟨0, 0, 0, false⟩ (natDigits n) = ⟨n, 0, 0, false⟩ := by
  induction n using Nat.strongRecOn with
  | ind n ih =>
      by_cases hn : n < 10
      · rw [natDigits_of_lt hn]
        simp [Digits.whole, digitValue_digitChar n hn]
        omega
      · have hlast : 10 * (n / 10) + digitValue (digitChar (n % 10)) = n := by
          rw [digitValue_digitChar (n % 10) (by omega)]
          omega
        rw [natDigits_of_le (by omega), whole_append, ih (n / 10) (by omega) (by omega)]
        simp [Digits.whole, hlast, Nat.not_lt.mpr h]

/-! ## Numbers -/

/-- What may stand behind a number: nothing that would go on with it. -/
def Ends (rest : List Char) : Prop :=
  ∀ c ∈ rest.head?, isDigit c = false ∧ c ≠ '.' ∧ c ≠ 'e' ∧ c ≠ 'E'

theorem readNumberTail_of_ends (negative : Bool) (d : Digits) {rest : List Char} (h : Ends rest) :
    readNumberTail negative d rest = some (wholeOf negative d, rest) := by
  unfold readNumberTail
  split
  · exact absurd rfl (h _ rfl).2.1
  · exact absurd rfl (h _ rfl).2.2.1
  · exact absurd rfl (h _ rfl).2.2.2
  · rfl

theorem readNumber_natDigits (negative : Bool) {n : Nat} (hn : n ≤ maxWhole) {rest : List Char}
    (h : Ends rest) : readNumber negative (natDigits n ++ rest) =
      some (wholeOf negative ⟨n, 0, 0, false⟩, rest) := by
  by_cases hzero : n = 0
  · subst hzero
    have htail := readNumberTail_of_ends negative ⟨0, 0, 0, false⟩ h
    cases rest with
    | nil => exact htail
    | cons c rest =>
        have hdigit : isDigit c = false := (h c rfl).1
        rw [natDigits_of_lt (by omega)]
        change (if isDigit c = true then none
          else readNumberTail negative ⟨0, 0, 0, false⟩ (c :: rest)) = _
        rw [hdigit, if_neg Bool.false_ne_true, htail]
  · obtain ⟨c, digits, heq, -, hc⟩ := exists_natDigits_eq_cons hzero
    have hspan : (natDigits n ++ rest).span isDigit = (natDigits n, rest) :=
      Text.span_append isDigit_of_mem_natDigits fun x hx => (h x hx).1
    have hwhole := whole_natDigits hn
    rw [heq] at hspan hwhole ⊢
    unfold readNumber
    split
    · rename_i heq'
      exact absurd (List.cons.inj heq').1 hc
    · rw [hspan]
      change readNumberTail negative (Digits.whole ⟨0, 0, 0, false⟩ (c :: digits)) rest = _
      rw [hwhole, readNumberTail_of_ends negative _ h]

theorem exists_natDigits_eq_cons_of_isDigit (n : Nat) :
    ∃ c digits, natDigits n = c :: digits ∧ isDigit c = true := by
  by_cases hzero : n = 0
  · exact ⟨'0', [], hzero ▸ rfl, by decide⟩
  · obtain ⟨c, digits, heq, hc, -⟩ := exists_natDigits_eq_cons hzero
    exact ⟨c, digits, heq, hc⟩

theorem readValue_of_isDigit {c : Char} (h : isDigit c = true) (fuel level : Nat)
    (text : List Char) : readValue (fuel + 1) level (c :: text) = readNumber false (c :: text) := by
  rw [readValue]
  all_goals
    intro rest heq
    obtain rfl := (List.cons.inj heq).1
    exact absurd h (by decide)

/-- A number of 64 bits, with a sign or without, is read back. -/
theorem readValue_intDigits {n : Int} (hlow : -(twoTo 63 : Int) ≤ n)
    (hhigh : n < (twoTo 64 : Int)) {rest : List Char} (h : Ends rest) (fuel level : Nat) :
    readValue (fuel + 1) level (intDigits n ++ rest) = some (.int n, rest) := by
  cases n with
  | ofNat n =>
      have hn : n ≤ maxWhole := Nat.le_pred_of_lt (Int.ofNat_lt.mp hhigh)
      obtain ⟨c, digits, heq, hc⟩ := exists_natDigits_eq_cons_of_isDigit n
      have hread := readNumber_natDigits false hn h
      have hvalue := readValue_of_isDigit hc fuel level (digits ++ rest)
      rw [← List.cons_append, ← heq, hread] at hvalue
      exact hvalue
  | negSucc n =>
      have hn : n + 1 ≤ twoTo 63 := by omega
      have hmax : twoTo 63 ≤ maxWhole := by decide
      have hread := readNumber_natDigits true (hn.trans hmax) h
      have hwhole : wholeOf true ⟨n + 1, 0, 0, false⟩ = .int (.negSucc n) := by
        simp only [wholeOf, Bool.false_eq_true, if_false, Bool.not_true]
        rw [if_neg (by simp [Nat.not_lt.mpr hn])]
        rfl
      rw [hwhole] at hread
      exact hread

end Json

end SecretScan
