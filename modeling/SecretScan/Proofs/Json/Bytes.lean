import SecretScan.Proofs.Json.Strings

/-!
# Reading bytes that are not UTF-8

Bytes are not asked to be UTF-8 as a whole. What is not so is marked: between quotes the mark is
read over and leaves no string behind, and anywhere else it is not read at all. So bytes that are
UTF-8 are read as their text is, and in other bytes each string is judged by itself.
-/

namespace SecretScan.Json

open Text.Utf8 (units decode?)

/-! ## Bytes that are UTF-8 -/

theorem textOf_of_decode?_eq {bytes : List UInt8} {text : List Char}
    (h : decode? bytes = some text) : textOf bytes = text := by
  unfold decode? at h
  dsimp only at h
  split at h
  · rename_i hall
    obtain rfl := Option.some.inj h
    unfold textOf
    generalize units bytes = us at hall
    induction us with
    | nil => rfl
    | cons u us ih =>
        rw [List.all_cons, Bool.and_eq_true] at hall
        obtain ⟨c, rfl⟩ := Option.isSome_iff_exists.mp hall.1
        rw [List.flatMap_cons, ih hall.2]
        rfl
  · cases h

theorem readBytes?_of_decode?_eq {bytes : List UInt8} {text : List Char}
    (h : decode? bytes = some text) : readBytes? bytes = readDocument? text := by
  rw [readBytes?, textOf_of_decode?_eq h]

/-! ## Marks -/

/-- No value begins with a mark. -/
theorem readValue_illFormed (fuel level : Nat) (rest : List Char) :
    readValue fuel level (illFormed ++ rest) = none := by
  cases fuel <;> rfl

/-- In a string a mark is read over, and the string is lost. -/
theorem readString_illFormed (bound : Nat) (taken : Option (List Char)) (rest : List Char) :
    readString (bound + 2) taken (illFormed ++ rest) = readString bound none rest := by
  have hlow : readHex4 ('d' :: 'c' :: '0' :: '0' :: rest) = some (0xDC00, rest) := by rfl
  have hmark : illFormed ++ rest =
      Char.ofNat 0xFFFD :: '\\' :: 'u' :: 'd' :: 'c' :: '0' :: '0' :: rest := rfl
  rw [hmark, readString_cons (by decide) (by decide), if_neg (by decide), readString_hex, hlow]
  rfl

/-! ## Strings -/

/-- Does a unit stand for itself between quotes? -/
def IsPlainUnit (u : Option Char) : Prop := ∀ c ∈ u, c ≠ '"' ∧ c ≠ '\\' ∧ 32 ≤ c.toNat

/-- The induction is on the units; once a mark has been met, what was taken stays lost. -/
theorem readString_units {us : List (Option Char)} (hus : ∀ u ∈ us, IsPlainUnit u) {bound : Nat}
    (hbound : (us.flatMap unitText).length < bound) (taken : Option (List Char))
    (rest : List Char) :
    readString bound taken (us.flatMap unitText ++ '"' :: rest) =
      some (taken.bind fun t => if us.all Option.isSome then
        some (String.ofList (t.reverse ++ us.filterMap id)) else none, rest) := by
  induction us generalizing bound taken with
  | nil =>
      obtain ⟨bound, rfl⟩ := Nat.exists_eq_succ_of_ne_zero (Nat.ne_zero_of_lt hbound)
      cases taken with
      | none => rfl
      | some t => simp [readString]
  | cons u us ih =>
      obtain ⟨hu, hlater⟩ := List.forall_mem_cons.mp hus
      rw [List.flatMap_cons, List.append_assoc]
      cases u with
      | none =>
          have hlen : 7 + (us.flatMap unitText).length < bound := by
            rw [List.flatMap_cons, List.length_append] at hbound
            exact hbound
          obtain ⟨bound, rfl⟩ : ∃ n, bound = n + 2 := ⟨bound - 2, by omega⟩
          rw [unitText, readString_illFormed, ih hlater (by omega)]
          cases taken <;> rfl
      | some c =>
          obtain ⟨hquote, hback, hlow⟩ := hu c rfl
          obtain ⟨bound, rfl⟩ := Nat.exists_eq_succ_of_ne_zero (Nat.ne_zero_of_lt hbound)
          have hlen : (us.flatMap unitText).length < bound := by
            rw [List.flatMap_cons, List.length_append, unitText, List.length_singleton] at hbound
            omega
          rw [unitText, List.singleton_append, readString_cons hquote hback,
            if_neg (Nat.not_lt.mpr hlow), ih hlater hlen]
          cases taken with
          | none => rfl
          | some t =>
              have htaken : (c :: t).reverse ++ us.filterMap id =
                  t.reverse ++ (some c :: us).filterMap id := by simp
              rw [Option.map_some, Option.bind_some, htaken]
              rfl

/-- What stands between quotes is a string if it is UTF-8, and a fault otherwise; either way the
reader goes on behind it. -/
theorem readString_textOf {bytes : List UInt8} (hplain : ∀ u ∈ units bytes, IsPlainUnit u)
    {bound : Nat} (hbound : (textOf bytes).length < bound) (rest : List Char) :
    readString bound (some []) (textOf bytes ++ '"' :: rest) =
      some ((decode? bytes).map String.ofList, rest) := by
  unfold textOf at hbound ⊢
  rw [readString_units hplain hbound, Option.bind_some]
  unfold decode?
  dsimp only
  split <;> rfl

end SecretScan.Json
