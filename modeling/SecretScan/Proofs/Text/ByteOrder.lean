import SecretScan.Text.Utf8
import Mathlib.Data.String.Basic

/-!
# The order of bytes

UTF-8 keeps the order of characters: of two texts, the one that is smaller by its characters is
smaller by its bytes. Two characters differ at a byte that both of them have, so what follows them
does not count.
-/

namespace SecretScan.Text.Utf8

/-- The bytes of a string. -/
def bytes (s : String) : List UInt8 := encode s.toList

theorem length_bytes (s : String) : (bytes s).length = s.utf8ByteSize := by
  conv_rhs => rw [← String.ofList_toList (s := s)]
  rw [String.utf8ByteSize, String.toByteArray_ofList, List.utf8Encode, List.size_toByteArray]
  rfl

theorem toNat_lt (c : Char) : c.val.toNat < 0x110000 := by
  have hvalid := c.valid
  simp only [UInt32.isValidChar, Nat.isValidChar] at hvalid
  omega

/-- A smaller character has a smaller byte where the two first differ. -/
theorem encodeChar_append_lt {c d : Char} (h : c < d) (front back : List UInt8) :
    String.utf8EncodeChar c ++ front < String.utf8EncodeChar d ++ back := by
  have hlt : c.val.toNat < d.val.toNat := h
  have hd := toNat_lt d
  rw [String.utf8EncodeChar, String.utf8EncodeChar]
  generalize c.val.toNat = v at *
  generalize d.val.toNat = w at *
  -- Each of the two has one to four bytes; those of the greater one are never fewer.
  split <;> [skip; split <;> [skip; split]]
  all_goals split <;> [skip; split <;> [skip; split]]
  all_goals
    simp only [List.cons_append, List.nil_append, List.cons_lt_cons_iff, UInt8.lt_iff_toNat_lt,
      ← UInt8.toNat_inj, UInt8.toNat_ofNat']
    simp (disch := omega) only [Nat.mod_eq_of_lt]
    omega

theorem encode_lt_encode {text other : List Char} (h : text < other) :
    encode text < encode other := by
  induction text generalizing other with
  | nil =>
      cases other with
      | nil => exact absurd h (List.not_lt_nil _)
      | cons d rest =>
          have hne : String.utf8EncodeChar d ≠ [] := String.utf8EncodeChar_ne_nil
          obtain ⟨b, bs, hbytes⟩ := List.exists_cons_of_ne_nil hne
          rw [encode, encode, List.flatMap_nil, List.flatMap_cons, hbytes]
          exact List.nil_lt_cons _ _
  | cons c rest ih =>
      cases other with
      | nil => exact absurd h (List.not_lt_nil _)
      | cons d others =>
          rw [encode, encode, List.flatMap_cons, List.flatMap_cons]
          rcases List.cons_lt_cons_iff.mp h with hlt | ⟨rfl, hrest⟩
          · exact encodeChar_append_lt hlt _ _
          · exact List.append_left_lt (ih hrest)

/-- Strings have the order of their bytes. -/
theorem bytes_lt_bytes_iff {s t : String} : bytes s < bytes t ↔ s < t := by
  rw [String.lt_iff]
  constructor
  · intro hbytes
    rcases lt_trichotomy s t with hlt | rfl | hgt
    · exact String.lt_iff.mp hlt
    · exact absurd hbytes (List.lt_irrefl _)
    · exact absurd hbytes (List.lt_asymm (encode_lt_encode (String.lt_iff.mp hgt)))
  · exact encode_lt_encode

end SecretScan.Text.Utf8
