import SecretScan.Proofs.Text.Lines
import SecretScan.Text.Utf8
import Mathlib.Algebra.Group.Nat.Defs

/-!
# Decoding around seven-bit characters

A byte below `0x80` ends whatever sequence is unfinished, well-formed or not, and no other bytes
are read as its character: a sequence of several bytes gives a character beyond the seven-bit
ones. So the lines of a text are what the lines of its bytes are read as, and a text of such
characters stands in what the bytes are read as just where its own bytes stand among them,
whatever the bytes are.
-/

namespace SecretScan.Text.Utf8

/-! ## From byte to byte -/

/-- The units of what has been read, latest first; a sequence still unfinished is one of them. -/
def Decoding.ended (d : Decoding) : List (Option Char) :=
  if d.pending.isSome then none :: d.units else d.units

theorem units_eq (bytes : List UInt8) :
    units bytes = (bytes.foldl step ⟨[], none⟩).ended.reverse := rfl

/-- The same with more units read before. -/
def Decoding.after (d : Decoding) (earlier : List (Option Char)) : Decoding :=
  ⟨d.units ++ earlier, d.pending⟩

theorem begin_after (units earlier : List (Option Char)) (b : Nat) :
    begin (units ++ earlier) b = (begin units b).after earlier := by
  unfold begin
  split <;> rfl

theorem step_after (d : Decoding) (earlier : List (Option Char)) (byte : UInt8) :
    step (d.after earlier) byte = (step d byte).after earlier := by
  obtain ⟨units, pending⟩ := d
  cases pending with
  | none => exact begin_after units earlier byte.toNat
  | some u =>
      simp only [Decoding.after, step]
      split_ifs
      · rfl
      · rfl
      · exact begin_after (none :: units) earlier byte.toNat

theorem foldl_step_after (d : Decoding) (earlier : List (Option Char)) (bytes : List UInt8) :
    bytes.foldl step (d.after earlier) = (bytes.foldl step d).after earlier := by
  induction bytes generalizing d with
  | nil => rfl
  | cons byte bytes ih => rw [List.foldl_cons, List.foldl_cons, step_after, ih]

theorem Decoding.ended_after (d : Decoding) (earlier : List (Option Char)) :
    (d.after earlier).ended = d.ended ++ earlier := by
  obtain ⟨units, pending⟩ := d
  cases pending <;> rfl

/-! ## Sequences of several bytes -/

/-- No byte of the seven-bit ones continues the sequence, and the least character that can come
out of it is none of theirs. -/
structure Unfinished.IsLong (u : Unfinished) : Prop where
  low : 0x80 ≤ u.low
  value : 0x80 ≤ (u.value * 64 + (u.low - 0x80)) * 64 ^ (u.missing - 1)

theorem isLong_of_start {b : Nat} {u : Unfinished} (h : start b = .unfinished u) : u.IsLong := by
  unfold start at h
  split_ifs at h <;> obtain rfl := Start.unfinished.inj h <;> constructor <;> simp <;> omega

/-- A byte that stands for a character by itself; null is left aside. -/
def IsSevenBit (b : UInt8) : Prop := 0 < b.toNat ∧ b.toNat < 0x80

instance (b : UInt8) : Decidable (IsSevenBit b) :=
  inferInstanceAs (Decidable (0 < b.toNat ∧ b.toNat < 0x80))

/-- The character for which such a byte stands. -/
def charOf (b : UInt8) : Char := Char.ofNat b.toNat

variable {mark : UInt8}

theorem toNat_ofNat_of_lt {n : Nat} (h : n < 0x80) : (Char.ofNat n).toNat = n := by
  have hvalid : n.isValidChar := Or.inl (by omega)
  rw [Char.ofNat, dif_pos hvalid]
  rfl

theorem charOf_ne_null (hmark : IsSevenBit mark) : charOf mark ≠ '\x00' := by
  intro hnull
  have hzero : (charOf mark).toNat = mark.toNat := toNat_ofNat_of_lt hmark.2
  rw [hnull] at hzero
  exact hmark.1.ne hzero

/-- What a decoding is like that has not come across a mark: it has not read it, and can no longer
do so by what it has begun. -/
structure Decoding.Lacks (mark : UInt8) (d : Decoding) : Prop where
  units : some (charOf mark) ∉ d.units
  pending : ∀ u ∈ d.pending, u.IsLong

theorem start_ne_char (hmark : IsSevenBit mark) {b : Nat} (hb : b ≠ mark.toNat) :
    start b ≠ .char (charOf mark) := by
  intro h
  unfold start at h
  split_ifs at h with hseven
  have hchar : Char.ofNat b = Char.ofNat mark.toNat := Start.char.inj h
  apply hb
  rw [← toNat_ofNat_of_lt hseven, hchar, toNat_ofNat_of_lt hmark.2]

theorem begin_lacks (hmark : IsSevenBit mark) {units : List (Option Char)}
    (hunits : some (charOf mark) ∉ units) {b : Nat} (hb : b ≠ mark.toNat) :
    (begin units b).Lacks mark := by
  unfold begin
  split
  · rename_i c hstart
    have hc : c ≠ charOf mark := fun heq => start_ne_char hmark hb (heq ▸ hstart)
    exact ⟨by simp [hunits, hc.symm], nofun⟩
  · rename_i u hstart
    exact ⟨hunits, fun v hv => Option.some.inj hv ▸ isLong_of_start hstart⟩
  · exact ⟨by simp [hunits], nofun⟩

theorem step_lacks (hmark : IsSevenBit mark) {d : Decoding} (h : d.Lacks mark) {byte : UInt8}
    (hbyte : byte ≠ mark) : (step d byte).Lacks mark := by
  have hb : byte.toNat ≠ mark.toNat := fun heq => hbyte (UInt8.toNat.inj heq)
  obtain ⟨units, pending⟩ := d
  cases pending with
  | none => exact begin_lacks hmark h.units hb
  | some u =>
      obtain ⟨hlow, hvalue⟩ := h.pending u rfl
      have hunits : some (charOf mark) ∉ units := h.units
      unfold step
      dsimp only
      split_ifs with hcontinues hlast
      -- The last byte of the sequence gives a character beyond the seven-bit ones.
      · simp only [Bool.and_eq_true, decide_eq_true_eq] at hcontinues
        have hone : u.missing - 1 = 0 := by omega
        rw [hone, Nat.pow_zero, Nat.mul_one] at hvalue
        have hchar : Char.ofNat (u.value * 64 + (byte.toNat - 0x80)) ≠ charOf mark := by
          apply ofNat_ne_of_lt (charOf_ne_null hmark)
          rw [charOf, toNat_ofNat_of_lt hmark.2]
          have hlt := hmark.2
          omega
        exact ⟨by simp [hunits, hchar.symm], nofun⟩
      · simp only [Bool.and_eq_true, decide_eq_true_eq] at hcontinues
        refine ⟨hunits, fun v hv => ?_⟩
        obtain rfl := Option.some.inj hv
        obtain ⟨n, hn⟩ : ∃ n, u.missing = n + 2 := ⟨u.missing - 2, by omega⟩
        have hle : u.value * 64 + (u.low - 0x80) ≤ u.value * 64 + (byte.toNat - 0x80) := by omega
        refine ⟨Nat.le_refl _, ?_⟩
        calc 0x80
          _ ≤ (u.value * 64 + (u.low - 0x80)) * 64 ^ (n + 1) := by simpa [hn] using hvalue
          _ ≤ (u.value * 64 + (byte.toNat - 0x80)) * 64 ^ (n + 1) := Nat.mul_le_mul_right _ hle
          _ = _ := by simp [hn, Nat.pow_succ', Nat.mul_assoc]
      · exact begin_lacks hmark (by simp [hunits]) hb

theorem foldl_step_lacks (hmark : IsSevenBit mark) {line : List UInt8} (hline : mark ∉ line)
    {d : Decoding} (h : d.Lacks mark) : (line.foldl step d).Lacks mark := by
  induction line generalizing d with
  | nil => exact h
  | cons byte line ih =>
      obtain ⟨hbyte, hrest⟩ := List.ne_and_not_mem_of_not_mem_cons hline
      exact ih hrest (step_lacks hmark h hbyte.symm)

theorem lacks_nil (mark : UInt8) : Decoding.Lacks mark ⟨[], none⟩ := ⟨List.not_mem_nil, nofun⟩

/-! ## Between marks -/

/-- A seven-bit byte ends what is unfinished, and is itself read as its character. -/
theorem step_mark (hmark : IsSevenBit mark) {d : Decoding} (h : d.Lacks mark) :
    step d mark = ⟨some (charOf mark) :: d.ended, none⟩ := by
  obtain ⟨units, pending⟩ := d
  have hbegin (units : List (Option Char)) :
      begin units mark.toNat = ⟨some (charOf mark) :: units, none⟩ := by
    rw [begin, start, if_pos hmark.2]
    rfl
  cases pending with
  | none => exact hbegin units
  | some u =>
      have hlow := (h.pending u rfl).low
      have hlt := hmark.2
      have hcontinues :
          ¬ ((decide (u.low ≤ mark.toNat) && decide (mark.toNat ≤ u.high)) = true) := by
        rw [Bool.and_eq_true, decide_eq_true_eq]
        omega
      exact (if_neg hcontinues).trans (hbegin (none :: units))

theorem units_cut (hmark : IsSevenBit mark) {line : List UInt8} (hline : mark ∉ line)
    (rest : List UInt8) :
    units (line ++ mark :: rest) = units line ++ some (charOf mark) :: units rest := by
  let d := line.foldl step ⟨[], none⟩
  have hd : d.Lacks mark := foldl_step_lacks hmark hline (lacks_nil mark)
  have hrest : rest.foldl step ⟨some (charOf mark) :: d.ended, none⟩ =
      (rest.foldl step ⟨[], none⟩).after (some (charOf mark) :: d.ended) :=
    foldl_step_after ⟨[], none⟩ _ _
  rw [units_eq, units_eq, units_eq, List.foldl_append, List.foldl_cons, step_mark hmark hd, hrest,
    Decoding.ended_after]
  simp [d]

theorem charOf_not_mem_decodeLossy (hmark : IsSevenBit mark) {line : List UInt8}
    (hline : mark ∉ line) : charOf mark ∉ decodeLossy line := by
  obtain ⟨hunits, -⟩ := foldl_step_lacks hmark hline (lacks_nil mark)
  intro hmem
  obtain ⟨unit, hunit, heq⟩ := List.mem_map.mp hmem
  rw [units_eq, List.mem_reverse, Decoding.ended] at hunit
  cases unit with
  | none =>
      have hbeyond : (Char.ofNat 0xFFFD).toNat = mark.toNat :=
        (congrArg Char.toNat heq).trans (toNat_ofNat_of_lt hmark.2)
      have hlt := hmark.2
      rw [← hbeyond] at hlt
      exact absurd hlt (by decide)
  | some c =>
      obtain rfl : c = charOf mark := heq
      split at hunit
      · exact hunits (by simpa using hunit)
      · exact hunits hunit

theorem decodeLossy_cut (hmark : IsSevenBit mark) (front rest : List UInt8) :
    decodeLossy (front ++ mark :: rest) = decodeLossy front ++ charOf mark :: decodeLossy rest := by
  have hcut {line : List UInt8} (hline : mark ∉ line) (rest : List UInt8) :
      decodeLossy (line ++ mark :: rest) = decodeLossy line ++ charOf mark :: decodeLossy rest := by
    rw [decodeLossy, units_cut hmark hline, List.map_append, List.map_cons]
    rfl
  induction front using line_induction mark with
  | single line hline => exact hcut hline rest
  | cut line front hline ih =>
      rw [List.append_assoc, List.cons_append, hcut hline, hcut hline, ih, List.append_assoc,
        List.cons_append]

/-! ## Lines -/

/-- The lines of the text are what the lines of the bytes are read as, each by itself. -/
theorem splitOn_decodeLossy (content : List UInt8) :
    (decodeLossy content).splitOn '\n' = (content.splitOn 0x0A).map decodeLossy := by
  have hmark : IsSevenBit 0x0A := by decide
  have hfree {line : List UInt8} (hline : 0x0A ∉ line) : '\n' ∉ decodeLossy line :=
    charOf_not_mem_decodeLossy hmark hline
  induction content using line_induction (0x0A : UInt8) with
  | single line hline =>
      rw [List.splitOn_eq_singleton hline, List.splitOn_eq_singleton (hfree hline)]
      rfl
  | cut line rest hline ih =>
      have hcut : decodeLossy (line ++ 0x0A :: rest) =
          decodeLossy line ++ '\n' :: decodeLossy rest := decodeLossy_cut hmark line rest
      rw [hcut, List.splitOn_append_cons_self_of_not_mem hline,
        List.splitOn_append_cons_self_of_not_mem (hfree hline), ih, List.map_cons]

-- The first line ends within a sequence of three bytes.
example : (decodeLossy [0x61, 0xE2, 0x82, 0x0A, 0xAC, 0x62]).splitOn '\n' =
    [['a', Char.ofNat 0xFFFD], [Char.ofNat 0xFFFD, 'b']] := by decide

/-! ## Occurrences -/

/-- Where a seven-bit character is read, its byte stands, and what stands around it is read by
itself. -/
theorem exists_of_decodeLossy_eq (hmark : IsSevenBit mark) {bytes : List UInt8} {x y : List Char}
    (h : decodeLossy bytes = x ++ charOf mark :: y) :
    ∃ front rest, bytes = front ++ mark :: rest ∧ decodeLossy front = x ∧ decodeLossy rest = y := by
  induction bytes using line_induction mark generalizing x with
  | single line hline =>
      apply absurd _ (charOf_not_mem_decodeLossy hmark hline)
      rw [h]
      simp
  | cut line rest hline ih =>
      rw [decodeLossy_cut hmark] at h
      rcases List.append_eq_append_iff.mp h with ⟨z, rfl, hz⟩ | ⟨z, hz, hy⟩
      · cases z with
        | nil =>
            obtain ⟨-, rfl⟩ := List.cons.inj hz
            exact ⟨line, rest, rfl, (List.append_nil _).symm, rfl⟩
        | cons c z =>
            obtain ⟨rfl, hrest⟩ := List.cons.inj hz
            obtain ⟨front, back, rfl, rfl, rfl⟩ := ih hrest
            exact ⟨line ++ mark :: front, back, by simp, decodeLossy_cut hmark line front, rfl⟩
      · cases z with
        | nil =>
            obtain ⟨-, rfl⟩ := List.cons.inj hy
            exact ⟨line, rest, rfl, by rw [hz, List.append_nil], rfl⟩
        | cons c z =>
            obtain ⟨rfl, -⟩ := List.cons.inj hy
            apply absurd _ (charOf_not_mem_decodeLossy hmark hline)
            rw [hz]
            simp

/-- Every byte is read as something, by itself or with others. -/
theorem ended_step_ne_nil (d : Decoding) (byte : UInt8) : (step d byte).ended ≠ [] := by
  have hbegin (units : List (Option Char)) (b : Nat) : (begin units b).ended ≠ [] := by
    unfold begin
    split <;> exact List.cons_ne_nil _ _
  obtain ⟨units, pending⟩ := d
  unfold step
  split
  · exact hbegin _ _
  · dsimp only
    split_ifs
    · exact List.cons_ne_nil _ _
    · exact List.cons_ne_nil _ _
    · exact hbegin _ _

theorem eq_nil_of_decodeLossy_eq_nil {bytes : List UInt8} (h : decodeLossy bytes = []) :
    bytes = [] := by
  induction bytes using List.reverseRecOn with
  | nil => rfl
  | append_singleton front byte _ =>
      rw [decodeLossy, List.map_eq_nil_iff, units_eq, List.reverse_eq_nil_iff,
        List.foldl_append] at h
      exact absurd h (ended_step_ne_nil _ byte)

variable {word : List UInt8}

theorem prefix_decodeLossy_iff (hword : ∀ b ∈ word, IsSevenBit b) {bytes : List UInt8} :
    word.map charOf <+: decodeLossy bytes ↔ word <+: bytes := by
  induction word generalizing bytes with
  | nil => simp
  | cons b word ih =>
      obtain ⟨hb, hword⟩ := List.forall_mem_cons.mp hword
      constructor
      · rintro ⟨y, hy⟩
        obtain ⟨front, rest, rfl, hfront, hrest⟩ :=
          exists_of_decodeLossy_eq (x := []) hb hy.symm
        obtain rfl := eq_nil_of_decodeLossy_eq_nil hfront
        rw [List.nil_append, List.cons_prefix_cons]
        exact ⟨rfl, (ih hword).mp ⟨y, hrest.symm⟩⟩
      · rintro ⟨rest, rfl⟩
        have hcons : decodeLossy (b :: (word ++ rest)) = charOf b :: decodeLossy (word ++ rest) :=
          decodeLossy_cut hb [] (word ++ rest)
        rw [List.cons_append, hcons, List.map_cons, List.cons_prefix_cons]
        exact ⟨rfl, (ih hword).mpr (List.prefix_append word rest)⟩

/-- Seven-bit characters stand in what bytes are read as just where their own bytes stand. -/
theorem infix_decodeLossy_iff (hword : ∀ b ∈ word, IsSevenBit b) {bytes : List UInt8} :
    word.map charOf <:+: decodeLossy bytes ↔ word <:+: bytes := by
  cases word with
  | nil => simp
  | cons b word =>
      have hb : IsSevenBit b := hword b List.mem_cons_self
      have hrest : ∀ b ∈ word, IsSevenBit b := fun c hc => hword c (List.mem_cons_of_mem b hc)
      constructor
      · rintro ⟨x, y, hxy⟩
        rw [List.append_assoc] at hxy
        obtain ⟨front, back, rfl, -, hback⟩ := exists_of_decodeLossy_eq hb hxy.symm
        obtain ⟨rest, rfl⟩ := (prefix_decodeLossy_iff hrest).mp ⟨y, hback.symm⟩
        exact ⟨front, rest, by simp⟩
      · rintro ⟨front, rest, rfl⟩
        have hbehind : word.map charOf <+: decodeLossy (word ++ rest) :=
          (prefix_decodeLossy_iff hrest).mpr (List.prefix_append word rest)
        obtain ⟨y, hy⟩ := hbehind
        rw [List.append_assoc, List.cons_append, decodeLossy_cut hb, ← hy]
        exact ⟨decodeLossy front, y, by simp⟩

theorem utf8EncodeChar_of_lt {c : Char} (h : c.toNat < 0x80) :
    String.utf8EncodeChar c = [UInt8.ofNat c.toNat] := by
  unfold String.utf8EncodeChar
  exact if_pos (Nat.le_of_lt_succ h)

/-- The same of a text, with the bytes in which it is written. -/
theorem infix_decodeLossy_text_iff {text : List Char}
    (htext : ∀ c ∈ text, 0 < c.toNat ∧ c.toNat < 0x80)
    {bytes : List UInt8} : text <:+: decodeLossy bytes ↔ encode text <:+: bytes := by
  have hencode : encode text = text.map fun c => UInt8.ofNat c.toNat := by
    rw [List.map_eq_flatMap]
    exact List.flatMap_congr fun c hc => utf8EncodeChar_of_lt (htext c hc).2
  have hbyte {c : Char} (hc : c ∈ text) : (UInt8.ofNat c.toNat).toNat = c.toNat := by
    have hlt := (htext c hc).2
    rw [UInt8.toNat_ofNat']
    omega
  have hword : ∀ b ∈ encode text, IsSevenBit b := by
    intro b hb
    rw [hencode] at hb
    obtain ⟨c, hc, rfl⟩ := List.mem_map.mp hb
    unfold IsSevenBit
    rw [hbyte hc]
    exact htext c hc
  have hchars : (encode text).map charOf = text := by
    rw [hencode, List.map_map]
    refine (List.map_congr_left fun c hc => ?_).trans (List.map_id text)
    show Char.ofNat (UInt8.ofNat c.toNat).toNat = c
    rw [hbyte hc, Char.ofNat_toNat]
  rw [← infix_decodeLossy_iff hword, hchars]

end SecretScan.Text.Utf8
