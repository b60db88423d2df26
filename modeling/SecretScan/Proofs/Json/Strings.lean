import SecretScan.Json.Reader
import SecretScan.Json.Writer

/-!
# Reading lists of strings

What stands between the quotes of a string is a body: no quote in it ends the string, and no
backslash is left open at its end. Reading a body does not depend on what follows, so a list of
bodies is read body by body, and a list of strings that was written is read back.
-/

namespace SecretScan.Json

/-! ## Bodies -/

/-- Goes through a text behind the quote of a string, from a place that a backslash stands before or
not: whether a backslash is left open at the end. It is none if a quote ends the string. -/
def goThrough : (escaped : Bool) → List Char → Option Bool
  | escaped, [] => some escaped
  | true, _ :: rest => goThrough false rest
  | false, c :: rest => if c = '"' then none else goThrough (c == '\\') rest

/-- Can a text stand between the quotes of a string? -/
def IsBody (text : List Char) : Prop := goThrough false text = some false

theorem goThrough_append (escaped : Bool) (v w : List Char) :
    goThrough escaped (v ++ w) = (goThrough escaped v).bind fun e => goThrough e w := by
  induction v generalizing escaped with
  | nil => rfl
  | cons c v ih =>
      cases escaped with
      | true => exact ih false
      | false =>
          rw [List.cons_append, goThrough, goThrough]
          split
          · rfl
          · exact ih _

theorem not_isBody_quote (w : List Char) : ¬ IsBody ('"' :: w) := nofun

theorem isBody_cons_iff {c : Char} {w : List Char} (hquote : c ≠ '"') (hback : c ≠ '\\') :
    IsBody (c :: w) ↔ IsBody w := by
  rw [IsBody, goThrough, if_neg hquote, beq_eq_false_iff_ne.mpr hback]
  rfl

theorem isBody_backslash_iff {w : List Char} :
    IsBody ('\\' :: w) ↔ ∃ e v, w = e :: v ∧ IsBody v := by
  cases w with
  | nil => exact ⟨nofun, nofun⟩
  | cons e v =>
      constructor
      · intro h
        exact ⟨e, v, rfl, h⟩
      · rintro ⟨e', v', hcons, h⟩
        obtain ⟨rfl, rfl⟩ := List.cons.inj hcons
        exact h

/-! ## Reading a body -/

theorem hexValue?_quote : hexValue? '"' = none := by decide

theorem hexValue?_backslash : hexValue? '\\' = none := by decide

theorem plain_of_hexValue? {c : Char} (h : (hexValue? c).isSome = true) : c ≠ '"' ∧ c ≠ '\\' := by
  constructor
  · rintro rfl
    simp [hexValue?_quote] at h
  · rintro rfl
    simp [hexValue?_backslash] at h

/-- Some digits are read, whatever follows them. -/
theorem exists_digits_of_readHex4 {text rest : List Char} {n : Nat}
    (h : readHex4 text = some (n, rest)) :
    ∃ digits, text = digits ++ rest ∧ digits ≠ [] ∧ (∀ c ∈ digits, (hexValue? c).isSome = true) ∧
      ∀ rest', readHex4 (digits ++ rest') = some (n, rest') := by
  unfold readHex4 at h
  split at h
  · split at h
    · rename_i a b c d _ _ _ _ _ x y z w ha hb hc hd
      obtain ⟨rfl, rfl⟩ := Prod.mk.inj (Option.some.inj h)
      refine ⟨[a, b, c, d], rfl, List.cons_ne_nil _ _, ?_, fun rest' => ?_⟩
      · simp [ha, hb, hc, hd]
      · simp [readHex4, ha, hb, hc, hd]
    · simp at h
  · simp at h

theorem isBody_append_iff_of_plain {digits w : List Char}
    (h : ∀ c ∈ digits, (hexValue? c).isSome = true) : IsBody (digits ++ w) ↔ IsBody w := by
  induction digits with
  | nil => rfl
  | cons c digits ih =>
      obtain ⟨hquote, hback⟩ := plain_of_hexValue? (h c List.mem_cons_self)
      rw [List.cons_append, isBody_cons_iff hquote hback]
      exact ih fun d hd => h d (List.mem_cons_of_mem c hd)

/-- Hexadecimal digits are read from a body or not at all. -/
theorem readHex4_body {w : List Char} (h : IsBody w) :
    (∃ n v, IsBody v ∧ v.length < w.length ∧
      ∀ rest, readHex4 (w ++ '"' :: rest) = some (n, v ++ '"' :: rest)) ∨
      ∀ rest, readHex4 (w ++ '"' :: rest) = none := by
  by_cases hread : ∃ n v, readHex4 w = some (n, v)
  · obtain ⟨n, v, hv⟩ := hread
    obtain ⟨digits, rfl, hne, hhex, hall⟩ := exists_digits_of_readHex4 hv
    refine Or.inl ⟨n, v, (isBody_append_iff_of_plain hhex).mp h, ?_, fun rest => ?_⟩
    · have hpos := List.length_pos_iff.mpr hne
      rw [List.length_append]
      omega
    · rw [List.append_assoc]
      exact hall _
  · refine Or.inr fun rest => Option.eq_none_iff_forall_ne_some.mpr ?_
    rintro ⟨n, v⟩ hv
    obtain ⟨digits, htext, -, hhex, hall⟩ := exists_digits_of_readHex4 hv
    -- The digits do not go over the quote, so they would have been read from the body.
    rcases List.append_eq_append_iff.mp htext with ⟨more, rfl, hmore⟩ | ⟨left, rfl, -⟩
    · cases more with
      | nil =>
          rw [List.append_nil] at hall
          exact hread ⟨n, [], by rw [← hall [], List.append_nil]⟩
      | cons c more =>
          obtain ⟨rfl, -⟩ := List.cons.inj hmore
          exact (plain_of_hexValue? (hhex _ (by simp))).1 rfl
    · exact hread ⟨n, left, hall left⟩

/-- How reading a string goes on behind an escape by number. -/
def readBehindHex (bound : Nat) (taken : Option (List Char)) (n : Nat) (rest : List Char) :
    Option (Option String × List Char) :=
  if 0xD800 ≤ n && n < 0xDC00 then
    match rest with
    | '\\' :: 'u' :: after =>
      match readHex4 after with
      | none => none
      | some (m, after) =>
        if 0xDC00 ≤ m && m < 0xE000 then
          readString bound
            (taken.map (Char.ofNat (0x10000 + (n - 0xD800) * 0x400 + (m - 0xDC00)) :: ·)) after
        else readString bound none rest
    | _ => readString bound none rest
  else if 0xDC00 ≤ n && n < 0xE000 then readString bound none rest
  else readString bound (taken.map (Char.ofNat n :: ·)) rest

theorem readString_hex (bound : Nat) (taken : Option (List Char)) (rest : List Char) :
    readString (bound + 1) taken ('\\' :: 'u' :: rest) =
      (readHex4 rest).bind fun r => readBehindHex bound taken r.1 r.2 := by
  rw [readString, if_neg (by decide), if_neg (by decide), if_pos rfl]
  simp only [readBehindHex]
  cases readHex4 rest <;> rfl

theorem readString_escape {e : Char} (he : e ≠ 'u') (bound : Nat) (taken : Option (List Char))
    (rest : List Char) : readString (bound + 1) taken ('\\' :: e :: rest) =
      (escaped? e).bind fun c => readString bound (taken.map (c :: ·)) rest := by
  rw [readString, if_neg (by decide), if_neg (by decide), if_pos rfl]
  · cases escaped? e <;> rfl
  · exact he

theorem readString_cons {c : Char} (hquote : c ≠ '"') (hback : c ≠ '\\') (bound : Nat)
    (taken : Option (List Char)) (rest : List Char) :
    readString (bound + 1) taken (c :: rest) =
      if c.toNat < 32 then none else readString bound (taken.map (c :: ·)) rest := by
  rw [readString.eq_def]
  simp only [if_neg hquote, if_neg hback]

/-- A body is read to the same string, or not at all, whatever follows the quote that ends it. -/
def ReadsAlone (taken : Option (List Char)) (w : List Char) : Prop :=
  ∃ s : Option (Option String), ∀ bound rest, w.length < bound →
    readString bound taken (w ++ '"' :: rest) = s.map fun s => (s, rest)

theorem ReadsAlone.cons {taken : Option (List Char)} {c : Char} {w : List Char} (hquote : c ≠ '"')
    (hback : c ≠ '\\') (h : ReadsAlone (taken.map (c :: ·)) w) : ReadsAlone taken (c :: w) := by
  obtain ⟨s, hs⟩ := h
  refine ⟨if c.toNat < 32 then none else s, fun bound rest hb => ?_⟩
  obtain ⟨bound, rfl⟩ := Nat.exists_eq_succ_of_ne_zero (Nat.ne_zero_of_lt hb)
  rw [List.cons_append, readString_cons hquote hback, hs bound rest (by simpa using hb)]
  split <;> rfl

theorem ReadsAlone.escape {taken : Option (List Char)} {e : Char} {w : List Char} (he : e ≠ 'u')
    (h : ∀ c, ReadsAlone (taken.map (c :: ·)) w) : ReadsAlone taken ('\\' :: e :: w) := by
  cases hescaped : escaped? e with
  | none =>
      refine ⟨none, fun bound rest hb => ?_⟩
      obtain ⟨bound, rfl⟩ := Nat.exists_eq_succ_of_ne_zero (Nat.ne_zero_of_lt hb)
      rw [List.cons_append, List.cons_append, readString_escape he, hescaped]
      rfl
  | some c =>
      obtain ⟨s, hs⟩ := h c
      refine ⟨s, fun bound rest hb => ?_⟩
      obtain ⟨bound, rfl⟩ := Nat.exists_eq_succ_of_ne_zero (Nat.ne_zero_of_lt hb)
      simp only [List.length_cons] at hb
      rw [List.cons_append, List.cons_append, readString_escape he, hescaped, Option.bind_some,
        hs bound rest (by omega)]

theorem readBehindHex_of_forall_ne {n : Nat} {text : List Char}
    (h : ∀ after, text ≠ '\\' :: 'u' :: after) (bound : Nat) (taken : Option (List Char)) :
    readBehindHex bound taken n text =
      if (0xD800 ≤ n && n < 0xDC00) || (0xDC00 ≤ n && n < 0xE000) then readString bound none text
      else readString bound (taken.map (Char.ofNat n :: ·)) text := by
  rw [readBehindHex]
  · cases (decide (0xD800 ≤ n) && decide (n < 0xDC00)) <;> simp
  · exact h

theorem IsBody.append_ne {w : List Char} (hw : IsBody w) (h : ∀ after, w ≠ '\\' :: 'u' :: after)
    (rest after : List Char) : w ++ '"' :: rest ≠ '\\' :: 'u' :: after := by
  intro heq
  match w, heq with
  | c :: e :: v, heq =>
      simp only [List.cons_append, List.cons.injEq] at heq
      obtain ⟨rfl, rfl, -⟩ := heq
      exact h v rfl
  | [c], heq =>
      obtain ⟨rfl, -⟩ := List.cons.inj heq
      obtain ⟨e, v, hcons, -⟩ := isBody_backslash_iff.mp hw
      exact List.cons_ne_nil e v hcons.symm

/-- Behind an escape by number, what follows a body does not matter either. -/
theorem readBehindHex_body {w : List Char} (hw : IsBody w) (n : Nat) (taken : Option (List Char))
    (h : ∀ v taken, IsBody v → v.length ≤ w.length → ReadsAlone taken v) :
    ∃ s : Option (Option String), ∀ bound rest, w.length < bound →
      readBehindHex bound taken n (w ++ '"' :: rest) = s.map fun s => (s, rest) := by
  obtain ⟨s, hs⟩ := h w none hw (Nat.le_refl _)
  obtain ⟨s', hs'⟩ := h w (taken.map (Char.ofNat n :: ·)) hw (Nat.le_refl _)
  -- Only where another escape by number follows can the two be halves of one character.
  by_cases hpair : ∃ after, w = '\\' :: 'u' :: after
  · obtain ⟨after, rfl⟩ := hpair
    obtain ⟨e, v, hcons, hafter⟩ := isBody_backslash_iff.mp hw
    obtain ⟨rfl, rfl⟩ := List.cons.inj hcons
    rcases readHex4_body hafter with ⟨m, v, hv, hlt, hread⟩ | hnone
    · obtain ⟨t, ht⟩ := h v (taken.map
        (Char.ofNat (0x10000 + (n - 0xD800) * 0x400 + (m - 0xDC00)) :: ·)) hv
        (by simp only [List.length_cons]; omega)
      refine ⟨if 0xD800 ≤ n && n < 0xDC00 then if 0xDC00 ≤ m && m < 0xE000 then t else s
        else if 0xDC00 ≤ n && n < 0xE000 then s else s', fun bound rest hb => ?_⟩
      have hshort : v.length < bound := by
        simp only [List.length_cons] at hb
        omega
      simp only [List.cons_append] at hs hs'
      simp only [readBehindHex, List.cons_append, hread, ht bound rest hshort,
        hs bound rest hb, hs' bound rest hb, apply_ite (Option.map fun s => (s, rest))]
    · refine ⟨if 0xD800 ≤ n && n < 0xDC00 then none
        else if 0xDC00 ≤ n && n < 0xE000 then s else s', fun bound rest hb => ?_⟩
      simp only [List.cons_append] at hs hs'
      simp only [readBehindHex, List.cons_append, hnone, hs bound rest hb, hs' bound rest hb,
        apply_ite (Option.map fun s => (s, rest)), Option.map_none]
  · refine ⟨if (0xD800 ≤ n && n < 0xDC00) || (0xDC00 ≤ n && n < 0xE000) then s else s',
      fun bound rest hb => ?_⟩
    rw [readBehindHex_of_forall_ne (hw.append_ne (fun after heq => hpair ⟨after, heq⟩) rest),
      hs bound rest hb, hs' bound rest hb, apply_ite (Option.map fun s => (s, rest))]

theorem ReadsAlone.hex {taken : Option (List Char)} {w : List Char} (hw : IsBody w)
    (h : ∀ v taken, IsBody v → v.length < w.length → ReadsAlone taken v) :
    ReadsAlone taken ('\\' :: 'u' :: w) := by
  rcases readHex4_body hw with ⟨n, v, hv, hlt, hread⟩ | hnone
  · obtain ⟨s, hs⟩ := readBehindHex_body hv n taken fun v' taken' hv' hle =>
      h v' taken' hv' (by omega)
    refine ⟨s, fun bound rest hb => ?_⟩
    obtain ⟨bound, rfl⟩ := Nat.exists_eq_succ_of_ne_zero (Nat.ne_zero_of_lt hb)
    simp only [List.length_cons] at hb
    rw [List.cons_append, List.cons_append, readString_hex, hread, Option.bind_some,
      hs bound rest (by omega)]
  · refine ⟨none, fun bound rest hb => ?_⟩
    obtain ⟨bound, rfl⟩ := Nat.exists_eq_succ_of_ne_zero (Nat.ne_zero_of_lt hb)
    rw [List.cons_append, List.cons_append, readString_hex, hnone]
    rfl

/-- The induction is on the length of the body, since an escape takes up to twelve characters. -/
theorem readString_body {w : List Char} (h : IsBody w) (taken : Option (List Char)) :
    ReadsAlone taken w := by
  induction hn : w.length using Nat.strongRecOn generalizing w taken with
  | ind n ih =>
      subst hn
      cases w with
      | nil =>
          refine ⟨some (taken.map fun t => String.ofList t.reverse), fun bound rest hb => ?_⟩
          obtain ⟨bound, rfl⟩ := Nat.exists_eq_succ_of_ne_zero (Nat.ne_zero_of_lt hb)
          rfl
      | cons c w =>
          have hquote : c ≠ '"' := fun hc => not_isBody_quote w (hc ▸ h)
          by_cases hback : c = '\\'
          · subst hback
            obtain ⟨e, v, rfl, hv⟩ := isBody_backslash_iff.mp h
            simp only [List.length_cons] at ih
            by_cases he : e = 'u'
            · subst he
              exact .hex hv fun x taken' hx hlt => ih _ (by omega) hx taken' rfl
            · exact .escape he fun c => ih _ (by omega) hv _ rfl
          · have hw := (isBody_cons_iff hquote hback).mp h
            exact .cons hquote hback (ih _ (Nat.lt_succ_self _) hw _ rfl)

/-- The string with a body, if it has one. -/
def unquote? (w : List Char) : Option String :=
  (readString (w.length + 1) (some []) (w ++ ['"'])).bind Prod.fst

/-! ## Lists of bodies -/

/-- A list of strings behind its bracket, from their bodies. -/
def bodiesText : List (List Char) → List Char
  | [] => [']']
  | [w] => '"' :: (w ++ ['"', ']'])
  | w :: rest => '"' :: (w ++ '"' :: ',' :: bodiesText rest)

theorem render_strings (ss : List String) :
    (strings ss).render = '[' :: bodiesText (ss.map fun s => s.toList.flatMap escapeChar) := by
  rw [strings, render]
  refine congrArg _ ?_
  induction ss with
  | nil => rfl
  | cons s ss ih =>
      cases ss with
      | nil => simp [renderItems, bodiesText, render, scalarText, quoted]
      | cons t ss =>
          have hitems : renderItems ((s :: t :: ss).map .str) =
              (Json.str s).render ++ ',' :: renderItems ((t :: ss).map .str) := rfl
          rw [hitems, ih]
          simp [bodiesText, render, scalarText, quoted]

theorem strings_inj {ss ts : List String} : strings ss = strings ts ↔ ss = ts := by
  constructor
  · intro h
    exact List.map_inj_right (fun _ _ => str.inj) |>.mp (arr.inj h)
  · rintro rfl
    rfl

theorem readValue_body {w : List Char} (h : IsBody w) :
    ∃ d : Option Document, d.bind Document.toJson? = (unquote? w).map .str ∧
      ∀ fuel level rest, w.length + 1 < fuel →
        readValue fuel level ('"' :: (w ++ '"' :: rest)) = d.map fun d => (d, rest) := by
  obtain ⟨s, hs⟩ := readString_body h (some [])
  refine ⟨s.map fun s => (s.map .str).getD .fault, ?_, fun fuel level rest hfuel => ?_⟩
  · rw [unquote?, hs _ [] (Nat.lt_succ_self _)]
    cases s with
    | none => rfl
    | some s => cases s <;> rfl
  · obtain ⟨fuel, rfl⟩ := Nat.exists_eq_succ_of_ne_zero (Nat.ne_zero_of_lt hfuel)
    rw [readValue, hs fuel rest (by omega), Option.map_map, Option.map_map]
    rfl

theorem toJsonItems?_cons (d : Option Document) (ds : Option (List Document)) :
    (d.bind fun d => ds.map (d :: ·)).bind Document.toJsonItems? =
      (d.bind Document.toJson?).bind fun v => (ds.bind Document.toJsonItems?).map (v :: ·) := by
  cases d with
  | none => rfl
  | some d =>
      cases ds with
      | none => cases hd : d.toJson? <;> simp [hd]
      | some ds =>
          simp only [Option.bind_some, Option.map_some, Document.toJsonItems?]
          cases d.toJson? <;> cases Document.toJsonItems? ds <;> rfl

theorem mapM_unquote?_cons (w : List Char) (ws : List (List Char)) :
    ((w :: ws).mapM unquote?).map (·.map Json.str) =
      ((unquote? w).map .str).bind fun v => ((ws.mapM unquote?).map (·.map .str)).map (v :: ·) := by
  rw [List.mapM_cons]
  cases unquote? w <;> cases ws.mapM unquote? <;> rfl

theorem bodiesText_cons_cons (w v : List Char) (ws : List (List Char)) :
    bodiesText (w :: v :: ws) = '"' :: (w ++ '"' :: ',' :: bodiesText (v :: ws)) := rfl

theorem dropGap_bodiesText (w : List Char) (ws : List (List Char)) :
    dropGap (bodiesText (w :: ws)) = bodiesText (w :: ws) := by
  cases ws <;> rfl

theorem bodiesText_ne (w : List Char) (ws : List (List Char)) (rest : List Char) :
    bodiesText (w :: ws) ≠ ']' :: rest := by
  cases ws <;> exact fun heq => absurd (List.cons.inj heq).1 (by decide)

/-- A list of bodies is read body by body. -/
theorem readItems_bodies {w : List Char} {ws : List (List Char)} (h : ∀ v ∈ w :: ws, IsBody v) :
    ∃ ds : Option (List Document),
      ds.bind Document.toJsonItems? = ((w :: ws).mapM unquote?).map (·.map .str) ∧
      ∀ fuel level done, (bodiesText (w :: ws)).length ≤ fuel →
        readItems fuel level done (bodiesText (w :: ws)) =
          ds.map fun ds => (done.reverse ++ ds, []) := by
  obtain ⟨d, hd, hread⟩ := readValue_body (h w List.mem_cons_self)
  induction ws generalizing w d with
  | nil =>
      refine ⟨d.bind fun d => (some []).map (d :: ·), ?_, fun fuel level done hfuel => ?_⟩
      · rw [toJsonItems?_cons, hd, mapM_unquote?_cons]
        rfl
      · simp only [bodiesText, List.length_cons, List.length_append] at hfuel
        obtain ⟨fuel, rfl⟩ := Nat.exists_eq_succ_of_ne_zero (by omega : fuel ≠ 0)
        rw [bodiesText, readItems, hread fuel level [']'] (by omega)]
        cases d with
        | none => rfl
        | some d => simp [dropGap, isGap]
  | cons v ws ih =>
      obtain ⟨d', hd', hread'⟩ := readValue_body (h v (List.mem_cons_of_mem w List.mem_cons_self))
      obtain ⟨ds, hds, hreads⟩ := ih (fun u hu => h u (List.mem_cons_of_mem w hu)) d' hd' hread'
      refine ⟨d.bind fun d => ds.map (d :: ·), ?_, fun fuel level done hfuel => ?_⟩
      · rw [toJsonItems?_cons, hd, hds, mapM_unquote?_cons w]
      · simp only [bodiesText_cons_cons, List.length_cons, List.length_append] at hfuel
        obtain ⟨fuel, rfl⟩ := Nat.exists_eq_succ_of_ne_zero (by omega : fuel ≠ 0)
        rw [bodiesText_cons_cons, readItems, hread fuel level _ (by omega)]
        cases d with
        | none => rfl
        | some d =>
            have hlater := hreads fuel level (d :: done) (by omega)
            have hcomma (rest : List Char) : dropGap (',' :: rest) = ',' :: rest := rfl
            simp only [Option.map_some, hcomma, dropGap_bodiesText, hlater]
            cases ds <;> simp

theorem readValue_bracket {text items : List Char} (hgap : dropGap text = items)
    (h : ∀ rest, items ≠ ']' :: rest) (fuel level : Nat) :
    readValue (fuel + 1) level ('[' :: text) = (readItems fuel (level + 1) [] items).map fun r =>
      (nested level (.arr r.1), r.2) := by
  rw [readValue, hgap]
  split
  · rename_i rest
    exact absurd rfl (h rest)
  · rfl

/-- A list of bodies says what the bodies say, if each of them says something. -/
theorem parse?_bodies {ws : List (List Char)} (h : ∀ w ∈ ws, IsBody w) :
    parse? ('[' :: bodiesText ws) = (ws.mapM unquote?).map strings := by
  cases ws with
  | nil => rfl
  | cons w ws =>
      obtain ⟨ds, hds, hread⟩ := readItems_bodies h
      have hfuel : 2 * ('[' :: bodiesText (w :: ws)).length + 2 =
          2 * (bodiesText (w :: ws)).length + 3 + 1 := by
        rw [List.length_cons]
        omega
      have hvalue : readValue (2 * ('[' :: bodiesText (w :: ws)).length + 2) 0
          (dropGap ('[' :: bodiesText (w :: ws))) = ds.map fun ds => (.arr ds, []) := by
        have hbracket : dropGap ('[' :: bodiesText (w :: ws)) = '[' :: bodiesText (w :: ws) := rfl
        rw [hfuel, hbracket, readValue_bracket (dropGap_bodiesText w ws) (bodiesText_ne w ws),
          hread _ 1 [] (by omega)]
        cases ds <;> rfl
      rw [parse?, readDocument?, hvalue]
      cases ds with
      | none =>
          have hnone : (w :: ws).mapM unquote? = none := by simpa using hds.symm
          rw [hnone]
          rfl
      | some ds =>
          have harr : (Document.arr ds).toJson? = (Document.toJsonItems? ds).map .arr := rfl
          rw [Option.bind_some] at hds
          simp only [Option.map_some, dropGap, List.dropWhile_nil, List.isEmpty_nil, if_true,
            Option.bind_some, harr, hds, Option.map_map]
          rfl

/-! ## Writing and reading back -/

/-- A character is escaped by a letter or by its number, or stands for itself. -/
theorem escapeChar_cases (c : Char) :
    (∃ e, escapeChar c = ['\\', e] ∧ e ≠ 'u' ∧ escaped? e = some c) ∨
      (escapeChar c = ['\\', 'u', '0', '0', hexChar (c.toNat / 16), hexChar (c.toNat % 16)] ∧
        c.toNat < 32) ∨
      (escapeChar c = [c] ∧ c ≠ '"' ∧ c ≠ '\\' ∧ 32 ≤ c.toNat) := by
  unfold escapeChar
  split
  · exact Or.inl ⟨'"', rfl, by decide, rfl⟩
  · exact Or.inl ⟨'\\', rfl, by decide, rfl⟩
  · exact Or.inl ⟨'n', rfl, by decide, rfl⟩
  · exact Or.inl ⟨'r', rfl, by decide, rfl⟩
  · exact Or.inl ⟨'t', rfl, by decide, rfl⟩
  · rename_i hquote hback _ _ _
    have hchar {n : Nat} (hn : c.toNat = n) : Char.ofNat n = c := by
      rw [← hn, Char.ofNat_toNat]
    split
    · rename_i h8
      exact Or.inl ⟨'b', rfl, by decide, congrArg some (hchar h8)⟩
    · split
      · rename_i h12
        exact Or.inl ⟨'f', rfl, by decide, congrArg some (hchar h12)⟩
      · split
        · rename_i h32
          exact Or.inr (Or.inl ⟨rfl, h32⟩)
        · rename_i h32
          exact Or.inr (Or.inr ⟨rfl, hquote, hback, by omega⟩)

theorem escapeChar_of_plain {c : Char} (hquote : c ≠ '"') (hback : c ≠ '\\')
    (hge : 32 ≤ c.toNat) : escapeChar c = [c] := by
  unfold escapeChar
  split
  · exact absurd rfl hquote
  · exact absurd rfl hback
  · exact absurd hge (by decide)
  · exact absurd hge (by decide)
  · exact absurd hge (by decide)
  · rw [if_neg (by omega), if_neg (by omega), if_neg (by omega)]

theorem length_le_length_escape (t : List Char) : t.length ≤ (t.flatMap escapeChar).length := by
  induction t with
  | nil => exact Nat.le_refl 0
  | cons c t ih =>
      have hc : 1 ≤ (escapeChar c).length := by
        rcases escapeChar_cases c with ⟨e, he, -⟩ | ⟨he, -⟩ | ⟨he, -⟩ <;> simp [he]
      rw [List.flatMap_cons, List.length_append, List.length_cons]
      omega

theorem hexValue?_hexChar : ∀ n < 16, hexValue? (hexChar n) = some n := by decide

theorem hexValue?_zero : hexValue? '0' = some 0 := by decide

theorem isBody_escapeChar_append_iff (c : Char) (w : List Char) :
    IsBody (escapeChar c ++ w) ↔ IsBody w := by
  rcases escapeChar_cases c with ⟨e, he, -, -⟩ | ⟨he, hlt⟩ | ⟨he, hquote, hback, -⟩
  · rw [he]
    rfl
  · -- Behind the backslash and its letter there are four digits.
    have hhex : ∀ d ∈ ['0', '0', hexChar (c.toNat / 16), hexChar (c.toNat % 16)],
        (hexValue? d).isSome = true := by
      have hhigh := hexValue?_hexChar (c.toNat / 16) (by omega)
      have hlow := hexValue?_hexChar (c.toNat % 16) (by omega)
      simp [hhigh, hlow, hexValue?_zero]
    have happend := isBody_append_iff_of_plain (w := w) hhex
    rw [he]
    exact happend
  · rw [he, List.singleton_append, isBody_cons_iff hquote hback]

theorem isBody_escape (t : List Char) : IsBody (t.flatMap escapeChar) := by
  induction t with
  | nil => rfl
  | cons c t ih => exact (isBody_escapeChar_append_iff c _).mpr ih

theorem readHex4_control {n : Nat} (h : n < 32) (rest : List Char) :
    readHex4 ('0' :: '0' :: hexChar (n / 16) :: hexChar (n % 16) :: rest) = some (n, rest) := by
  simp only [readHex4, hexValue?_zero, hexValue?_hexChar (n / 16) (by omega),
    hexValue?_hexChar (n % 16) (by omega), Option.some.injEq, Prod.mk.injEq, and_true]
  omega

theorem readBehindHex_of_lt {n : Nat} (h : n < 0xD800) (bound : Nat) (taken : Option (List Char))
    (rest : List Char) : readBehindHex bound taken n rest =
      readString bound (taken.map (Char.ofNat n :: ·)) rest := by
  have hlead : (decide (0xD800 ≤ n) && decide (n < 0xDC00)) = false := by simp; omega
  have htrail : (decide (0xDC00 ≤ n) && decide (n < 0xE000)) = false := by simp; omega
  rw [readBehindHex.eq_def, hlead, htrail]
  rfl

theorem readString_escapeChar (c : Char) (bound : Nat) (taken rest : List Char) :
    readString (bound + 1) (some taken) (escapeChar c ++ rest) =
      readString bound (some (c :: taken)) rest := by
  rcases escapeChar_cases c with ⟨e, he, hne, hescaped⟩ | ⟨he, hlt⟩ | ⟨he, hquote, hback, hge⟩
  · rw [he, List.cons_append, List.singleton_append, readString_escape hne, hescaped]
    rfl
  · have htext : escapeChar c ++ rest = '\\' :: 'u' :: '0' :: '0' :: hexChar (c.toNat / 16) ::
        hexChar (c.toNat % 16) :: rest := by rw [he]; rfl
    rw [htext, readString_hex, readHex4_control hlt, Option.bind_some,
      readBehindHex_of_lt (by omega), Char.ofNat_toNat]
    rfl
  · rw [he, List.singleton_append, readString_cons hquote hback, if_neg (by omega)]
    rfl

/-- What was written between quotes is read back, whatever follows it. -/
theorem readString_escape_append (t taken : List Char) {bound : Nat} (hb : t.length < bound)
    (rest : List Char) : readString bound (some taken) (t.flatMap escapeChar ++ '"' :: rest) =
      some (some (String.ofList (taken.reverse ++ t)), rest) := by
  induction t generalizing taken bound with
  | nil =>
      obtain ⟨bound, rfl⟩ := Nat.exists_eq_succ_of_ne_zero (Nat.ne_zero_of_lt hb)
      simp [readString]
  | cons c t ih =>
      obtain ⟨bound, rfl⟩ := Nat.exists_eq_succ_of_ne_zero (Nat.ne_zero_of_lt hb)
      rw [List.flatMap_cons, List.append_assoc, readString_escapeChar,
        ih _ (Nat.lt_of_succ_lt_succ hb)]
      simp

/-- A string that was written is read back. -/
theorem unquote?_escape (t : List Char) :
    unquote? (t.flatMap escapeChar) = some (String.ofList t) := by
  have hb := Nat.lt_succ_of_le (length_le_length_escape t)
  rw [unquote?, readString_escape_append t [] hb []]
  rfl

end SecretScan.Json
