import SecretScan.Proofs.Json.NumberText
import SecretScan.Proofs.Json.Text

/-!
# What a text can be read as

A part of a text has a reading if, wherever it stands among the parts of a list or an object, it is
read to its end as a document with some property, or the whole is not read at all. So a text that is
put together from such parts is read part by part, if it is read.
-/

namespace SecretScan.Json

open SecretScan.Decimal

/-- What follows a part of a text: a gap, the separator, the end of what the part is in, or
nothing. -/
def Closes (rest : List Char) : Prop :=
  ∀ c ∈ rest.head?, isGap c = true ∨ c = ',' ∨ c = ']' ∨ c = '}'

theorem closes_nil : Closes [] := nofun

theorem closes_cons {c : Char} (h : isGap c = true ∨ c = ',' ∨ c = ']' ∨ c = '}')
    (rest : List Char) : Closes (c :: rest) := by
  rintro x hx
  obtain rfl := Option.some.inj hx
  exact h

theorem Closes.ends {rest : List Char} (h : Closes rest) : Ends rest := by
  cases rest with
  | nil => exact ends_nil
  | cons c rest =>
      rcases h c rfl with hgap | hmark
      · rintro x hx
        obtain rfl := Option.some.inj hx
        simp only [isGap, Bool.or_eq_true, beq_iff_eq] at hgap
        rcases hgap with ((rfl | rfl) | rfl) | rfl <;> decide
      · exact ends_append isBlank_nil hmark rest

/-- What goes on with a mark behind a gap closes. -/
theorem closes_of_dropGap {rest after : List Char} {c : Char} (h : dropGap rest = c :: after)
    (hc : c = ',' ∨ c = ']' ∨ c = '}') : Closes rest := by
  cases rest with
  | nil => exact closes_nil
  | cons x rest =>
      by_cases hgap : isGap x = true
      · exact closes_cons (Or.inl hgap) rest
      · rw [dropGap_cons (Bool.eq_false_iff.mpr hgap)] at h
        obtain ⟨rfl, -⟩ := List.cons.inj h
        exact closes_cons (Or.inr hc) rest

/-- Wherever a text stands as a part, it is read to its end as a document with this property, or
what it is a part of is not read. -/
structure HasReading (P : Document → Prop) (text : List Char) : Prop where
  head : ∃ c tail, text = c :: tail ∧ isGap c = false ∧ c ≠ ']'
  read : ∀ fuel level rest d left, text.length < fuel → Closes rest →
    readValue fuel level (text ++ rest) = some (d, left) → Closes left → left = rest ∧ P d

variable {P : Document → Prop} {text : List Char}

theorem HasReading.imp {Q : Document → Prop} (h : HasReading P text) (hPQ : ∀ d, P d → Q d) :
    HasReading Q text where
  head := h.head
  read fuel level rest d left hfuel hrest hread hleft :=
    (h.read fuel level rest d left hfuel hrest hread hleft).imp_right (hPQ d)

/-! ## Parts -/

theorem HasReading.of_spells {d : Document} (h : ∀ level, Spells level text d)
    (hbracket : text.head? ≠ some ']') : HasReading (· = d) text where
  head := by
    obtain ⟨c, tail, rfl, hgap⟩ := (h 0).exists_cons
    exact ⟨c, tail, rfl, hgap, fun hc => hbracket (by rw [hc]; rfl)⟩
  read := by
    intro fuel level rest d' left hfuel hrest hread _
    rw [h level fuel rest hfuel hrest.ends] at hread
    obtain ⟨rfl, rfl⟩ := Prod.mk.inj (Option.some.inj hread)
    exact ⟨rfl, rfl⟩

/-- A body between quotes is read as its string. -/
theorem hasReading_quotes {w : List Char} (h : IsBody w) :
    HasReading (fun d => d.toJson? = (unquote? w).map .str) ('"' :: (w ++ ['"'])) where
  head := ⟨'"', _, rfl, by decide, by decide⟩
  read := by
    obtain ⟨doc, hdoc, hall⟩ := readValue_body h
    intro fuel level rest d left hfuel _ hread _
    simp only [List.length_cons, List.length_append, List.length_nil] at hfuel
    have htext : '"' :: (w ++ ['"']) ++ rest = '"' :: (w ++ '"' :: rest) := by simp
    rw [htext, hall fuel level rest (by omega)] at hread
    obtain ⟨d', rfl, heq⟩ := Option.map_eq_some_iff.mp hread
    obtain ⟨rfl, rfl⟩ := Prod.mk.inj heq
    exact ⟨rfl, hdoc⟩

/-- No number is written with a gap or a mark. -/
theorem ne_of_mem_numberChars {c : Char} (h : c ∈ numberChars) :
    isGap c = false ∧ c ≠ ',' ∧ c ≠ ']' ∧ c ≠ '}' := by
  have hall : numberChars.all
      (fun c => !isGap c && (c != ',' && (c != ']' && c != '}'))) = true := by
    decide
  simpa using List.all_eq_true.mp hall c h

theorem not_closes_of_mem {c : Char} (h : c ∈ numberChars) (rest : List Char) :
    ¬ Closes (c :: rest) := by
  obtain ⟨hgap, hcomma, hbracket, hbrace⟩ := ne_of_mem_numberChars h
  intro hcloses
  rcases hcloses c rfl with hc | hc | hc | hc
  · exact Bool.eq_false_iff.mp hgap hc
  · exact hcomma hc
  · exact hbracket hc
  · exact hbrace hc

/-- What begins like a number is read as one. -/
theorem readValue_number {c : Char} (h : c ∈ numberChars) (fuel level : Nat) (text : List Char) :
    readValue (fuel + 1) level (c :: text) =
      if c = '-' then readNumber true text else readNumber false (c :: text) := by
  by_cases hc : c = '-'
  · subst hc
    rfl
  · rw [if_neg hc, readValue]
    all_goals
      intro rest heq
      obtain rfl := (List.cons.inj heq).1
      first
        | exact hc rfl
        | exact absurd h (by decide)

/-- A value that begins like a number takes characters of numbers, and is the value of what it
takes. -/
theorem readValue_number_eq_some {c : Char} (h : c ∈ numberChars) {fuel level : Nat}
    {text left : List Char} {d : Document}
    (hread : readValue fuel level (c :: text) = some (d, left)) :
    ∃ taken, c :: text = taken ++ left ∧ (∀ x ∈ taken, x ∈ numberChars) ∧
      readValue 1 0 taken = some (d, []) ∧
      ((∀ x ∈ taken, isDigit x = true ∨ x = '-') ∨ IsFloating d) := by
  obtain ⟨fuel, rfl⟩ : ∃ n, fuel = n + 1 := by
    cases fuel with
    | zero => simp [readValue] at hread
    | succ fuel => exact ⟨fuel, rfl⟩
  rw [readValue_number h] at hread
  split at hread
  · rename_i hc
    subst hc
    obtain ⟨taken, rfl, -, hchars, htaken, hkind⟩ := readNumber_eq_some hread
    refine ⟨'-' :: taken, rfl, List.forall_mem_cons.mpr ⟨h, hchars⟩, htaken, ?_⟩
    refine hkind.imp_left fun hdigits => ?_
    exact List.forall_mem_cons.mpr ⟨Or.inr rfl, fun x hx => Or.inl (hdigits x hx)⟩
  · rename_i hc
    obtain ⟨taken, htext, hne, hchars, htaken, hkind⟩ := readNumber_eq_some hread
    obtain ⟨c', taken, rfl⟩ := List.exists_cons_of_ne_nil hne
    obtain ⟨rfl, rfl⟩ := List.cons.inj htext
    refine ⟨c :: taken, rfl, hchars, ?_, hkind.imp_left fun hdigits x hx => Or.inl (hdigits x hx)⟩
    rw [readValue_number h, if_neg hc, htaken]

/-- Of two ways to cut a text, one behind characters of numbers only, the other in front of
something else: the first cut is not behind the second. -/
theorem exists_left_eq {front taken rest left : List Char} (htext : front ++ rest = taken ++ left)
    (htaken : ∀ c ∈ taken, c ∈ numberChars) (hrest : ∀ c ∈ rest.head?, c ∉ numberChars) :
    ∃ more, front = taken ++ more ∧ left = more ++ rest := by
  rcases List.append_eq_append_iff.mp htext with ⟨more, rfl, rfl⟩ | ⟨more, rfl, hleft⟩
  · cases more with
    | nil => exact ⟨[], by simp⟩
    | cons c more => exact absurd (htaken c (by simp)) (hrest c rfl)
  · exact ⟨more, rfl, hleft⟩

theorem readDocument?_number {c : Char} (h : c ∈ numberChars) {text : List Char} {d : Document}
    (hread : readValue 1 0 (c :: text) = some (d, [])) : readDocument? (c :: text) = some d := by
  have hstart : dropGap (c :: text) = c :: text := dropGap_cons (ne_of_mem_numberChars h).1 text
  rw [readValue_number h] at hread
  rw [readDocument?, hstart, readValue_number h, hread]
  rfl

/-- A text of characters of numbers is read as what it is read as by itself. -/
theorem hasReading_number (hne : text ≠ []) (htext : ∀ c ∈ text, c ∈ numberChars) :
    HasReading (fun d => readDocument? text = some d ∧
      ((∀ c ∈ text, isDigit c = true ∨ c = '-') ∨ IsFloating d)) text where
  head := by
    obtain ⟨c, tail, rfl⟩ := List.exists_cons_of_ne_nil hne
    obtain ⟨hgap, -, hbracket, -⟩ := ne_of_mem_numberChars (htext c List.mem_cons_self)
    exact ⟨c, tail, rfl, hgap, hbracket⟩
  read := by
    intro fuel level rest d left _ hrest hread hleft
    obtain ⟨c, tail, rfl⟩ := List.exists_cons_of_ne_nil hne
    obtain ⟨taken, htaken, hchars, hvalue, hkind⟩ :=
      readValue_number_eq_some (htext c List.mem_cons_self) hread
    have hnot : ∀ x ∈ rest.head?, x ∉ numberChars := by
      intro x hx hmem
      obtain ⟨tail, rfl⟩ := List.head?_eq_some_iff.mp hx
      exact not_closes_of_mem hmem tail hrest
    have htaken : c :: tail ++ rest = taken ++ left := htaken
    obtain ⟨more, hmore, rfl⟩ := exists_left_eq htaken hchars hnot
    cases more with
    | nil =>
        rw [List.append_nil] at hmore
        rw [← hmore] at hvalue hkind
        exact ⟨rfl, readDocument?_number (htext c List.mem_cons_self) hvalue, hkind⟩
    | cons x more => exact absurd hleft (not_closes_of_mem (htext x (by rw [hmore]; simp)) _)

/-- A bracket behind characters of numbers, and then something that begins no value: that is not
read, wherever it stands. -/
theorem hasReading_false {front : List Char} (hfront : ∀ c ∈ front, c ∈ numberChars) {x : Char}
    (hx : ∀ fuel level rest, readValue fuel level (x :: rest) = none) (hgap : isGap x = false)
    (hbracket : x ≠ ']') (more : List Char) :
    HasReading (fun _ => False) (front ++ '[' :: x :: more) where
  head := by
    cases front with
    | nil => exact ⟨'[', _, rfl, by decide, by decide⟩
    | cons c front =>
        obtain ⟨hc, -, hne, -⟩ := ne_of_mem_numberChars (hfront c List.mem_cons_self)
        exact ⟨c, _, rfl, hc, hne⟩
  read := by
    intro fuel level rest d left hfuel _ hread hleft
    exfalso
    obtain ⟨fuel, rfl⟩ := Nat.exists_eq_succ_of_ne_zero (Nat.ne_zero_of_lt hfuel)
    cases front with
    | nil =>
        have hitems : dropGap (x :: (more ++ rest)) = x :: (more ++ rest) := dropGap_cons hgap _
        have hnone : readItems fuel (level + 1) [] (x :: (more ++ rest)) = none := by
          cases fuel with
          | zero => rfl
          | succ fuel => rw [readItems, hx]
        have htext : [] ++ '[' :: x :: more ++ rest = '[' :: x :: (more ++ rest) := rfl
        rw [htext, readValue_bracket hitems fun _ h => hbracket (List.cons.inj h).1, hnone] at hread
        simp at hread
    | cons c front =>
        obtain ⟨taken, htaken, hchars, -⟩ :=
          readValue_number_eq_some (hfront c List.mem_cons_self) hread
        have htaken : c :: front ++ ('[' :: x :: (more ++ rest)) = taken ++ left := by
          rw [← htaken]
          simp
        have hnot : '[' ∉ numberChars := by decide
        obtain ⟨behind, hbehind, rfl⟩ := exists_left_eq htaken hchars
          fun y hy => by obtain rfl := Option.some.inj hy; exact hnot
        cases behind with
        | nil => exact absurd (hleft '[' rfl) (by decide)
        | cons y behind =>
            exact not_closes_of_mem (hfront y (by rw [hbehind]; simp)) _ hleft

/-! ## Lists and objects -/

/-- An item is read, and then the list ends or goes on. -/
theorem readItems_step {fuel level : Nat} {done ds : List Document} {text left : List Char}
    (h : readItems (fuel + 1) level done text = some (ds, left)) :
    ∃ d rest, readValue fuel level text = some (d, rest) ∧
      ((dropGap rest = ']' :: left ∧ ds = done.reverse ++ [d]) ∨
        ∃ after, dropGap rest = ',' :: after ∧
          readItems fuel level (d :: done) (dropGap after) = some (ds, left)) := by
  rw [readItems] at h
  split at h
  · simp at h
  · rename_i d rest hread
    refine ⟨d, rest, hread, ?_⟩
    split at h
    · rename_i hend
      obtain ⟨rfl, rfl⟩ := Prod.mk.inj (Option.some.inj h)
      exact Or.inl ⟨hend, List.reverse_cons⟩
    · rename_i after hcomma
      exact Or.inr ⟨after, hcomma, h⟩
    · simp at h

/-- A member is read, its name and its value, and then the object ends or goes on. -/
theorem readMembers_step {fuel level : Nat} {done ms : List (Option String × Document)}
    {text left : List Char}
    (h : readMembers (fuel + 1) level done ('"' :: text) = some (ms, left)) :
    ∃ name rest value d behind, readString fuel (some []) text = some (name, rest) ∧
      dropGap rest = ':' :: value ∧ readValue fuel level (dropGap value) = some (d, behind) ∧
      ((dropGap behind = '}' :: left ∧ ms = done.reverse ++ [(name, d)]) ∨
        ∃ after, dropGap behind = ',' :: after ∧
          readMembers fuel level ((name, d) :: done) (dropGap after) = some (ms, left)) := by
  rw [readMembers] at h
  split at h
  · simp at h
  · rename_i name rest hname
    split at h
    · rename_i value hcolon
      split at h
      · simp at h
      · rename_i d behind hvalue
        refine ⟨name, rest, value, d, behind, hname, hcolon, hvalue, ?_⟩
        split at h
        · rename_i hend
          obtain ⟨rfl, rfl⟩ := Prod.mk.inj (Option.some.inj h)
          exact Or.inl ⟨hend, List.reverse_cons⟩
        · rename_i after hcomma
          exact Or.inr ⟨after, hcomma, h⟩
        · simp at h
    · simp at h

theorem HasReading.item (h : HasReading P text) {fuel level : Nat} {done ds : List Document}
    {c : Char} {rest left : List Char} (hc : c = ',' ∨ c = ']') (hfuel : text.length < fuel)
    (hread : readItems (fuel + 1) level done (text ++ c :: rest) = some (ds, left)) :
    ∃ d, P d ∧ ((c = ']' ∧ rest = left ∧ ds = done.reverse ++ [d]) ∨
      (c = ',' ∧ readItems fuel level (d :: done) (dropGap rest) = some (ds, left))) := by
  obtain ⟨d, behind, hvalue, hnext⟩ := readItems_step hread
  have hleft : Closes behind := by
    rcases hnext with ⟨hend, -⟩ | ⟨after, hcomma, -⟩
    · exact closes_of_dropGap hend (by decide)
    · exact closes_of_dropGap hcomma (by decide)
  have hrest : Closes (c :: rest) := closes_cons (by rcases hc with rfl | rfl <;> decide) rest
  obtain ⟨rfl, hd⟩ := h.read _ _ _ _ _ hfuel hrest hvalue hleft
  refine ⟨d, hd, ?_⟩
  have hgap : isGap c = false := by rcases hc with rfl | rfl <;> decide
  rw [dropGap_cons hgap] at hnext
  rcases hnext with ⟨hend, rfl⟩ | ⟨after, hcomma, hmore⟩
  · obtain ⟨rfl, rfl⟩ := List.cons.inj hend
    exact Or.inl ⟨rfl, rfl, rfl⟩
  · obtain ⟨rfl, rfl⟩ := List.cons.inj hcomma
    exact Or.inr ⟨rfl, hmore⟩

theorem readString_eq_unquote? {w : List Char} (h : IsBody w) {fuel : Nat} (hfuel : w.length < fuel)
    {rest behind : List Char} {name : Option String}
    (hread : readString fuel (some []) (w ++ '"' :: rest) = some (name, behind)) :
    name = unquote? w ∧ behind = rest := by
  obtain ⟨s, hs⟩ := readString_body h (some [])
  rw [hs fuel rest hfuel] at hread
  obtain ⟨name', rfl, heq⟩ := Option.map_eq_some_iff.mp hread
  obtain ⟨rfl, rfl⟩ := Prod.mk.inj heq
  rw [unquote?, hs _ [] (Nat.lt_succ_self _)]
  exact ⟨rfl, rfl⟩

theorem HasReading.member (h : HasReading P text) {w : List Char} (hw : IsBody w) {fuel level : Nat}
    {done ms : List (Option String × Document)} {c : Char} {rest left : List Char}
    (hc : c = ',' ∨ c = '}') (hname : w.length < fuel) (hfuel : text.length < fuel)
    (hread : readMembers (fuel + 1) level done ('"' :: (w ++ '"' :: ':' :: (text ++ c :: rest))) =
      some (ms, left)) :
    ∃ d, P d ∧ ((c = '}' ∧ rest = left ∧ ms = done.reverse ++ [(unquote? w, d)]) ∨
      (c = ',' ∧ readMembers fuel level ((unquote? w, d) :: done) (dropGap rest) =
        some (ms, left))) := by
  obtain ⟨name, behindName, value, d, behind, hstring, hcolon, hvalue, hnext⟩ :=
    readMembers_step hread
  obtain ⟨rfl, rfl⟩ := readString_eq_unquote? hw hname hstring
  rw [dropGap_cons (by decide)] at hcolon
  obtain ⟨-, rfl⟩ := List.cons.inj hcolon
  have hstart : dropGap (text ++ c :: rest) = text ++ c :: rest := by
    obtain ⟨x, tail, rfl, hgap, -⟩ := h.head
    exact dropGap_cons hgap _
  rw [hstart] at hvalue
  have hleft : Closes behind := by
    rcases hnext with ⟨hend, -⟩ | ⟨after, hcomma, -⟩
    · exact closes_of_dropGap hend (by decide)
    · exact closes_of_dropGap hcomma (by decide)
  have hrest : Closes (c :: rest) := closes_cons (by rcases hc with rfl | rfl <;> decide) rest
  obtain ⟨rfl, hd⟩ := h.read _ _ _ _ _ hfuel hrest hvalue hleft
  refine ⟨d, hd, ?_⟩
  have hgap : isGap c = false := by rcases hc with rfl | rfl <;> decide
  rw [dropGap_cons hgap] at hnext
  rcases hnext with ⟨hend, rfl⟩ | ⟨after, hcomma, hmore⟩
  · obtain ⟨rfl, rfl⟩ := List.cons.inj hend
    exact Or.inl ⟨rfl, rfl, rfl⟩
  · obtain ⟨rfl, rfl⟩ := List.cons.inj hcomma
    exact Or.inr ⟨rfl, hmore⟩

theorem readValue_brace {text members : List Char} (hgap : dropGap text = members)
    (h : ∀ rest, members ≠ '}' :: rest) (fuel level : Nat) :
    readValue (fuel + 1) level ('{' :: text) =
      (readMembers fuel (level + 1) [] members).map fun r =>
      (nested level (.obj r.1), r.2) := by
  rw [readValue, hgap]
  split
  · rename_i rest
    exact absurd rfl (h rest)
  · rfl

theorem nested_cases (level : Nat) (d : Document) :
    nested level d = .fault ∨ nested level d = d := by
  unfold nested
  split
  · exact Or.inr rfl
  · exact Or.inl rfl

/-- The items of a list to its end, from their texts. -/
def itemsText : List (List Char) → List Char
  | [] => [']']
  | [t] => t ++ [']']
  | t :: rest => t ++ ',' :: itemsText rest

/-- The members of an object to its end, from the bodies of their names and the texts of their
values. -/
def membersText : List (List Char × List Char) → List Char
  | [] => ['}']
  | [(w, t)] => '"' :: (w ++ '"' :: ':' :: (t ++ ['}']))
  | (w, t) :: rest => '"' :: (w ++ '"' :: ':' :: (t ++ ',' :: membersText rest))

section Parts

variable {α : Type} {P : α → Document → Prop} {body text : α → List Char}

theorem itemsText_cons_cons (t u : List Char) (rest : List (List Char)) :
    itemsText (t :: u :: rest) = t ++ ',' :: itemsText (u :: rest) := rfl

theorem membersText_cons_cons (m m' : List Char × List Char) (rest : List (List Char × List Char)) :
    membersText (m :: m' :: rest) =
      '"' :: (m.1 ++ '"' :: ':' :: (m.2 ++ ',' :: membersText (m' :: rest))) := rfl

/-- The rest of an object begins with the quote of its next name. -/
theorem exists_membersText_eq_cons (m : List Char × List Char)
    (ms : List (List Char × List Char)) : ∃ tail, membersText (m :: ms) = '"' :: tail := by
  cases ms with
  | nil => exact ⟨_, rfl⟩
  | cons m' ms => exact ⟨_, rfl⟩

theorem dropGap_membersText (f : α → List Char × List Char) (a : α) (as : List α)
    (rest : List Char) :
    dropGap (membersText ((a :: as).map f) ++ rest) = membersText ((a :: as).map f) ++ rest := by
  obtain ⟨tail, heq⟩ := exists_membersText_eq_cons (f a) (as.map f)
  rw [List.map_cons, heq]
  exact dropGap_cons (by decide) _

/-- The rest of a list begins with what its next item begins with. -/
theorem exists_itemsText_eq_cons {a : α} (h : HasReading (P a) (text a)) (as : List α) :
    ∃ c tail, itemsText ((a :: as).map text) = c :: tail ∧ isGap c = false ∧ c ≠ ']' := by
  obtain ⟨c, tail, heq, hc⟩ := h.head
  cases as with
  | nil => exact ⟨c, tail ++ [']'], by simp [itemsText, heq], hc⟩
  | cons b as =>
      exact ⟨c, _, by rw [List.map_cons, List.map_cons, itemsText_cons_cons, heq]; rfl, hc⟩

theorem dropGap_itemsText {a : α} {as : List α} (h : HasReading (P a) (text a)) (rest : List Char) :
    dropGap (itemsText ((a :: as).map text) ++ rest) = itemsText ((a :: as).map text) ++ rest := by
  obtain ⟨c, tail, heq, hgap, -⟩ := exists_itemsText_eq_cons h as
  rw [heq, List.cons_append, dropGap_cons hgap]

/-- The items of a list are read one by one. -/
theorem readItems_eq_some {a : α} {as : List α} (h : ∀ b ∈ a :: as, HasReading (P b) (text b))
    {fuel level : Nat} {done ds : List Document} {rest left : List Char}
    (hfuel : (itemsText ((a :: as).map text)).length < fuel)
    (hread : readItems fuel level done (itemsText ((a :: as).map text) ++ rest) = some (ds, left)) :
    left = rest ∧ ∃ new, ds = done.reverse ++ new ∧ List.Forall₂ P (a :: as) new := by
  induction as generalizing a fuel done with
  | nil =>
      have htext : itemsText ([a].map text) ++ rest = text a ++ ']' :: rest := by simp [itemsText]
      rw [htext] at hread
      simp only [List.map_cons, List.map_nil, itemsText, List.length_append,
        List.length_cons] at hfuel
      obtain ⟨fuel, rfl⟩ := Nat.exists_eq_succ_of_ne_zero (Nat.ne_zero_of_lt hfuel)
      obtain ⟨d, hd, ⟨-, rfl, rfl⟩ | ⟨hcomma, -⟩⟩ :=
        (h a List.mem_cons_self).item (Or.inr rfl) (by omega) hread
      · exact ⟨rfl, [d], rfl, .cons hd .nil⟩
      · exact absurd hcomma (by decide)
  | cons b as ih =>
      have htext : itemsText ((a :: b :: as).map text) ++ rest =
          text a ++ ',' :: (itemsText ((b :: as).map text) ++ rest) := by
        simp [itemsText_cons_cons]
      have hlength : (itemsText ((a :: b :: as).map text)).length =
          (text a).length + ((itemsText ((b :: as).map text)).length + 1) := by
        simp [itemsText_cons_cons]
      have has : ∀ b' ∈ b :: as, HasReading (P b') (text b') :=
        fun b' hb' => h b' (List.mem_cons_of_mem a hb')
      rw [htext] at hread
      obtain ⟨fuel, rfl⟩ := Nat.exists_eq_succ_of_ne_zero (Nat.ne_zero_of_lt hfuel)
      obtain ⟨d, hd, ⟨hbracket, -⟩ | ⟨-, hmore⟩⟩ :=
        (h a List.mem_cons_self).item (Or.inl rfl) (by omega) hread
      · exact absurd hbracket (by decide)
      · rw [dropGap_itemsText (has b List.mem_cons_self)] at hmore
        obtain ⟨rfl, new, rfl, hnew⟩ := ih has (by omega) hmore
        exact ⟨rfl, d :: new, by simp, .cons hd hnew⟩

/-- The members of an object are read one by one. -/
theorem readMembers_eq_some {a : α} {as : List α}
    (h : ∀ b ∈ a :: as, IsBody (body b) ∧ HasReading (P b) (text b)) {fuel level : Nat}
    {done ms : List (Option String × Document)} {rest left : List Char}
    (hfuel : (membersText ((a :: as).map fun b => (body b, text b))).length < fuel)
    (hread : readMembers fuel level done
      (membersText ((a :: as).map fun b => (body b, text b)) ++ rest) = some (ms, left)) :
    left = rest ∧ ∃ new, ms = done.reverse ++ new ∧
      List.Forall₂ (fun b m => m.1 = unquote? (body b) ∧ P b m.2) (a :: as) new := by
  induction as generalizing a fuel done with
  | nil =>
      have htext : membersText ([a].map fun b => (body b, text b)) ++ rest =
          '"' :: (body a ++ '"' :: ':' :: (text a ++ '}' :: rest)) := by simp [membersText]
      rw [htext] at hread
      simp only [List.map_cons, List.map_nil, membersText, List.length_append,
        List.length_cons] at hfuel
      obtain ⟨fuel, rfl⟩ := Nat.exists_eq_succ_of_ne_zero (Nat.ne_zero_of_lt hfuel)
      obtain ⟨hbody, htext⟩ := h a List.mem_cons_self
      obtain ⟨d, hd, ⟨-, rfl, rfl⟩ | ⟨hcomma, -⟩⟩ :=
        htext.member hbody (Or.inr rfl) (by omega) (by omega) hread
      · exact ⟨rfl, [(unquote? (body a), d)], rfl, .cons ⟨rfl, hd⟩ .nil⟩
      · exact absurd hcomma (by decide)
  | cons b as ih =>
      have htext : membersText ((a :: b :: as).map fun b => (body b, text b)) ++ rest =
          '"' :: (body a ++ '"' :: ':' :: (text a ++ ',' ::
            (membersText ((b :: as).map fun b => (body b, text b)) ++ rest))) := by
        simp [membersText_cons_cons]
      have hlength : (membersText ((a :: b :: as).map fun b => (body b, text b))).length =
          (body a).length + ((text a).length +
            ((membersText ((b :: as).map fun b => (body b, text b))).length + 4)) := by
        simp only [List.map_cons, membersText_cons_cons, List.length_cons, List.length_append]
        omega
      have has : ∀ b' ∈ b :: as, IsBody (body b') ∧ HasReading (P b') (text b') :=
        fun b' hb' => h b' (List.mem_cons_of_mem a hb')
      rw [htext] at hread
      obtain ⟨fuel, rfl⟩ := Nat.exists_eq_succ_of_ne_zero (Nat.ne_zero_of_lt hfuel)
      obtain ⟨hbody, htext⟩ := h a List.mem_cons_self
      obtain ⟨d, hd, ⟨hbrace, -⟩ | ⟨-, hmore⟩⟩ :=
        htext.member hbody (Or.inl rfl) (by omega) (by omega) hread
      · exact absurd hbrace (by decide)
      · rw [dropGap_membersText] at hmore
        obtain ⟨rfl, new, rfl, hnew⟩ := ih has (by omega) hmore
        exact ⟨rfl, (unquote? (body a), d) :: new, by simp, .cons ⟨rfl, hd⟩ hnew⟩

theorem HasReading.arr {as : List α} (h : ∀ b ∈ as, HasReading (P b) (text b)) :
    HasReading (fun d => d = .fault ∨ ∃ ds, d = .arr ds ∧ List.Forall₂ P as ds)
      ('[' :: itemsText (as.map text)) where
  head := ⟨'[', _, rfl, by decide, by decide⟩
  read := by
    intro fuel level rest d left hfuel _ hread _
    obtain ⟨fuel, rfl⟩ := Nat.exists_eq_succ_of_ne_zero (Nat.ne_zero_of_lt hfuel)
    rw [List.length_cons] at hfuel
    cases as with
    | nil =>
        have hread : some (nested level (.arr []), rest) = some (d, left) := hread
        obtain ⟨rfl, rfl⟩ := Prod.mk.inj (Option.some.inj hread)
        exact ⟨rfl, (nested_cases level (.arr [])).imp_right fun h => ⟨[], h, .nil⟩⟩
    | cons a as =>
        have ha := h a List.mem_cons_self
        obtain ⟨c, tail, heq, hgap, hbracket⟩ := exists_itemsText_eq_cons ha as
        rw [List.cons_append, readValue_bracket (dropGap_itemsText ha rest)
          fun _ h => by rw [heq] at h; exact hbracket (List.cons.inj h).1] at hread
        obtain ⟨⟨ds, behind⟩, hitems, hd⟩ := Option.map_eq_some_iff.mp hread
        obtain ⟨rfl, rfl⟩ := Prod.mk.inj hd
        obtain ⟨rfl, new, hds, hnew⟩ := readItems_eq_some h (by omega) hitems
        obtain rfl : ds = new := hds
        exact ⟨rfl, (nested_cases level _).imp_right fun h => ⟨ds, h, hnew⟩⟩

theorem HasReading.obj {as : List α} (h : ∀ b ∈ as, IsBody (body b) ∧ HasReading (P b) (text b)) :
    HasReading (fun d => d = .fault ∨ ∃ ms, d = .obj ms ∧
        List.Forall₂ (fun b m => m.1 = unquote? (body b) ∧ P b m.2) as ms)
      ('{' :: membersText (as.map fun b => (body b, text b))) where
  head := ⟨'{', _, rfl, by decide, by decide⟩
  read := by
    intro fuel level rest d left hfuel _ hread _
    obtain ⟨fuel, rfl⟩ := Nat.exists_eq_succ_of_ne_zero (Nat.ne_zero_of_lt hfuel)
    rw [List.length_cons] at hfuel
    cases as with
    | nil =>
        have hread : some (nested level (.obj []), rest) = some (d, left) := hread
        obtain ⟨rfl, rfl⟩ := Prod.mk.inj (Option.some.inj hread)
        exact ⟨rfl, (nested_cases level (.obj [])).imp_right fun h => ⟨[], h, .nil⟩⟩
    | cons a as =>
        obtain ⟨tail, heq⟩ := exists_membersText_eq_cons (body a, text a)
          (as.map fun b => (body b, text b))
        rw [List.cons_append, readValue_brace (dropGap_membersText _ a as rest)
          fun _ h => by rw [List.map_cons, heq] at h; exact absurd (List.cons.inj h).1 (by decide)]
          at hread
        obtain ⟨⟨ms, behind⟩, hmembers, hd⟩ := Option.map_eq_some_iff.mp hread
        obtain ⟨rfl, rfl⟩ := Prod.mk.inj hd
        obtain ⟨rfl, new, hms, hnew⟩ := readMembers_eq_some h (by omega) hmembers
        obtain rfl : ms = new := hms
        exact ⟨rfl, (nested_cases level _).imp_right fun h => ⟨ms, h, hnew⟩⟩

end Parts

/-! ## Documents -/

theorem HasReading.readDocument? (h : HasReading P text) {d : Document}
    (hread : readDocument? text = some d) : P d := by
  obtain ⟨c, tail, rfl, hgap, -⟩ := h.head
  have hstart : dropGap (c :: tail) = c :: tail := dropGap_cons hgap tail
  rw [Json.readDocument?, hstart] at hread
  split at hread
  · simp at hread
  · rename_i d' left hvalue
    rw [Option.ite_none_right_eq_some] at hread
    obtain ⟨hempty, hd⟩ := hread
    obtain rfl := Option.some.inj hd
    have hleft : Closes left := by
      cases left with
      | nil => exact closes_nil
      | cons x left =>
          by_cases hx : isGap x = true
          · exact closes_cons (Or.inl hx) left
          · rw [dropGap_cons (Bool.eq_false_iff.mpr hx)] at hempty
            simp at hempty
    rw [← List.append_nil (c :: tail)] at hvalue
    exact (h.read _ _ [] _ _ (by simp; omega) closes_nil hvalue hleft).2

end SecretScan.Json
