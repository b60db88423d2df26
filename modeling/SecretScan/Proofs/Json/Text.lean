import SecretScan.Proofs.Json.Numbers
import SecretScan.Proofs.Json.Order
import SecretScan.Proofs.Json.Strings

/-!
# Reading written values

A text spells a value if it is read as that value, whatever follows it. Both the compact form and
the indented one are put together from the spelled forms of items and members, so both are read
back, as long as lists and objects do not nest too deep.
-/

namespace SecretScan.Json

open SecretScan.Decimal

-- A step of the reader is simplified by the equation of what stands at the front of the text.
attribute [local simp] readValue readItems readMembers

/-! ## Gaps -/

/-- Only characters that may stand between the parts of a text. -/
def IsBlank (gap : List Char) : Prop := ∀ c ∈ gap, isGap c = true

theorem isBlank_nil : IsBlank [] := nofun

theorem isBlank_newLine (level : Nat) : IsBlank (newLine level) := by
  refine List.forall_mem_cons.mpr ⟨by decide, fun c hc => ?_⟩
  obtain rfl := (List.mem_replicate.mp hc).2
  decide

theorem dropGap_append {gap : List Char} (h : IsBlank gap) (text : List Char) :
    dropGap (gap ++ text) = dropGap text :=
  List.dropWhile_append_of_pos h

theorem dropGap_cons {c : Char} (h : isGap c = false) (text : List Char) :
    dropGap (c :: text) = c :: text :=
  List.dropWhile_cons_of_neg (by simp [h])

theorem dropGap_append_cons {gap : List Char} (hgap : IsBlank gap) {c : Char}
    (h : isGap c = false) (text : List Char) : dropGap (gap ++ c :: text) = c :: text := by
  rw [dropGap_append hgap, dropGap_cons h]

/-! ## Spelled values -/

/-- A text is read as a document inside `level` lists and objects, whatever follows it that does
not go on with a number. -/
def Spells (level : Nat) (text : List Char) (d : Document) : Prop :=
  ∀ fuel rest, text.length < fuel → Ends rest →
    readValue fuel level (text ++ rest) = some (d, rest)

/-- The items of a list up to its end are read as documents. -/
def SpellsItems (level : Nat) (text : List Char) (ds : List Document) : Prop :=
  ∀ fuel done rest, text.length < fuel →
    readItems fuel level done (text ++ rest) = some (done.reverse ++ ds, rest)

/-- The members of an object up to its end are read as documents with names. -/
def SpellsMembers (level : Nat) (text : List Char) (ms : List (Option String × Document)) : Prop :=
  ∀ fuel done rest, text.length < fuel →
    readMembers fuel level done (text ++ rest) = some (done.reverse ++ ms, rest)

variable {level : Nat} {text gap gap' : List Char} {d : Document} {ds : List Document}
  {ms : List (Option String × Document)}

theorem ends_nil : Ends [] := nofun

/-- What stands between the parts of a text ends a number. -/
theorem ends_append (hgap : IsBlank gap) {c : Char} (hc : c = ',' ∨ c = ']' ∨ c = '}')
    (rest : List Char) : Ends (gap ++ c :: rest) := by
  cases gap with
  | nil =>
      rintro x hx
      obtain rfl := Option.some.inj hx
      rcases hc with rfl | rfl | rfl <;> decide
  | cons g gap =>
      rintro x hx
      obtain rfl := Option.some.inj hx
      have hg : isGap g = true := hgap g List.mem_cons_self
      simp only [isGap, Bool.or_eq_true, beq_iff_eq] at hg
      rcases hg with ((rfl | rfl) | rfl) | rfl <;> decide

theorem readValue_eq_none {c : Char} (h : isGap c = true ∨ c = ']') (fuel level : Nat)
    (rest : List Char) : readValue (fuel + 1) level (c :: rest) = none := by
  simp only [isGap, Bool.or_eq_true, beq_iff_eq] at h
  rcases h with (((rfl | rfl) | rfl) | rfl) | rfl <;> rfl

theorem Spells.exists_cons (h : Spells level text d) :
    ∃ c rest, text = c :: rest ∧ isGap c = false := by
  have hread := h (text.length + 1) [] (Nat.lt_succ_self _) ends_nil
  rw [List.append_nil] at hread
  cases text with
  | nil => cases hread
  | cons c rest =>
      refine ⟨c, rest, rfl, Bool.eq_false_iff.mpr fun hc => ?_⟩
      rw [readValue_eq_none (.inl hc)] at hread
      cases hread

/-- Members begin with the quote of a name. -/
theorem SpellsMembers.exists_cons (h : SpellsMembers level text ms) :
    ∃ rest, text = '"' :: rest := by
  have hread := h (text.length + 1) [] [] (Nat.lt_succ_self _)
  rw [List.append_nil, readMembers.eq_def] at hread
  simp only at hread
  split at hread
  · exact ⟨_, rfl⟩
  · cases hread

/-- Items begin with a character of the first of them. -/
theorem SpellsItems.exists_cons (h : SpellsItems level text ds) :
    ∃ c rest, text = c :: rest ∧ isGap c = false ∧ c ≠ ']' := by
  have hread := h (text.length + 2) [] [] (by omega)
  rw [List.append_nil, readItems] at hread
  cases text with
  | nil => cases hread
  | cons c rest =>
      by_cases hc : isGap c = true ∨ c = ']'
      · rw [readValue_eq_none hc] at hread
        cases hread
      · exact ⟨c, rest, rfl, by simpa using fun h => hc (.inl h), fun h => hc (.inr h)⟩

theorem SpellsItems.last (h : Spells level text d) (hgap : IsBlank gap) :
    SpellsItems level (text ++ gap ++ [']']) [d] := by
  intro fuel done rest hfuel
  obtain ⟨fuel, rfl⟩ := Nat.exists_eq_succ_of_ne_zero (Nat.ne_zero_of_lt hfuel)
  simp only [List.length_append, List.length_singleton] at hfuel
  have hvalue := h fuel (gap ++ ']' :: rest) (by omega) (ends_append hgap (by simp) rest)
  have hend :
      dropGap (gap ++ ']' :: rest) = ']' :: rest := dropGap_append_cons hgap (by decide) rest
  simp only [List.append_assoc, List.singleton_append]
  simp [hvalue, hend]

theorem SpellsItems.cons (h : Spells level text d) (hgap : IsBlank gap) {more : List Char}
    (hmore : SpellsItems level more ds) :
    SpellsItems level (text ++ ',' :: (gap ++ more)) (d :: ds) := by
  intro fuel done rest hfuel
  obtain ⟨fuel, rfl⟩ := Nat.exists_eq_succ_of_ne_zero (Nat.ne_zero_of_lt hfuel)
  simp only [List.length_append, List.length_cons] at hfuel
  have hvalue := h fuel (',' :: (gap ++ (more ++ rest))) (by omega)
    (ends_append isBlank_nil (by simp) _)
  have hcomma : dropGap (',' :: (gap ++ (more ++ rest))) = ',' :: (gap ++ (more ++ rest)) :=
    dropGap_cons (by decide) _
  have hgap : dropGap (gap ++ (more ++ rest)) = more ++ rest := by
    obtain ⟨c, tail, rfl, hc, -⟩ := hmore.exists_cons
    exact dropGap_append_cons hgap hc _
  simp only [List.append_assoc, List.cons_append]
  simp [hvalue, hcomma, hgap, hmore fuel (d :: done) rest (by omega)]

theorem Spells.arr (h : SpellsItems (level + 1) text ds) (hgap : IsBlank gap)
    (hlevel : level < maxDepth) : Spells level ('[' :: (gap ++ text)) (.arr ds) := by
  intro fuel rest hfuel _
  obtain ⟨fuel, rfl⟩ := Nat.exists_eq_succ_of_ne_zero (Nat.ne_zero_of_lt hfuel)
  simp only [List.length_append, List.length_cons] at hfuel
  obtain ⟨c, tail, rfl, hc, hbracket⟩ := h.exists_cons
  have hitems : dropGap (gap ++ (c :: tail ++ rest)) = c :: tail ++ rest :=
    dropGap_append_cons hgap hc _
  rw [List.cons_append, List.append_assoc, readValue_bracket hitems
    fun _ heq => hbracket (List.cons.inj heq).1, h fuel [] rest (by omega)]
  simp [nested, hlevel]

theorem Spells.arr_nil (hlevel : level < maxDepth) : Spells level ['[', ']'] (.arr []) := by
  intro fuel rest hfuel _
  obtain ⟨fuel, rfl⟩ := Nat.exists_eq_succ_of_ne_zero (Nat.ne_zero_of_lt hfuel)
  change some (nested level (.arr []), rest) = _
  rw [nested, if_pos hlevel]

theorem Spells.null : Spells level ['n', 'u', 'l', 'l'] .null := by
  intro fuel rest hfuel _
  obtain ⟨fuel, rfl⟩ := Nat.exists_eq_succ_of_ne_zero (Nat.ne_zero_of_lt hfuel)
  rfl

theorem Spells.bool (b : Bool) : Spells level (scalarText (.bool b)) (.bool b) := by
  intro fuel rest hfuel _
  obtain ⟨fuel, rfl⟩ := Nat.exists_eq_succ_of_ne_zero (Nat.ne_zero_of_lt hfuel)
  cases b <;> rfl

theorem Spells.int {n : Int} (hlow : -(twoTo 63 : Int) ≤ n)
    (hhigh : n < (twoTo 64 : Int)) :
    Spells level (intDigits n) (.int n) := by
  intro fuel rest hfuel hrest
  obtain ⟨fuel, rfl⟩ := Nat.exists_eq_succ_of_ne_zero (Nat.ne_zero_of_lt hfuel)
  exact readValue_intDigits hlow hhigh hrest fuel level

theorem quoted_append (t rest : List Char) :
    quoted t ++ rest = '"' :: (t.flatMap escapeChar ++ '"' :: rest) := by
  simp [quoted]

theorem length_quoted (t : List Char) : t.length + 2 ≤ (quoted t).length := by
  have hlength := length_le_length_escape t
  simp only [quoted, List.length_cons, List.length_append, List.length_nil]
  omega

theorem Spells.str (t : String) : Spells level (quoted t.toList) (.str t) := by
  intro fuel rest hfuel _
  obtain ⟨fuel, rfl⟩ := Nat.exists_eq_succ_of_ne_zero (Nat.ne_zero_of_lt hfuel)
  have hlength := length_quoted t.toList
  have hstring := readString_escape_append t.toList [] (by omega : t.toList.length < fuel) rest
  simp [quoted_append, hstring]

/-! ## Spelled members -/

/-- Behind the name, the gap and the value of a member, an object ends or goes on. -/
theorem readMembers_quoted (name : String) (hgap : IsBlank gap) (hvalue : Spells level text d)
    {fuel : Nat} (hfuel : (quoted name.toList).length + text.length < fuel)
    (done : List (Option String × Document)) {rest : List Char} (hrest : Ends rest) :
    (∀ after, dropGap rest = '}' :: after →
      readMembers (fuel + 1) level done (quoted name.toList ++ ':' :: (gap ++ (text ++ rest))) =
        some (((some name, d) :: done).reverse, after)) ∧
    ∀ after, dropGap rest = ',' :: after →
      readMembers (fuel + 1) level done (quoted name.toList ++ ':' :: (gap ++ (text ++ rest))) =
        readMembers fuel level ((some name, d) :: done) (dropGap after) := by
  have hlength := length_quoted name.toList
  have hname := readString_escape_append name.toList [] (by omega : name.toList.length < fuel)
    (':' :: (gap ++ (text ++ rest)))
  have hcolon : dropGap (':' :: (gap ++ (text ++ rest))) = ':' :: (gap ++ (text ++ rest)) :=
    dropGap_cons (by decide) _
  have hstart : dropGap (gap ++ (text ++ rest)) = text ++ rest := by
    obtain ⟨c, tail, rfl, hc⟩ := hvalue.exists_cons
    exact dropGap_append_cons hgap hc _
  have hread := hvalue fuel rest (by omega) hrest
  constructor
  · intro after hend
    simp [quoted_append, hname, hcolon, hstart, hread, hend]
  · intro after hcomma
    simp [quoted_append, hname, hcolon, hstart, hread, hcomma]

theorem SpellsMembers.last (name : String) (hgap : IsBlank gap) (h : Spells level text d)
    (hgap' : IsBlank gap') :
    SpellsMembers level (quoted name.toList ++ ':' :: (gap ++ text ++ gap' ++ ['}']))
      [(some name, d)] := by
  intro fuel done rest hfuel
  obtain ⟨fuel, rfl⟩ := Nat.exists_eq_succ_of_ne_zero (Nat.ne_zero_of_lt hfuel)
  simp only [List.length_append, List.length_cons, List.length_nil] at hfuel
  have hend : dropGap (gap' ++ '}' :: rest) = '}' :: rest :=
    dropGap_append_cons hgap' (by decide) rest
  simp only [List.append_assoc, List.cons_append, List.nil_append]
  rw [(readMembers_quoted name hgap h (by omega) done (ends_append hgap' (by simp) rest)).1 _ hend]
  simp

theorem SpellsMembers.cons (name : String) (hgap : IsBlank gap) (h : Spells level text d)
    (hgap' : IsBlank gap') {more : List Char} (hmore : SpellsMembers level more ms) :
    SpellsMembers level (quoted name.toList ++ ':' :: (gap ++ text ++ ',' :: (gap' ++ more)))
      ((some name, d) :: ms) := by
  intro fuel done rest hfuel
  obtain ⟨fuel, rfl⟩ := Nat.exists_eq_succ_of_ne_zero (Nat.ne_zero_of_lt hfuel)
  simp only [List.length_append, List.length_cons] at hfuel
  have hcomma : dropGap (',' :: (gap' ++ (more ++ rest))) = ',' :: (gap' ++ (more ++ rest)) :=
    dropGap_cons (by decide) _
  have hstart : dropGap (gap' ++ (more ++ rest)) = more ++ rest := by
    obtain ⟨tail, rfl⟩ := hmore.exists_cons
    exact dropGap_append_cons hgap' (by decide) _
  have hends : Ends (',' :: (gap' ++ (more ++ rest))) := ends_append isBlank_nil (by simp) _
  simp only [List.append_assoc, List.cons_append]
  rw [(readMembers_quoted name hgap h (by omega) done hends).2 _ hcomma]
  simp [hstart, hmore fuel ((some name, d) :: done) rest (by omega)]

theorem Spells.obj (h : SpellsMembers (level + 1) text ms) (hgap : IsBlank gap)
    (hlevel : level < maxDepth) : Spells level ('{' :: (gap ++ text)) (.obj ms) := by
  intro fuel rest hfuel _
  obtain ⟨fuel, rfl⟩ := Nat.exists_eq_succ_of_ne_zero (Nat.ne_zero_of_lt hfuel)
  simp only [List.length_append, List.length_cons] at hfuel
  obtain ⟨tail, rfl⟩ := h.exists_cons
  have hmembers : dropGap (gap ++ ('"' :: tail ++ rest)) = '"' :: tail ++ rest :=
    dropGap_append_cons hgap (by decide) _
  rw [List.cons_append, List.append_assoc, readValue, hmembers]
  simp only [List.cons_append]
  have hread := h fuel [] rest (by omega)
  rw [List.cons_append] at hread
  simp [hread, nested, hlevel]

theorem Spells.obj_nil (hlevel : level < maxDepth) : Spells level ['{', '}'] (.obj []) := by
  intro fuel rest hfuel _
  obtain ⟨fuel, rfl⟩ := Nat.exists_eq_succ_of_ne_zero (Nat.ne_zero_of_lt hfuel)
  change some (nested level (.obj []), rest) = _
  rw [nested, if_pos hlevel]

/-! ## Written values -/

/-- A form in which a value is written inside `level` lists and objects: lists and objects are
spelled if what they hold is. -/
structure IsForm (write : (level : Nat) → Json → List Char) : Prop where
  scalar : ∀ level v, (∀ items, v ≠ .arr items) → (∀ members, v ≠ .obj members) →
    write level v = scalarText v
  arr : ∀ level items, level < maxDepth →
    (∀ v ∈ items, Spells (level + 1) (write (level + 1) v) (Document.ofJson v)) →
    Spells level (write level (.arr items)) (.arr (Document.ofJsonItems items))
  obj : ∀ level members, level < maxDepth →
    (∀ m ∈ members, Spells (level + 1) (write (level + 1) m.2) (Document.ofJson m.2)) →
    Spells level (write level (.obj members)) (.obj (Document.ofJsonMembers members))

/-- The induction is on what a value is put together from; each list or object takes a level. -/
theorem IsForm.spells {write : Nat → Json → List Char} (hform : IsForm write) {v : Json}
    (h : Throughout Plain v) {level : Nat} (hdepth : level + v.depth ≤ maxDepth) :
    Spells level (write level v) (Document.ofJson v) := by
  induction h generalizing level with
  | @intro v here _ ih =>
      cases v with
      | null =>
          rw [hform.scalar level .null nofun nofun]
          exact .null
      | bool b =>
          rw [hform.scalar level (.bool b) nofun nofun]
          exact .bool b
      | int n =>
          rw [hform.scalar level (.int n) nofun nofun]
          exact .int here.1 here.2
      | float x => exact here.elim
      | str s =>
          rw [hform.scalar level (.str s) nofun nofun]
          exact .str s
      | arr items =>
          rw [depth] at hdepth
          have hitems := depthItems_le_iff.mp (Nat.le_refl (depthItems items))
          refine hform.arr level items (by omega) fun v hv => ih v hv ?_
          have := hitems v hv
          omega
      | obj members =>
          rw [depth] at hdepth
          have hmembers := depthMembers_le_iff.mp (Nat.le_refl (depthMembers members))
          refine hform.obj level members (by omega) fun m hm =>
            ih m.2 (List.mem_map_of_mem hm) ?_
          have := hmembers m hm
          omega

theorem IsForm.readDocument? {write : Nat → Json → List Char} (hform : IsForm write) {v : Json}
    (h : Throughout Plain v) (hdepth : v.depth ≤ maxDepth) :
    readDocument? (write 0 v) = some (Document.ofJson v) := by
  have hspells : Spells 0 (write 0 v) (Document.ofJson v) := hform.spells h (by omega)
  have hstart : dropGap (write 0 v) = write 0 v := by
    obtain ⟨c, rest, heq, hc⟩ := hspells.exists_cons
    rw [heq]
    exact dropGap_cons hc rest
  have hread := hspells (2 * (write 0 v).length + 2) [] (by omega) ends_nil
  rw [List.append_nil] at hread
  rw [Json.readDocument?, hstart, hread]
  rfl

/-! ## The compact form -/

theorem spellsItems_render {items : List Json} (hne : items ≠ [])
    (h : ∀ v ∈ items, Spells level v.render (Document.ofJson v)) :
    SpellsItems level (renderItems items) (Document.ofJsonItems items) := by
  induction items with
  | nil => exact absurd rfl hne
  | cons v items ih =>
      obtain ⟨hv, hitems⟩ := List.forall_mem_cons.mp h
      cases items with
      | nil => simpa [renderItems, Document.ofJsonItems] using SpellsItems.last hv isBlank_nil
      | cons w items => exact .cons hv isBlank_nil (ih (List.cons_ne_nil w items) hitems)

theorem spellsMembers_render {members : List (String × Json)} (hne : members ≠ [])
    (h : ∀ m ∈ members, Spells level m.2.render (Document.ofJson m.2)) :
    SpellsMembers level (renderMembers members) (Document.ofJsonMembers members) := by
  induction members with
  | nil => exact absurd rfl hne
  | cons m members ih =>
      obtain ⟨hm, hmembers⟩ := List.forall_mem_cons.mp h
      cases members with
      | nil =>
          simpa [renderMembers, Document.ofJsonMembers] using
            SpellsMembers.last m.1 isBlank_nil hm isBlank_nil
      | cons m' members =>
          exact .cons m.1 isBlank_nil hm isBlank_nil (ih (List.cons_ne_nil m' members) hmembers)

theorem isForm_render : IsForm fun _ => render where
  scalar level v harr hobj := by
    cases v with
    | arr items => exact absurd rfl (harr items)
    | obj members => exact absurd rfl (hobj members)
    | _ => rfl
  arr level items hlevel h := by
    cases items with
    | nil => exact .arr_nil hlevel
    | cons v items =>
        exact .arr (spellsItems_render (List.cons_ne_nil v items) h) isBlank_nil hlevel
  obj level members hlevel h := by
    cases members with
    | nil => exact .obj_nil hlevel
    | cons m members =>
        exact .obj (spellsMembers_render (List.cons_ne_nil m members) h) isBlank_nil hlevel

/-! ## The indented form -/

theorem spellsItems_indented {items : List Json} (htext : Spells level text d)
    (h : ∀ v ∈ items, Spells level (renderIndented level v) (Document.ofJson v))
    (hgap : IsBlank gap) :
    SpellsItems level (text ++ (renderIndentedItems level items ++ (gap ++ [']'])))
      (d :: Document.ofJsonItems items) := by
  induction items generalizing text d with
  | nil => simpa [renderIndentedItems, Document.ofJsonItems] using SpellsItems.last htext hgap
  | cons v items ih =>
      obtain ⟨hv, hitems⟩ := List.forall_mem_cons.mp h
      have hmore := SpellsItems.cons htext (isBlank_newLine level) (ih hv hitems)
      simpa [renderIndentedItems, Document.ofJsonItems] using hmore

theorem spellsMembers_indented {members : List (String × Json)} (name : String)
    (htext : Spells level text d)
    (h : ∀ m ∈ members, Spells level (renderIndented level m.2) (Document.ofJson m.2))
    (hgap : IsBlank gap) :
    SpellsMembers level (quoted name.toList ++
        ':' :: ' ' :: (text ++ (renderIndentedMembers level members ++ (gap ++ ['}']))))
      ((some name, d) :: Document.ofJsonMembers members) := by
  have hblank : IsBlank [' '] := by simp [IsBlank, isGap]
  induction members generalizing name text d with
  | nil =>
      simpa [renderIndentedMembers, Document.ofJsonMembers] using
        SpellsMembers.last name hblank htext hgap
  | cons m members ih =>
      obtain ⟨hm, hmembers⟩ := List.forall_mem_cons.mp h
      have hmore := SpellsMembers.cons name hblank htext (isBlank_newLine level)
        (ih m.1 hm hmembers)
      simpa [renderIndentedMembers, Document.ofJsonMembers] using hmore

theorem isForm_renderIndented : IsForm renderIndented where
  scalar level v harr hobj := by
    cases v with
    | arr items => exact absurd rfl (harr items)
    | obj members => exact absurd rfl (hobj members)
    | _ => rw [renderIndented] <;> nofun
  arr level items hlevel h := by
    cases items with
    | nil => exact .arr_nil hlevel
    | cons v items =>
        obtain ⟨hv, hitems⟩ := List.forall_mem_cons.mp h
        have hspells := spellsItems_indented hv hitems (isBlank_newLine level)
        simpa [renderIndented, Document.ofJsonItems] using
          Spells.arr hspells (isBlank_newLine (level + 1)) hlevel
  obj level members hlevel h := by
    cases members with
    | nil => exact .obj_nil hlevel
    | cons m members =>
        obtain ⟨hm, hmembers⟩ := List.forall_mem_cons.mp h
        have hspells := spellsMembers_indented m.1 hm hmembers (isBlank_newLine level)
        simpa [renderIndented, Document.ofJsonMembers] using
          Spells.obj hspells (isBlank_newLine (level + 1)) hlevel

end SecretScan.Json
