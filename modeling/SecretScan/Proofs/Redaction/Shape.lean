import SecretScan.Proofs.Json.Shape
import SecretScan.Proofs.Redaction.Lists
import SecretScan.Proofs.Redaction.Numbers

/-!
# The shape of a redacted value

A value is redacted through its compact text. Rules that stop at the marks between the parts of it
redact each part by itself. So the value that is read back, if one is, has the parts of the first:
numbers, booleans and null as they were, since a number that a rule changes is not read, strings and
names as the rules make them. Only where two names of an object become equal a member is lost, and a
number that is not whole may be read as a neighbour of itself.
-/

namespace SecretScan

open ActiveRule

/-! ## What is expected -/

namespace Json

/-- Whole numbers have 64 bits, and the others are finite. -/
def Numeric : Json → Prop
  | int n => -(Decimal.twoTo 63 : Int) ≤ n ∧ n < (Decimal.twoTo 64 : Int)
  | float x => (Decimal.Binary.ofFloat? x).isSome = true
  | _ => True

/-- The written form of the first number is read as the second. -/
def ReadsBackAs (x y : Float) : Prop := parse? (floatText x) = some (.float y)

/-- The number a value is, if it is one that need not be whole. -/
def float? : Json → Option Float
  | float x => some x
  | _ => none

theorem readsBackAs_iff {x y : Float} :
    ReadsBackAs x y ↔ (parse? (floatText x)).bind float? = some y := by
  constructor
  · intro h
    rw [h]
    rfl
  · intro h
    obtain ⟨v, hv, hy⟩ := Option.bind_eq_some_iff.mp h
    cases v with
    | float z => exact hv.trans (congrArg (some ∘ float) (Option.some.inj hy))
    | _ => cases hy

instance (x y : Float) : Decidable (ReadsBackAs x y) := decidable_of_iff _ readsBackAs_iff.symm

end Json

mutual

/-- What rules make of a value part by part, strings and names through their written forms; none
if a part can no longer be read. -/
def redacted? (rules : List ActiveRule) : Json → Option Json
  | .str s => (throughQuotes? rules s).map .str
  | .float x => Json.parse? (Json.floatText x)
  | .arr items => (redactedItems? rules items).map .arr
  | .obj members => (redactedMembers? rules members).map .ofMembers
  | v => some v

/-- What rules make of several values. -/
def redactedItems? (rules : List ActiveRule) : List Json → Option (List Json)
  | [] => some []
  | v :: rest =>
    match redacted? rules v, redactedItems? rules rest with
    | some w, some ws => some (w :: ws)
    | _, _ => none

/-- What rules make of several members. -/
def redactedMembers? (rules : List ActiveRule) :
    List (String × Json) → Option (List (String × Json))
  | [] => some []
  | (n, v) :: rest =>
    match throughQuotes? rules n, redacted? rules v, redactedMembers? rules rest with
    | some n, some w, some ws => some ((n, w) :: ws)
    | _, _, _ => none

end

/-- The redacted names of an object are distinct. -/
def NamesStayDistinct (rules : List ActiveRule) : Json → Prop
  | .obj members => (members.map fun m => throughQuotes? rules m.1).Nodup
  | _ => True

variable {rules : List ActiveRule} {v w : Json}

theorem redactedItems?_eq (items : List Json) :
    redactedItems? rules items = items.mapM (redacted? rules) := by
  induction items with
  | nil => rfl
  | cons v items ih =>
      rw [redactedItems?, ih, List.mapM_cons]
      cases redacted? rules v <;> cases items.mapM (redacted? rules) <;> rfl

/-- What rules make of a member. -/
def redactedMember? (rules : List ActiveRule) (m : String × Json) : Option (String × Json) :=
  (throughQuotes? rules m.1).bind fun n => (redacted? rules m.2).map fun w => (n, w)

theorem redactedMembers?_eq (members : List (String × Json)) :
    redactedMembers? rules members = members.mapM (redactedMember? rules) := by
  induction members with
  | nil => rfl
  | cons m members ih =>
      rw [redactedMembers?, ih, List.mapM_cons, redactedMember?]
      cases throughQuotes? rules m.1 <;> cases redacted? rules m.2 <;>
        cases members.mapM (redactedMember? rules) <;> rfl

theorem redactedMember?_eq_some_iff {m m' : String × Json} :
    redactedMember? rules m = some m' ↔
      throughQuotes? rules m.1 = some m'.1 ∧ redacted? rules m.2 = some m'.2 := by
  obtain ⟨n, w⟩ := m'
  simp only [redactedMember?, Option.bind_eq_some_iff, Option.map_eq_some_iff, Prod.mk.injEq]
  constructor
  · rintro ⟨n', hn, w', hw, rfl, rfl⟩
    exact ⟨hn, hw⟩
  · rintro ⟨hn, hw⟩
    exact ⟨n, hn, w, hw, rfl, rfl⟩

/-! ## The shape of what is expected -/

namespace Json

theorem floatText_of_isSome {x : Float} (hx : (Decimal.Binary.ofFloat? x).isSome = true) :
    floatText x ≠ [] ∧ (∀ c ∈ floatText x, c ∈ numberChars) ∧
      ('.' ∈ floatText x ∨ 'e' ∈ floatText x) := by
  obtain ⟨b, hb⟩ := Option.isSome_iff_exists.mp hx
  have htext : floatText x = b.text := by rw [floatText, hb]
  obtain ⟨hchars, hmark⟩ := mem_numberChars_of_mem_text b
  rw [htext]
  exact ⟨hmark.elim List.ne_nil_of_mem List.ne_nil_of_mem, hchars, hmark⟩

/-- A finite number that is not whole is read as such a one, if it is read. -/
theorem exists_float_of_parse?_floatText {x : Float}
    (hx : (Decimal.Binary.ofFloat? x).isSome = true) (h : parse? (floatText x) = some w) :
    ∃ y, w = .float y := by
  obtain ⟨hne, hchars, hmark⟩ := floatText_of_isSome hx
  obtain ⟨d, hd, hw⟩ := Option.bind_eq_some_iff.mp h
  obtain ⟨-, hwhole | rfl | ⟨y, rfl⟩⟩ := (hasReading_number hne hchars).readDocument? hd
  · rcases hmark with hpoint | hexponent
    · exact absurd (hwhole _ hpoint) (by decide)
    · exact absurd (hwhole _ hexponent) (by decide)
  · cases hw
  · exact ⟨y, (Option.some.inj hw).symm⟩

end Json

/-- If nothing grows, the sum does not grow, and if the sum stays the same, everything does. -/
theorem sum_le_of_forall₂ {α β : Type} {f : α → Nat} {g : β → Nat} {P : α → Prop} {xs : List α}
    {ys : List β} (h : List.Forall₂ (fun x y => g y ≤ f x ∧ (g y = f x → P x)) xs ys) :
    (ys.map g).sum ≤ (xs.map f).sum ∧ ((ys.map g).sum = (xs.map f).sum → ∀ x ∈ xs, P x) := by
  induction h with
  | nil => exact ⟨Nat.le_refl _, fun _ => nofun⟩
  | cons hxy _ ih =>
      obtain ⟨hle, hP⟩ := hxy
      obtain ⟨hsum, hall⟩ := ih
      simp only [List.map_cons, List.sum_cons]
      exact ⟨by omega, fun heq => List.forall_mem_cons.mpr ⟨hP (by omega), hall (by omega)⟩⟩

/-- Redacted members have the redacted names. -/
theorem namesStayDistinct_iff {members ms : List (String × Json)}
    (h : members.mapM (redactedMember? rules) = some ms) :
    NamesStayDistinct rules (.obj members) ↔ Json.DistinctNames ms := by
  have hnames : members.map (fun m => throughQuotes? rules m.1) = (ms.map Prod.fst).map some := by
    rw [List.map_map]
    exact Json.map_eq_map_of_forall₂ ((mapM_eq_some_iff.mp h).imp fun _ _ hm =>
      (redactedMember?_eq_some_iff.mp hm).1)
  rw [NamesStayDistinct, hnames, List.nodup_map_iff (Option.some_injective _)]
  rfl

/-- Redacting a value adds no values to it, and if none is lost, all redacted names are distinct. -/
def LosesOnlyMembers (rules : List ActiveRule) (v w : Json) : Prop :=
  w.count ≤ v.count ∧ (w.count = v.count → Json.Throughout (NamesStayDistinct rules) v)

theorem losesOnlyMembers_arr {items ws : List Json}
    (h : List.Forall₂ (LosesOnlyMembers rules) items ws) :
    LosesOnlyMembers rules (.arr items) (.arr ws) := by
  obtain ⟨hle, hall⟩ := sum_le_of_forall₂ h
  rw [LosesOnlyMembers, Json.count, Json.count, Json.countItems_eq, Json.countItems_eq]
  exact ⟨by omega, fun hcount => Json.throughout_arr_iff.mpr ⟨trivial, hall (by omega)⟩⟩

theorem losesOnlyMembers_obj {members ms : List (String × Json)}
    (hnames : NamesStayDistinct rules (.obj members) ↔ Json.DistinctNames ms)
    (h : List.Forall₂ (fun m m' => LosesOnlyMembers rules m.2 m'.2) members ms) :
    LosesOnlyMembers rules (.obj members) (.ofMembers ms) := by
  obtain ⟨hle, hall⟩ := sum_le_of_forall₂ h
  have hsorted := Json.weight_sortedMembers_le Json.count ms
  have hweight : ∀ ms : List (String × Json), Json.weight Json.count ms =
      (ms.map fun m => m.2.count).sum := fun _ => rfl
  rw [LosesOnlyMembers, Json.ofMembers, Json.count, Json.count, Json.countMembers_eq,
    Json.countMembers_eq]
  simp only [hweight] at hsorted ⊢
  refine ⟨by omega, fun hcount => Json.throughout_obj_iff.mpr ⟨hnames.mpr ?_, hall (by omega)⟩⟩
  exact Json.distinctNames_of_weight_eq Json.count_pos (by simp only [hweight]; omega)

theorem losesOnlyMembers_redacted? (h : Json.Throughout Json.Numeric v)
    (hw : redacted? rules v = some w) : LosesOnlyMembers rules v w := by
  induction h generalizing w with
  | @intro v here _ ih =>
      cases v with
      | null | bool | int =>
          obtain rfl := Option.some.inj hw
          exact ⟨Nat.le_refl _, fun _ => ⟨trivial, nofun⟩⟩
      | float x =>
          obtain ⟨y, rfl⟩ := Json.exists_float_of_parse?_floatText here hw
          exact ⟨Nat.le_refl _, fun _ => ⟨trivial, nofun⟩⟩
      | str s =>
          obtain ⟨t, -, rfl⟩ := Option.map_eq_some_iff.mp hw
          exact ⟨Nat.le_refl _, fun _ => ⟨trivial, nofun⟩⟩
      | arr items =>
          rw [redacted?, redactedItems?_eq] at hw
          obtain ⟨ws, hws, rfl⟩ := Option.map_eq_some_iff.mp hw
          exact losesOnlyMembers_arr (((List.forall₂_and_left _ _).mpr
            ⟨ih, mapM_eq_some_iff.mp hws⟩).imp fun _ _ hv => hv.1 hv.2)
      | obj members =>
          rw [redacted?, redactedMembers?_eq] at hw
          obtain ⟨ms, hms, rfl⟩ := Option.map_eq_some_iff.mp hw
          exact losesOnlyMembers_obj (namesStayDistinct_iff hms) (((List.forall₂_and_left _ _).mpr
            ⟨List.forall_mem_map.mp ih, mapM_eq_some_iff.mp hms⟩).imp
              fun _ _ hm => hm.1 (redactedMember?_eq_some_iff.mp hm.2).2)

theorem sameShape_redacted? (h : Json.Throughout Json.Numeric v) (hw : redacted? rules v = some w)
    (hnames : Json.Throughout (NamesStayDistinct rules) v) :
    Json.SameShape Json.ReadsBackAs v w := by
  induction h generalizing w with
  | @intro v here _ ih =>
      cases v with
      | null => obtain rfl := Option.some.inj hw; exact .null
      | bool b => obtain rfl := Option.some.inj hw; exact .bool b
      | int n => obtain rfl := Option.some.inj hw; exact .int n
      | float x =>
          obtain ⟨y, rfl⟩ := Json.exists_float_of_parse?_floatText here hw
          exact .float hw
      | str s =>
          obtain ⟨t, -, rfl⟩ := Option.map_eq_some_iff.mp hw
          exact .str s t
      | arr items =>
          rw [redacted?, redactedItems?_eq] at hw
          obtain ⟨ws, hws, rfl⟩ := Option.map_eq_some_iff.mp hw
          obtain ⟨-, hitems⟩ := Json.throughout_arr_iff.mp hnames
          exact Json.same_shape_arr (((List.forall₂_and_left _ _).mpr
            ⟨fun v hv => And.intro (@ih v hv) (hitems v hv), mapM_eq_some_iff.mp hws⟩).imp
              fun _ _ hv => hv.1.1 hv.2 hv.1.2)
      | obj members =>
          rw [redacted?, redactedMembers?_eq] at hw
          obtain ⟨ms, hms, rfl⟩ := Option.map_eq_some_iff.mp hw
          obtain ⟨hdistinct, hmembers⟩ := Json.throughout_obj_iff.mp hnames
          have hperm := Json.perm_sortedMembers ((namesStayDistinct_iff hms).mp hdistinct)
          exact Json.same_shape_obj (((List.forall₂_and_left _ _).mpr
            ⟨fun m hm => And.intro (@ih m.2 (List.mem_map_of_mem hm)) (hmembers m hm),
              mapM_eq_some_iff.mp hms⟩).imp
                fun _ _ hm => hm.1.1 (redactedMember?_eq_some_iff.mp hm.2).2 hm.1.2) hperm.symm

/-- The parts put together again have the shape of the value just if no two names of an object
become equal. -/
theorem sameShape_redacted?_iff (h : Json.Throughout Json.Numeric v)
    (hw : redacted? rules v = some w) :
    Json.SameShape Json.ReadsBackAs v w ↔ Json.Throughout (NamesStayDistinct rules) v :=
  ⟨fun hshape => (losesOnlyMembers_redacted? h hw).2 hshape.count_eq.symm,
    sameShape_redacted? h hw⟩

/-! ## The redacted text part by part -/

namespace Json

/-- The body of a name and the text of a value. -/
def memberText (m : String × Json) : List Char × List Char :=
  (m.1.toList.flatMap escapeChar, m.2.render)

theorem render_arr (items : List Json) :
    (arr items).render = '[' :: itemsText (items.map render) := by
  rw [render]
  refine congrArg _ ?_
  induction items with
  | nil => rfl
  | cons v items ih =>
      cases items with
      | nil => rfl
      | cons v' items =>
          rw [List.map_cons, List.map_cons, itemsText_cons_cons]
          exact congrArg (v.render ++ ',' :: ·) ih

theorem render_obj (members : List (String × Json)) :
    (obj members).render = '{' :: membersText (members.map memberText) := by
  rw [render]
  refine congrArg _ ?_
  induction members with
  | nil => rfl
  | cons m members ih =>
      obtain ⟨n, v⟩ := m
      cases members with
      | nil => simp [renderMembers, membersText, memberText, quoted]
      | cons m' members =>
          have hmembers : renderMembers ((n, v) :: m' :: members) = quoted n.toList ++ ':' ::
              (v.render ++ ',' :: renderMembers (m' :: members)) := rfl
          have htexts : membersText (((n, v) :: m' :: members).map memberText) =
              '"' :: (n.toList.flatMap escapeChar ++ '"' :: ':' ::
                (v.render ++ ',' :: membersText ((m' :: members).map memberText))) := rfl
          rw [hmembers, htexts, ih]
          simp [quoted]

end Json

/-- The marks of an object. -/
def objectMarks : List Char := ['{', '}', ':']

/-- Rules that stop at all marks between the parts of a value, leave its null and boolean values,
and leave its numbers or break them. -/
structure RedactsParts (rules : List ActiveRule) : Prop where
  stops : ∀ r ∈ rules, r.StopsAtMarks
  avoids : ∀ r ∈ rules, ∀ x ∈ objectMarks, r.pattern.avoids x = true
  constants : ∀ r ∈ rules, ∀ v ∈ [Json.null, .bool true, .bool false],
    r.pattern.occursIn v.render = false
  numbers : ∀ r ∈ rules, r.BreaksNumbers

theorem redactsParts_standardActive : RedactsParts RedactionRules.standardActive where
  stops := RedactionRules.standardActive_stopsAtMarks
  avoids := by
    have hall : ∀ r ∈ RedactionRules.standardActive, objectMarks.all r.pattern.avoids = true := by
      rw [RedactionRules.standardActive_eq]
      decide +kernel
    exact fun r hr => List.all_eq_true.mp (hall r hr)
  constants := by
    rw [RedactionRules.standardActive_eq]
    decide +kernel
  numbers := RedactionRules.standardActive_breaksNumbers

theorem throughQuotes?_standardActive {s : String}
    (hs : s.toList.all (fun c => decide (32 ≤ c.toNat)) = true) :
    throughQuotes? RedactionRules.standardActive s =
      some (String.ofList (applyAll RedactionRules.standardActive s.toList)) :=
  throughQuotes?_of_no_control redactsParts_standardActive.stops
    fun c hc => of_decide_eq_true (List.all_eq_true.mp hs c hc)

namespace RedactsParts

theorem cut (h : RedactsParts rules) {x : Char} (hx : x ∈ marks ++ objectMarks)
    (text rest : List Char) :
    applyAll rules (text ++ x :: rest) = applyAll rules text ++ x :: applyAll rules rest := by
  refine applyAll_cut_of_avoids (fun r hr => ⟨?_, (h.stops r hr).full⟩) text rest
  rcases List.mem_append.mp hx with hmark | hmark
  · exact (h.stops r hr).avoids x hmark
  · exact h.avoids r hr x hmark

theorem mark (h : RedactsParts rules) {x : Char} (hx : x ∈ marks ++ objectMarks)
    (rest : List Char) :
    applyAll rules (x :: rest) = x :: applyAll rules rest := by
  have hcut := h.cut hx [] rest
  rwa [applyAll_nil h.stops] at hcut

theorem itemsText (h : RedactsParts rules) (ts : List (List Char)) :
    applyAll rules (Json.itemsText ts) = Json.itemsText (ts.map (applyAll rules)) := by
  have hend : applyAll rules [']'] = [']'] := by
    rw [h.mark (by decide), applyAll_nil h.stops]
  induction ts with
  | nil => exact hend
  | cons t ts ih =>
      cases ts with
      | nil =>
          have hcut := h.cut (x := ']') (by decide) t []
          rw [applyAll_nil h.stops] at hcut
          exact hcut
      | cons t' ts =>
          rw [Json.itemsText_cons_cons, h.cut (by decide), ih]
          rfl

theorem membersText (h : RedactsParts rules) (ms : List (List Char × List Char)) :
    applyAll rules (Json.membersText ms) =
      Json.membersText (ms.map fun m => (applyAll rules m.1, applyAll rules m.2)) := by
  have hend : applyAll rules ['}'] = ['}'] := by
    rw [h.mark (by decide), applyAll_nil h.stops]
  have hmember (m : List Char × List Char) (rest : List Char) {x : Char}
      (hx : x ∈ marks ++ objectMarks) :
      applyAll rules ('"' :: (m.1 ++ '"' :: ':' :: (m.2 ++ x :: rest))) =
        '"' :: (applyAll rules m.1 ++ '"' :: ':' :: (applyAll rules m.2 ++ x ::
          applyAll rules rest)) := by
    rw [h.mark (by decide), h.cut (by decide), h.mark (by decide), h.cut hx]
  induction ms with
  | nil => exact hend
  | cons m ms ih =>
      cases ms with
      | nil =>
          have hlast := hmember m [] (x := '}') (by decide)
          rw [applyAll_nil h.stops] at hlast
          exact hlast
      | cons m' ms =>
          rw [Json.membersText_cons_cons, hmember m _ (by decide), ih]
          rfl

/-! ## Reading the redacted text -/

theorem constant (h : RedactsParts rules) {v : Json}
    (hv : v ∈ [Json.null, .bool true, .bool false]) :
    applyAll rules v.render = v.render :=
  applyAll_of_not_occursIn fun r hr => h.constants r hr v hv

/-- What a part must be read as, if it is read. -/
theorem hasReading_of_spells {text : List Char} {v : Json} {d : Document}
    (hspells : ∀ level, Json.Spells level text d) (hbracket : text.head? ≠ some ']')
    (hd : d.toJson? = redacted? rules v) :
    Json.HasReading (fun d => ∀ w, d.toJson? = some w → redacted? rules v = some w) text := by
  refine (Json.HasReading.of_spells hspells hbracket).imp ?_
  rintro d' rfl w hw
  rw [← hd, hw]

theorem hasReading_int (h : RedactsParts rules) {n : Int} (hlow : -(Decimal.twoTo 63 : Int) ≤ n)
    (hhigh : n < (Decimal.twoTo 64 : Int)) :
    Json.HasReading (fun d => ∀ w, d.toJson? = some w → redacted? rules (.int n) = some w)
      (applyAll rules (Json.int n).render) := by
  have hchars : ∀ c ∈ (Json.int n).render, c ∈ Json.numberChars :=
    Json.mem_numberChars_of_mem_intDigits
  rcases applyAll_number (fun r hr => ⟨h.numbers r hr, h.stops r hr⟩) hchars with heq | hbroken
  · rw [heq]
    refine hasReading_of_spells (fun level => Json.Spells.int hlow hhigh) ?_ rfl
    intro hbracket
    obtain ⟨rest, hrest⟩ := List.head?_eq_some_iff.mp hbracket
    exact absurd (hchars ']' (by rw [hrest]; simp)) (by decide)
  · exact hbroken.hasReading _

theorem hasReading_float (h : RedactsParts rules) {x : Float}
    (hx : (Decimal.Binary.ofFloat? x).isSome = true) :
    Json.HasReading (fun d => ∀ w, d.toJson? = some w → redacted? rules (.float x) = some w)
      (applyAll rules (Json.float x).render) := by
  obtain ⟨hne, hchars, -⟩ := Json.floatText_of_isSome hx
  have htext : (Json.float x).render = Json.floatText x := rfl
  rw [htext]
  rcases applyAll_number (fun r hr => ⟨h.numbers r hr, h.stops r hr⟩) hchars with heq | hbroken
  · rw [heq]
    refine (Json.hasReading_number hne hchars).imp ?_
    rintro d ⟨hd, -⟩ w hw
    rw [redacted?, Json.parse?, hd]
    exact hw
  · exact hbroken.hasReading _

theorem hasReading_str (h : RedactsParts rules) (s : String) :
    Json.HasReading (fun d => ∀ w, d.toJson? = some w → redacted? rules (.str s) = some w)
      (applyAll rules (Json.str s).render) := by
  have hbody : Json.IsBody (applyAll rules (s.toList.flatMap Json.escapeChar)) :=
    (Json.goThrough_applyAll h.stops false _).trans (Json.isBody_escape s.toList)
  have htext : applyAll rules (Json.str s).render =
      '"' :: (applyAll rules (s.toList.flatMap Json.escapeChar) ++ ['"']) := by
    change applyAll rules ('"' :: (s.toList.flatMap Json.escapeChar ++ ['"'])) = _
    rw [h.mark (by decide), h.cut (by decide), applyAll_nil h.stops]
  rw [htext]
  refine (Json.hasReading_quotes hbody).imp ?_
  rintro d hd w hw
  rw [redacted?, throughQuotes?, ← hd, hw]

theorem redactedItems?_of_forall₂ {items ws : List Json} {ds : List Document}
    (h : List.Forall₂ (fun v d => ∀ w, d.toJson? = some w → redacted? rules v = some w) items ds)
    (hws : Document.toJsonItems? ds = some ws) : redactedItems? rules items = some ws := by
  induction h generalizing ws with
  | nil => exact hws
  | @cons v d items ds hv _ ih =>
      rw [Document.toJsonItems?] at hws
      split at hws
      · rename_i w ws' hd hds
        obtain rfl := Option.some.inj hws
        rw [redactedItems?, hv w hd, ih hds]
      · cases hws

theorem redactedMembers?_of_forall₂ {members ws : List (String × Json)}
    {ms : List (Option String × Document)}
    (h : List.Forall₂ (fun m d => d.1 = throughQuotes? rules m.1 ∧
      ∀ w, d.2.toJson? = some w → redacted? rules m.2 = some w) members ms)
    (hws : Document.toJsonMembers? ms = some ws) : redactedMembers? rules members = some ws := by
  induction h generalizing ws with
  | nil => exact hws
  | @cons m d members ms hm _ ih =>
      obtain ⟨name, d⟩ := d
      obtain ⟨hname, hvalue⟩ := hm
      unfold Document.toJsonMembers? at hws
      split at hws
      · rename_i n w ws' hd hds
        obtain rfl := Option.some.inj hws
        rw [redactedMembers?, ← hname, hvalue w hd, ih hds]
      · cases hws

/-- The redacted text of a value is read as the redacted parts put together, if it is read. The
induction is on what the value is put together from. -/
theorem hasReading_render (h : RedactsParts rules) {v : Json}
    (hv : Json.Throughout Json.Numeric v) :
    Json.HasReading (fun d => ∀ w, d.toJson? = some w → redacted? rules v = some w)
      (applyAll rules v.render) := by
  induction hv with
  | @intro v here _ ih =>
      cases v with
      | null =>
          rw [h.constant (by simp)]
          exact hasReading_of_spells (fun level => Json.Spells.null) (by decide) rfl
      | bool b =>
          rw [h.constant (by cases b <;> simp)]
          exact hasReading_of_spells (fun level => Json.Spells.bool b) (by cases b <;> decide) rfl
      | int n => exact h.hasReading_int here.1 here.2
      | float x => exact h.hasReading_float here
      | str s => exact h.hasReading_str s
      | arr items =>
          rw [Json.render_arr, h.mark (by decide), h.itemsText, List.map_map]
          have hitems : ∀ v ∈ items, Json.HasReading
              (fun d => ∀ w, d.toJson? = some w → redacted? rules v = some w)
              (applyAll rules v.render) := ih
          refine (Json.HasReading.arr hitems).imp ?_
          rintro d (rfl | ⟨ds, rfl, hds⟩) w hw
          · cases hw
          · obtain ⟨ws, hws, rfl⟩ := Option.map_eq_some_iff.mp hw
            rw [redacted?, redactedItems?_of_forall₂ hds hws]
            rfl
      | obj members =>
          rw [Json.render_obj, h.mark (by decide), h.membersText, List.map_map]
          have hmembers : ∀ m ∈ members,
              Json.IsBody (applyAll rules (m.1.toList.flatMap Json.escapeChar)) ∧
                Json.HasReading (fun d => ∀ w, d.toJson? = some w → redacted? rules m.2 = some w)
                  (applyAll rules m.2.render) := fun m hm =>
            ⟨(Json.goThrough_applyAll h.stops false _).trans (Json.isBody_escape m.1.toList),
              ih m.2 (List.mem_map_of_mem hm)⟩
          refine (Json.HasReading.obj hmembers).imp ?_
          rintro d (rfl | ⟨ms, rfl, hms⟩) w hw
          · cases hw
          · obtain ⟨ws, hws, rfl⟩ := Option.map_eq_some_iff.mp hw
            rw [redacted?, redactedMembers?_of_forall₂ hms hws]
            rfl

/-- What is read of the redacted text of a value is the redacted parts put together. -/
theorem redacted?_of_parse? (h : RedactsParts rules) {v w : Json}
    (hv : Json.Throughout Json.Numeric v) (hw : Json.parse? (applyAll rules v.render) = some w) :
    redacted? rules v = some w := by
  obtain ⟨d, hd, hdw⟩ := Option.bind_eq_some_iff.mp hw
  exact (h.hasReading_render hv).readDocument? hd w hdw

end RedactsParts

theorem answerBy_of_ne_str (rules : List ActiveRule) (hstr : ∀ s, v ≠ .str s) :
    Redactor.answerBy rules v = (Json.parse? (applyAll rules v.render)).getD
      (.str (String.ofList (applyAll rules v.render))) := by
  cases v with
  | str s => exact absurd rfl (hstr s)
  | _ => rfl

/-- A value whose redacted text can be read is redacted part by part. -/
theorem redacted?_answerBy (h : RedactsParts rules) (hv : Json.Throughout Json.Numeric v)
    (hstr : ∀ s, v ≠ .str s) (hread : (Json.parse? (applyAll rules v.render)).isSome = true) :
    redacted? rules v = some (Redactor.answerBy rules v) := by
  obtain ⟨w, hw⟩ := Option.isSome_iff_exists.mp hread
  rw [answerBy_of_ne_str rules hstr, hw]
  exact h.redacted?_of_parse? hv hw

/-- With the standard rules, and whatever was redacted before, a value that is no string becomes a
text, or it is redacted part by part: its shape stays just if no two names of an object become
equal, apart from numbers that are not whole and not read as themselves. -/
theorem shape_stays_iff_names_stay_distinct (capacity : Nat) (calls : List RedactionCall) {v : Json}
    (hv : Json.Throughout Json.Numeric v) (hstr : ∀ s, v ≠ .str s) :
    let rules := RedactionRules.standardActive
    let out := ((RedactionCall.runAll (.new rules capacity) calls).1.redact v).2
    out ≠ .str (String.ofList (applyAll rules v.render)) →
      redacted? rules v = some out ∧
      (Json.SameShape Json.ReadsBackAs v out ↔ Json.Throughout (NamesStayDistinct rules) v) ∧
      (Json.Throughout (Json.Floats fun x => Json.ReadsBackAs x x) v →
        (Json.SameShape Eq v out ↔ Json.Throughout (NamesStayDistinct rules) v)) := by
  intro rules out hout
  have hanswer : out = Redactor.answerBy rules v :=
    (Redactor.faithful_runAll rules capacity calls).redact_answer v
  have hparts : redacted? rules v = some out := by
    rw [hanswer]
    refine redacted?_answerBy redactsParts_standardActive hv hstr ?_
    by_contra hread
    rw [answerBy_of_ne_str rules hstr, Option.not_isSome_iff_eq_none.mp hread] at hanswer
    exact hout hanswer
  have hshape := sameShape_redacted?_iff hv hparts
  refine ⟨hparts, hshape, fun hback => ?_⟩
  rw [← hshape]
  constructor
  · intro h
    refine h.imp (hback.imp fun w hw => ?_)
    cases w with
    | float x => rintro y rfl; exact hw
    | _ => trivial
  · intro h
    refine h.imp (hback.imp fun w hw => ?_)
    cases w with
    | float x =>
        intro y hy
        have hsame : some (Json.float x) = some (Json.float y) := hw.symm.trans hy
        exact Json.float.inj (Option.some.inj hsame)
    | _ => trivial

/-- An address as a name, one within a string, and numbers of both kinds. -/
theorem shape_of_contact_stays :
    let items : Json := .arr [.int (-2), .float 0.5, .null, .bool true]
    let v : Json := .obj [("a@b.com", items), ("note", .str "mail c@d.com")]
    let out := ((Redactor.new RedactionRules.standardActive 1000).redact v).2
    out = .obj [("[REDACTED_EMAIL]", items), ("note", .str "mail [REDACTED_EMAIL]")] ∧
      Json.SameShape Eq v out := by
  intro items v out
  have happly : ∀ p ∈ [("a@b.com".toList, "[REDACTED_EMAIL]".toList),
      ("note".toList, "note".toList), ("mail c@d.com".toList, "mail [REDACTED_EMAIL]".toList),
      (v.render, "\x7b\"[REDACTED_EMAIL]\":[-2,0.5,null,true],".toList ++
        "\"note\":\"mail [REDACTED_EMAIL]\"\x7d".toList)],
      applyAll RedactionRules.standardActive p.1 = p.2 := by
    rw [RedactionRules.standardActive_eq]
    decide +kernel
  simp only [List.forall_mem_cons] at happly
  obtain ⟨haddress, hnote, hmail, hwhole, -⟩ := happly
  have hback : Json.ReadsBackAs 0.5 0.5 := by decide +kernel
  have hnumeric : Json.Throughout Json.Numeric v := by
    have hhalf : Json.Numeric (.float 0.5) :=
      show (Decimal.Binary.ofFloat? 0.5).isSome = true by decide +kernel
    have hitems : Json.Throughout Json.Numeric items :=
      Json.throughout_arr_iff.mpr ⟨trivial, by
        simpa using ⟨⟨⟨by decide, by decide⟩, nofun⟩, ⟨hhalf, nofun⟩, ⟨trivial, nofun⟩,
          ⟨trivial, nofun⟩⟩⟩
    exact Json.throughout_obj_iff.mpr ⟨trivial, by simpa [v] using ⟨hitems, ⟨trivial, nofun⟩⟩⟩
  have hfloats : Json.Throughout (Json.Floats fun x => Json.ReadsBackAs x x) v := by
    have hitems : Json.Throughout (Json.Floats fun x => Json.ReadsBackAs x x) items :=
      Json.throughout_arr_iff.mpr ⟨trivial, by
        simpa using ⟨⟨trivial, nofun⟩, ⟨hback, nofun⟩, ⟨trivial, nofun⟩, ⟨trivial, nofun⟩⟩⟩
    exact Json.throughout_obj_iff.mpr ⟨trivial, by simpa [v] using ⟨hitems, ⟨trivial, nofun⟩⟩⟩
  have hparts : redacted? RedactionRules.standardActive v =
      some (.obj [("[REDACTED_EMAIL]", items), ("note", .str "mail [REDACTED_EMAIL]")]) := by
    have hitems : redacted? RedactionRules.standardActive items = some items := by
      have hfloat : Json.parse? (Json.floatText 0.5) = some (.float 0.5) := hback
      simp [items, redacted?, redactedItems?, hfloat]
    have hsorted : Json.ofMembers [("[REDACTED_EMAIL]", items),
        ("note", .str "mail [REDACTED_EMAIL]")] = .obj [("[REDACTED_EMAIL]", items),
          ("note", .str "mail [REDACTED_EMAIL]")] :=
      congrArg _ (Json.Sorted.sortedMembers_eq (by decide))
    simp only [v, redacted?, redactedMembers?, hitems]
    rw [throughQuotes?_standardActive (by decide), throughQuotes?_standardActive (by decide),
      throughQuotes?_standardActive (by decide), haddress, hnote, hmail]
    exact congrArg some hsorted
  have hout : out = .obj [("[REDACTED_EMAIL]", items), ("note", .str "mail [REDACTED_EMAIL]")] := by
    have hread := redacted?_answerBy redactsParts_standardActive hnumeric nofun
      (by rw [hwhole]; decide +kernel)
    have hanswer := (Redactor.faithful_new RedactionRules.standardActive 1000).redact_answer v
    exact hanswer.trans (Option.some.inj (hread.symm.trans hparts))
  have hne : out ≠ .str (String.ofList (applyAll RedactionRules.standardActive v.render)) := by
    rw [hout]
    exact nofun
  have hnames : Json.Throughout (NamesStayDistinct RedactionRules.standardActive) v := by
    have hitems : Json.Throughout (NamesStayDistinct RedactionRules.standardActive) items :=
      Json.throughout_arr_iff.mpr ⟨trivial, by
        simpa using ⟨⟨trivial, nofun⟩, ⟨trivial, nofun⟩, ⟨trivial, nofun⟩, ⟨trivial, nofun⟩⟩⟩
    have hdistinct : NamesStayDistinct RedactionRules.standardActive v := by
      simp only [v, NamesStayDistinct, List.map_cons, List.map_nil]
      rw [throughQuotes?_standardActive (by decide), throughQuotes?_standardActive (by decide),
        haddress, hnote]
      decide
    exact Json.throughout_obj_iff.mpr ⟨hdistinct, by simpa [v] using ⟨hitems, ⟨trivial, nofun⟩⟩⟩
  obtain ⟨-, -, hshape⟩ := shape_stays_iff_names_stay_distinct 1000 [] hnumeric nofun hne
  exact ⟨hout, (hshape hfloats).mpr hnames⟩

/-- Two addresses as names of one object become one name, and only the later member stays. A number
that no rule touches is read as its neighbour. -/
theorem equal_names_leave_one_member :
    let r := Redactor.new RedactionRules.standardActive 1000
    let v : Json := .obj [("a@b.com", .int 1), ("c@d.com", .int 2)]
    (r.redact v).2 = .obj [("[REDACTED_EMAIL]", .int 2)] ∧
      (∀ R, ¬ Json.SameShape R v (r.redact v).2) ∧
      Json.ReadsBackAs 1509.0772140573627 1509.0772140573629 := by
  intro r v
  have happly : ∀ p ∈ [("a@b.com".toList, "[REDACTED_EMAIL]".toList),
      ("c@d.com".toList, "[REDACTED_EMAIL]".toList),
      (v.render, "\x7b\"[REDACTED_EMAIL]\":1,\"[REDACTED_EMAIL]\":2\x7d".toList)],
      applyAll RedactionRules.standardActive p.1 = p.2 := by
    rw [RedactionRules.standardActive_eq]
    decide +kernel
  simp only [List.forall_mem_cons] at happly
  obtain ⟨haddress, haddress', hwhole, -⟩ := happly
  have hnumeric : Json.Throughout Json.Numeric v :=
    Json.throughout_obj_iff.mpr ⟨trivial, by
      simpa [v] using ⟨⟨⟨by decide, by decide⟩, nofun⟩, ⟨⟨by decide, by decide⟩, nofun⟩⟩⟩
  have hparts : redacted? RedactionRules.standardActive v =
      some (.obj [("[REDACTED_EMAIL]", .int 2)]) := by
    simp only [v, redacted?, redactedMembers?]
    rw [throughQuotes?_standardActive (by decide), throughQuotes?_standardActive (by decide),
      haddress, haddress']
    rfl
  have hout : (r.redact v).2 = .obj [("[REDACTED_EMAIL]", .int 2)] := by
    have hread := redacted?_answerBy redactsParts_standardActive hnumeric nofun
      (by rw [hwhole]; decide +kernel)
    have hanswer := (Redactor.faithful_new RedactionRules.standardActive 1000).redact_answer v
    exact hanswer.trans (Option.some.inj (hread.symm.trans hparts))
  refine ⟨hout, fun R hshape => ?_, by decide +kernel⟩
  have hcount : v.count = Json.count (.obj [("[REDACTED_EMAIL]", .int 2)]) :=
    hout ▸ hshape.count_eq
  exact absurd hcount (by decide)

end SecretScan
