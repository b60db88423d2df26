import SecretScan.Json.Decode
import SecretScan.Proofs.Json.Order

/-!
# Reading written fields

A record that was written has each field in the slot of its name, in whatever order its members
stand. What is read from a slot is then what was written to it, for each way in which a field can
be left out.
-/

namespace SecretScan

open Json

variable {α : Type} {decode : Decoder α} {v : Json} {a : α} {s : Slot}

/-- A decoder reads `a` from a value, in whatever order the members of objects stand. -/
def ReadAs (decode : Decoder α) (v : Json) (a : α) : Prop :=
  ∀ v', Same v v' → decode (Document.ofJson v') = some a

/-! ## Values without members -/

theorem readAs_str (t : String) : ReadAs Document.string? (.str t) t := by
  intro v' hsame
  cases hsame
  rfl

theorem readAs_bool (b : Bool) : ReadAs Document.bool? (.bool b) b := by
  intro v' hsame
  cases hsame
  rfl

theorem within?_int {low high : Int} {n : Nat} (hlow : low ≤ n) (hhigh : (n : Int) ≤ high) :
    (Document.int n).within? low high = some (n : Int) := by
  rw [Document.within?, if_pos (by simp [hlow, hhigh])]

theorem readAs_nat64 {n : Nat} (h : n < 2 ^ 64) : ReadAs Document.nat64? (.int n) n := by
  intro v' hsame
  cases hsame
  have hhigh : (n : Int) ≤ Decimal.twoTo 64 - 1 := by
    simp only [Decimal.twoTo, Nat.pow_eq]
    omega
  rw [Document.ofJson, Document.nat64?, within?_int (Int.natCast_nonneg n) hhigh]
  rfl

theorem readAs_nat32 {n : Nat} (h : n < 2 ^ 32) : ReadAs Document.nat32? (.int n) n := by
  intro v' hsame
  cases hsame
  have hhigh : (n : Int) ≤ Decimal.twoTo 32 - 1 := by
    simp only [Decimal.twoTo, Nat.pow_eq]
    omega
  rw [Document.ofJson, Document.nat32?, within?_int (Int.natCast_nonneg n) hhigh]
  rfl

/-! ## Lists and maps -/

theorem readAs_list {items : List α} {write : α → Json}
    (h : ∀ a ∈ items, ReadAs decode (write a) a) :
    ReadAs (Document.list? decode) (.arr (items.map write)) items := by
  intro v' hsame
  obtain ⟨items', rfl, hitems⟩ := exists_items_of_same hsame
  rw [Document.ofJson, Document.ofJsonItems_eq_map, Document.list?, mapM_eq_some_iff,
    List.forall₂_map_left_iff]
  rw [List.forall₂_map_left_iff] at hitems
  exact (((List.forall₂_and_left _ _).mpr ⟨h, hitems⟩).imp fun _ _ ha => ha.1 _ ha.2).flip

theorem readAs_strings (items : List String) :
    ReadAs (Document.list? Document.string?) (.strings items) items :=
  readAs_list fun t _ => readAs_str t

theorem readAs_map [Nonempty α] {entries : List (String × α)} {write : α → Json}
    (hsorted : Sorted entries) (h : ∀ e ∈ entries, ReadAs decode (write e.2) e.2) :
    ReadAs (Document.map? decode) (.ofMembers (entries.map fun e => (e.1, write e.2))) entries := by
  have hnames : (entries.map fun e => (e.1, write e.2)).map Prod.fst = entries.map Prod.fst := by
    rw [List.map_map]
    rfl
  intro v' hsame
  rw [ofMembers, (hsorted.map_snd write).sortedMembers_eq] at hsame
  cases hsame with
  | @obj _ members' hperm hvalues =>
      rw [hnames] at hperm
      obtain ⟨found, hread, hfound⟩ : ∃ found,
          (Document.ofJsonMembers members').mapM (Document.map?.entry? decode) = some found ∧
            sortedMembers found = entries := by
        rw [Document.ofJsonMembers_eq_map, List.mapM_map]
        refine exists_entries hsorted hperm fun m hm a ha => ?_
        have hvalue : decode (Document.ofJson m.2) = some a :=
          h _ ha _ (hvalues m.1 _ _ (List.mem_map.mpr ⟨(m.1, a), ha, rfl⟩) hm)
        simp [Document.map?.entry?, hvalue]
      rw [Document.ofJson, Document.map?, hread, Option.map_some, hfound]

/-- Values by name are canonical JSON values, read as they are. -/
theorem readAs_jsonMap {details : List (String × Json)} (hsorted : Sorted details)
    (h : ∀ e ∈ details, Throughout Ordered e.2) :
    ReadAs Document.jsonMap? (.ofMembers details) details := by
  have hread : ReadAs Document.jsonMap? (.ofMembers (details.map fun e => (e.1, id e.2))) details :=
    readAs_map hsorted fun e he v' hsame => Document.toJson?_ofJson_of_same (h e he) hsame
  have hid : (details.map fun e => (e.1, id e.2)) = details := List.map_id details
  rwa [hid] at hread

/-! ## Slots -/

namespace Slot

/-- What stands in the slot of a field: its value, or nothing if it was left out. -/
inductive Holds : Option Json → Slot → Prop
  | absent : Holds none .absent
  | given {v v' : Json} (same : Same v v') : Holds (some v) (.given (Document.ofJson v'))

/-- How a thing that may be missing is written: if it is missing, the field is null or left out. -/
inductive Writes (decode : Decoder α) : Option α → Option Json → Prop
  | leftOut : Writes decode none none
  | null : Writes decode none (some .null)
  | there {v : Json} {a : α} (ne_null : v ≠ .null) (read : ReadAs decode v a) :
      Writes decode (some a) (some v)

namespace Writes

variable {o : Option α}

theorem map {write : α → Json} (h : ∀ a ∈ o, write a ≠ .null ∧ ReadAs decode (write a) a) :
    Writes decode o (o.map write) := by
  cases o with
  | none => exact .leftOut
  | some a => exact .there (h a rfl).1 (h a rfl).2

theorem ofString? (o : Option String) : Writes Document.string? o (some (.ofString? o)) := by
  cases o with
  | none => exact .null
  | some t => exact .there nofun (readAs_str t)

theorem ofNat? {o : Option Nat} (h : ∀ n ∈ o, n < 2 ^ 64) :
    Writes Document.nat64? o (some (.ofNat? o)) := by
  cases o with
  | none => exact .null
  | some n => exact .there nofun (readAs_nat64 (h n rfl))

end Writes

theorem optional_given {d : Document} (h : d ≠ .null) :
    (given d).optional decode = (decode d).map some := by
  cases d <;> first | rfl | exact absurd rfl h

theorem optionalOr_given {d : Document} (h : d ≠ .null) {base : Option α} :
    (given d).optionalOr decode base = (decode d).map some := by
  cases d <;> first | rfl | exact absurd rfl h

theorem ofJson_ne_null {v' : Json} (hsame : Same v v') (h : v ≠ .null) :
    Document.ofJson v' ≠ .null := by
  cases hsame with
  | null => exact absurd rfl h
  | _ => exact nofun

namespace Holds

variable {o : Option α} {w : Option Json}

theorem required (h : s.Holds (some v)) (hread : ReadAs decode v a) :
    s.required decode = some a := by
  cases h with
  | given hsame => exact hread _ hsame

theorem defaulted {base : α} (h : s.Holds (some v)) (hread : ReadAs decode v a) :
    s.defaulted decode base = some a := by
  cases h with
  | given hsame => exact hread _ hsame

theorem defaulted_of_none {base : α} (h : s.Holds none) : s.defaulted decode base = some base := by
  cases h
  rfl

theorem optional (h : s.Holds w) (hw : Writes decode o w) : s.optional decode = some o := by
  cases hw with
  | leftOut =>
      cases h
      rfl
  | null =>
      cases h with
      | given hsame =>
          cases hsame
          rfl
  | there hne hread =>
      cases h with
      | given hsame =>
          rw [optional_given (ofJson_ne_null hsame hne), hread _ hsame, Option.map_some]

/-- Where something else stands for a field that is left out, the field has to be written. -/
theorem optionalOr {base : Option α} (h : s.Holds (some v)) (hw : Writes decode o (some v)) :
    s.optionalOr decode base = some o := by
  cases hw with
  | null =>
      cases h with
      | given hsame =>
          cases hsame
          rfl
  | there hne hread =>
      cases h with
      | given hsame =>
          rw [optionalOr_given (ofJson_ne_null hsame hne), hread _ hsame, Option.map_some]

end Holds

/-- What holds of all that is decoded, and of the value that stands in, holds of a field. -/
theorem of_defaulted {P : α → Prop} {base : α} (h : s.defaulted decode base = some a)
    (hdecode : ∀ d a, decode d = some a → P a) (hbase : P base) : P a := by
  cases s with
  | given d => exact hdecode d a h
  | absent => exact Option.some.inj h ▸ hbase
  | cut => exact Option.some.inj h ▸ hbase

end Slot

/-! ## Records -/

/-- The fields of a record that are there. -/
def present (fields : List (String × Option Json)) : List (String × Json) :=
  fields.filterMap fun (n, v) => v.map fun v => (n, v)

/-- An object with the members of a record, in some order. -/
def IsRecord (v : Json) (fields : List (String × Option Json)) : Prop :=
  ∃ members, v = .obj members ∧ members.Perm (present fields)

variable {members members' : List (String × Json)} {fields : List (String × Option Json)}
  {name : String} {names : List String}

theorem mem_present_iff : (name, v) ∈ present fields ↔ (name, some v) ∈ fields := by
  simp only [present, List.mem_filterMap, Option.map_eq_some_iff, Prod.mk.injEq, Prod.exists]
  constructor
  · rintro ⟨n, w, hmem, v', rfl, rfl, rfl⟩
    exact hmem
  · exact fun hmem => ⟨name, some v, hmem, v, rfl, rfl, rfl⟩

theorem distinctNames_present (h : DistinctNames fields) : DistinctNames (present fields) := by
  refine List.Nodup.sublist ?_ h
  induction fields with
  | nil => exact .slnil
  | cons field fields ih =>
      obtain ⟨n, w⟩ := field
      have hrest := ih (List.Nodup.of_cons h)
      cases w with
      | none => exact hrest.cons n
      | some v => exact hrest.cons_cons n

theorem present_filter (p : String → Bool) (fields : List (String × Option Json)) :
    present (fields.filter fun f => p f.1) = (present fields).filter fun m => p m.1 := by
  induction fields with
  | nil => rfl
  | cons field fields ih =>
      obtain ⟨n, w⟩ := field
      cases w <;> cases hp : p n <;> simp_all [present]

theorem same_filter (p : String → Bool) (h : Same (.obj members) (.obj members')) :
    Same (.obj (members.filter fun m => p m.1)) (.obj (members'.filter fun m => p m.1)) := by
  cases h with
  | obj hnames hvalues =>
      refine .obj ?_ fun n v v' hv hv' =>
        hvalues n v v' (List.mem_filter.mp hv).1 (List.mem_filter.mp hv').1
      have hfilter (ms : List (String × Json)) :
          (ms.filter fun m => p m.1).map Prod.fst = (ms.map Prod.fst).filter p :=
        (List.filter_map).symm
      rw [hfilter, hfilter]
      exact hnames.filter p

theorem filter_ofJsonMembers (p : String → Bool) (members : List (String × Json)) :
    (Document.ofJsonMembers members).filter (fun m => m.1.any p) =
      Document.ofJsonMembers (members.filter fun m => p m.1) := by
  rw [Document.ofJsonMembers_eq_map, Document.ofJsonMembers_eq_map, List.filter_map]
  rfl

theorem slot?_eq_given (hdistinct : DistinctNames members) (h : (name, v) ∈ members)
    (hnames : ∀ m ∈ members, m.1 ∈ names ↔ m.1 = name) :
    Document.slot? names (Document.ofJsonMembers members) = some (.given (Document.ofJson v)) := by
  have hfilter : (members.filter fun m => names.contains m.1) = [(name, v)] := by
    refine List.perm_singleton.mp ((List.perm_ext_iff_of_nodup (hdistinct.nodup.filter _)
      (List.nodup_singleton _)).mpr fun m => ?_)
    rw [List.mem_filter, List.contains_iff_mem, List.mem_singleton]
    constructor
    · rintro ⟨hm, hname⟩
      obtain rfl := (hnames m hm).mp hname
      exact Prod.ext rfl (hdistinct.eq_of_mem hm h)
    · rintro rfl
      exact ⟨h, (hnames _ h).mpr rfl⟩
  rw [Document.slot?, filter_ofJsonMembers, hfilter]
  rfl

theorem slot?_eq_absent (hnames : ∀ m ∈ members, m.1 ∉ names) :
    Document.slot? names (Document.ofJsonMembers members) = some .absent := by
  have hfilter : (members.filter fun m => names.contains m.1) = [] := by
    simpa [List.filter_eq_nil_iff] using fun n v hmem => hnames (n, v) hmem
  rw [Document.slot?, filter_ofJsonMembers, hfilter]
  rfl

theorem exists_mapM_of_forall₂ {α β γ : Type} {f : α → Option β} {R : γ → β → Prop} {xs : List α}
    {cs : List γ} (h : List.Forall₂ (fun c x => ∃ y, f x = some y ∧ R c y) cs xs) :
    ∃ ys, xs.mapM f = some ys ∧ List.Forall₂ R cs ys := by
  induction h with
  | nil => exact ⟨[], rfl, .nil⟩
  | cons hx _ ih =>
      obtain ⟨y, hy, hR⟩ := hx
      obtain ⟨ys, hys, hRs⟩ := ih
      exact ⟨y :: ys, by simp [List.mapM_cons, hy, hys], .cons hR hRs⟩

/-- The slot of a field of a record, by any names of which only that of the field is in the
record. -/
theorem exists_slot? (hdistinct : DistinctNames fields) (hperm : members.Perm (present fields))
    (hsame : Same (.obj members) (.obj members')) {w : Option Json} (h : (name, w) ∈ fields)
    (hnames : ∀ f ∈ fields, f.1 ∈ names ↔ f.1 = name) :
    ∃ s, Document.slot? names (Document.ofJsonMembers members') = some s ∧ s.Holds w := by
  cases hsame with
  | obj hsub hvalues =>
      have hmembers : DistinctNames members := (distinctNames_present hdistinct).of_perm hperm.symm
      have hmembers' : DistinctNames members' := hsub.nodup_iff.mp hmembers
      have hfield : ∀ m ∈ members', ∃ v, (m.1, some v) ∈ fields := by
        intro m hm
        obtain ⟨v, hv⟩ := exists_mem_of_names hsub hm
        exact ⟨v, mem_present_iff.mp (hperm.mem_iff.mp hv)⟩
      have hnames' : ∀ m ∈ members', m.1 ∈ names ↔ m.1 = name := by
        intro m hm
        obtain ⟨v, hv⟩ := hfield m hm
        exact hnames _ hv
      cases w with
      | none =>
          refine ⟨.absent, slot?_eq_absent fun m hm hname => ?_, .absent⟩
          obtain ⟨v, hv⟩ := hfield m hm
          rw [(hnames' m hm).mp hname] at hv
          cases hdistinct.eq_of_mem h hv
      | some v =>
          have hv : (name, v) ∈ members := hperm.mem_iff.mpr (mem_present_iff.mpr h)
          obtain ⟨⟨n, v'⟩, hv', rfl⟩ := List.mem_map.mp (hsub.mem_iff.mp (List.mem_map_of_mem hv))
          exact ⟨_, slot?_eq_given hmembers' hv' hnames', .given (hvalues _ _ _ hv hv')⟩

/-- The slots of some fields of a record, each by names of which only its own is in the record. -/
theorem IsRecord.exists_slots (hrecord : IsRecord v fields) (hdistinct : DistinctNames fields)
    {v' : Json} (hsame : Same v v') (written : List (String × Option Json))
    (hsub : written ⊆ fields) (names : List (List String))
    (hnames : List.Forall₂ (fun name ns => ∀ n ∈ fields.map Prod.fst, n ∈ ns ↔ n = name)
      (written.map Prod.fst) names) :
    ∃ slots, (Document.ofJson v').slots? names = some slots ∧
      List.Forall₂ (fun w s => Slot.Holds w s) (written.map Prod.snd) slots := by
  obtain ⟨members, rfl, hperm⟩ := hrecord
  cases hsame with
  | @obj _ members' hmembers hvalues =>
      have hall : (Document.ofJsonMembers members').all (·.1.isSome) = true := by
        simp [Document.ofJsonMembers_eq_map]
      rw [Document.ofJson, Document.slots?, if_pos hall]
      refine exists_mapM_of_forall₂ (List.forall₂_map_left_iff.mpr ?_)
      rw [List.forall₂_map_left_iff] at hnames
      refine ((List.forall₂_and_left _ _).mpr ⟨hsub, hnames⟩).imp fun f ns hf => ?_
      exact exists_slot? hdistinct hperm (.obj hmembers hvalues) hf.1
        (List.forall_mem_map.mp hf.2)

theorem isRecord_record (fields : List (String × Option Json)) :
    IsRecord (.record fields) fields :=
  ⟨_, rfl, .refl _⟩

theorem IsRecord.plain (h : IsRecord v fields) (hdistinct : DistinctNames fields)
    (hvalues : ∀ f ∈ fields, ∀ w ∈ f.2, Throughout Plain w) : Throughout Plain v := by
  obtain ⟨members, rfl, hperm⟩ := h
  refine throughout_obj_iff.mpr ⟨(distinctNames_present hdistinct).of_perm hperm.symm, ?_⟩
  exact fun m hm => hvalues _ (mem_present_iff.mp (hperm.mem_iff.mp hm)) m.2 rfl

/-! ## Records without optional fields -/

theorem present_map_some (members : List (String × Json)) :
    present (members.map fun m => (m.1, some m.2)) = members := by
  induction members with
  | nil => rfl
  | cons m members ih => exact congrArg (m :: ·) ih

theorem distinctNames_map_some (h : DistinctNames members) :
    DistinctNames (members.map fun m => (m.1, some m.2)) := by
  rw [DistinctNames, List.map_map]
  exact h

theorem isRecord_ofMembers (h : DistinctNames members) :
    IsRecord (.ofMembers members) (members.map fun m => (m.1, some m.2)) := by
  refine ⟨_, rfl, ?_⟩
  rw [present_map_some]
  exact perm_sortedMembers h

theorem exists_slots_ofMembers (hdistinct : DistinctNames members) {v' : Json}
    (hsame : Same (.ofMembers members) v') (names : List (List String))
    (hnames : List.Forall₂ (fun name ns => ∀ n ∈ members.map Prod.fst, n ∈ ns ↔ n = name)
      (members.map Prod.fst) names) :
    ∃ slots, (Document.ofJson v').slots? names = some slots ∧
      List.Forall₂ (fun m s => Slot.Holds (some m.2) s) members slots := by
  have hfst : (members.map fun m => (m.1, some m.2)).map Prod.fst = members.map Prod.fst := by
    rw [List.map_map]
    rfl
  obtain ⟨slots, hslots, hall⟩ := (isRecord_ofMembers hdistinct).exists_slots
    (distinctNames_map_some hdistinct) hsame _ (List.Subset.refl _) names (by rwa [hfst])
  rw [List.map_map, List.forall₂_map_left_iff] at hall
  exact ⟨slots, hslots, hall⟩

theorem plain_ofMembers (hdistinct : DistinctNames members)
    (h : ∀ m ∈ members, Throughout Plain m.2) : Throughout Plain (.ofMembers members) := by
  refine (isRecord_ofMembers hdistinct).plain (distinctNames_map_some hdistinct) ?_
  refine List.forall_mem_map.mpr fun m hm w hw => ?_
  obtain rfl := Option.some.inj hw
  exact h m hm

/-- A plain value in which lists and objects nest at most `n` deep. -/
structure Flat (n : Nat) (v : Json) : Prop where
  plain : Throughout Plain v
  depth_le : v.depth ≤ n

theorem flat_str (n : Nat) (t : String) : Flat n (.str t) := ⟨plain_str t, Nat.zero_le n⟩

theorem flat_null (n : Nat) : Flat n .null := ⟨plain_null, Nat.zero_le n⟩

theorem flat_nat {k : Nat} (n : Nat) (h : k < 2 ^ 64) : Flat n (.int k) :=
  ⟨plain_nat h, Nat.zero_le n⟩

theorem flat_ofString? (n : Nat) (o : Option String) : Flat n (.ofString? o) := by
  cases o with
  | none => exact flat_null n
  | some t => exact flat_str n t

theorem flat_arr {n : Nat} {items : List Json} (h : ∀ v ∈ items, Flat n v) :
    Flat (1 + n) (.arr items) where
  plain := throughout_arr_iff.mpr ⟨trivial, fun v hv => (h v hv).plain⟩
  depth_le := Nat.add_le_add_left (depthItems_le_iff.mpr fun v hv => (h v hv).depth_le) 1

theorem flat_strings (n : Nat) (ss : List String) : Flat (1 + n) (.strings ss) :=
  flat_arr (List.forall_mem_map.mpr fun t _ => flat_str n t)

theorem flat_ofMembers {n : Nat} (hdistinct : DistinctNames members)
    (h : ∀ m ∈ members, Flat n m.2) : Flat (1 + n) (.ofMembers members) where
  plain := plain_ofMembers hdistinct fun m hm => (h m hm).plain
  depth_le := Nat.add_le_add_left (depthMembers_le_iff.mpr fun m hm =>
    (h m ((perm_sortedMembers hdistinct).mem_iff.mp hm)).depth_le) 1

end SecretScan
