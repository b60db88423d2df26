import SecretScan.Json.Document
import SecretScan.Decimal.Power
import SecretScan.Proofs.Json.Members
import Mathlib.Data.List.Forall2

/-!
# The order of members does not count

The members of an object may be written in any order, at every depth. What a document says is the
one value in which they stand in the order of their names, as long as no object has two members of
one name.
-/

namespace SecretScan

theorem mapM_eq_some_iff {α β : Type} {f : α → Option β} {xs : List α} {ys : List β} :
    xs.mapM f = some ys ↔ List.Forall₂ (fun x y => f x = some y) xs ys := by
  induction xs generalizing ys with
  | nil => cases ys <;> simp
  | cons x xs ih =>
      rw [List.mapM_cons]
      cases ys with
      | nil => cases f x <;> cases xs.mapM f <;> simp
      | cons y ys =>
          rw [List.forall₂_cons, ← ih]
          cases f x <;> cases xs.mapM f <;> simp

theorem mapM_eq_some_map {α β : Type} {f : α → Option β} {g : α → β} {xs : List α}
    (h : ∀ x ∈ xs, f x = some (g x)) : xs.mapM f = some (xs.map g) := by
  rw [mapM_eq_some_iff, List.forall₂_map_right_iff]
  exact List.forall₂_same.mpr h

theorem forall_mem_of_forall₂ {α β : Type} {p : β → Prop} {xs : List α} {ys : List β}
    (h : List.Forall₂ (fun _ y => p y) xs ys) : ∀ y ∈ ys, p y := by
  induction h with
  | nil => exact nofun
  | cons hy _ ih => exact List.forall_mem_cons.mpr ⟨hy, ih⟩

namespace Json

/-- The values that a value is put together from. -/
def parts : Json → List Json
  | arr items => items
  | obj members => members.map Prod.snd
  | _ => []

/-- A property of a value and of everything in it. -/
inductive Throughout (P : Json → Prop) : Json → Prop
  | intro {v : Json} (here : P v) (parts : ∀ w ∈ v.parts, Throughout P w) : Throughout P v

/-- Members stand in the order of their names. -/
def Ordered : Json → Prop
  | obj members => Sorted members
  | _ => True

/-- Members have distinct names, and numbers are whole and have 64 bits. -/
def Plain : Json → Prop
  | int n => -(Decimal.twoTo 63 : Int) ≤ n ∧ n < (Decimal.twoTo 64 : Int)
  | float _ => False
  | obj members => DistinctNames members
  | _ => True

/-- The same value, except that the members of objects may stand in another order. -/
inductive Same : Json → Json → Prop
  | null : Same null null
  | bool (b : Bool) : Same (bool b) (bool b)
  | int (n : Int) : Same (int n) (int n)
  | float (x : Float) : Same (float x) (float x)
  | str (s : String) : Same (str s) (str s)
  | arr {items items' : List Json} (length : items.length = items'.length)
      (h : ∀ v v', (v, v') ∈ items.zip items' → Same v v') : Same (arr items) (arr items')
  | obj {members members' : List (String × Json)}
      (names : (members.map Prod.fst).Perm (members'.map Prod.fst))
      (h : ∀ name v v', (name, v) ∈ members → (name, v') ∈ members' → Same v v') :
      Same (obj members) (obj members')

variable {v v' : Json} {members members' : List (String × Json)}

theorem Throughout.imp {P Q : Json → Prop} (h : Throughout P v) (hPQ : ∀ w, P w → Q w) :
    Throughout Q v := by
  induction h with
  | intro here _ ih => exact ⟨hPQ _ here, ih⟩

theorem throughout_arr_iff {P : Json → Prop} {items : List Json} :
    Throughout P (arr items) ↔ P (arr items) ∧ ∀ v ∈ items, Throughout P v := by
  constructor
  · rintro ⟨here, hitems⟩
    exact ⟨here, hitems⟩
  · exact fun ⟨here, hitems⟩ => ⟨here, hitems⟩

theorem throughout_obj_iff {P : Json → Prop} :
    Throughout P (obj members) ↔ P (obj members) ∧ ∀ m ∈ members, Throughout P m.2 := by
  constructor
  · rintro ⟨here, hvalues⟩
    exact ⟨here, List.forall_mem_map.mp hvalues⟩
  · exact fun ⟨here, hvalues⟩ => ⟨here, List.forall_mem_map.mpr hvalues⟩

theorem plain_null : Throughout Plain null := ⟨trivial, nofun⟩

theorem plain_bool (b : Bool) : Throughout Plain (bool b) := ⟨trivial, nofun⟩

theorem plain_str (s : String) : Throughout Plain (str s) := ⟨trivial, nofun⟩

theorem plain_nat {n : Nat} (h : n < 2 ^ 64) : Throughout Plain (int n) :=
  ⟨⟨by omega, Int.ofNat_lt.mpr h⟩, nofun⟩

theorem plain_ofString? (o : Option String) : Throughout Plain (ofString? o) := by
  cases o with
  | none => exact plain_null
  | some s => exact plain_str s

theorem plain_ofNat? {o : Option Nat} (h : ∀ n ∈ o, n < 2 ^ 64) : Throughout Plain (ofNat? o) := by
  cases o with
  | none => exact plain_null
  | some n => exact plain_nat (h n rfl)

theorem same_arr_of_forall₂ {items items' : List Json} (h : List.Forall₂ Same items items') :
    Same (arr items) (arr items') :=
  .arr h.length_eq fun _ _ => (List.forall₂_iff_zip.mp h).2

theorem same_self (h : Throughout Plain v) : Same v v := by
  induction h with
  | @intro v here _ ih =>
      cases v with
      | null => exact .null
      | bool b => exact .bool b
      | int n => exact .int n
      | float x => exact .float x
      | str s => exact .str s
      | arr items => exact same_arr_of_forall₂ (List.forall₂_same.mpr ih)
      | obj members =>
          refine .obj (.refl _) fun name v v' hv hv' => ?_
          obtain rfl := DistinctNames.eq_of_mem here hv hv'
          exact ih v (List.mem_map_of_mem hv)

theorem exists_items_of_same {items : List Json} (h : Same (arr items) v') :
    ∃ items', v' = arr items' ∧ List.Forall₂ Same items items' := by
  cases h with
  | arr hlength hitems => exact ⟨_, rfl, List.forall₂_iff_zip.mpr ⟨hlength, hitems _ _⟩⟩

theorem exists_mem_of_names (h : (members.map Prod.fst).Perm (members'.map Prod.fst))
    {m : String × Json} (hm : m ∈ members') : ∃ v, (m.1, v) ∈ members := by
  obtain ⟨m', hm', hname⟩ := List.mem_map.mp (h.mem_iff.mpr (List.mem_map_of_mem hm))
  exact ⟨m'.2, hname ▸ hm'⟩

theorem plain_of_same (h : Throughout Plain v) (hsame : Same v v') : Throughout Plain v' := by
  induction h generalizing v' with
  | @intro v here hparts ih =>
      cases v with
      | null => cases hsame; exact ⟨here, hparts⟩
      | bool b => cases hsame; exact ⟨here, hparts⟩
      | int n => cases hsame; exact ⟨here, hparts⟩
      | float x => exact here.elim
      | str s => cases hsame; exact ⟨here, hparts⟩
      | arr items =>
          obtain ⟨items', rfl, hitems⟩ := exists_items_of_same hsame
          have hall := ((List.forall₂_and_left _ _).mpr ⟨ih, hitems⟩).imp
            fun _ _ hv => hv.1 hv.2
          exact throughout_arr_iff.mpr ⟨trivial, forall_mem_of_forall₂ hall⟩
      | obj members =>
          cases hsame with
          | @obj _ members' hnames hvalues =>
              refine throughout_obj_iff.mpr ⟨hnames.nodup_iff.mp here, fun m hm => ?_⟩
              obtain ⟨v, hv⟩ := exists_mem_of_names hnames hm
              exact ih v (List.mem_map_of_mem hv) (hvalues _ _ _ hv hm)

theorem depthItems_le_iff {items : List Json} {n : Nat} :
    depthItems items ≤ n ↔ ∀ v ∈ items, v.depth ≤ n := by
  induction items with
  | nil => simp [depthItems]
  | cons v items ih => rw [depthItems, max_le_iff, ih, List.forall_mem_cons]

theorem depthMembers_le_iff {n : Nat} :
    depthMembers members ≤ n ↔ ∀ m ∈ members, m.2.depth ≤ n := by
  induction members with
  | nil => simp [depthMembers]
  | cons m members ih => rw [depthMembers, max_le_iff, ih, List.forall_mem_cons]

theorem depth_le_of_same {n : Nat} (hsame : Same v v') (h : v.depth ≤ n) : v'.depth ≤ n := by
  induction hsame generalizing n with
  | null | bool | int | float | str => exact h
  | @arr items items' hlength _ ih =>
      rw [depth] at h ⊢
      obtain ⟨n, rfl⟩ := Nat.exists_eq_add_of_le' (Nat.le_of_add_right_le h)
      have hitems := depthItems_le_iff.mp (by omega : depthItems items ≤ n)
      have hall : List.Forall₂ (fun v v' => v.depth ≤ n → v'.depth ≤ n) items items' :=
        List.forall₂_iff_zip.mpr ⟨hlength, fun hmem => ih _ _ hmem⟩
      have hitems' := forall_mem_of_forall₂ (((List.forall₂_and_left _ _).mpr ⟨hitems, hall⟩).imp
        fun _ _ hv => hv.2 hv.1)
      have := depthItems_le_iff.mpr hitems'
      omega
  | @obj members members' hnames _ ih =>
      rw [depth] at h ⊢
      obtain ⟨n, rfl⟩ := Nat.exists_eq_add_of_le' (Nat.le_of_add_right_le h)
      have hmembers := depthMembers_le_iff.mp (by omega : depthMembers members ≤ n)
      have hmembers' : ∀ m ∈ members', m.2.depth ≤ n := by
        intro m hm
        obtain ⟨v, hv⟩ := exists_mem_of_names hnames hm
        exact ih _ _ _ hv hm (hmembers _ hv)
      have := depthMembers_le_iff.mpr hmembers'
      omega

/-- If each member is read as the entry of its name, the entries in order are what is read. -/
theorem exists_entries {α : Type} [Nonempty α] {entries : List (String × α)}
    {read : String × Json → Option (String × α)} (hsorted : Sorted entries)
    (hnames : (entries.map Prod.fst).Perm (members.map Prod.fst))
    (hread : ∀ m ∈ members, ∀ a, (m.1, a) ∈ entries → read m = some (m.1, a)) :
    ∃ found, members.mapM read = some found ∧ sortedMembers found = entries := by
  have hentry : ∀ m ∈ members, ∃ e ∈ entries, e.1 = m.1 := fun m hm =>
    List.mem_map.mp (hnames.mem_iff.mpr (List.mem_map_of_mem hm))
  choose! entry hmem hname using hentry
  refine ⟨members.map entry, mapM_eq_some_map fun m hm => ?_, hsorted.sortedMembers_eq_of_perm ?_⟩
  · have hentry : (m.1, (entry m).2) = entry m := by rw [← hname m hm]
    rw [hread m hm (entry m).2 (hentry ▸ hmem m hm), hentry]
  · refine perm_of_names hsorted.distinctNames ?_ (List.forall_mem_map.mpr hmem)
    rw [List.map_map]
    exact (List.map_congr_left hname).symm ▸ hnames.symm

end Json

namespace Document

open Json

variable {v v' : Json}

theorem ofJsonItems_eq_map (items : List Json) : ofJsonItems items = items.map ofJson := by
  induction items with
  | nil => rfl
  | cons v items ih => rw [ofJsonItems, ih, List.map_cons]

theorem ofJsonMembers_eq_map (members : List (String × Json)) :
    ofJsonMembers members = members.map fun m => (some m.1, ofJson m.2) := by
  induction members with
  | nil => rfl
  | cons m members ih => rw [ofJsonMembers, ih, List.map_cons]

theorem toJsonItems?_ofJsonItems (items : List Json) :
    toJsonItems? (ofJsonItems items) = items.mapM fun v => (ofJson v).toJson? := by
  induction items with
  | nil => rfl
  | cons v items ih =>
      simp only [ofJsonItems, toJsonItems?, List.mapM_cons, ih]
      cases (ofJson v).toJson? with
      | none => rfl
      | some v => cases items.mapM fun v => (ofJson v).toJson? <;> rfl

theorem toJsonMembers?_ofJsonMembers (members : List (String × Json)) :
    toJsonMembers? (ofJsonMembers members) =
      members.mapM fun m => (ofJson m.2).toJson?.map fun v => (m.1, v) := by
  induction members with
  | nil => rfl
  | cons m members ih =>
      simp only [ofJsonMembers, toJsonMembers?, List.mapM_cons, ih]
      cases (ofJson m.2).toJson? with
      | none => rfl
      | some v => cases members.mapM fun m => (ofJson m.2).toJson?.map fun v => (m.1, v) <;> rfl

/-- In whatever order the members of a canonical value stand, a document says that value. -/
theorem toJson?_ofJson_of_same (h : Throughout Ordered v) (hsame : Same v v') :
    (ofJson v').toJson? = some v := by
  induction h generalizing v' with
  | @intro v here _ ih =>
      cases v with
      | null => cases hsame; rfl
      | bool b => cases hsame; rfl
      | int n => cases hsame; rfl
      | float x => cases hsame; rfl
      | str s => cases hsame; rfl
      | arr items =>
          obtain ⟨items', rfl, hitems⟩ := exists_items_of_same hsame
          have hread : toJsonItems? (ofJsonItems items') = some items := by
            rw [toJsonItems?_ofJsonItems, mapM_eq_some_iff]
            exact (((List.forall₂_and_left _ _).mpr ⟨ih, hitems⟩).imp
              fun _ _ hv => hv.1 hv.2).flip
          rw [ofJson, toJson?, hread, Option.map_some]
      | obj members =>
          cases hsame with
          | @obj _ members' hnames hvalues =>
              obtain ⟨found, hread, hfound⟩ : ∃ found,
                  toJsonMembers? (ofJsonMembers members') = some found ∧
                    sortedMembers found = members := by
                rw [toJsonMembers?_ofJsonMembers]
                refine exists_entries here hnames fun m hm v hv => ?_
                rw [ih v (List.mem_map_of_mem hv) (hvalues _ _ _ hv hm), Option.map_some]
              rw [ofJson, toJson?, hread, Option.map_some, ofMembers, hfound]

/-- What the document of a value says: the value with its members in order. -/
theorem exists_toJson?_ofJson (h : Throughout Plain v) :
    ∃ w, (ofJson v).toJson? = some w ∧ Throughout Ordered w ∧ Same v w := by
  induction h with
  | @intro v here _ ih =>
      cases v with
      | null => exact ⟨.null, rfl, ⟨trivial, nofun⟩, .null⟩
      | bool b => exact ⟨.bool b, rfl, ⟨trivial, nofun⟩, .bool b⟩
      | int n => exact ⟨.int n, rfl, ⟨trivial, nofun⟩, .int n⟩
      | float x => exact here.elim
      | str s => exact ⟨.str s, rfl, ⟨trivial, nofun⟩, .str s⟩
      | arr items =>
          choose! value hread hordered hsame using ih
          have hitems : toJsonItems? (ofJsonItems items) = some (items.map value) := by
            rw [toJsonItems?_ofJsonItems]
            exact mapM_eq_some_map hread
          refine ⟨.arr (items.map value), ?_, ?_, ?_⟩
          · rw [ofJson, toJson?, hitems, Option.map_some]
          · exact throughout_arr_iff.mpr ⟨trivial, List.forall_mem_map.mpr hordered⟩
          · exact same_arr_of_forall₂ (List.forall₂_map_right_iff.mpr (List.forall₂_same.mpr hsame))
      | obj members =>
          choose! value hread hordered hsame using List.forall_mem_map.mp ih
          have hnames : (members.map fun m => (m.1, value m)).map Prod.fst =
              members.map Prod.fst := by
            rw [List.map_map]
            rfl
          have hdistinct : DistinctNames (members.map fun m => (m.1, value m)) := by
            rw [DistinctNames, hnames]
            exact here
          have hperm := perm_sortedMembers hdistinct
          have hmembers : toJsonMembers? (ofJsonMembers members) =
              some (members.map fun m => (m.1, value m)) := by
            rw [toJsonMembers?_ofJsonMembers]
            exact mapM_eq_some_map fun m hm => by rw [hread m hm, Option.map_some]
          refine ⟨ofMembers (members.map fun m => (m.1, value m)), ?_, ?_, .obj ?_ ?_⟩
          · rw [ofJson, toJson?, hmembers, Option.map_some]
          · refine throughout_obj_iff.mpr ⟨sorted_sortedMembers _, fun m hm => ?_⟩
            obtain ⟨m', hm', rfl⟩ := List.mem_map.mp (hperm.mem_iff.mp hm)
            exact hordered m' hm'
          · exact hnames ▸ (hperm.map Prod.fst).symm
          · intro name v w hv hw
            obtain ⟨m, hm, heq⟩ := List.mem_map.mp (hperm.mem_iff.mp hw)
            obtain ⟨rfl, rfl⟩ := Prod.mk.inj heq
            obtain rfl : v = m.2 := DistinctNames.eq_of_mem here hv hm
            exact hsame m hm

end Document

end SecretScan
