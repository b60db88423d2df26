import SecretScan.Proofs.Json.Order
import Mathlib.Algebra.GroupWithZero.Nat

/-!
# The shape of a value

Two values have the same shape if they differ in strings and names only. Where names become equal,
an object keeps one member of each name, and then there are fewer values than before.
-/

namespace SecretScan.Json

/-- The same null values, booleans and whole numbers, lists of the same length and objects with as
many members, and other numbers that are related. Strings and names may differ, and with the names
the order of the members. -/
inductive SameShape (R : Float → Float → Prop) : Json → Json → Prop
  | null : SameShape R null null
  | bool (b : Bool) : SameShape R (bool b) (bool b)
  | int (n : Int) : SameShape R (int n) (int n)
  | float {x y : Float} (h : R x y) : SameShape R (float x) (float y)
  | str (s t : String) : SameShape R (str s) (str t)
  | arr {items items' : List Json} (length : items.length = items'.length)
      (h : ∀ v v', (v, v') ∈ items.zip items' → SameShape R v v') :
      SameShape R (arr items) (arr items')
  | obj {members arranged members' : List (String × Json)}
      (length : members.length = arranged.length)
      (h : ∀ m m', (m, m') ∈ members.zip arranged → SameShape R m.2 m'.2)
      (order : arranged.Perm members') : SameShape R (obj members) (obj members')

mutual

/-- How many values there are in a value, itself among them. -/
def count : Json → Nat
  | arr items => 1 + countItems items
  | obj members => 1 + countMembers members
  | _ => 1

/-- How many values there are in several ones. -/
def countItems : List Json → Nat
  | [] => 0
  | v :: rest => count v + countItems rest

/-- How many values there are in several members. -/
def countMembers : List (String × Json) → Nat
  | [] => 0
  | (_, v) :: rest => count v + countMembers rest

end

variable {R : Float → Float → Prop} {v w : Json} {items items' : List Json}
  {members members' : List (String × Json)}

theorem same_shape_arr (h : List.Forall₂ (SameShape R) items items') :
    SameShape R (arr items) (arr items') :=
  .arr h.length_eq fun _ _ => (List.forall₂_iff_zip.mp h).2

theorem same_shape_obj {arranged : List (String × Json)}
    (h : List.Forall₂ (fun m m' => SameShape R m.2 m'.2) members arranged)
    (order : arranged.Perm members') : SameShape R (obj members) (obj members') :=
  .obj h.length_eq (fun _ _ => (List.forall₂_iff_zip.mp h).2) order

/-- A property of the numbers that are not whole. -/
def Floats (P : Float → Prop) : Json → Prop
  | float x => P x
  | _ => True

/-- Only the numbers that are there need to be related. -/
theorem SameShape.imp {S : Float → Float → Prop} (h : SameShape R v w)
    (hv : Throughout (Floats fun x => ∀ y, R x y → S x y) v) : SameShape S v w := by
  induction h with
  | null => exact .null
  | bool b => exact .bool b
  | int n => exact .int n
  | float h =>
      obtain ⟨here, -⟩ := hv
      exact .float (here _ h)
  | str s t => exact .str s t
  | arr length _ ih =>
      obtain ⟨-, hitems⟩ := throughout_arr_iff.mp hv
      exact .arr length fun v v' hmem => ih v v' hmem (hitems v (List.of_mem_zip hmem).1)
  | obj length _ order ih =>
      obtain ⟨-, hmembers⟩ := throughout_obj_iff.mp hv
      exact .obj length (fun m m' hmem => ih m m' hmem (hmembers m (List.of_mem_zip hmem).1)) order

/-! ## Members that give way -/

section Weights

variable {α : Type} {f : α → Nat} {ms : List (String × α)} {name : String} {value : α}

/-- What members weigh. -/
def weight (f : α → Nat) (ms : List (String × α)) : Nat := (ms.map fun m => f m.2).sum

@[simp] theorem weight_cons (m : String × α) : weight f (m :: ms) = f m.2 + weight f ms := rfl

theorem weight_perm {ms' : List (String × α)} (h : ms.Perm ms') : weight f ms = weight f ms' :=
  (h.map _).sum_nat

theorem weight_insertMember_le : weight f (insertMember name value ms) ≤ f value + weight f ms := by
  induction ms with
  | nil => exact Nat.le_refl _
  | cons first rest ih =>
      obtain ⟨n, v⟩ := first
      rw [insertMember]
      split_ifs <;> simp only [weight_cons] <;> omega

/-- A member gives way to a new one of its name. -/
theorem weight_insertMember_lt (hms : Sorted ms) (hf : ∀ a, 0 < f a)
    (hname : name ∈ ms.map Prod.fst) :
    weight f (insertMember name value ms) < f value + weight f ms := by
  induction ms with
  | nil => simp at hname
  | cons first rest ih =>
      obtain ⟨n, v⟩ := first
      obtain ⟨hfirst, hrest⟩ := List.pairwise_cons.mp hms
      have hv := hf v
      rw [insertMember]
      split_ifs with hlt heq
      · exfalso
        rcases List.mem_cons.mp hname with rfl | hmem
        · exact hlt.ne rfl
        · obtain ⟨m, hm, rfl⟩ := List.mem_map.mp hmem
          exact (hlt.trans (hfirst m hm)).ne rfl
      · simp only [weight_cons]
        omega
      · have := ih hrest ((List.mem_cons.mp hname).resolve_left heq)
        simp only [weight_cons]
        omega

theorem weight_sortedMembers_le (f : α → Nat) (ms : List (String × α)) :
    weight f (sortedMembers ms) ≤ weight f ms := by
  induction ms using List.reverseRecOn with
  | nil => exact Nat.le_refl _
  | append_singleton ms m ih =>
      have hinsert := @weight_insertMember_le α f (sortedMembers ms) m.1 m.2
      have happend : weight f (ms ++ [m]) = weight f ms + f m.2 := by simp [weight]
      rw [sortedMembers_append_singleton, happend]
      omega

/-- If nothing is lost, no two members have the same name. -/
theorem distinctNames_of_weight_eq (hf : ∀ a, 0 < f a)
    (h : weight f (sortedMembers ms) = weight f ms) : DistinctNames ms := by
  induction ms using List.reverseRecOn with
  | nil => exact List.nodup_nil
  | append_singleton ms m ih =>
      have hinsert := @weight_insertMember_le α f (sortedMembers ms) m.1 m.2
      have hle := weight_sortedMembers_le f ms
      have happend : weight f (ms ++ [m]) = weight f ms + f m.2 := by simp [weight]
      rw [sortedMembers_append_singleton, happend] at h
      have hdistinct := ih (by omega)
      have hnew : m.1 ∉ ms.map Prod.fst := by
        intro hmem
        have hlt : weight f (insertMember m.1 m.2 (sortedMembers ms)) < _ :=
          weight_insertMember_lt (sorted_sortedMembers ms) hf
            (((perm_sortedMembers hdistinct).map Prod.fst).mem_iff.mpr hmem)
        omega
      rw [DistinctNames, List.map_append, List.map_singleton, List.nodup_append]
      refine ⟨hdistinct, List.nodup_singleton _, ?_⟩
      rintro n hn n' hn' rfl
      rw [List.mem_singleton] at hn'
      exact hnew (hn' ▸ hn)

end Weights

/-! ## Counting values -/

theorem countItems_eq (items : List Json) : countItems items = (items.map count).sum := by
  induction items with
  | nil => rfl
  | cons v items ih => rw [countItems, ih, List.map_cons, List.sum_cons]

theorem countMembers_eq (members : List (String × Json)) :
    countMembers members = weight count members := by
  induction members with
  | nil => rfl
  | cons m members ih => rw [countMembers, ih, weight_cons]

theorem count_pos (v : Json) : 0 < v.count := by
  cases v <;> simp only [count] <;> omega

theorem map_eq_map_of_forall₂ {α β γ : Type} {f : α → γ} {g : β → γ} {xs : List α} {ys : List β}
    (h : List.Forall₂ (fun x y => f x = g y) xs ys) : xs.map f = ys.map g := by
  induction h with
  | nil => rfl
  | cons hxy _ ih => rw [List.map_cons, List.map_cons, hxy, ih]

theorem SameShape.count_eq (h : SameShape R v w) : v.count = w.count := by
  induction h with
  | null | bool | int | float | str => rfl
  | @arr items items' hlength _ ih =>
      have hall : List.Forall₂ (fun v v' => count v = count v') items items' :=
        List.forall₂_iff_zip.mpr ⟨hlength, fun hmem => ih _ _ hmem⟩
      rw [count, count, countItems_eq, countItems_eq, map_eq_map_of_forall₂ hall]
  | @obj members arranged members' hlength _ horder ih =>
      have hall : List.Forall₂ (fun m m' => m.2.count = m'.2.count) members arranged :=
        List.forall₂_iff_zip.mpr ⟨hlength, fun hmem => ih _ _ hmem⟩
      have hweight : weight count members = weight count arranged :=
        congrArg List.sum (map_eq_map_of_forall₂ hall)
      rw [count, count, countMembers_eq, countMembers_eq, hweight, weight_perm horder]

end SecretScan.Json
