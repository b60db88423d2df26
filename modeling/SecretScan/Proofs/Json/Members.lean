import SecretScan.Json.Basic
import Mathlib.Data.List.Induction
import Mathlib.Data.List.Perm.Subperm
import Mathlib.Data.List.Sort
import Mathlib.Data.String.Basic

/-!
# Members in the order of their names

Inserting members one by one keeps a list strictly in the order of the names. Such a list is
determined by what is in it, so the members of an object whose names are distinct can be sorted in
one way only, and sorting them loses none.
-/

namespace SecretScan

/-- Strictly in the order of the names, so that every name has one value at most. -/
def Json.Sorted {α : Type} (members : List (String × α)) : Prop :=
  members.Pairwise fun m m' => m.1 < m'.1

instance {α : Type} (members : List (String × α)) : Decidable (Json.Sorted members) :=
  inferInstanceAs (Decidable (List.Pairwise _ members))

namespace Json

variable {α : Type} {members : List (String × α)} {name : String} {value : α}

theorem Sorted.tail {m : String × α} (h : Sorted (m :: members)) : Sorted members :=
  List.Pairwise.tail h

/-- Are the names of members distinct? -/
def DistinctNames (members : List (String × α)) : Prop := (members.map Prod.fst).Nodup

theorem Sorted.distinctNames (h : Sorted members) : DistinctNames members :=
  List.Pairwise.map Prod.fst (fun _ _ hlt => hlt.ne) h

theorem DistinctNames.nodup (h : DistinctNames members) : members.Nodup := List.Nodup.of_map _ h

theorem DistinctNames.of_perm {others : List (String × α)} (h : DistinctNames members)
    (hperm : members.Perm others) : DistinctNames others :=
  (hperm.map Prod.fst).nodup_iff.mp h

theorem DistinctNames.lookup_eq_some_iff (h : DistinctNames members) :
    members.lookup name = some value ↔ (name, value) ∈ members := by
  induction members with
  | nil => simp
  | cons first rest ih =>
      obtain ⟨n, v⟩ := first
      obtain ⟨hfirst, hrest⟩ := List.nodup_cons.mp h
      by_cases hname : name = n
      · subst hname
        have hnot : (name, value) ∉ rest := fun hm =>
          hfirst (List.mem_map.mpr ⟨_, hm, rfl⟩)
        simp [hnot, eq_comm]
      · simp [List.lookup_cons, hname, ih hrest, beq_eq_false_iff_ne.mpr hname]

theorem DistinctNames.eq_of_mem {v w : α} (h : DistinctNames members) (hv : (name, v) ∈ members)
    (hw : (name, w) ∈ members) : v = w :=
  Option.some.inj ((h.lookup_eq_some_iff.mpr hv).symm.trans (h.lookup_eq_some_iff.mpr hw))

/-- The values of the other names stay, and that of the name is the new one. -/
theorem mem_insertMember (h : Sorted members) {m : String × α} :
    m ∈ insertMember name value members ↔ m = (name, value) ∨ m ∈ members ∧ m.1 ≠ name := by
  induction members with
  | nil => simp [insertMember]
  | cons first rest ih =>
      obtain ⟨n, v⟩ := first
      obtain ⟨hfirst, hrest⟩ := List.pairwise_cons.mp h
      rw [insertMember]
      split
      · rename_i hlt
        have hne : ∀ m ∈ (n, v) :: rest, m.1 ≠ name := by
          intro m hm
          rcases List.mem_cons.mp hm with rfl | hm
          · exact hlt.ne'
          · exact (hlt.trans (hfirst m hm)).ne'
        rw [List.mem_cons]
        exact or_congr_right ⟨fun hm => ⟨hm, hne m hm⟩, And.left⟩
      · split
        · rename_i heq
          subst heq
          have hne : m ∈ rest → m.1 ≠ name := fun hm => (hfirst m hm).ne'
          simp only [List.mem_cons]
          constructor
          · rintro (hm | hm)
            · exact .inl hm
            · exact .inr ⟨.inr hm, hne hm⟩
          · rintro (hm | ⟨rfl | hm, hm'⟩)
            · exact .inl hm
            · exact absurd rfl hm'
            · exact .inr hm
        · rename_i hne
          rw [List.mem_cons, ih hrest, List.mem_cons]
          constructor
          · rintro (rfl | hm | ⟨hm, hm'⟩)
            · exact .inr ⟨.inl rfl, fun h => hne h.symm⟩
            · exact .inl hm
            · exact .inr ⟨.inr hm, hm'⟩
          · rintro (hm | ⟨hm | hm, hm'⟩)
            · exact .inr (.inl hm)
            · exact .inl hm
            · exact .inr (.inr ⟨hm, hm'⟩)

theorem sorted_insertMember (h : Sorted members) : Sorted (insertMember name value members) := by
  induction members with
  | nil => exact List.pairwise_singleton _ _
  | cons first rest ih =>
      obtain ⟨n, v⟩ := first
      obtain ⟨hfirst, hrest⟩ := List.pairwise_cons.mp h
      rw [insertMember]
      split
      · rename_i hlt
        refine List.pairwise_cons.mpr ⟨fun m hm => ?_, h⟩
        rcases List.mem_cons.mp hm with rfl | hm
        · exact hlt
        · exact hlt.trans (hfirst m hm)
      · split
        · rename_i heq
          subst heq
          exact List.pairwise_cons.mpr ⟨hfirst, hrest⟩
        · rename_i hlt hne
          refine List.pairwise_cons.mpr ⟨fun m hm => ?_, ih hrest⟩
          rcases (mem_insertMember hrest).mp hm with rfl | ⟨hm, -⟩
          · exact lt_of_le_of_ne (not_lt.mp hlt) (Ne.symm hne)
          · exact hfirst m hm

/-- In order, the same members are the same list. -/
theorem Sorted.ext {others : List (String × α)} (h : Sorted members) (h' : Sorted others)
    (hmem : ∀ m, m ∈ members ↔ m ∈ others) : members = others := by
  have hperm : members.Perm others :=
    (List.perm_ext_iff_of_nodup h.distinctNames.nodup h'.distinctNames.nodup).mpr hmem
  exact hperm.eq_of_pairwise (fun m m' _ _ hlt hlt' => absurd hlt' hlt.not_gt) h h'

/-! ## Sorting members -/

theorem sortedMembers_append_singleton (m : String × α) :
    sortedMembers (members ++ [m]) = insertMember m.1 m.2 (sortedMembers members) := by
  rw [sortedMembers, List.foldl_append]
  rfl

theorem sorted_sortedMembers (members : List (String × α)) : Sorted (sortedMembers members) := by
  induction members using List.reverseRecOn with
  | nil => exact .nil
  | append_singleton members m ih =>
      rw [sortedMembers_append_singleton]
      exact sorted_insertMember ih

/-- Nothing gives way to a member with a name of its own. -/
theorem perm_insertMember (h : ∀ m ∈ members, m.1 ≠ name) :
    (insertMember name value members).Perm ((name, value) :: members) := by
  induction members with
  | nil => exact .refl _
  | cons first rest ih =>
      obtain ⟨hfirst, hrest⟩ := List.forall_mem_cons.mp h
      rw [insertMember]
      split
      · exact .refl _
      · rw [if_neg (Ne.symm hfirst)]
        exact ((ih hrest).cons first).trans (.swap _ _ _)

theorem perm_sortedMembers (h : DistinctNames members) : (sortedMembers members).Perm members := by
  induction members using List.reverseRecOn with
  | nil => exact .refl _
  | append_singleton members m ih =>
      rw [DistinctNames, List.map_append, List.nodup_append] at h
      have hperm := ih h.1
      have hname : ∀ m' ∈ sortedMembers members, m'.1 ≠ m.1 := fun m' hm' =>
        h.2.2 m'.1 (List.mem_map_of_mem (hperm.mem_iff.mp hm')) m.1 (by simp)
      rw [sortedMembers_append_singleton]
      exact (perm_insertMember hname).trans
        ((hperm.cons m).trans (List.perm_append_singleton m _).symm)

/-- Members with the names of others, all of them among those, are those in some order. -/
theorem perm_of_names {others : List (String × α)} (h : DistinctNames others)
    (hnames : (members.map Prod.fst).Perm (others.map Prod.fst))
    (hsub : ∀ m ∈ members, m ∈ others) :
    members.Perm others := by
  have hdistinct : DistinctNames members := hnames.nodup_iff.mpr h
  refine (List.Nodup.subperm hdistinct.nodup hsub).perm_of_length_le ?_
  have hlength := hnames.length_eq
  rw [List.length_map, List.length_map] at hlength
  exact hlength.ge

/-- There is one way to sort members. -/
theorem Sorted.sortedMembers_eq_of_perm {others : List (String × α)} (h : Sorted others)
    (hperm : members.Perm others) : sortedMembers members = others := by
  have hdistinct : DistinctNames members := h.distinctNames.of_perm hperm.symm
  exact (sorted_sortedMembers members).ext h fun _ =>
    ((perm_sortedMembers hdistinct).trans hperm).mem_iff

theorem Sorted.sortedMembers_eq (h : Sorted members) : sortedMembers members = members :=
  h.sortedMembers_eq_of_perm (.refl _)

theorem Sorted.map_snd {β : Type} (h : Sorted members) (f : α → β) :
    Sorted (members.map fun m => (m.1, f m.2)) :=
  List.Pairwise.map _ (fun _ _ hlt => hlt) h

end Json

end SecretScan
