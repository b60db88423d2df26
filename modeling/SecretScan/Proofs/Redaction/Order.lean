import SecretScan.Proofs.Json.Fields
import SecretScan.Proofs.Redaction.Standard
import SecretScan.Proofs.Text.ByteOrder

/-!
# The order of rules

Of two rules with different names one comes strictly before the other, so rules can be put in order
in one way only, and that is the order in which they apply. Rules are taken as a whole: if the
pattern of one of them cannot be read, none of them applies, and the first such rule by name is the
failure.
-/

namespace SecretScan

open Text.Utf8 (bytes length_bytes bytes_lt_bytes_iff)

namespace ActiveRule

variable {a b c : ActiveRule}

/-- Does the first rule come strictly before the second? The one of higher priority comes first,
then the one whose pattern has more bytes, then the one whose name is smaller by its bytes. -/
def Before (a b : ActiveRule) : Prop :=
  b.priority < a.priority ∨ a.priority = b.priority ∧
    ((bytes b.source).length < (bytes a.source).length ∨
      (bytes a.source).length = (bytes b.source).length ∧ bytes a.name < bytes b.name)

/-- One rule comes strictly before another unless it is to follow it. -/
theorem before_iff : a.Before b ↔ b.precedes a = false := by
  rw [Before, length_bytes, length_bytes, bytes_lt_bytes_iff, ← Bool.not_eq_true, precedes_iff,
    ← String.not_le]
  by_cases hname : b.name ≤ a.name
  · simp only [hname, not_true_eq_false, and_true, and_false, or_false]
    omega
  · simp only [hname, not_false_eq_true, and_true, and_false, or_false]
    omega

theorem not_before_self (a : ActiveRule) : ¬ a.Before a := by
  rw [before_iff, Bool.not_eq_false]
  simpa using precedes_total a a

theorem Before.trans (hab : a.Before b) (hbc : b.Before c) : a.Before c := by
  rw [before_iff] at *
  by_contra hca
  rw [Bool.not_eq_false] at hca
  have hbc' : b.precedes c = true := by simpa [hbc] using precedes_total b c
  simp [precedes_trans hbc' hca] at hab

theorem before_or_before (h : a.name ≠ b.name) : a.Before b ∨ b.Before a := by
  rw [before_iff, before_iff]
  by_contra hneither
  obtain ⟨hba, hab⟩ := not_or.mp hneither
  exact h (name_eq_of_precedes ((Bool.not_eq_false _).mp hab) ((Bool.not_eq_false _).mp hba))

theorem Before.asymm (h : a.Before b) : ¬ b.Before a := fun h' => not_before_self a (h.trans h')

/-- Rules can be put in order in one way only. -/
theorem eq_of_perm_of_before {rs rs' : List ActiveRule} (hperm : rs.Perm rs')
    (h : rs.Pairwise Before) (h' : rs'.Pairwise Before) : rs = rs' :=
  hperm.eq_of_pairwise (fun _ _ _ _ hab hba => absurd hba hab.asymm) h h'

/-- Sorting rules whose names differ puts each strictly before all later ones. -/
theorem pairwise_before_mergeSort {rs : List ActiveRule} (h : (rs.map (·.name)).Nodup) :
    (List.mergeSort rs precedes).Pairwise Before := by
  have hsorted := @List.pairwise_mergeSort _ precedes (fun _ _ _ => precedes_trans)
    precedes_total rs
  have hnames : ((List.mergeSort rs precedes).map (·.name)).Nodup :=
    ((List.mergeSort_perm rs precedes).map _).nodup_iff.mpr h
  have hdistinct := List.pairwise_map.mp hnames
  refine (hsorted.and hdistinct).imp fun {a b} ⟨hab, hne⟩ => ?_
  rw [before_iff, ← Bool.not_eq_true]
  exact fun hba => hne (name_eq_of_precedes hab hba)

end ActiveRule

/-- Can the pattern of a rule be read? -/
def RedactionRule.IsReadable (r : RedactionRule) : Prop :=
  ∃ p, Pattern.parse r.pattern.toList = .ok p

instance : DecidablePred RedactionRule.IsReadable := fun r =>
  match h : Pattern.parse r.pattern.toList with
  | .ok p => isTrue ⟨p, h⟩
  | .error _ => isFalse fun ⟨p, hp⟩ => by simp [h] at hp

/-- Is an active rule what a written one becomes under its name? -/
structure ActiveRule.IsOf (a : ActiveRule) (m : String × RedactionRule) : Prop where
  name : a.name = m.1
  priority : a.priority = m.2.priority
  source : a.source = m.2.pattern
  replacement : a.replacement = m.2.replacement
  pattern : Pattern.parse a.source.toList = .ok a.pattern

namespace RedactionRules

/-! ## Reading the patterns -/

section

variable {name : String} {rule : RedactionRule} {m : String × RedactionRule}
  {front back members : List (String × RedactionRule)}

/-- The failure of a rule whose pattern cannot be read. -/
def unreadable (name : String) : Failure :=
  .redactionRules ("rule `" ++ name ++ "` has an invalid pattern")

theorem exists_activate (name : String) (h : rule.IsReadable) :
    ∃ a, activate name rule = .ok a ∧ a.IsOf (name, rule) := by
  obtain ⟨p, hp⟩ := h
  exact ⟨⟨name, rule.priority, rule.pattern, p, rule.replacement⟩, by rw [activate, hp],
    rfl, rfl, rfl, rfl, hp⟩

theorem activate_of_not_readable (h : ¬ rule.IsReadable) :
    activate name rule = .error (unreadable name) := by
  cases hp : Pattern.parse rule.pattern.toList with
  | ok p => exact absurd ⟨p, hp⟩ h
  | error e =>
      rw [activate, hp]
      rfl

theorem exists_mapM_activate (h : ∀ m ∈ members, m.2.IsReadable) :
    ∃ all, (members.mapM fun m => activate m.1 m.2) = .ok all ∧
      List.Forall₂ ActiveRule.IsOf all members := by
  induction members with
  | nil => exact ⟨[], rfl, .nil⟩
  | cons m rest ih =>
      obtain ⟨a, ha, hof⟩ := exists_activate m.1 (h m List.mem_cons_self)
      obtain ⟨all, hall, hofs⟩ := ih fun m' hm' => h m' (List.mem_cons_of_mem m hm')
      refine ⟨a :: all, ?_, .cons hof hofs⟩
      rw [List.mapM_cons, ha, hall]
      rfl

/-- The first rule whose pattern cannot be read decides. -/
theorem mapM_activate_of_first (hfront : ∀ m ∈ front, m.2.IsReadable) (hm : ¬ m.2.IsReadable) :
    ((front ++ m :: back).mapM fun m => activate m.1 m.2) = .error (unreadable m.1) := by
  induction front with
  | nil =>
      rw [List.nil_append, List.mapM_cons, activate_of_not_readable hm]
      rfl
  | cons first rest ih =>
      obtain ⟨a, ha, -⟩ := exists_activate first.1 (hfront first List.mem_cons_self)
      have hrest := ih fun m' hm' => hfront m' (List.mem_cons_of_mem first hm')
      rw [List.cons_append, List.mapM_cons, ha, hrest]
      rfl

theorem names_of_isOf {all : List ActiveRule} (h : List.Forall₂ ActiveRule.IsOf all members) :
    all.map (·.name) = members.map Prod.fst := by
  induction h with
  | nil => rfl
  | cons hfirst _ ih => rw [List.map_cons, List.map_cons, hfirst.name, ih]

theorem exists_first_unreadable (h : ∃ m ∈ members, ¬ m.2.IsReadable) :
    ∃ front m back, members = front ++ m :: back ∧ (∀ x ∈ front, x.2.IsReadable) ∧
      ¬ m.2.IsReadable := by
  induction members with
  | nil => simp at h
  | cons first rest ih =>
      by_cases hfirst : first.2.IsReadable
      · obtain ⟨m, hm, hnot⟩ := h
        have hrest : m ∈ rest := by
          rcases List.mem_cons.mp hm with rfl | hm
          · exact absurd hfirst hnot
          · exact hm
        obtain ⟨front, m', back, rfl, hfront, hm'⟩ := ih ⟨m, hrest, hnot⟩
        refine ⟨first :: front, m', back, rfl, ?_, hm'⟩
        rintro x (_ | ⟨_, hx⟩)
        · exact hfirst
        · exact hfront x hx
      · exact ⟨[], first, rest, rfl, nofun, hfirst⟩

end

/-! ## Rules as a whole -/

section

variable {r : RedactionRules} {m : String × RedactionRule}

/-- Is it, by the bytes of the names, the first rule whose pattern cannot be read? -/
def IsFirstUnreadable (r : RedactionRules) (m : String × RedactionRule) : Prop :=
  m ∈ r.rules ∧ ¬ m.2.IsReadable ∧
    ∀ m' ∈ r.rules, ¬ m'.2.IsReadable → m' = m ∨ bytes m.1 < bytes m'.1

theorem exists_isFirstUnreadable (hsorted : Json.Sorted r.rules)
    (h : ∃ m ∈ r.rules, ¬ m.2.IsReadable) :
    ∃ m, r.IsFirstUnreadable m ∧ r.compile = .error (unreadable m.1) := by
  obtain ⟨front, m, back, hrules, hfront, hm⟩ := exists_first_unreadable h
  refine ⟨m, ⟨by simp [hrules], hm, fun m' hm' hnot => ?_⟩, ?_⟩
  · rw [hrules, List.mem_append, List.mem_cons] at hm'
    rcases hm' with hm' | rfl | hm'
    · exact absurd (hfront m' hm') hnot
    · exact .inl rfl
    · rw [Json.Sorted, hrules] at hsorted
      have hlater := (List.pairwise_append.mp hsorted).2.1
      exact .inr (bytes_lt_bytes_iff.mpr (List.rel_of_pairwise_cons hlater hm'))
  · rw [compile, hrules, mapM_activate_of_first hfront hm]
    rfl

theorem IsFirstUnreadable.eq {m' : String × RedactionRule} (h : r.IsFirstUnreadable m)
    (h' : r.IsFirstUnreadable m') : m = m' := by
  obtain ⟨hm, hnot, hfirst⟩ := h
  obtain ⟨hm', hnot', hfirst'⟩ := h'
  rcases hfirst m' hm' hnot' with rfl | hlt
  · rfl
  · rcases hfirst' m hm hnot with rfl | hgt
    · rfl
    · exact absurd hgt (List.lt_asymm hlt)

theorem exists_compile (hsorted : Json.Sorted r.rules) (h : ∀ m ∈ r.rules, m.2.IsReadable) :
    ∃ all rs, r.compile = .ok rs ∧ rs.Perm all ∧ List.Forall₂ ActiveRule.IsOf all r.rules ∧
      rs.Pairwise ActiveRule.Before := by
  obtain ⟨all, hall, hof⟩ := exists_mapM_activate h
  refine ⟨all, List.mergeSort all ActiveRule.precedes, ?_, List.mergeSort_perm _ _, hof, ?_⟩
  · rw [compile, hall]
    rfl
  · refine ActiveRule.pairwise_before_mergeSort ?_
    rw [names_of_isOf hof]
    exact hsorted.distinctNames

/-- A map that has been read is in the order of the names. -/
theorem sorted_of_map? {α : Type} {decode : Decoder α} {d : Document} {members : List (String × α)}
    (h : d.map? decode = some members) : Json.Sorted members := by
  cases d with
  | obj entries =>
      obtain ⟨values, -, rfl⟩ := Option.map_eq_some_iff.mp h
      exact Json.sorted_sortedMembers values
  | _ => simp [Document.map?] at h

theorem sorted_of_decode? {d : Document} (h : decode? d = some r) : Json.Sorted r.rules := by
  obtain ⟨slots, -, h⟩ := Option.bind_eq_some_iff.mp h
  split at h
  · rename_i rules
    obtain ⟨members, hmembers, h⟩ := Option.bind_eq_some_iff.mp h
    cases h
    exact Slot.of_defaulted hmembers (fun _ _ => sorted_of_map?) .nil
  · simp at h

/-- What is read from a text, in either notation, is read from a document. -/
theorem exists_document_of_text {α : Type} {decode : Decoder α} {text : List Char} {v : α}
    (h : Config.ofTomlText decode text = .ok v ∨ Config.ofJsonText decode text = .ok v) :
    ∃ d, decode d = some v := by
  have hread {document : Option Document} (hdecode : document.bind decode = some v) :
      ∃ d, decode d = some v := by
    obtain ⟨d, -, hd⟩ := Option.bind_eq_some_iff.mp hdecode
    exact ⟨d, hd⟩
  rcases h with h | h
  · rw [Config.ofTomlText] at h
    cases hdecode : (Toml.readDocument? text).bind decode <;> simp [hdecode] at h
    exact hread (h ▸ hdecode)
  · rw [Config.ofJsonText] at h
    cases hdecode : (Json.readDocument? text).bind decode <;> simp [hdecode] at h
    exact hread (h ▸ hdecode)

theorem sorted_of_load {path : String} {content : Except SystemError (List UInt8)}
    (h : load path content = .ok r) : Json.Sorted r.rules := by
  have hread : ∃ d, decode? d = some r := by
    cases htext : Config.fileText content with
    | error f => simp [load, htext, bind, Except.bind] at h
    | ok text =>
        simp only [load, htext, bind, Except.bind] at h
        split at h
        · exact exists_document_of_text (.inl h)
        · exact exists_document_of_text (.inr h)
        · simp at h
  obtain ⟨d, hd⟩ := hread
  exact sorted_of_decode? hd

theorem ofFile_of_load {path : String} {content : String → Except SystemError (List UInt8)}
    (h : load path (content path) = .ok r) (capacity : Nat) :
    Redactor.ofFile (some path) content capacity =
      match r.compile with
      | .ok rs => (.new rs capacity, none)
      | .error f => (.new standardActive capacity, some f) := by
  rw [Redactor.ofFile, h]
  rfl

/-- The rules of a file are put in the one order in which each comes strictly before all later ones.
If a pattern cannot be read, the standard rules apply instead, and nothing of the file. -/
theorem rules_apply_in_strict_order_or_not_at_all (r : RedactionRules)
    (hsorted : Json.Sorted r.rules) :
    (∀ a : ActiveRule, ¬ a.Before a) ∧
    (∀ a b c : ActiveRule, a.Before b → b.Before c → a.Before c) ∧
    (∀ a b : ActiveRule, a.name ≠ b.name → a.Before b ∨ b.Before a) ∧
    ((∀ m ∈ r.rules, m.2.IsReadable) → ∃ all rs, r.compile = .ok rs ∧
      List.Forall₂ ActiveRule.IsOf all r.rules ∧ rs.Perm all ∧ rs.Pairwise ActiveRule.Before ∧
      (∀ others, others.Perm all → others.Pairwise ActiveRule.Before → others = rs) ∧
      ∀ path content capacity, load path (content path) = .ok r →
        Redactor.ofFile (some path) content capacity = (.new rs capacity, none)) ∧
    ((∃ m ∈ r.rules, ¬ m.2.IsReadable) → ∃ m, r.IsFirstUnreadable m ∧
      (∀ m', r.IsFirstUnreadable m' → m' = m) ∧
      r.compile = .error (.redactionRules ("rule `" ++ m.1 ++ "` has an invalid pattern")) ∧
      ∀ path content capacity, load path (content path) = .ok r →
        Redactor.ofFile (some path) content capacity = (.new standardActive capacity,
          some (.redactionRules ("rule `" ++ m.1 ++ "` has an invalid pattern")))) ∧
    standard.compile = .ok standardActive ∧
    ∀ path content loaded, load path content = .ok loaded → Json.Sorted loaded.rules := by
  refine ⟨ActiveRule.not_before_self, fun _ _ _ => ActiveRule.Before.trans,
    fun _ _ => ActiveRule.before_or_before, ?_, ?_, standard_compile, fun _ _ _ => sorted_of_load⟩
  · intro hreadable
    obtain ⟨all, rs, hcompile, hperm, hof, hordered⟩ := exists_compile hsorted hreadable
    refine ⟨all, rs, hcompile, hof, hperm, hordered, ?_, ?_⟩
    · exact fun others hothers hbefore =>
        ActiveRule.eq_of_perm_of_before (hothers.trans hperm.symm) hbefore hordered
    · intro path content capacity hload
      rw [ofFile_of_load hload, hcompile]
  · intro hunreadable
    obtain ⟨m, hfirst, hcompile⟩ := exists_isFirstUnreadable hsorted hunreadable
    refine ⟨m, hfirst, fun m' hm' => hm'.eq hfirst, hcompile, fun path content capacity hload => ?_⟩
    rw [ofFile_of_load hload, hcompile]
    rfl

/-- Two rules of like priority and length, and two of which one cannot be read. -/
theorem names_decide_between_like_rules :
    let like : RedactionRules := ⟨[("a", ⟨"y", "-", none, 0⟩), ("b", ⟨"x", "-", none, 0⟩)]⟩
    let broken : RedactionRules := ⟨[("a", ⟨"y", "-", none, 0⟩), ("broken", ⟨"(", "-", none, 0⟩)]⟩
    (Json.Sorted like.rules ∧ (∀ m ∈ like.rules, m.2.IsReadable) ∧
      ∃ rs, like.compile = .ok rs ∧ rs.map (·.name) = ["a", "b"]) ∧
    Json.Sorted broken.rules ∧ (∃ m ∈ broken.rules, ¬ m.2.IsReadable) ∧
      broken.compile = .error (.redactionRules "rule `broken` has an invalid pattern") := by
  intro like broken
  constructor
  · have hsorted : Json.Sorted like.rules := by decide
    have hreadable : ∀ m ∈ like.rules, m.2.IsReadable := by decide +kernel
    obtain ⟨-, -, -, hcompiles, -⟩ := rules_apply_in_strict_order_or_not_at_all like hsorted
    obtain ⟨all, rs, hcompile, hof, -, -, hunique, -⟩ := hcompiles hreadable
    refine ⟨hsorted, hreadable, rs, hcompile, ?_⟩
    obtain ⟨a, rest, ha, hrest, rfl⟩ := List.forall₂_cons_right_iff.mp hof
    obtain ⟨b, others, hb, hothers, rfl⟩ := List.forall₂_cons_right_iff.mp hrest
    cases hothers
    have hbefore : a.Before b := by
      rw [ActiveRule.Before, ha.priority, hb.priority, ha.source, hb.source, ha.name, hb.name]
      decide +kernel
    rw [← hunique [a, b] (.refl _) (by simpa using hbefore)]
    simp [ha.name, hb.name]
  · have hsorted : Json.Sorted broken.rules := by decide
    have hunreadable : ∃ m ∈ broken.rules, ¬ m.2.IsReadable := by decide +kernel
    obtain ⟨-, -, -, -, hfails, -⟩ := rules_apply_in_strict_order_or_not_at_all broken hsorted
    obtain ⟨m, ⟨hm, hnot, -⟩, -, hcompile, -⟩ := hfails hunreadable
    refine ⟨hsorted, hunreadable, ?_⟩
    rcases List.mem_cons.mp hm with rfl | hm
    · exact absurd (by decide +kernel) hnot
    · obtain rfl := List.mem_singleton.mp hm
      exact hcompile

end

end RedactionRules

end SecretScan
