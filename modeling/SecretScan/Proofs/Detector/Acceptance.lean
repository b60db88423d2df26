import SecretScan.Proofs.Detector.Wrapping
import Mathlib.Data.List.Forall2

/-!
# Which patterns are accepted

A configured pattern is put between parentheses as it is written, so what is accepted is not quite
what is valid by itself. A pattern can close the parenthesis in front of it and open another one,
or give it another meaning, or swallow the parenthesis behind it in a comment. All others are
accepted just if they are valid, and find what they find by themselves.
-/

namespace SecretScan

namespace Pattern

/-- Is the text a pattern? -/
def Valid (text : List Char) : Prop := ∃ q, parse text = .ok q

/-- A parenthesis behind the pattern is read, as one that closes a group too many. -/
def ReadsParenthesis (text : List Char) : Prop := parse (text ++ [')']) = .error .unopenedGroup

/-- Between parentheses the pattern has a say in what the first one means: it begins with the sign
of a special group, or it closes a group that it has not opened. -/
def LeavesGroup (text : List Char) : Prop :=
  text.head? = some '?' ∨ parse text = .error .unopenedGroup

/-- The pattern is neither nested too deep nor too large. -/
def WithinLimits (text : List Char) : Prop :=
  parse text ≠ .error .nestedTooDeep ∧ parse text ≠ .error .tooLarge

/-- By itself a pattern cannot begin with a repetition. -/
theorem not_leavesGroup_of_valid {text : List Char} (h : Valid text) : ¬ LeavesGroup text := by
  obtain ⟨q, hq⟩ := h
  rintro (hhead | herror)
  · obtain ⟨rest, rfl⟩ := List.head?_eq_some_iff.mp hhead
    cases hq
  · rw [hq] at herror
    cases herror

end Pattern

namespace CustomDetector

open Pattern

theorem checked_cases (x : Piece) :
    (∃ q, x.checked = .ok q) ∨ x.checked = .error .nestedTooDeep ∨
    x.checked = .error .tooLarge := by
  rw [Piece.checked]
  split_ifs
  · exact Or.inr (Or.inl rfl)
  · exact Or.inr (Or.inr rfl)
  · exact Or.inl ⟨_, rfl⟩

/-- What the full pattern is, once it has been read. -/
theorem parse_fullPattern_eq_ok {groupKeywords : List String} {p : List Char} {w : Pattern}
    (hp : ¬ LeavesGroup p) (h : parse (fullPattern groupKeywords p) = .ok w) :
    ∃ q, parse p = .ok q ∧ ReadsParenthesis p ∧
      w = seqs (context groupKeywords ++ [.group 1 (q.renumbered (· + 1))]) := by
  obtain ⟨hhead, hparse⟩ := not_or.mp hp
  obtain ⟨items, b, hitems, hb, hfull⟩ := parse_fullPattern groupKeywords hhead
  rw [← hitems]
  exact of_finish_atCapture hparse hb (hfull ▸ h)

theorem readVariant_eq_ok_iff_valid {groupKeywords : List String} {v : String × String} :
    (∃ w, readVariant groupKeywords v = .ok w) ↔ Valid (fullPattern groupKeywords v.2.toList) := by
  rw [readVariant, Valid]
  cases parse (fullPattern groupKeywords v.2.toList) <;> simp

/-- A pattern is accepted exactly if it is valid and does not swallow the parenthesis behind it,
as far as the limits allow, or if it does not leave the parentheses alone and together with them
is valid. -/
theorem readVariant_eq_ok_iff {groupKeywords : List String} {v : String × String} :
    (∃ w, readVariant groupKeywords v = .ok w) ↔
      (Valid v.2.toList ∧ ReadsParenthesis v.2.toList ∧
        WithinLimits (fullPattern groupKeywords v.2.toList)) ∨
      (LeavesGroup v.2.toList ∧ Valid (fullPattern groupKeywords v.2.toList)) := by
  rw [readVariant_eq_ok_iff_valid]
  constructor
  · rintro ⟨w, hw⟩
    by_cases hv : LeavesGroup v.2.toList
    · exact Or.inr ⟨hv, w, hw⟩
    · obtain ⟨q, hq, hclosed, -⟩ := parse_fullPattern_eq_ok hv hw
      exact Or.inl ⟨⟨q, hq⟩, hclosed, by simp [WithinLimits, hw]⟩
  · rintro (⟨hvalid, hclosed, hdepth, hsize⟩ | ⟨-, hfull⟩)
    · obtain ⟨items, b, -, hb, hfull⟩ :=
        parse_fullPattern groupKeywords (not_or.mp (not_leavesGroup_of_valid hvalid)).1
      obtain ⟨q, hq⟩ := hvalid
      obtain ⟨whole, hwhole⟩ := finish_atCapture_of_valid items hq hclosed hb
      have hchecked : parse (fullPattern groupKeywords v.2.toList) = whole.checked := by
        rw [hfull, hwhole]
        rfl
      rcases checked_cases whole with ⟨w, hw⟩ | hnested | hlarge
      · exact ⟨w, hchecked.trans hw⟩
      · exact absurd (hchecked.trans hnested) hdepth
      · exact absurd (hchecked.trans hlarge) hsize
    · exact hfull

/-- An entry is accepted if nothing is missing and each of its patterns is accepted. -/
theorem build_eq_ok_iff (e : CustomEntry) :
    (∃ d, build e = .ok d) ↔
      Text.trimmed (e.name.getD "") ≠ "" ∧ trimmedAll (e.keywords.getD []) ≠ [] ∧
        ∃ choice, e.patterns = some choice ∧ choice.variants ≠ [] ∧
          ∀ v ∈ choice.variants, ∃ w, readVariant e.groupKeywords v = .ok w := by
  have hbuild : (∃ d, build e = .ok d) ↔ problems e = [] := by
    rw [build]
    cases problems e <;> simp
  have hmissing (p : Prop) [Decidable p] (x : CustomProblem) :
      (if p then [x] else []) = [] ↔ ¬ p := by
    split_ifs with hp <;> simp [hp]
  rw [hbuild, problems, List.append_eq_nil_iff, List.append_eq_nil_iff, hmissing, hmissing,
    and_assoc]
  refine and_congr_right fun _ => and_congr_right fun _ => ?_
  cases e.patterns with
  | none => simp
  | some choice =>
      rw [List.append_eq_nil_iff, hmissing, List.filterMap_eq_nil_iff]
      have hread (v : String × String) : (∃ w, readVariant e.groupKeywords v = .ok w) ∨
          ∃ p, readVariant e.groupKeywords v = .error p := by
        cases readVariant e.groupKeywords v with
        | error p => exact Or.inr ⟨p, rfl⟩
        | ok w => exact Or.inl ⟨w, rfl⟩
      constructor
      · rintro ⟨hsome, hnone⟩
        refine ⟨choice, rfl, hsome, fun v hv => (hread v).resolve_right ?_⟩
        rintro ⟨p, hp⟩
        have hv := hnone v hv
        rw [hp] at hv
        cases hv
      · rintro ⟨_, heq, hsome, h⟩
        obtain rfl := Option.some.inj heq
        refine ⟨hsome, fun v hv => ?_⟩
        obtain ⟨w, hw⟩ := h v hv
        rw [hw]

/-- The variants of a detector are the patterns of its entry as they are read. -/
theorem variants_of_build {e : CustomEntry} {d : CustomDetector} (h : build e = .ok d) :
    ∃ choice, e.patterns = some choice ∧
      List.Forall₂
        (fun v w => readVariant e.groupKeywords v = .ok w) choice.variants d.variants := by
  obtain ⟨-, -, choice, hchoice, -, hread⟩ := (build_eq_ok_iff e).mp ⟨d, h⟩
  refine ⟨choice, hchoice, ?_⟩
  have hvariants : d.variants = variantsOf e := by
    rw [build] at h
    split at h
    · exact (Except.ok.inj h) ▸ rfl
    · cases h
  rw [hvariants, variantsOf, hchoice]
  show List.Forall₂ _ choice.variants
    (choice.variants.filterMap fun v => (readVariant e.groupKeywords v).toOption)
  generalize choice.variants = variants at hread ⊢
  induction variants with
  | nil => exact .nil
  | cons v variants ih =>
      obtain ⟨w, hw⟩ := hread v List.mem_cons_self
      have hkept : (readVariant e.groupKeywords v).toOption = some w := by
        rw [hw]
        rfl
      rw [List.filterMap_cons_some (f := fun v => (readVariant e.groupKeywords v).toOption) hkept]
      exact .cons hw (ih fun v hv => hread v (List.mem_cons_of_mem _ hv))

/-- The pattern of a variant whose configured pattern leaves the parentheses around it alone. -/
theorem readVariant_eq_ok {groupKeywords : List String} {v : String × String} {w : Variant}
    (hv : ¬ LeavesGroup v.2.toList) (h : readVariant groupKeywords v = .ok w) :
    ∃ q, parse v.2.toList = .ok q ∧
      w = ⟨v.1, seqs (context groupKeywords ++ [.group 1 (q.renumbered (· + 1))])⟩ := by
  rw [readVariant] at h
  split at h
  · rename_i p hp
    obtain ⟨q, hq, -, rfl⟩ := parse_fullPattern_eq_ok hv hp
    exact ⟨q, hq, (Except.ok.inj h).symm⟩
  · cases h

/-- Without group keywords a variant finds what its configured pattern finds by itself. -/
theorem hitOf?_of_context_eq_nil {groupKeywords : List String} (h : context groupKeywords = [])
    (name : String) (text : List Char) (variant : String) (q : Pattern) :
    hitOf? name text ⟨variant, seqs (context groupKeywords ++ [.group 1 (q.renumbered (· + 1))])⟩ =
      (q.find? text).map fun m =>
        .found name m.whole.text m.whole.start [("variant", .str variant)] := by
  rw [h, hitOf?]
  show (((Pattern.group 1 (q.renumbered (· + 1))).find? text).bind (·.group? 1)).map _ = _
  rw [find?_group_renumbered]
  cases q.find? text <;> rfl

/-- An entry is accepted exactly if each of its patterns is valid and does not swallow the
parenthesis behind it, or does not leave the parentheses alone and together with them is valid. A
single pattern of the first kind finds its leftmost match, if there are no group keywords. -/
theorem accepted_iff_valid (e : CustomEntry) (choice : PatternChoice)
    (hname : Text.trimmed (e.name.getD "") ≠ "") (hkeywords : trimmedAll (e.keywords.getD []) ≠ [])
    (hpatterns : e.patterns = some choice) :
    ((∃ d, build e = .ok d) ↔ choice.variants ≠ [] ∧ ∀ v ∈ choice.variants,
      (Valid v.2.toList ∧ ReadsParenthesis v.2.toList ∧
        WithinLimits (fullPattern e.groupKeywords v.2.toList)) ∨
      (LeavesGroup v.2.toList ∧ Valid (fullPattern e.groupKeywords v.2.toList))) ∧
    ∀ d pattern, build e = .ok d → trimmedAll e.groupKeywords = [] → choice = .single pattern →
      ¬ LeavesGroup pattern.toList →
      ∃ q, parse pattern.toList = .ok q ∧ ∀ text, d.find? text = (q.find? text).map fun m =>
        .found d.name m.whole.text m.whole.start [("variant", .str "default")] := by
  constructor
  · rw [build_eq_ok_iff]
    constructor
    · rintro ⟨-, -, choice', hchoice, hsome, hread⟩
      obtain rfl := Option.some.inj (hpatterns.symm.trans hchoice)
      exact ⟨hsome, fun v hv => readVariant_eq_ok_iff.mp (hread v hv)⟩
    · rintro ⟨hsome, hvalid⟩
      exact ⟨hname, hkeywords, choice, hpatterns, hsome,
        fun v hv => readVariant_eq_ok_iff.mpr (hvalid v hv)⟩
  · rintro d pattern hbuild hgroup rfl hinside
    obtain ⟨choice', hchoice, hvariants⟩ := variants_of_build hbuild
    obtain rfl := Option.some.inj (hpatterns.symm.trans hchoice)
    have hcontext : context e.groupKeywords = [] := by simp [context, hgroup]
    rw [PatternChoice.variants] at hvariants
    obtain ⟨w, rest, hw, hrest, hd⟩ := List.forall₂_cons_left_iff.mp hvariants
    obtain rfl := List.forall₂_nil_left_iff.mp hrest
    obtain ⟨q, hq, rfl⟩ := readVariant_eq_ok hinside hw
    refine ⟨q, hq, fun text => ?_⟩
    rw [find?, hd, List.findSome?_singleton, hitOf?_of_context_eq_nil hcontext]

/-- An entry with a single pattern and nothing special about it. -/
def entryOf (pattern : String) : CustomEntry :=
  { name := some "sole", keywords := some ["key"], patterns := some (.single pattern) }

theorem choice_is_accepted : ∃ d q, build (entryOf "a|b") = .ok d ∧
    parse "a|b".toList = .ok q ∧ ∀ text, d.find? text = (q.find? text).map fun m =>
      .found d.name m.whole.text m.whole.start [("variant", .str "default")] := by
  have hvalid : Valid "a|b".toList := ⟨_, rfl⟩
  obtain ⟨haccepted, hfind⟩ := accepted_iff_valid (entryOf "a|b") (.single "a|b") (by decide)
    (by decide) rfl
  obtain ⟨d, hd⟩ := haccepted.mpr ⟨by decide, by
    intro v hv
    obtain rfl := List.mem_singleton.mp hv
    exact Or.inl ⟨hvalid, rfl, nofun, nofun⟩⟩
  obtain ⟨q, hq, htext⟩ :=
    hfind d "a|b" hd (by decide) rfl (not_leavesGroup_of_valid hvalid)
  exact ⟨d, q, hd, hq, htext⟩

/-- A pattern with a parenthesis too many on either side is no pattern, and is accepted: its value
is what stands in front. A pattern that ends in a comment is one, and is refused. -/
theorem stray_parenthesis_is_accepted :
    (¬ Valid "a)(b".toList ∧ ∃ d, build (entryOf "a)(b") = .ok d ∧
      d.find? "ab".toList = some (.found "sole" ['a'] 0 [("variant", .str "default")])) ∧
    Valid "(?x) a b # c".toList ∧ ¬ ∃ d, build (entryOf "(?x) a b # c") = .ok d := by
  refine ⟨⟨?_, _, rfl, rfl⟩, ⟨_, rfl⟩, ?_⟩
  · rintro ⟨q, hq⟩
    cases hq
  · rintro ⟨d, hd⟩
    cases hd

end CustomDetector

end SecretScan
