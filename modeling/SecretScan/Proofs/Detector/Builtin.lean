import SecretScan.Proofs.Detector.Hits
import SecretScan.Proofs.Pattern.Sketch

/-!
# The built-in detectors

Every built-in description can be read, and every pattern but one forces a keyword of its
description into the texts that it matches. The exception are the keys of Twilio, which do not name
their service. All of this is found by looking at the descriptions one by one.
-/

namespace SecretScan

theorem exists_mapM_eq_some {α β : Type} {f : α → Option β} {items : List α}
    (h : ∀ x ∈ items, (f x).isSome = true) :
    ∃ results, items.mapM f = some results ∧ results.length = items.length ∧
      ∀ (i : Nat) y, results[i]? = some y → ∃ x, items[i]? = some x ∧ f x = some y := by
  induction items with
  | nil => exact ⟨[], rfl, rfl, by simp⟩
  | cons x items ih =>
      obtain ⟨y, hy⟩ := Option.isSome_iff_exists.mp (h x List.mem_cons_self)
      obtain ⟨results, hresults, hlen, hall⟩ := ih fun z hz => h z (List.mem_cons_of_mem x hz)
      refine ⟨y :: results, by simp [List.mapM_cons, hy, hresults], by simp [hlen], ?_⟩
      intro i z hz
      cases i with
      | zero =>
          obtain rfl := Option.some.inj hz
          exact ⟨x, rfl, hy⟩
      | succ i => exact hall i z hz

/-! ## Reading the descriptions -/

/-- Does a pattern force one of the keywords of a description into what it matches? Twilio's need
not. -/
def Spec.KeywordForced (spec : Spec) (p : Pattern) : Prop :=
  spec.name = "twilio" ∨ p.Forces (spec.keywords.map String.toList)

instance (spec : Spec) (p : Pattern) : Decidable (spec.KeywordForced p) :=
  inferInstanceAs (Decidable (spec.name = "twilio" ∨ p.Forces (spec.keywords.map String.toList)))

/-- The pattern of a description is read from the characters that it is written in. -/
theorem Spec.exists_pattern_of_chars {spec : Spec} {chars : List Char} {P : Pattern → Prop}
    [DecidablePred P] (hchars : spec.pattern = String.ofList chars)
    (h : (Pattern.parse chars).toOption.any (fun p => decide (P p)) = true) :
    ∃ p, Pattern.ofString? spec.pattern = some p ∧ P p := by
  rw [hchars, Pattern.ofString?, String.toList_ofList]
  cases hp : (Pattern.parse chars).toOption with
  | none => simp [hp] at h
  | some p => exact ⟨p, rfl, by simpa [hp] using h⟩

/-- Every pattern is read, and but for Twilio's each forces a keyword of its description. -/
theorem pattern_of_mem_builtin : ∀ spec ∈ Spec.builtin,
    ∃ p, Pattern.ofString? spec.pattern = some p ∧ spec.KeywordForced p := by
  rw [Spec.builtin]
  repeat'
    refine List.forall_mem_cons.mpr ⟨Spec.exists_pattern_of_chars rfl (by decide +kernel), ?_⟩
  exact List.forall_mem_nil _

theorem second_of_mem_builtin : ∀ spec ∈ Spec.builtin,
    spec.second.all (fun s => (Pattern.ofString? s.pattern).isSome) = true := by
  decide +kernel

theorem PatternDetector.isSome_ofSpec?_of_mem_builtin {spec : Spec} (h : spec ∈ Spec.builtin)
    (service : Option Service) : (ofSpec? spec service).isSome = true := by
  obtain ⟨p, hp, -⟩ := pattern_of_mem_builtin spec h
  cases hsecond : spec.second with
  | none =>
      have hd : ofSpec? spec service = some ⟨spec, p, none, service⟩ := by
        rw [ofSpec?_eq_some_iff, hsecond]
        exact ⟨rfl, rfl, hp, rfl⟩
      rw [hd, Option.isSome_some]
  | some s =>
      have hread := second_of_mem_builtin spec h
      rw [hsecond, Option.all_some] at hread
      obtain ⟨q, hq⟩ := Option.isSome_iff_exists.mp hread
      have hd : ofSpec? spec service =
          some ⟨spec, p, some ⟨s.detail, q, s.required⟩, service⟩ := by
        rw [ofSpec?_eq_some_iff, hsecond]
        exact ⟨rfl, rfl, hp, q, hq, rfl⟩
      rw [hd, Option.isSome_some]

/-! ## The built-in registry -/

/-- The registry of any descriptions. -/
def Registry.ofSpecs (specs : List Spec) : Except Failure Registry :=
  match specs.mapM fun spec => PatternDetector.ofSpec? spec (Service.named? spec.name) with
  | some ds => .ok ⟨ds.map .builtin⟩
  | none => .error (.pattern "")

section

-- The two sides are the same as they stand; reading the descriptions to compare them takes long.
attribute [local irreducible] Spec.builtin

theorem Registry.builtin_eq_ofSpecs : builtin = ofSpecs Spec.builtin := rfl

end

theorem Registry.exists_ofSpecs {specs : List Spec}
    (h : ∀ spec ∈ specs, ∀ service, (PatternDetector.ofSpec? spec service).isSome = true) :
    ∃ ds : List PatternDetector, ofSpecs specs = .ok ⟨ds.map .builtin⟩ ∧
      ds.length = specs.length ∧ ∀ (i : Nat) d, ds[i]? = some d →
        specs[i]? = some d.spec ∧ PatternDetector.ofSpec? d.spec d.service = some d := by
  obtain ⟨ds, hds, hlen, hall⟩ := exists_mapM_eq_some fun spec hspec =>
    h spec hspec (Service.named? spec.name)
  refine ⟨ds, by simp only [ofSpecs, hds], hlen, ?_⟩
  intro i d hd
  obtain ⟨spec, hspec, hof⟩ := hall i d hd
  obtain ⟨rfl, hservice, -⟩ := PatternDetector.ofSpec?_eq_some_iff.mp hof
  exact ⟨hspec, by rw [hservice]; exact hof⟩

/-- The built-in detectors, each read from the description with its number. -/
theorem exists_builtin : ∃ ds : List PatternDetector,
    Registry.builtin = .ok ⟨ds.map .builtin⟩ ∧ ds.length = Spec.builtin.length ∧
      ∀ (i : Nat) d, ds[i]? = some d → Spec.builtin[i]? = some d.spec ∧
        PatternDetector.ofSpec? d.spec d.service = some d ∧
        d.spec.KeywordForced d.pattern := by
  obtain ⟨ds, hds, hlen, hall⟩ := Registry.exists_ofSpecs fun spec hspec service =>
    PatternDetector.isSome_ofSpec?_of_mem_builtin hspec service
  refine ⟨ds, Registry.builtin_eq_ofSpecs.trans hds, hlen, ?_⟩
  intro i d hd
  obtain ⟨hspec, hof⟩ := hall i d hd
  obtain ⟨-, -, hpattern, -⟩ := PatternDetector.ofSpec?_eq_some_iff.mp hof
  obtain ⟨p, hp, hforced⟩ := pattern_of_mem_builtin d.spec (List.mem_of_getElem? hspec)
  obtain rfl := Option.some.inj (hpattern.symm.trans hp)
  exact ⟨hspec, hof, hforced⟩

end SecretScan
