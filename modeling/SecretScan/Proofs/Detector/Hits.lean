import SecretScan.Detector.Registry

/-!
# What a hit says

A detector is what its description says, with the patterns read. Its hit is the value of one of the
matches of its pattern, with the second part of the credential in the text.
-/

namespace SecretScan

namespace PatternDetector

theorem ofSpec?_eq_some_iff {spec : Spec} {service : Option Service} {d : PatternDetector} :
    ofSpec? spec service = some d ↔ d.spec = spec ∧ d.service = service ∧
      Pattern.ofString? spec.pattern = some d.pattern ∧
      match spec.second with
      | none => d.second = none
      | some s => ∃ p, Pattern.ofString? s.pattern = some p ∧
          d.second = some ⟨s.detail, p, s.required⟩ := by
  obtain ⟨spec', pattern, second, service'⟩ := d
  unfold ofSpec?
  cases hsecond : spec.second with
  | none =>
      simp only [Option.bind_eq_bind, Option.bind_some, Option.bind_eq_some_iff, Option.pure_def,
        Option.some.injEq, PatternDetector.mk.injEq]
      constructor
      · rintro ⟨p, hp, rfl, rfl, rfl, rfl⟩
        exact ⟨rfl, rfl, hp, rfl⟩
      · rintro ⟨rfl, rfl, hp, rfl⟩
        exact ⟨pattern, hp, rfl, rfl, rfl, rfl⟩
  | some s =>
      simp only [Option.bind_eq_bind, Option.bind_eq_some_iff, Option.map_eq_some_iff,
        Option.pure_def, Option.some.injEq, PatternDetector.mk.injEq]
      constructor
      · rintro ⟨second, ⟨q, hq, rfl⟩, p, hp, rfl, rfl, rfl, rfl⟩
        exact ⟨rfl, rfl, hp, q, hq, rfl⟩
      · rintro ⟨rfl, rfl, hp, q, hq, rfl⟩
        exact ⟨_, ⟨q, hq, rfl⟩, pattern, hp, rfl, rfl, rfl, rfl⟩

/-- A hit comes from a match that qualifies, in a text that has what is required. -/
theorem exists_of_find?_eq_some {d : PatternDetector} {text : List Char} {h : Hit}
    (hfind : d.find? text = some h) :
    ∃ m second, m ∈ d.pattern.findAll text ∧ qualifies d.spec m = true ∧
      d.secondIn? text = some second ∧
      h = .found d.spec.name (valueSpan m).text (valueSpan m).start
        (details d.spec second (valueSpan m).text) := by
  obtain ⟨m, hm, hhit⟩ := List.exists_of_findSome?_eq_some hfind
  rw [hitOf?, Option.ite_none_right_eq_some] at hhit
  obtain ⟨second, hsecond, rfl⟩ := Option.map_eq_some_iff.mp hhit.2
  exact ⟨m, second, hm, hhit.1, hsecond, rfl⟩

theorem secondIn?_of_none {d : PatternDetector} (hd : d.second = none) (text : List Char) :
    d.secondIn? text = some none := by
  rw [secondIn?, hd]

theorem details_of_second {spec : Spec} (hplain : spec.annotation = none)
    (second : Option (String × List Char)) (value : List Char) :
    details spec second value = match second with
      | some (n, v) => [(n, .str (String.ofList v))]
      | none => [] := by
  simp only [details, hplain]
  rfl

end PatternDetector

theorem Detector.detector_of_find? {d : Detector} {text : List Char} {hit : Hit}
    (h : d.find? text = some hit) : hit.detector = d.name := by
  cases d with
  | builtin d =>
      obtain ⟨m, second, -, -, -, rfl⟩ := PatternDetector.exists_of_find?_eq_some h
      rfl
  | custom d =>
      obtain ⟨v, -, hv⟩ := List.exists_of_findSome?_eq_some h
      obtain ⟨span, -, rfl⟩ := Option.map_eq_some_iff.mp hv
      rfl

end SecretScan
