import SecretScan.Proofs.Detector.Hits
import SecretScan.Proofs.Json.Members
import SecretScan.Proofs.Pattern.Successive
import SecretScan.Proofs.Text.Occurrence

/-!
# The first match that counts

A described detector goes through the successive matches of its pattern and reports the first one
which contains none of the texts that exclude it and whose value is random enough. A second part
that is required but missing takes away every hit. The details of a hit are the second part and what
follows from the value, which has the last word.
-/

namespace SecretScan

/-! ## Details that replace others -/

namespace Details

variable {base more : Details}

theorem override_cons (base : Details) (n : String) (v : Json) (rest : Details) :
    base.override ((n, v) :: rest) = override (Json.insertMember n v base) rest := rfl

theorem sorted_override (hbase : Json.Sorted base) : Json.Sorted (base.override more) := by
  induction more generalizing base with
  | nil => exact hbase
  | cons member rest ih => exact ih (Json.sorted_insertMember hbase)

/-- A detail is one of the new ones, or one of the old ones whose name no new one has. -/
theorem mem_override_iff (hbase : Json.Sorted base) (hmore : Json.Sorted more) {n : String}
    {v : Json} :
    (n, v) ∈ base.override more ↔ (n, v) ∈ more ∨ (∀ w, (n, w) ∉ more) ∧ (n, v) ∈ base := by
  induction more generalizing base with
  | nil => simp [override]
  | cons member rest ih =>
      obtain ⟨k, u⟩ := member
      have hfirst : ∀ w, (k, w) ∉ rest := fun w hw => (List.pairwise_cons.mp hmore).1 _ hw |>.ne rfl
      rw [override_cons, ih (Json.sorted_insertMember hbase) hmore.tail,
        Json.mem_insertMember hbase]
      by_cases hk : n = k
      · subst hk
        simp [hfirst]
      · simp [hk]

end Details

/-! ## What a description says -/

/-- Is a value that of the second part in a text: the first capture of the first match of its
pattern? -/
def SecondPart.Stands (s : SecondPart) (text value : List Char) : Prop :=
  ∃ q m ms span, Pattern.ofString? s.pattern = some q ∧
    q.Successive (.atStart text) none (m :: ms) ∧ m.group? 1 = some span ∧ span.text = value

/-- Reading the second part finds the value that stands in the text. -/
theorem SecondDetector.value?_eq_some_iff {s : SecondPart} {q : Pattern}
    (hq : Pattern.ofString? s.pattern = some q) {text value : List Char} :
    SecondDetector.value? ⟨s.detail, q, s.required⟩ text = some value ↔ s.Stands text value := by
  have hfind : q.find? text = (q.findAll text).head? :=
    Pattern.find?_eq_head? (q.successive_findAll text)
  simp only [SecondDetector.value?, Option.map_eq_some_iff, Option.bind_eq_some_iff, hfind,
    List.head?_eq_some_iff]
  constructor
  · rintro ⟨span, ⟨m, ⟨ms, hms⟩, hspan⟩, hvalue⟩
    exact ⟨q, m, ms, span, hq, Pattern.findAll_eq_iff.mp hms, hspan, hvalue⟩
  · rintro ⟨q', m, ms, span, hq', hms, hspan, hvalue⟩
    obtain rfl := Option.some.inj (hq.symm.trans hq')
    exact ⟨span, ⟨m, ⟨ms, Pattern.findAll_eq_iff.mpr hms⟩, hspan⟩, hvalue⟩

theorem SecondPart.Stands.unique {s : SecondPart} {text v w : List Char} (hv : s.Stands text v)
    (hw : s.Stands text w) : v = w := by
  obtain ⟨q, -, -, -, hq, -⟩ := id hv
  exact Option.some.inj (((SecondDetector.value?_eq_some_iff hq).mpr hv).symm.trans
    ((SecondDetector.value?_eq_some_iff hq).mpr hw))

namespace Spec

/-- Does a match count? No text that excludes it is in it, in any case, and the entropy of its value
is not below the least. -/
structure Admits (spec : Spec) (m : Match) : Prop where
  clean : ∀ word ∈ spec.falsePositives, ¬ Text.lower word.toList <:+: Text.lower m.whole.text
  random : ∀ least ∈ spec.minEntropy,
    ¬ Text.entropy (PatternDetector.valueSpan m).text < least

/-- Does the text have the second part, if it is required? -/
def HasRequired (spec : Spec) (text : List Char) : Prop :=
  ∀ s ∈ spec.second, s.required = true → ∃ value, s.Stands text value

/-- Does a detail follow from a value? -/
def Follows (spec : Spec) (value : List Char) (n : String) (v : Json) : Prop :=
  ∃ a ∈ spec.annotation, (n, v) ∈ a.details value

/-- Does a hit on a value have a detail? It follows from the value, or nothing of its name does and
it is the second part. -/
def Adds (spec : Spec) (text value : List Char) (n : String) (v : Json) : Prop :=
  spec.Follows value n v ∨ (∀ w, ¬ spec.Follows value n w) ∧
    ∃ s ∈ spec.second, ∃ u, s.Stands text u ∧ n = s.detail ∧ v = .str (String.ofList u)

/-- Is a hit what a match in a text amounts to? -/
structure Reports (spec : Spec) (text : List Char) (m : Match) (hit : Hit) : Prop where
  detector : hit.detector = spec.name
  value : hit.value = some (String.ofList (PatternDetector.valueSpan m).text)
  unverified : hit.verified = false
  position : hit.position = some (PatternDetector.valueSpan m).start
  sorted : Json.Sorted hit.details
  details : ∀ n v, (n, v) ∈ hit.details ↔ spec.Adds text (PatternDetector.valueSpan m).text n v

end Spec

namespace PatternDetector

variable {spec : Spec} {service : Option Service} {d : PatternDetector} {text : List Char}

theorem qualifies_iff {m : Match} : qualifies spec m = true ↔ spec.Admits m := by
  have hclean : Text.containsAnyIgnoringCase m.whole.text spec.falsePositives = false ↔
      ∀ word ∈ spec.falsePositives, ¬ Text.lower word.toList <:+: Text.lower m.whole.text := by
    simp only [Text.containsAnyIgnoringCase, List.any_eq_false, Text.occursIn_iff]
  rw [qualifies, Bool.and_eq_true, Bool.not_eq_true', hclean]
  cases hleast : spec.minEntropy with
  | none =>
      constructor
      · rintro ⟨h, -⟩
        exact ⟨h, by simp [hleast]⟩
      · rintro ⟨h, -⟩
        exact ⟨h, rfl⟩
  | some least =>
      have hentropy : (!decide (Text.entropy (valueSpan m).text < least)) = true ↔
          ¬ Text.entropy (valueSpan m).text < least := by
        rw [Bool.not_eq_true', decide_eq_false_iff_not]
      refine (and_congr_right fun _ => hentropy).trans ?_
      constructor
      · rintro ⟨h, hrandom⟩
        exact ⟨h, by simpa [hleast] using hrandom⟩
      · rintro ⟨h, hrandom⟩
        exact ⟨h, hrandom least hleast⟩

/-! ### The second part -/

theorem second_eq_none (hd : ofSpec? spec service = some d) (hs : spec.second = none) :
    d.second = none := by
  have hsecond := (ofSpec?_eq_some_iff.mp hd).2.2.2
  rwa [hs] at hsecond

theorem exists_second (hd : ofSpec? spec service = some d) {s : SecondPart}
    (hs : spec.second = some s) :
    ∃ q, Pattern.ofString? s.pattern = some q ∧ d.second = some ⟨s.detail, q, s.required⟩ := by
  have hsecond := (ofSpec?_eq_some_iff.mp hd).2.2.2
  rwa [hs] at hsecond

theorem secondIn?_of_stands (hd : ofSpec? spec service = some d) {s : SecondPart}
    (hs : spec.second = some s) {value : List Char} (h : s.Stands text value) :
    d.secondIn? text = some (some (s.detail, value)) := by
  obtain ⟨q, hq, hsecond⟩ := exists_second hd hs
  rw [secondIn?, hsecond]
  simp only [(SecondDetector.value?_eq_some_iff hq).mpr h]

theorem secondIn?_of_missing (hd : ofSpec? spec service = some d) {s : SecondPart}
    (hs : spec.second = some s) (h : ∀ value, ¬ s.Stands text value) :
    d.secondIn? text = if s.required then none else some none := by
  obtain ⟨q, hq, hsecond⟩ := exists_second hd hs
  have hnone : SecondDetector.value? ⟨s.detail, q, s.required⟩ text = none :=
    Option.eq_none_iff_forall_ne_some.mpr fun value hvalue =>
      h value ((SecondDetector.value?_eq_some_iff hq).mp hvalue)
  rw [secondIn?, hsecond]
  simp only [hnone]

/-- A detector gets by with the second part that it finds just if none is missing that is
required. -/
theorem isSome_secondIn?_iff (hd : ofSpec? spec service = some d) :
    (d.secondIn? text).isSome = true ↔ spec.HasRequired text := by
  cases hs : spec.second with
  | none => simp [secondIn?_of_none (second_eq_none hd hs), Spec.HasRequired, hs]
  | some s =>
      by_cases hstands : ∃ value, s.Stands text value
      · obtain ⟨value, hvalue⟩ := hstands
        rw [secondIn?_of_stands hd hs hvalue]
        refine iff_of_true rfl fun s' hs' _ => ?_
        obtain rfl := Option.some.inj (hs.symm.trans hs')
        exact ⟨value, hvalue⟩
      · rw [secondIn?_of_missing hd hs (not_exists.mp hstands)]
        cases hrequired : s.required <;> simp [Spec.HasRequired, hs, hrequired, hstands]

/-- The second part that a detector takes from a text is the one that stands there. -/
theorem secondIn?_eq_some (hd : ofSpec? spec service = some d)
    {second : Option (String × List Char)} (h : d.secondIn? text = some second) {n : String}
    {value : List Char} :
    second = some (n, value) ↔ ∃ s ∈ spec.second, s.Stands text value ∧ n = s.detail := by
  cases hs : spec.second with
  | none =>
      rw [secondIn?_of_none (second_eq_none hd hs)] at h
      obtain rfl := Option.some.inj h
      simp
  | some s =>
      by_cases hstands : ∃ value, s.Stands text value
      · obtain ⟨w, hw⟩ := hstands
        obtain rfl := Option.some.inj ((secondIn?_of_stands hd hs hw).symm.trans h)
        rw [Option.some.injEq, Prod.mk.injEq]
        constructor
        · rintro ⟨rfl, rfl⟩
          exact ⟨s, rfl, hw, rfl⟩
        · rintro ⟨s', hs', hvalue, rfl⟩
          obtain rfl := Option.some.inj hs'
          exact ⟨rfl, hw.unique hvalue⟩
      · rw [secondIn?_of_missing hd hs (not_exists.mp hstands), Option.ite_none_left_eq_some] at h
        obtain rfl := Option.some.inj h.2
        constructor
        · rintro ⟨⟩
        · rintro ⟨s', hs', hvalue, -⟩
          obtain rfl := Option.some.inj hs'
          exact absurd ⟨value, hvalue⟩ hstands

/-! ### Hits -/

/-- What follows from a value, as a list. -/
theorem mem_follows_iff {value : List Char} {n : String} {v : Json} :
    (n, v) ∈ (match spec.annotation with | some a => a.details value | none => []) ↔
      spec.Follows value n v := by
  cases ha : spec.annotation <;> simp [Spec.Follows, ha]

theorem sorted_second (second : Option (String × List Char)) :
    Json.Sorted (match second with
      | some (n, v) => [(n, Json.str (String.ofList v))]
      | none => []) := by
  cases second with
  | none => exact .nil
  | some _ => exact List.pairwise_singleton _ _

theorem sorted_details {second : Option (String × List Char)} {value : List Char} :
    Json.Sorted (details spec second value) :=
  Details.sorted_override (sorted_second second)

theorem mem_details_iff {second : Option (String × List Char)} {value : List Char} {n : String}
    {v : Json} : (n, v) ∈ details spec second value ↔ spec.Follows value n v ∨
      (∀ w, ¬ spec.Follows value n w) ∧ ∃ u, second = some (n, u) ∧ v = .str (String.ofList u) := by
  have hmore : Json.Sorted (match spec.annotation with
      | some a => a.details value
      | none => []) := by
    cases spec.annotation with
    | none => exact .nil
    | some a => exact a.inOrder value
  refine (Details.mem_override_iff (sorted_second second) hmore).trans ?_
  simp only [mem_follows_iff]
  refine or_congr_right (and_congr_right fun _ => ?_)
  cases second with
  | none => simp
  | some nu =>
      obtain ⟨k, u⟩ := nu
      rw [List.mem_singleton, Prod.mk.injEq]
      simp [eq_comm]

/-- The details of a hit are in order, and are all that its description adds. -/
theorem reports_found (hd : ofSpec? spec service = some d) {second : Option (String × List Char)}
    (hsecond : d.secondIn? text = some second) (m : Match) :
    spec.Reports text m (.found d.spec.name (valueSpan m).text (valueSpan m).start
      (details d.spec second (valueSpan m).text)) := by
  obtain ⟨rfl, -⟩ := ofSpec?_eq_some_iff.mp hd
  refine ⟨rfl, rfl, rfl, rfl, sorted_details, fun n v => mem_details_iff.trans ?_⟩
  refine or_congr_right (and_congr_right fun _ => ?_)
  simp only [secondIn?_eq_some hd hsecond]
  constructor
  · rintro ⟨u, ⟨s, hs, hu, hn⟩, hv⟩
    exact ⟨s, hs, u, hu, hn, hv⟩
  · rintro ⟨s, hs, u, hu, hn, hv⟩
    exact ⟨u, ⟨s, hs, hu, hn⟩, hv⟩

theorem hitOf?_eq_some_iff {m : Match} {hit : Hit} (hd : ofSpec? spec service = some d) :
    d.hitOf? text m = some hit ↔ spec.Admits m ∧ ∃ second, d.secondIn? text = some second ∧
      .found d.spec.name (valueSpan m).text (valueSpan m).start
        (details d.spec second (valueSpan m).text) = hit := by
  obtain ⟨rfl, -⟩ := ofSpec?_eq_some_iff.mp hd
  rw [hitOf?, Option.ite_none_right_eq_some, qualifies_iff, Option.map_eq_some_iff]

/-- In a text that has what is required, every match that counts amounts to a hit. -/
theorem isSome_hitOf?_iff {m : Match} (hd : ofSpec? spec service = some d) :
    (d.hitOf? text m).isSome = true ↔ spec.HasRequired text ∧ spec.Admits m := by
  rw [← isSome_secondIn?_iff hd, Option.isSome_iff_exists, Option.isSome_iff_exists]
  constructor
  · rintro ⟨hit, hhit⟩
    obtain ⟨hadmits, second, hsecond, -⟩ := (hitOf?_eq_some_iff hd).mp hhit
    exact ⟨⟨second, hsecond⟩, hadmits⟩
  · rintro ⟨⟨second, hsecond⟩, hadmits⟩
    exact ⟨_, (hitOf?_eq_some_iff hd).mpr ⟨hadmits, second, hsecond, rfl⟩⟩

/-- Of the successive matches of its pattern a detector reports the first one that counts, if there
is one and the second part is there or not required. -/
theorem reports_first_admitted (hd : ofSpec? spec service = some d) (text : List Char) :
    ∃ p ms, Pattern.ofString? spec.pattern = some p ∧ p.Successive (.atStart text) none ms ∧
      ((d.find? text).isSome = true ↔ spec.HasRequired text ∧ ∃ m ∈ ms, spec.Admits m) ∧
      ∀ hit, d.find? text = some hit → ∃ front m back, ms = front ++ m :: back ∧
        (∀ m' ∈ front, ¬ spec.Admits m') ∧ spec.Admits m ∧ spec.Reports text m hit := by
  obtain ⟨-, -, hpattern, -⟩ := ofSpec?_eq_some_iff.mp hd
  refine ⟨d.pattern, d.pattern.findAll text, hpattern, d.pattern.successive_findAll text, ?_, ?_⟩
  · rw [find?, List.findSome?_isSome_iff]
    simp only [isSome_hitOf?_iff hd]
    constructor
    · rintro ⟨m, hm, hrequired, hadmits⟩
      exact ⟨hrequired, m, hm, hadmits⟩
    · rintro ⟨hrequired, m, hm, hadmits⟩
      exact ⟨m, hm, hrequired, hadmits⟩
  · intro hit hhit
    obtain ⟨front, m, back, hms, hm, hfront⟩ := List.findSome?_eq_some_iff.mp hhit
    obtain ⟨hadmits, second, hsecond, rfl⟩ := (hitOf?_eq_some_iff hd).mp hm
    refine ⟨front, m, back, hms, fun m' hm' hadmits' => ?_, hadmits, reports_found hd hsecond m⟩
    -- What is required was there for `m`, so `m'` would have been a hit before it.
    have hnone := hfront m' hm'
    rw [(hitOf?_eq_some_iff hd).mpr ⟨hadmits', second, hsecond, rfl⟩] at hnone
    cases hnone

/-- Tokens that need an account beside them, but for placeholders. -/
def tokenWithAccount : Spec where
  name := "token"
  keywords := ["tk_"]
  pattern := r"\btk_([a-z0-9]+)"
  second := some ⟨"account", r"acct=(\d+)", true⟩
  falsePositives := ["EXAMPLE"]

/-- A placeholder in front of a token does not hide it. -/
theorem token_behind_placeholder :
    let text := "tk_example1 acct=42 tk_ab12".toList
    ∃ d, ofSpec? tokenWithAccount none = some d ∧
      (d.find? text).map (fun hit => (hit.value, hit.position)) = some (some "ab12", some 23) ∧
      ∃ (p : Pattern) (front : List Match) (m : Match) (back : List Match),
        p.Successive (.atStart text) none (front ++ m :: back) ∧
        (∀ m' ∈ front, ¬ tokenWithAccount.Admits m') ∧ tokenWithAccount.Admits m ∧
        String.ofList (valueSpan m).text = "ab12" := by
  intro text
  obtain ⟨d, hd⟩ : ∃ d, ofSpec? tokenWithAccount none = some d :=
    Option.isSome_iff_exists.mp (by decide +kernel)
  have hfound : ((ofSpec? tokenWithAccount none).bind fun d =>
      (d.find? "tk_example1 acct=42 tk_ab12".toList).map fun hit => (hit.value, hit.position)) =
        some (some "ab12", some 23) := by
    decide +kernel
  rw [hd, Option.bind_some] at hfound
  obtain ⟨hit, hhit, hvalue⟩ := Option.map_eq_some_iff.mp hfound
  obtain ⟨p, ms, -, hms, -, hfirst⟩ := reports_first_admitted hd text
  obtain ⟨front, m, back, rfl, hfront, hadmits, hreports⟩ := hfirst hit hhit
  refine ⟨d, hd, hfound, p, front, m, back, hms, hfront, hadmits, ?_⟩
  exact Option.some.inj (hreports.value.symm.trans (congrArg Prod.fst hvalue))

end PatternDetector

end SecretScan
