import SecretScan.Console.Output
import SecretScan.Proofs.Detector.Builtin
import SecretScan.Proofs.Sink.Tally

/-!
# What masking hides

Two runs are compared in which a detector captures values that differ only beyond their first
characters. Masking makes the values of the two hits look the same. The second part of a credential
is among the details, though, and those are shown as they are.
-/

namespace SecretScan

/-! ## Values that look the same -/

/-- As many characters, and the same ones first. -/
def Text.Alike (v w : String) : Prop :=
  v.toList.length = w.toList.length ∧
    v.toList.take Text.visibleChars = w.toList.take Text.visibleChars

instance (v w : String) : Decidable (Text.Alike v w) :=
  inferInstanceAs (Decidable (_ ∧ _))

theorem Text.maskChars_eq_iff {n : Nat} {v w : List Char} :
    maskChars n v = maskChars n w ↔ v.length = w.length ∧ v.take n = w.take n := by
  constructor
  · intro h
    have hlen : v.length = w.length := by
      rw [← length_maskChars n v, ← length_maskChars n w, h]
    have htake : (v.take n).length = (w.take n).length := by
      rw [List.length_take, List.length_take, hlen]
    exact ⟨hlen, (List.append_inj h htake).1⟩
  · rintro ⟨hlen, htake⟩
    rw [maskChars, maskChars, hlen, htake]

theorem Text.mask_eq_iff {v w : String} :
    mask v visibleChars = mask w visibleChars ↔ Alike v w := by
  rw [mask, mask, String.ofList_inj, maskChars_eq_iff]
  rfl

/-- The same details, but for a captured one whose values are alike. -/
def Details.Alike (captured : Option String) (a b : Details) : Prop :=
  List.Forall₂ (fun x y => x.1 = y.1 ∧ (x.2 = y.2 ∨ captured = some x.1 ∧
    ∃ v w, x.2 = .str v ∧ y.2 = .str w ∧ Text.Alike v w)) a b

theorem Details.Alike.eq_of_none {a b : Details} (h : Alike none a b) : a = b := by
  induction h with
  | nil => rfl
  | cons hxy _ ih =>
      obtain ⟨hname, hvalue⟩ := hxy
      have hvalue := hvalue.resolve_right (by simp)
      rw [Prod.ext hname hvalue, ih]

/-- The same hits, but for a value and a captured detail that are alike. -/
structure Hit.Alike (captured : Option String) (h g : Hit) : Prop where
  detector_eq : h.detector = g.detector
  verified_eq : h.verified = g.verified
  position_eq : h.position = g.position
  value : Option.Rel Text.Alike h.value g.value
  details : h.details.Alike captured g.details

theorem map_mask_eq_of_rel {v w : Option String} (h : Option.Rel Text.Alike v w) :
    v.map (fun v => Text.mask v Text.visibleChars) =
      w.map (fun v => Text.mask v Text.visibleChars) := by
  cases h with
  | none => rfl
  | some h => exact congrArg some (Text.mask_eq_iff.mpr h)

/-! ## Where details are shown -/

/-- The same hit with other details. -/
def Hit.withDetails (h : Hit) (details : Details) : Hit := { h with details := details }

/-- The same finding with other details. -/
def Finding.withDetails (f : Finding) (details : Details) : Finding :=
  { f with hit := f.hit.withDetails details }

theorem Finding.withDetails_inj {f : Finding} {a b : Details} :
    f.withDetails a = f.withDetails b ↔ a = b := by
  constructor
  · intro h
    exact congrArg (fun f => f.hit.details) h
  · rintro rfl
    rfl

theorem Console.findingLines_withDetails_singleton (colours : Console.Colours) (f : Finding)
    (n v : String) :
    findingLines colours (f.withDetails [(n, .str v)]) =
      findingLines colours (f.withDetails []) ++ ["    Extras: " ++ (n ++ "=" ++ v)] := by
  simp [findingLines, Finding.withDetails, Hit.withDetails, detailsText, Text.joined]
  rfl

theorem Console.findingLines_withDetails_inj {colours : Console.Colours} {f : Finding}
    {n v w : String} :
    findingLines colours (f.withDetails [(n, .str v)]) =
      findingLines colours (f.withDetails [(n, .str w)]) ↔ v = w := by
  simp [findingLines_withDetails_singleton]

theorem Finding.toJson_withDetails_inj {f : Finding} {n v w : String} :
    (f.withDetails [(n, .str v)]).toJson = (f.withDetails [(n, .str w)]).toJson ↔ v = w := by
  simp [toJson, withDetails, Hit.withDetails, Hit.members, Json.record, Json.ofMembers,
    Json.sortedMembers, Json.insertMember]

/-! ## Views of alike hits -/

namespace Sink

/-- The views of alike hits differ by their details alone. -/
theorem viewOf_of_alike {s : Sink} (hmask : s.options.mask = true) {captured : Option String}
    {h g : Hit} (halike : h.Alike captured g) (c : Finding) :
    s.viewOf { c with hit := h } = (s.viewOf { c with hit := g }).withDetails h.details := by
  obtain ⟨hdetector, hverified, hposition, hvalue, -⟩ := halike
  simp only [viewOf, present, kept, hmask, if_true, hdetector, hverified, hposition,
    map_mask_eq_of_rel hvalue, Finding.withDetails, Hit.withDetails]

theorem viewOf_eq_withDetails (s : Sink) (f : Finding) :
    s.viewOf f = (s.viewOf f).withDetails f.hit.details := by
  simp only [viewOf, present, kept, Finding.withDetails, Hit.withDetails]
  split <;> rfl

/-- The totals do not depend on the findings that are there already. -/
theorem emitAll_with_findings (s : Sink) (found fs : List Finding) :
    ({ s with findings := found } : Sink).emitAll fs =
      { s.emitAll fs with findings := found ++ fs.map (kept s.options) } := by
  induction fs generalizing s found with
  | nil => simp [emitAll]
  | cons f fs ih =>
      have hemit : ({ s with findings := found } : Sink).emit f =
          { s.emit f with findings := found ++ [kept s.options f] } := rfl
      rw [emitAll_cons, emitAll_cons, hemit, ih]
      simp

/-- Alike hits count the same. -/
theorem emit_eq_of_alike (s : Sink) {captured : Option String} {h g : Hit}
    (halike : h.Alike captured g) (c : Finding) :
    s.emit { c with hit := g } = { s.emit { c with hit := h } with
      findings := s.findings ++ [kept s.options { c with hit := g }] } := by
  obtain ⟨detector, value, verified, position, details⟩ := h
  obtain ⟨detector', value', verified', position', details'⟩ := g
  obtain rfl : detector = detector' := halike.detector_eq
  obtain rfl : verified = verified' := halike.verified_eq
  rfl

theorem summary_with_findings {s : Sink} {found : List Finding}
    (hlen : found.length = s.findings.length) (startedAt : Timestamp) (now : Nat) :
    ({ s with findings := found } : Sink).summary startedAt now = s.summary startedAt now := by
  simp only [summary, elapsed, hlen]

theorem summary_emitAll_eq (s : Sink) {captured : Option String} {h g : Hit}
    (halike : h.Alike captured g) (c : Finding) (before after : List Finding)
    (startedAt : Timestamp) (now : Nat) :
    (s.emitAll (before ++ { c with hit := h } :: after)).summary startedAt now =
      (s.emitAll (before ++ { c with hit := g } :: after)).summary startedAt now := by
  have hsame : s.emitAll (before ++ { c with hit := g } :: after) =
      { s.emitAll (before ++ { c with hit := h } :: after) with
        findings := (s.emitAll before).findings ++ [kept (s.emitAll before).options
          { c with hit := g }] ++ after.map (kept (s.emitAll before).options) } := by
    rw [emitAll_append, emitAll_append, emitAll_cons, emitAll_cons, emit_eq_of_alike _ halike c]
    exact emitAll_with_findings _ _ _
  rw [hsame]
  refine (summary_with_findings ?_ startedAt now).symm
  simp [findings_emitAll]

theorem presented_emitAll_eq_iff (s : Sink) (f f' : Finding) (before after : List Finding) :
    (s.emitAll (before ++ f :: after)).presented = (s.emitAll (before ++ f' :: after)).presented ↔
      s.viewOf f = s.viewOf f' := by
  simp [presented_emitAll]

theorem report_toJson_emitAll_eq_iff (s : Sink) {captured : Option String} {h g : Hit}
    (halike : h.Alike captured g) (c : Finding) (before after : List Finding)
    (startedAt : Timestamp) (now : Nat) :
    ((s.emitAll (before ++ { c with hit := h } :: after)).report startedAt now).toJson =
        ((s.emitAll (before ++ { c with hit := g } :: after)).report startedAt now).toJson ↔
      (s.viewOf { c with hit := h }).toJson = (s.viewOf { c with hit := g }).toJson := by
  simp only [report, Report.toJson, summary_emitAll_eq s halike c before after startedAt now]
  simp [presented_emitAll]

end Sink

/-! ## Second parts -/

namespace PatternDetector

/-- No credential of two parts has a detail that follows from its value. -/
theorem annotation_of_second : ∀ spec ∈ Spec.builtin, spec.second.isSome = true →
    spec.annotation = none := by
  decide +kernel

/-- The details of alike hits are the same, or they are the second parts and these differ. -/
theorem details_of_alike {spec : Spec} {service : Option Service} {d : PatternDetector}
    {t u : List Char} {h g : Hit} (hspec : spec ∈ Spec.builtin)
    (hd : ofSpec? spec service = some d) (ht : d.find? t = some h) (hu : d.find? u = some g)
    (halike : h.Alike (d.second.map (·.detail)) g) :
    (h.details = g.details ∧ d.secondIn? t = d.secondIn? u) ∨
      ∃ n v w, v ≠ w ∧ h.details = [(n, .str v)] ∧ g.details = [(n, .str w)] ∧
        d.secondIn? t ≠ d.secondIn? u := by
  obtain ⟨rfl, -, -, hsecond⟩ := ofSpec?_eq_some_iff.mp hd
  cases hs : d.second with
  | none =>
      have hdetails := halike.details
      rw [hs] at hdetails
      exact .inl ⟨hdetails.eq_of_none, by rw [secondIn?_of_none hs, secondIn?_of_none hs]⟩
  | some s =>
      -- So the second part is the only detail that there can be.
      have hplain : d.spec.annotation = none := by
        refine annotation_of_second d.spec hspec ?_
        cases hss : d.spec.second with
        | none => simp [hss, hs] at hsecond
        | some _ => rfl
      obtain ⟨m, second, -, -, hsecondT, rfl⟩ := exists_of_find?_eq_some ht
      obtain ⟨m', second', -, -, hsecondU, rfl⟩ := exists_of_find?_eq_some hu
      have hdetails := halike.details
      rw [Hit.found, Hit.found, details_of_second hplain, details_of_second hplain]
        at hdetails ⊢
      rw [hsecondT, hsecondU]
      cases second with
      | none =>
          cases second' with
          | none => exact .inl ⟨rfl, rfl⟩
          | some _ => cases hdetails
      | some nv =>
          obtain ⟨n, v⟩ := nv
          cases second' with
          | none => cases hdetails
          | some nw =>
              obtain ⟨n', w⟩ := nw
              obtain rfl : n = n' := (List.forall₂_cons.mp hdetails).1.1
              by_cases hvw : v = w
              · exact .inl ⟨by rw [hvw], by rw [hvw]⟩
              · refine .inr ⟨n, String.ofList v, String.ofList w, ?_, rfl, rfl, ?_⟩
                · rwa [Ne, String.ofList_inj]
                · simp [hvw]

end PatternDetector

/-! ## Keys of AWS -/

/-- A line that gives a key of AWS and its secret key. -/
def awsLine (key secret : String) : List Char :=
  key.toList ++ " aws_secret=".toList ++ secret.toList

/-- The hit on such a line. -/
def awsHit (key secret : String) : Hit :=
  ⟨"aws", some key, false, some 0, [("secret", .str secret)]⟩

/-- Is it the hit on such a line? -/
def Hit.isAwsHit (key secret : String) (h : Hit) : Bool :=
  h.detector = "aws" ∧ h.value = some key ∧ h.verified = false ∧ h.position = some 0 ∧
    h.details.map (fun m => (m.1, m.2.string?)) = [("secret", some secret)]

theorem eq_awsHit_of_isAwsHit {h : Hit} {key secret : String}
    (his : h.isAwsHit key secret = true) : h = awsHit key secret := by
  obtain ⟨detector, value, verified, position, details⟩ := h
  simp only [Hit.isAwsHit, decide_eq_true_eq, List.map_eq_singleton_iff] at his
  obtain ⟨rfl, rfl, rfl, rfl, ⟨n, j⟩, rfl, hj⟩ := his
  obtain ⟨rfl, hj⟩ := Prod.mk.inj hj
  cases j with
  | str v =>
      obtain rfl := Option.some.inj hj
      rfl
  | _ => cases hj

/-- Two keys that begin alike, and two secret keys that do, put together in three ways. -/
def awsKeys : List (String × String) :=
  [("AKIA0123456789ABCDEF", "abcdefghijklmnopqrstuvwxyz0123456789ABCD"),
   ("AKIA0123456789ABCDEG", "abcdefghijklmnopqrstuvwxyz0123456789ABCD"),
   ("AKIA0123456789ABCDEF", "abcdefghijklmnopqrstuvwxyz0123456789ABCE")]

/-- The detector of keys of AWS makes a hit on each of them. -/
theorem exists_find?_eq_awsHit :
    ∃ d, PatternDetector.ofSpec? Spec.aws none = some d ∧ d.second.map (·.detail) = some "secret" ∧
      ∀ k ∈ awsKeys, d.find? (awsLine k.1 k.2) = some (awsHit k.1 k.2) := by
  have hfinds : (PatternDetector.ofSpec? Spec.aws none).any (fun d =>
      d.second.any (·.detail == "secret") &&
        awsKeys.all fun k => (d.find? (awsLine k.1 k.2)).any (·.isAwsHit k.1 k.2)) = true := by
    decide +kernel
  simp only [Option.any_eq_true, Bool.and_eq_true, beq_iff_eq, List.all_eq_true] at hfinds
  obtain ⟨d, hd, ⟨second, hsecond, hdetail⟩, hall⟩ := hfinds
  refine ⟨d, hd, by rw [hsecond, Option.map_some, hdetail], ?_⟩
  intro k hk
  obtain ⟨h, hfind, his⟩ := hall k hk
  rw [hfind, eq_awsHit_of_isAwsHit his]

theorem awsHit_alike {key secret key' secret' : String} (hkey : Text.Alike key key')
    (hsecret : Text.Alike secret secret') :
    (awsHit key secret).Alike (some "secret") (awsHit key' secret') where
  detector_eq := rfl
  verified_eq := rfl
  position_eq := rfl
  value := .some hkey
  details := .cons ⟨rfl, .inr ⟨rfl, secret, secret', rfl, rfl, hsecret⟩⟩ .nil

/-! ## What is shown -/

/-- Of the hits of a built-in detector whose captures are alike, masking hides the difference in
what is shown, in the findings presented and in the report, just if the difference is not in the
second part. -/
theorem masking_hides_all_but_second_part {spec : Spec} {service : Option Service}
    {d : PatternDetector} {t u : List Char} {h g : Hit} {s : Sink} (hspec : spec ∈ Spec.builtin)
    (hd : PatternDetector.ofSpec? spec service = some d) (ht : d.find? t = some h)
    (hu : d.find? u = some g) (halike : h.Alike (d.second.map (·.detail)) g)
    (hmask : s.options.mask = true) (c : Finding) (before after : List Finding) :
    let f : Finding := { c with hit := h }
    let f' : Finding := { c with hit := g }
    let run := s.emitAll (before ++ f :: after)
    let run' := s.emitAll (before ++ f' :: after)
    (s.viewOf f = s.viewOf f' ↔ d.secondIn? t = d.secondIn? u) ∧
      (run.presented = run'.presented ↔ d.secondIn? t = d.secondIn? u) ∧
      (∀ colours, Console.findingLines colours (s.viewOf f) =
        Console.findingLines colours (s.viewOf f') ↔ d.secondIn? t = d.secondIn? u) ∧
      (∀ startedAt now, (run.report startedAt now).toJson = (run'.report startedAt now).toJson ↔
        d.secondIn? t = d.secondIn? u) ∧
      (spec.second = none → d.secondIn? t = d.secondIn? u) := by
  intro f f' run run'
  -- Both views are one finding with the details of either hit.
  obtain ⟨view, hview, hview'⟩ : ∃ view : Finding,
      s.viewOf f = view.withDetails h.details ∧ s.viewOf f' = view.withDetails g.details :=
    ⟨_, Sink.viewOf_of_alike hmask halike c, Sink.viewOf_eq_withDetails s f'⟩
  have hpresented := Sink.presented_emitAll_eq_iff s f f' before after
  have hreport := Sink.report_toJson_emitAll_eq_iff s halike c before after
  have hnone : spec.second = none → d.secondIn? t = d.secondIn? u := by
    intro hnone
    obtain ⟨-, -, -, hsecond⟩ := PatternDetector.ofSpec?_eq_some_iff.mp hd
    rw [hnone] at hsecond
    rw [PatternDetector.secondIn?_of_none hsecond, PatternDetector.secondIn?_of_none hsecond]
  rcases PatternDetector.details_of_alike hspec hd ht hu halike with
    ⟨hdetails, hsecond⟩ | ⟨n, v, w, hvw, hh, hg, hsecond⟩
  · have heq : s.viewOf f = s.viewOf f' := by
      rw [hview, hview', hdetails]
    refine ⟨iff_of_true heq hsecond, iff_of_true (hpresented.mpr heq) hsecond, ?_, ?_, hnone⟩
    · exact fun colours => iff_of_true (by rw [heq]) hsecond
    · exact fun startedAt now =>
        iff_of_true ((hreport startedAt now).mpr (congrArg Finding.toJson heq)) hsecond
  · rw [hh] at hview
    rw [hg] at hview'
    have hne : s.viewOf f ≠ s.viewOf f' := by
      rw [hview, hview', Ne, Finding.withDetails_inj]
      simpa using hvw
    refine ⟨iff_of_false hne hsecond, iff_of_false (mt hpresented.mp hne) hsecond, ?_, ?_, hnone⟩
    · intro colours
      refine iff_of_false ?_ hsecond
      rwa [hview, hview', Console.findingLines_withDetails_inj]
    · intro startedAt now
      refine iff_of_false (mt (hreport startedAt now).mp ?_) hsecond
      change (s.viewOf f).toJson ≠ (s.viewOf f').toJson
      rwa [hview, hview', Ne, Finding.toJson_withDetails_inj]

/-- Keys that begin alike look the same. -/
theorem masking_hides_end_of_aws_key :
    let secret := "abcdefghijklmnopqrstuvwxyz0123456789ABCD"
    let h := awsHit "AKIA0123456789ABCDEF" secret
    let g := awsHit "AKIA0123456789ABCDEG" secret
    let s : Sink := { options := { mask := true } }
    (∃ d, PatternDetector.ofSpec? Spec.aws none = some d ∧
      d.find? (awsLine "AKIA0123456789ABCDEF" secret) = some h ∧
      d.find? (awsLine "AKIA0123456789ABCDEG" secret) = some g) ∧
      ∀ c : Finding, s.viewOf { c with hit := h } = s.viewOf { c with hit := g } := by
  intro secret h g s
  have hspec : Spec.aws ∈ Spec.builtin := by simp [Spec.builtin]
  obtain ⟨d, hd, hsecond, hall⟩ := exists_find?_eq_awsHit
  have ht := hall ("AKIA0123456789ABCDEF", secret) (by simp [awsKeys, secret])
  have hu := hall ("AKIA0123456789ABCDEG", secret) (by simp [awsKeys, secret])
  have halike : h.Alike (d.second.map (·.detail)) g := by
    rw [hsecond]
    exact awsHit_alike (by decide) (by decide)
  have hsame : d.secondIn? (awsLine "AKIA0123456789ABCDEF" secret) =
      d.secondIn? (awsLine "AKIA0123456789ABCDEG" secret) := by
    rcases PatternDetector.details_of_alike hspec hd ht hu halike with
      ⟨-, hsame⟩ | ⟨n, v, w, hvw, hh, hg, -⟩
    · exact hsame
    · have hdetails : [(n, Json.str v)] = [(n, Json.str w)] := hh.symm.trans hg
      simp [hvw] at hdetails
  refine ⟨⟨d, hd, ht, hu⟩, fun c => ?_⟩
  exact (masking_hides_all_but_second_part hspec hd ht hu halike rfl c [] []).1.mpr hsame

/-- Secret keys do not: masking shows all of them. -/
theorem masking_shows_aws_secret :
    let key := "AKIA0123456789ABCDEF"
    let h := awsHit key "abcdefghijklmnopqrstuvwxyz0123456789ABCD"
    let g := awsHit key "abcdefghijklmnopqrstuvwxyz0123456789ABCE"
    let s : Sink := { options := { mask := true } }
    (∃ d, PatternDetector.ofSpec? Spec.aws none = some d ∧
      d.find? (awsLine key "abcdefghijklmnopqrstuvwxyz0123456789ABCD") = some h ∧
      d.find? (awsLine key "abcdefghijklmnopqrstuvwxyz0123456789ABCE") = some g ∧
      h.Alike (d.second.map (·.detail)) g) ∧
      ∀ c : Finding, s.viewOf { c with hit := h } ≠ s.viewOf { c with hit := g } := by
  intro key h g s
  obtain ⟨d, hd, hsecond, hall⟩ := exists_find?_eq_awsHit
  have ht := hall (key, "abcdefghijklmnopqrstuvwxyz0123456789ABCD") (by simp [awsKeys, key])
  have hu := hall (key, "abcdefghijklmnopqrstuvwxyz0123456789ABCE") (by simp [awsKeys, key])
  refine ⟨⟨d, hd, ht, hu, ?_⟩, ?_⟩
  · rw [hsecond]
    exact awsHit_alike (by decide) (by decide)
  · intro c heq
    have hdetails : h.details.map (·.2.string?) = g.details.map (·.2.string?) :=
      congrArg (fun f => f.hit.details.map (·.2.string?)) heq
    exact absurd hdetails (by decide)

end SecretScan
