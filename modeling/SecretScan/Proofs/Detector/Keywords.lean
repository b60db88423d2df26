import SecretScan.Proofs.Detector.Builtin
import SecretScan.Proofs.Engine
import SecretScan.Proofs.Prefilter
import SecretScan.Proofs.Text.Lowercase

/-!
# The prefilter loses no built-in hit

Where a built-in detector would make a hit, one of its keywords stands in the text, and so the
prefilter selects it. Only the keys of Twilio are passed over in a text that does not name their
service.
-/

namespace SecretScan

open SecretScan.Text

/-- The keywords are not empty, and no sigma is among their characters. -/
theorem keywords_builtin : ∀ spec ∈ Spec.builtin, ∀ k ∈ spec.keywords,
    capitalSigma ∉ k.toList ∧ lower k.toList ≠ [] := by
  decide

theorem keywords_twilio : ∀ spec ∈ Spec.builtin, spec.name = "twilio" →
    spec.keywords = ["twilio"] := by
  decide

theorem lower_twilio : lower "twilio".toList = "twilio".toList := by
  decide

/-! ## Hits and keywords -/

/-- A hit has one of the detector's keywords in its text, if the pattern forces one. -/
theorem exists_keyword_of_find? {d : PatternDetector} {text : List Char}
    (hforces : d.pattern.Forces (d.spec.keywords.map String.toList))
    (hfind : (d.find? text).isSome = true) : ∃ k ∈ d.spec.keywords, k.toList <:+: text := by
  obtain ⟨hit, hhit⟩ := Option.isSome_iff_exists.mp hfind
  obtain ⟨m, -, hm, -⟩ := PatternDetector.exists_of_find?_eq_some hhit
  obtain ⟨k, hk, hstands⟩ := hforces.exists_isInfix (Pattern.finds_of_mem_findAll hm)
  obtain ⟨word, hword, rfl⟩ := List.mem_map.mp hk
  exact ⟨word, hword, hstands⟩

/-- A built-in detector with a hit is selected, unless it is Twilio's. -/
theorem selected_of_find? {r : Registry} {i : Nat} {d : PatternDetector} {text : List Char}
    (hget : r.get? i = some (.builtin d)) (hspec : d.spec ∈ Spec.builtin)
    (hforces : d.pattern.Forces (d.spec.keywords.map String.toList))
    (hfind : (d.find? text).isSome = true) : i ∈ (Prefilter.ofRegistry r).select text := by
  obtain ⟨k, hk, hstands⟩ := exists_keyword_of_find? hforces hfind
  obtain ⟨hsigma, hne⟩ := keywords_builtin d.spec hspec k hk
  exact Prefilter.mem_select_iff.mpr ⟨_, hget, k, hk, hne, lower_isInfix hsigma hstands⟩

/-- Twilio's detector is selected just for the texts that name the service. -/
theorem selected_twilio_iff {r : Registry} {i : Nat} {d : PatternDetector} {text : List Char}
    (hget : r.get? i = some (.builtin d)) (hspec : d.spec ∈ Spec.builtin)
    (hname : d.spec.name = "twilio") :
    i ∈ (Prefilter.ofRegistry r).select text ↔ "twilio".toList <:+: lower text := by
  have hkeywords : (Detector.builtin d).keywords = ["twilio"] :=
    keywords_twilio d.spec hspec hname
  rw [Prefilter.mem_select_iff]
  constructor
  · rintro ⟨d', hd', k, hk, -, hstands⟩
    obtain rfl := Option.some.inj (hget.symm.trans hd')
    rw [hkeywords, List.mem_singleton] at hk
    rwa [hk, lower_twilio] at hstands
  · intro hstands
    refine ⟨_, hget, "twilio", by rw [hkeywords]; exact List.mem_singleton_self _, ?_, ?_⟩
    · rw [lower_twilio]
      decide
    · rwa [lower_twilio]

/-! ## Going through the detectors by number -/

theorem filterMap_eq_range_filterMap {α β : Type} (items : List α) (f : α → Option β) :
    items.filterMap f = (List.range items.length).filterMap fun i => items[i]?.bind f := by
  induction items with
  | nil => rfl
  | cons x items ih =>
      rw [List.length_cons, List.range_succ_eq_map, List.filterMap_cons, List.filterMap_cons, ih,
        List.filterMap_map]
      rfl

theorem Engine.hits_eq_range_filterMap (r : Registry) (text : List Char) :
    (ofRegistry r).hits text = (List.range r.detectors.length).filterMap fun i =>
      if i ∈ (Prefilter.ofRegistry r).select text then (r.get? i).bind (·.find? text)
      else none := by
  have hselect : (Prefilter.ofRegistry r).select text = (List.range r.detectors.length).filter
      fun i => decide (i ∈ (Prefilter.ofRegistry r).select text) := by
    -- The numbers are selected out of a range, so nothing but the selection itself is left.
    refine List.filter_congr fun i hi => ?_
    simp only [Prefilter.select, List.mem_filter]
    simp [show i ∈ List.range (Prefilter.ofRegistry r).size from hi]
  calc
    (ofRegistry r).hits text =
        ((Prefilter.ofRegistry r).select text).filterMap fun i =>
          (r.get? i).bind (·.find? text) := List.filterMap_filterMap
    _ = ((List.range r.detectors.length).filter fun i =>
          decide (i ∈ (Prefilter.ofRegistry r).select text)).filterMap fun i =>
            (r.get? i).bind (·.find? text) := by rw [← hselect]
    _ = _ := by simp only [List.filterMap_filter, decide_eq_true_eq]

/-- If a detector that makes a hit is selected just when the hit passes a test, then the prefilter
keeps the hits that pass. -/
theorem Engine.hits_eq_filter {r : Registry} {text : List Char} {keep : Hit → Bool}
    (h : ∀ i d hit, r.get? i = some d → d.find? text = some hit →
      (i ∈ (Prefilter.ofRegistry r).select text ↔ keep hit = true)) :
    (ofRegistry r).hits text = (r.detectors.filterMap (·.find? text)).filter keep := by
  rw [hits_eq_range_filterMap, filterMap_eq_range_filterMap r.detectors, List.filter_filterMap]
  refine List.filterMap_congr fun i _ => ?_
  cases hget : r.get? i with
  | none =>
      have hnone : r.detectors[i]? = none := hget
      simp [hnone]
  | some d =>
      have hsome : r.detectors[i]? = some d := hget
      cases hfind : d.find? text with
      | none => simp [hsome, hfind]
      | some hit => simp [hsome, hfind, Option.filter_some, h i d hit hget hfind]

/-- With the prefilter, every built-in detector makes the hits that it makes without; only the keys
of Twilio are passed over, in the texts that do not name the service. -/
theorem prefilter_loses_no_builtin_hit :
    ∃ r, Registry.builtin = .ok r ∧
      r.detectors.map Detector.name = Spec.builtin.map Spec.name ∧
      (∀ text i d, r.get? i = some d → d.name ≠ "twilio" → (d.find? text).isSome = true →
        i ∈ (Prefilter.ofRegistry r).select text) ∧
      (∀ text i d, r.get? i = some d → d.name = "twilio" →
        (i ∈ (Prefilter.ofRegistry r).select text ↔ "twilio".toList <:+: lower text)) ∧
      ∀ {m : Type → Type} [Monad m] [LawfulMonad m] (ask : Inquiry m) (text : List Char),
        (Engine.ofRegistry r).scanText ask false text =
          pure ((r.detectors.filterMap (·.find? text)).filter fun hit =>
            decide (hit.detector = "twilio" → "twilio".toList <:+: lower text)) := by
  obtain ⟨ds, hbuiltin, hlen, hall⟩ := exists_builtin
  have hread : ∀ i d, (⟨ds.map .builtin⟩ : Registry).get? i = some d →
      ∃ d', d = .builtin d' ∧ d'.spec ∈ Spec.builtin ∧ d'.spec.KeywordForced d'.pattern := by
    intro i d hd
    rw [Registry.get?, List.getElem?_map] at hd
    obtain ⟨d', hd', rfl⟩ := Option.map_eq_some_iff.mp hd
    obtain ⟨hspec, -, hforced⟩ := hall i d' hd'
    exact ⟨d', rfl, List.mem_of_getElem? hspec, hforced⟩
  have hselected : ∀ text i d, (⟨ds.map .builtin⟩ : Registry).get? i = some d →
      d.name ≠ "twilio" → (d.find? text).isSome = true →
        i ∈ (Prefilter.ofRegistry ⟨ds.map .builtin⟩).select text := by
    intro text i d hd hname hfind
    obtain ⟨d', rfl, hspec, hforced⟩ := hread i d hd
    exact selected_of_find? hd hspec (hforced.resolve_left hname) hfind
  have htwilio : ∀ text i d, (⟨ds.map .builtin⟩ : Registry).get? i = some d →
      d.name = "twilio" → (i ∈ (Prefilter.ofRegistry ⟨ds.map .builtin⟩).select text ↔
        "twilio".toList <:+: lower text) := by
    intro text i d hd hname
    obtain ⟨d', rfl, hspec, -⟩ := hread i d hd
    exact selected_twilio_iff hd hspec hname
  refine ⟨⟨ds.map .builtin⟩, hbuiltin, ?_, hselected, htwilio, ?_⟩
  -- The names are those of the descriptions, number by number.
  · refine List.ext_getElem? fun i => ?_
    cases hd : ds[i]? with
    | none =>
        have hnone : Spec.builtin[i]? = none := by
          rw [List.getElem?_eq_none_iff] at hd ⊢
          omega
        simp [hd, hnone]
    | some d => simp [hd, (hall i d hd).1, Detector.name]
  · intro m _ _ ask text
    rw [Engine.scanText_off, Engine.hits_eq_filter]
    intro i d hit hget hfind
    have hdetector : hit.detector = d.name := Detector.detector_of_find? hfind
    rw [decide_eq_true_eq, hdetector]
    by_cases hname : d.name = "twilio"
    · rw [htwilio text i d hget hname]
      simp [hname]
    · have hmem := hselected text i d hget hname (by rw [hfind]; rfl)
      simp [hmem, hname]

end SecretScan
