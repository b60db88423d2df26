import SecretScan.Engine

/-!
# The engine without verification

Without verification nothing is asked: a scan in any monad is a pure search.
-/

namespace SecretScan

theorem Detector.scan_off {m : Type → Type} [Monad m] (d : Detector) (ask : Inquiry m)
    (text : List Char) : d.scan ask false text = pure (d.find? text) := by
  cases d with
  | builtin d =>
      rw [Detector.scan, Detector.find?, PatternDetector.scan]
      cases d.find? text with
      | none => rfl
      | some hit => rfl
  | custom d => rfl

namespace Engine

/-- The hits in a text of the detectors that the prefilter selects. -/
def hits (e : Engine) (text : List Char) : List Hit :=
  (e.candidates (e.prefilter.select text)).filterMap (·.find? text)

theorem scanText_off {m : Type → Type} [Monad m] [LawfulMonad m] (e : Engine) (ask : Inquiry m)
    (text : List Char) : e.scanText ask false text = pure (e.hits text) := by
  have hscan : (fun d : Detector => d.scan ask false text) = fun d => pure (d.find? text) :=
    funext fun d => d.scan_off ask text
  rw [scanText, scanCandidates, hscan, List.mapM_pure]
  simp [hits, List.filterMap_map]

theorem length_candidates_select_le (e : Engine) (text : List Char) :
    (e.candidates (e.prefilter.select text)).length ≤ e.prefilter.size := by
  calc
    (e.candidates (e.prefilter.select text)).length ≤ (e.prefilter.select text).length :=
      List.length_filterMap_le _ _
    _ ≤ (List.range e.prefilter.size).length := List.length_filter_le _ _
    _ = e.prefilter.size := List.length_range

end Engine

end SecretScan
