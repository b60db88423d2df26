import SecretScan.Prefilter

/-!
# The scan engine

A registry with its prefilter: what both the scan of files and the scan of history use to look
for secrets in a text.
-/

namespace SecretScan

/-- A registry with its prefilter. -/
structure Engine where
  registry : Registry
  prefilter : Prefilter
  deriving Repr

namespace Engine

/-- The engine of a registry. -/
def ofRegistry (r : Registry) : Engine := ⟨r, .ofRegistry r⟩

/-- The detectors with the given indices; indices without a detector are passed over. -/
def candidates (e : Engine) (indices : List Nat) : List Detector :=
  indices.filterMap e.registry.get?

/-- The hits that the detectors with the given indices make in a text. -/
def scanCandidates {m : Type → Type} [Monad m] (e : Engine) (ask : Inquiry m) (verify : Bool)
    (indices : List Nat) (text : List Char) : m (List Hit) := do
  let hits ← (e.candidates indices).mapM fun d => d.scan ask verify text
  return hits.filterMap id

/-- The hits in a text of the detectors that the prefilter selects. -/
def scanText {m : Type → Type} [Monad m] (e : Engine) (ask : Inquiry m) (verify : Bool)
    (text : List Char) : m (List Hit) :=
  e.scanCandidates ask verify (e.prefilter.select text) text

end Engine

end SecretScan
