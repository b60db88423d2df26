import SecretScan.Detector.Registry

/-!
# The keyword prefilter

A detector is tried on a text only if one of its keywords occurs in the text, in any case. Every
keyword is kept once, in lowercase, with the indices of the detectors that have it.
-/

namespace SecretScan

/-- Lowercase keywords with the ascending indices of their detectors. -/
structure Prefilter where
  keywords : List (List Char × List Nat)
  /-- How many detectors there are. -/
  size : Nat
  deriving Repr

namespace Prefilter

/-- Notes that a detector has a keyword. -/
def note (index : Nat) (keyword : List Char) :
    List (List Char × List Nat) → List (List Char × List Nat)
  | [] => [(keyword, [index])]
  | (k, owners) :: rest =>
    if k = keyword then (k, if owners.contains index then owners else owners ++ [index]) :: rest
    else (k, owners) :: note index keyword rest

/-- Notes the keywords of a detector; those without characters are left out. -/
def noteAll (known : List (List Char × List Nat)) (index : Nat) (keywords : List String) :
    List (List Char × List Nat) :=
  keywords.foldl
    (fun known k =>
      let low := Text.lower k.toList
      if low.isEmpty then known else note index low known)
    known

/-- Notes the keywords of the detectors from an index on. -/
def collect (known : List (List Char × List Nat)) (index : Nat) :
    List Detector → List (List Char × List Nat)
  | [] => known
  | d :: rest => collect (noteAll known index d.keywords) (index + 1) rest

/-- The prefilter of a registry. -/
def ofRegistry (r : Registry) : Prefilter := ⟨collect [] 0 r.detectors, r.size⟩

/-- How many different keywords there are. -/
def keywordCount (p : Prefilter) : Nat := p.keywords.length

/-- The indices of the detectors of which a keyword occurs in the text, ascending. -/
def select (p : Prefilter) (text : List Char) : List Nat :=
  let low := Text.lower text
  let hit := p.keywords.filter fun (k, _) => Text.occursIn k low
  (List.range p.size).filter fun i => hit.any fun (_, owners) => owners.contains i

end Prefilter

end SecretScan
