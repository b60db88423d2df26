import SecretScan.Redaction.Rule
import SecretScan.Json.Writer

/-!
# Redaction with a cache

A redactor applies its rules to texts and to JSON values; a value is redacted through its compact
text and read back. Results are kept in a cache of fixed size, from which the oldest leaves first.
The key of the cache is the text that was redacted, so a string and a value can share one.
-/

namespace SecretScan

/-- Redacted texts by the text they came from, the latest first. -/
abbrev RedactionCache := List (List Char × List Char)

/-- Counts of a redactor. -/
structure RedactionStats where
  hits : Nat
  misses : Nat
  entries : Nat
  capacity : Nat
  deriving DecidableEq, Repr

/-- The rules of a redactor, with its cache and counts. -/
structure Redactor where
  rules : List ActiveRule
  /-- How many results are kept; none at all if it is zero. -/
  capacity : Nat
  cache : RedactionCache := []
  hits : Nat := 0
  misses : Nat := 0
  deriving Repr

namespace Redactor

/-- A redactor for these rules. -/
def new (rules : List ActiveRule) (capacity : Nat) : Redactor :=
  { rules := rules, capacity := capacity }

/-- The redactor for a file of rules: the standard rules apply if there is none, or if it cannot
be used, and then the failure is given too. -/
def ofFile (path : Option String) (content : String → Except SystemError (List UInt8))
    (capacity : Nat) : Redactor × Option Failure :=
  match path with
  | none => (new RedactionRules.standardActive capacity, none)
  | some path =>
    match (RedactionRules.load path (content path)).bind RedactionRules.compile with
    | .ok rules => (new rules capacity, none)
    | .error f => (new RedactionRules.standardActive capacity, some f)

/-- The names of the rules in the order in which they apply. -/
def ruleNames (r : Redactor) : List String := r.rules.map (·.name)

/-- The text that stands for a value: its characters if it is a string, else its compact form. -/
def keyOf : Json → List Char
  | .str s => s.toList
  | v => v.render

/-- A redacted text in the shape of the value it came from; none if it is no longer well formed. -/
def reshape? (v : Json) (redacted : List Char) : Option Json :=
  match v with
  | .str _ => some (.str (String.ofList redacted))
  | _ => Json.parse? redacted

/-- The cache with one more result at its head. A key that is there already moves there; else
the oldest entry leaves if the cache is full. -/
def put (capacity : Nat) (key value : List Char) (cache : RedactionCache) : RedactionCache :=
  if capacity = 0 then cache
  else if cache.any (·.1 = key) then (key, value) :: cache.filter (·.1 ≠ key)
  else (key, value) :: (if capacity ≤ cache.length then cache.dropLast else cache)

/-- Redacts the text of a value by the rules, and keeps the result if it fits. A result that is no
longer well formed is given as a string. -/
def redactFresh (r : Redactor) (v : Json) : Redactor × Json :=
  let key := keyOf v
  let redacted := ActiveRule.applyAll r.rules key
  match reshape? v redacted with
  | some w => ({ r with cache := put r.capacity key redacted r.cache }, w)
  | none => (r, .str (String.ofList redacted))

/-- Looks for a value in the cache and counts the look. What was kept is an answer only if it fits
the value. -/
def look (r : Redactor) (v : Json) : Redactor × Option Json :=
  match r.cache.lookup (keyOf v) with
  | some cached => ({ r with hits := r.hits + 1 }, reshape? v cached)
  | none => ({ r with misses := r.misses + 1 }, none)

/-- Redacts a value. -/
def redact (r : Redactor) (v : Json) : Redactor × Json :=
  match r.look v with
  | (r, some w) => (r, w)
  | (r, none) => r.redactFresh v

/-- The text of a redacted string. -/
def textOf : Json → String
  | .str s => s
  | v => v.compact

/-- Redacts a text. -/
def redactText (r : Redactor) (text : String) : Redactor × String :=
  let (r, v) := r.redact (.str text)
  (r, textOf v)

/-- The counts so far. -/
def stats (r : Redactor) : RedactionStats :=
  ⟨r.hits, r.misses, r.cache.length, r.capacity⟩

end Redactor

end SecretScan
