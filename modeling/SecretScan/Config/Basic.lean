import SecretScan.Detector.Custom
import SecretScan.Json.Decode

/-!
# Configurations

The settings of a run. Whatever a configuration leaves out has its default; a detector that it
describes may be incomplete, which is only found when the detector is built.
-/

namespace SecretScan

/-- Which paths are left out of a scan. -/
structure Exclusions where
  /-- Texts that exclude a path which contains one of them. -/
  paths : List String := ["/node_modules/", "/.git/", "/target/", "/vendor/", "/dist/"]
  /-- Texts that exclude a path which ends with one of them. -/
  extensions : List String := [".lock", ".min.js", ".map"]
  deriving DecidableEq, Repr

/-- The limits of a scan. -/
structure Limits where
  maxOpenFiles : Nat := 64
  maxPendingLines : Nat := 256
  maxVerifications : Nat := 8
  verifyRatePerSecond : Nat := 10
  verifyTimeoutSeconds : Nat := 10
  maxFileSize : Nat := 5242880
  deriving DecidableEq, Repr

/-- How history is scanned. -/
structure HistorySettings where
  depth : Nat := 100
  upstream : String := "origin/HEAD"
  cloneTimeoutSeconds : Nat := 300
  deriving DecidableEq, Repr

/-- How text is redacted. -/
structure RedactionSettings where
  cacheSize : Nat := 1000
  rulesPath : Option String := none
  deriving DecidableEq, Repr

/-- The settings of a run. -/
structure Config where
  exclusions : Exclusions := {}
  limits : Limits := {}
  history : HistorySettings := {}
  redaction : RedactionSettings := {}
  detectors : List CustomEntry := []
  deriving DecidableEq, Repr

namespace PatternChoice

/-- The written form. -/
def toJson : PatternChoice → Json
  | single pattern => .str pattern
  | named patterns => .ofMembers (patterns.map fun (n, p) => (n, .str p))

/-- Reads one pattern, or patterns by name. -/
def decode? : Decoder PatternChoice
  | .str s => some (single s)
  | d => (Document.map? Document.string? d).map named

end PatternChoice

namespace CustomEntry

/-- The written form. -/
def toJson (e : CustomEntry) : Json :=
  .ofMembers [("detectorType", .ofString? e.name),
    ("keywords", match e.keywords with | some ks => .strings ks | none => .null),
    ("regex", match e.patterns with | some p => p.toJson | none => .null),
    ("group", .strings e.groupKeywords)]

/-- Reads an entry. The name goes by two names of its own. -/
def decode? : Decoder CustomEntry := fun d => do
  match ← d.slots? [["detectorType", "detector_type"], ["keywords"], ["regex"], ["group"]] with
  | [name, keywords, patterns, group] =>
    return {
      name := ← name.optional Document.string?
      keywords := ← keywords.optional (Document.list? Document.string?)
      patterns := ← patterns.optional PatternChoice.decode?
      groupKeywords := ← group.defaulted (Document.list? Document.string?) [] }
  | _ => none

end CustomEntry

namespace Config

/-- Reads exclusions. -/
def decodeExclusions? : Decoder Exclusions := fun d => do
  let base : Exclusions := {}
  match ← d.slots? [["paths"], ["extensions"]] with
  | [paths, extensions] =>
    return {
      paths := ← paths.defaulted (Document.list? Document.string?) base.paths
      extensions := ← extensions.defaulted (Document.list? Document.string?) base.extensions }
  | _ => none

/-- Reads limits. -/
def decodeLimits? : Decoder Limits := fun d => do
  let base : Limits := {}
  match ← d.slots? [["max_open_files"], ["max_pending_lines"], ["max_verifications"],
      ["verify_rate_per_second"], ["verify_timeout_secs"], ["max_file_size"]] with
  | [openFiles, pendingLines, verifications, rate, timeout, fileSize] =>
    return {
      maxOpenFiles := ← openFiles.defaulted Document.nat64? base.maxOpenFiles
      maxPendingLines := ← pendingLines.defaulted Document.nat64? base.maxPendingLines
      maxVerifications := ← verifications.defaulted Document.nat64? base.maxVerifications
      verifyRatePerSecond := ← rate.defaulted Document.nat32? base.verifyRatePerSecond
      verifyTimeoutSeconds := ← timeout.defaulted Document.nat64? base.verifyTimeoutSeconds
      maxFileSize := ← fileSize.defaulted Document.nat64? base.maxFileSize }
  | _ => none

/-- Reads the settings of history. -/
def decodeHistory? : Decoder HistorySettings := fun d => do
  let base : HistorySettings := {}
  match ← d.slots? [["depth"], ["upstream_ref"], ["clone_timeout_secs"]] with
  | [depth, upstream, timeout] =>
    return {
      depth := ← depth.defaulted Document.nat64? base.depth
      upstream := ← upstream.defaulted Document.string? base.upstream
      cloneTimeoutSeconds := ← timeout.defaulted Document.nat64? base.cloneTimeoutSeconds }
  | _ => none

/-- Reads the settings of redaction. -/
def decodeRedaction? : Decoder RedactionSettings := fun d => do
  let base : RedactionSettings := {}
  match ← d.slots? [["cache_size"], ["rules_path"]] with
  | [cacheSize, rulesPath] =>
    return {
      cacheSize := ← cacheSize.defaulted Document.nat64? base.cacheSize
      rulesPath := ← rulesPath.optionalOr Document.string? base.rulesPath }
  | _ => none

/-- Reads a configuration. -/
def decode? : Decoder Config := fun d => do
  match ← d.slots? [["exclude"], ["scan"], ["history"], ["redaction"], ["detectors"]] with
  | [exclusions, limits, history, redaction, detectors] =>
    return {
      exclusions := ← exclusions.defaulted decodeExclusions? {}
      limits := ← limits.defaulted decodeLimits? {}
      history := ← history.defaulted decodeHistory? {}
      redaction := ← redaction.defaulted decodeRedaction? {}
      detectors := ← detectors.defaulted (Document.list? CustomEntry.decode?) [] }
  | _ => none

/-- The written form. -/
def toJson (c : Config) : Json :=
  .ofMembers
    [("exclude", .ofMembers
        [("paths", .strings c.exclusions.paths), ("extensions", .strings c.exclusions.extensions)]),
     ("scan", .ofMembers
        [("max_open_files", .int c.limits.maxOpenFiles),
         ("max_pending_lines", .int c.limits.maxPendingLines),
         ("max_verifications", .int c.limits.maxVerifications),
         ("verify_rate_per_second", .int c.limits.verifyRatePerSecond),
         ("verify_timeout_secs", .int c.limits.verifyTimeoutSeconds),
         ("max_file_size", .int c.limits.maxFileSize)]),
     ("history", .ofMembers
        [("depth", .int c.history.depth), ("upstream_ref", .str c.history.upstream),
         ("clone_timeout_secs", .int c.history.cloneTimeoutSeconds)]),
     ("redaction", .ofMembers
        [("cache_size", .int c.redaction.cacheSize),
         ("rules_path", .ofString? c.redaction.rulesPath)]),
     ("detectors", .arr (c.detectors.map CustomEntry.toJson))]

end Config

end SecretScan
