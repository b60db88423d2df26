import SecretScan.Finding.Basic
import SecretScan.Time.Timestamp
import SecretScan.Time.Duration

/-!
# Summaries and reports

The totals of a run, and the report that joins them with the findings.
-/

namespace SecretScan

/-- The totals of a run. -/
structure Summary where
  startedAt : Timestamp
  total : Nat
  verified : Nat
  unverified : Nat
  /-- How many findings each detector made, by name of the detector. -/
  byDetector : List (String × Nat)
  duration : Duration
  deriving Repr

namespace Summary

/-- The counts as an object. -/
def countsJson (counts : List (String × Nat)) : Json :=
  .ofMembers (counts.map fun (n, k) => (n, .int k))

/-- The written form; the duration is in whole milliseconds. -/
def toJson (s : Summary) : Json :=
  .obj [("started_at", .str s.startedAt.text), ("total", .int s.total),
    ("verified", .int s.verified), ("unverified", .int s.unverified),
    ("by_detector", countsJson s.byDetector), ("duration", .int s.duration.millis)]

/-- Reads a summary. -/
def decode? : Decoder Summary := fun d => do
  match ← d.slots? [["started_at"], ["total"], ["verified"], ["unverified"], ["by_detector"],
      ["duration"]] with
  | [startedAt, total, verified, unverified, byDetector, duration] =>
    return {
      startedAt := ← startedAt.required Timestamp.decode?
      total := ← total.required Document.nat64?
      verified := ← verified.required Document.nat64?
      unverified := ← unverified.required Document.nat64?
      byDetector := ← byDetector.required (Document.map? Document.nat64?)
      duration := .ofMillis (← duration.required Document.nat64?) }
  | _ => none

end Summary

/-- The findings of a run with their totals. -/
structure Report where
  summary : Summary
  findings : List Finding
  deriving Repr

namespace Report

/-- The written form. -/
def toJson (r : Report) : Json :=
  .obj [("summary", r.summary.toJson), ("findings", .arr (r.findings.map Finding.toJson))]

/-- Reads a report. -/
def decode? : Decoder Report := fun d => do
  match ← d.slots? [["summary"], ["findings"]] with
  | [summary, findings] =>
    return {
      summary := ← summary.required Summary.decode?
      findings := ← findings.required (Document.list? Finding.decode?) }
  | _ => none

end Report

/-- How findings are reported. -/
inductive ReportFormat where
  | json
  | text
  deriving DecidableEq, Repr

namespace ReportFormat

/-- Reads the name of a format, in any case; an unknown name is the error. -/
def parse (name : String) : Except String ReportFormat :=
  match Text.asciiLower name with
  | "json" => .ok json
  | "text" => .ok text
  | other => .error ("unknown report format: " ++ other)

end ReportFormat

end SecretScan
