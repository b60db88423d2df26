import SecretScan.Console.Style
import SecretScan.Finding.Report
import SecretScan.Detector.Registry
import SecretScan.Json.Writer

/-!
# What is shown to the user

The lines for findings, totals, detectors and messages. Every function gives lines, or a text
that ends with a line.
-/

namespace SecretScan.Console

/-- Lines as a text, each ended. -/
def linesText (lines : List String) : String :=
  lines.foldl (fun text line => text ++ line ++ "\n") ""

/-- The details of a hit on one line, sorted. Strings stand for themselves. -/
def detailsText (details : Details) : String :=
  let parts := details.map fun (n, v) =>
    n ++ "=" ++ match v with
      | .str s => s
      | v => v.compact
  Text.joined ", " (parts.mergeSort fun a b => a ≤ b)

/-- The first twelve bytes of a hash, or all of it if it cannot be cut there. -/
def shortHash (hash : String) : String :=
  match cut 12 hash.toList [] with
  | some short => String.ofList short
  | none => hash
where
  cut : Nat → List Char → List Char → Option (List Char)
    | 0, _, taken => some taken.reverse
    | _, [], _ => none
    | left + 1, c :: rest, taken =>
      if c.utf8Size ≤ left + 1 then cut (left + 1 - c.utf8Size) rest (c :: taken) else none

/-- The lines for a finding. -/
def findingLines (colours : Colours) (f : Finding) : List String :=
  let status :=
    if f.hit.verified then paint colours Style.brightRed.inBold "VERIFIED"
    else paint colours .yellow "unverified"
  let place := paint colours .brightWhite f.path ++
    match f.line with
    | some n => ":" ++ Decimal.ofNat n
    | none => ""
  [paint colours .brightRed "●" ++ " " ++ paint colours Style.brightYellow.inBold f.hit.detector ++
    " [" ++ status ++ "]"] ++
  (match f.origin with
    | .file => ["    File:   " ++ place]
    | .history =>
      ("    File:   " ++ place ++ " (history)") ::
        match f.commit with
        | none => []
        | some c =>
          ["    Commit: " ++ paint colours .brightCyan (shortHash c.hash) ++ " " ++ c.title,
           "    Author: " ++ c.author ++ " <" ++ c.email ++ ">"]) ++
  (match f.url with
    | some url => ["    Repo:   " ++ url]
    | none => []) ++
  (match f.hit.value with
    | some v => ["    Secret: " ++ paint colours .brightCyan v]
    | none => []) ++
  (if f.hit.details.isEmpty then [] else ["    Extras: " ++ detailsText f.hit.details])

/-- A rule across the page. -/
def ruler (colours : Colours) : String :=
  paint colours .brightCyan (String.ofList (List.replicate 70 '='))

/-- The lines for the totals of a run. -/
def summaryLines (colours : Colours) (s : Summary) : List String :=
  ["", ruler colours, paint colours Style.brightCyan.inBold "  Scan Summary", ruler colours, "",
   "  Findings:   " ++ paint colours .brightWhite (Decimal.ofNat s.total),
   "  Verified:   " ++ paint colours .brightRed (Decimal.ofNat s.verified),
   "  Unverified: " ++ paint colours .brightYellow (Decimal.ofNat s.unverified),
   "  Duration:   " ++ s.duration.text] ++
  (if s.byDetector.isEmpty then []
   else ["", "  By detector:"] ++
     s.byDetector.map fun (n, k) =>
       "    " ++ paint colours .brightCyan n ++ ": " ++ Decimal.ofNat k) ++
  [""]

/-- The lines at the beginning of a run. -/
def bannerLines (colours : Colours) : List String :=
  [ruler colours, paint colours Style.brightCyan.inBold "  Leak Hunter - credential leak scanner",
   ruler colours, ""]

/-- The lines for the detectors of a registry. -/
def detectorLines (colours : Colours) (r : Registry) : List String :=
  paint colours Style.brightCyan.inBold "Detectors:" :: r.detectors.map fun d =>
    let verify :=
      if d.isVerifiable then paint colours .green "verifiable"
      else paint colours .brightBlack "pattern only"
    "  " ++ paintPadded colours .brightYellow 18 d.name ++ " [" ++ verify ++ "] " ++
      Text.joined ", " d.keywords

/-- The line for something that went wrong. -/
def errorLine (colours : Colours) (message : String) : String :=
  paint colours .brightRed "✗" ++ " " ++ paint colours .red message

/-- The line for a warning. -/
def warningLine (colours : Colours) (message : String) : String :=
  paint colours .brightYellow "!" ++ " " ++ paint colours .yellow message

/-- The line for something that went well. -/
def successLine (colours : Colours) (message : String) : String :=
  paint colours .brightGreen "✓" ++ " " ++ paint colours .green message

/-- What is shown of a finding as it comes in. -/
def findingText (format : ReportFormat) (colours : Colours) (f : Finding) : String :=
  match format with
  | .text => linesText (findingLines colours f)
  | .json => ""

/-- What is shown at the end of a run. In JSON the details of a hit may stand in any order. -/
def reportText (format : ReportFormat) (colours : Colours) (r : Report) : String :=
  match format with
  | .text => linesText (summaryLines colours r.summary)
  | .json => r.toJson.indented ++ "\n"

end SecretScan.Console
