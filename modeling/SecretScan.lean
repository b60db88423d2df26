import SecretScan.Main
import SecretScan.Proofs.History.LookBack
import SecretScan.Proofs.History.Schedule
import SecretScan.Proofs.History.Exclusions
import SecretScan.Proofs.Prefilter.Presence
import SecretScan.Proofs.Files.Walk
import SecretScan.Proofs.Files.Schedule
import SecretScan.Proofs.Detector.Keywords
import SecretScan.Proofs.Detector.Lines
import SecretScan.Proofs.Sink.Masking
import SecretScan.Proofs.Redaction.Lists
import SecretScan.Proofs.Engine.Verification
import SecretScan.Proofs.Engine.Traffic
import SecretScan.Proofs.History.TwoRuns
import SecretScan.Proofs.History.Attribution
import SecretScan.Proofs.Sink.Shared
import SecretScan.Checkout.Schedule
import SecretScan.Proofs.Checkout.Candidates
import SecretScan.Proofs.Checkout.Schedule
import SecretScan.Proofs.CommandLine.Steps
import SecretScan.Proofs.CommandLine.Search
import SecretScan.Proofs.CommandLine.ExitCode
import SecretScan.Proofs.RoundTrip
import SecretScan.Proofs.History.Signature
import SecretScan.Proofs.Redaction.Untouched
import SecretScan.Proofs.Redaction.Shape
import SecretScan.Proofs.Pattern.Complete
import SecretScan.Proofs.Pattern.Replaces
import SecretScan.Proofs.Pattern.Within
import SecretScan.Proofs.Redaction.Heading
import SecretScan.Proofs.Redaction.SecondPass
import SecretScan.Proofs.Redaction.Eviction
import SecretScan.Proofs.Prefilter.Selection
import SecretScan.Proofs.Prefilter.Lines
import SecretScan.Proofs.Detector.FirstMatch
import SecretScan.Proofs.Detector.Position
import SecretScan.Proofs.Files.LineNumbers
import SecretScan.Proofs.Detector.Context
import SecretScan.Proofs.Detector.Refusal
import SecretScan.Proofs.Json.Bytes
import SecretScan.Proofs.Service.Body
import SecretScan.Proofs.Files.Unlisted
import SecretScan.Proofs.CommandLine.Beside
import SecretScan.Proofs.Service.Judging
import SecretScan.Proofs.Sink.Presentation
import SecretScan.Proofs.Detector.Values
import SecretScan.Proofs.History.Counting
import SecretScan.Proofs.Checkout.Limits
import SecretScan.Proofs.Redaction.Order
import SecretScan.Proofs.Service.Headers
