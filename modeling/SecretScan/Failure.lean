import SecretScan.SystemError

/-!
# Failures

The causes for which an operation of the scanner fails, and the wording of each.
-/

namespace SecretScan

/-- Why an operation failed. Causes whose wording belongs to a notation or to the network carry
the detail that is known of them. -/
inductive Failure where
  | http (detail : String)
  | connection (detail : String)
  | json (detail : String)
  | toml (detail : String)
  | io (error : SystemError)
  | pattern (detail : String)
  | configuration (detail : String)
  | subprocess (command detail : String)
  | timeout (detail : String)
  | rateLimit (detail : String)
  | validation (detail : String)
  | redactionRules (detail : String)
  | task (detail : String)
  /-- More permits were asked for than there can be. -/
  | permits
  /-- A number ran over its 64 bits. -/
  | overflow
  deriving DecidableEq, Repr

/-- How the program was built: with checks, by which it breaks down where a number runs over its
64 bits, or without them, so that the number goes on from zero. -/
inductive Build where
  | checked
  | wrapping
  deriving DecidableEq, Repr

namespace Failure

/-- The text of a failure. -/
def message : Failure → String
  | http d => "HTTP error: " ++ d
  | connection d => "Curl error: " ++ d
  | json d => "JSON parsing error: " ++ d
  | toml d => "TOML parsing error: " ++ d
  | io e => "IO error: " ++ e.message
  | pattern d => "Invalid regex: " ++ d
  | configuration d => "Configuration error: " ++ d
  | subprocess command d => "`" ++ command ++ "` failed: " ++ d
  | timeout d => "Timed out: " ++ d
  | rateLimit d => "Rate limit exceeded: " ++ d
  | validation d => "Validation failed: " ++ d
  | redactionRules d => "Redaction config error: " ++ d
  | task d => "Task join error: " ++ d
  | permits => "more permits than there can be"
  | overflow => "a number beyond 64 bits"

/-- Does the program break down of this, instead of going on with the failure? -/
def isBreakdown : Failure → Bool
  | permits | overflow => true
  | _ => false

/-- The text of a failure followed by what caused it, where that is told apart from it. -/
def fullMessage (f : Failure) : String :=
  match f with
  | connection d | json d | toml d | pattern d => f.message ++ ": " ++ d
  | io e => f.message ++ ": " ++ e.message
  | _ => f.message

/-- The failure of a task that was cancelled. -/
def cancelledTask (id : String) : Failure := task ("task " ++ id ++ " was cancelled")

end Failure

end SecretScan
