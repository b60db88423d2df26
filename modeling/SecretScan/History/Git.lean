import SecretScan.Decimal.Digits
import SecretScan.SystemError
import SecretScan.History.DiffParser
import SecretScan.Text.Utf8

/-!
# Runs of git

The arguments that git is given, and what one of its runs leaves: its output and how it ended.
-/

namespace SecretScan.Git

/-- How a program ended. -/
inductive Status where
  | exited (code : Nat)
  | killed (signal : Nat)
  deriving DecidableEq, Repr

namespace Status

/-- The name of a signal. -/
def signalName? (signal : Nat) : Option String :=
  ["HUP", "INT", "QUIT", "ILL", "TRAP", "ABRT", "BUS", "FPE", "KILL", "USR1", "SEGV", "USR2",
   "PIPE", "ALRM", "TERM", "STKFLT", "CHLD", "CONT", "STOP", "TSTP", "TTIN", "TTOU", "URG", "XCPU",
   "XFSZ", "VTALRM", "PROF", "WINCH", "IO", "PWR", "SYS"][signal - 1]?

/-- How the end of a program is told. -/
def text : Status → String
  | exited code => "exit status: " ++ Decimal.ofNat code
  | killed signal =>
    "signal: " ++ Decimal.ofNat signal ++
      match signalName? signal with
      | some n => " (SIG" ++ n ++ ")"
      | none => ""

/-- Did the program end well? -/
def isSuccess (s : Status) : Bool := s == exited 0

end Status

/-- What a run of git leaves. -/
structure Run where
  output : List UInt8
  errors : List UInt8
  status : Status
  deriving DecidableEq, Repr

/-- Which commits are read. -/
inductive Range where
  /-- The most recent ones. -/
  | latest (depth : Nat)
  /-- Those that another branch does not have. -/
  | since (upstream : String)
  deriving DecidableEq, Repr

/-- The arguments for the log of a range. -/
def logArguments (r : Range) : List String :=
  ["log", "-p", "--no-color", "--pretty=format:" ++ logFormat] ++
    match r with
    | .latest depth => ["-n", Decimal.ofNat depth]
    | .since upstream => [upstream ++ "..HEAD"]

/-- The arguments for a clone. -/
def cloneArguments (url destination : String) : List String :=
  ["clone", "--quiet", url, destination]

/-- A command as it is shown. -/
def commandLine (arguments : List String) : String := "git " ++ Text.joined " " arguments

/-- The lines of an output. Each is decoded by itself, and one carriage return at its end is
dropped. -/
def linesOf (output : List UInt8) : List (List Char) :=
  (Text.segments 0x0A output).map fun bytes =>
    let line := Text.Utf8.decodeLossy bytes
    if line.getLast? = some '\r' then line.dropLast else line

end SecretScan.Git
