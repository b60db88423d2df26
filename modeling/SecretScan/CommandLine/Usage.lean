import SecretScan.CommandLine.Argument

/-!
# Usage

What the program says when its arguments ask for nothing that it can do: help, its version, or
what is wrong with them.
-/

namespace SecretScan.CommandLine

/-- What is wrong with the text of a count. -/
inductive CountFault where
  | empty
  | notDigit
  | tooLarge
  deriving DecidableEq, Repr

/-- The text of a fault. -/
def CountFault.message : CountFault → String
  | empty => "cannot parse integer from empty string"
  | notDigit => "invalid digit found in string"
  | tooLarge => "number too large to fit in target type"

/-- Why the arguments lead to no run. -/
inductive UsageProblem where
  /-- Help was asked for; none stands for the program as a whole. -/
  | help (level : Level)
  | version
  /-- There are no arguments at all. -/
  | nothing
  | noCommand
  | unknownCommand (word : String)
  | unexpected (word : String)
  | noValue (argument : Argument)
  | badCount (argument : Argument) (text : String) (fault : CountFault)
  /-- A flag was given a value. -/
  | extraValue (argument : Argument) (value : String)
  | repeated (argument : Argument)
  | conflict (argument : Argument) (others : List Argument)
  deriving DecidableEq, Repr

/-- The name under which the program is called. -/
def programName : String := "leak-hunter"

/-- The line that `--version` prints. -/
def versionLine : String := programName ++ " 0.1.0"

/-- What the program does. -/
def programAbout : String := "Find leaked credentials in files and git history"

namespace Help

/-- A row of a table: a name, filled up to the width of its column, and what it is for. -/
def row (width : Nat) (name about : String) : String :=
  "  " ++ name ++ String.ofList (List.replicate (width - name.length) ' ') ++ "  " ++ about

/-- A table with a title, behind an empty line. -/
def table (title : String) (rows : List (String × String)) : List String :=
  let width := rows.foldl (fun n (name, _) => max n name.length) 0
  "" :: title :: rows.map fun (name, about) => row width name about

/-- The letter and the name of an argument. -/
def names (a : Argument) : String :=
  match a.letter? with
  | some c => String.ofList ['-', c] ++ ", " ++ a.label
  | none => "    " ++ a.label

/-- The table of the arguments that are written by name. -/
def options (level : Level) : List String :=
  table "Options:" (level.named.map fun a => (names a, a.about))

/-- The table of the commands. -/
def commands : List String :=
  table "Commands:" (Command.all.map (fun c => (c.name, c.about)) ++
    [("help", "Print this message or the help of the given subcommand(s)")])

/-- The lines of the help. -/
def lines : Level → List String
  | none =>
    [programAbout, "", "Usage: " ++ programName ++ " [OPTIONS] <COMMAND>"] ++ commands ++
      options none
  | some c =>
    let level : Level := some c
    let place := level.placed?.toList
    [c.about, "",
      Text.joined " " (["Usage: " ++ programName, c.name, "[OPTIONS]"] ++ place.map (·.label))] ++
    (if place.isEmpty then []
     else table "Arguments:" (place.map fun a => (a.label, a.about))) ++
    options level

end Help

namespace UsageProblem

/-- Was something asked for that only has to be printed? -/
def isAnswer : UsageProblem → Bool
  | help _ | version => true
  | _ => false

/-- What is wrong; empty if nothing is. -/
def fault : UsageProblem → String
  | help _ | version | nothing => ""
  | noCommand => "'" ++ programName ++ "' requires a subcommand but one was not provided"
  | unknownCommand word => "unrecognized subcommand '" ++ word ++ "'"
  | unexpected word => "unexpected argument '" ++ word ++ "' found"
  | noValue a => "a value is required for '" ++ a.label ++ "' but none was supplied"
  | badCount a text fault =>
    "invalid value '" ++ text ++ "' for '" ++ a.label ++ "': " ++ fault.message
  | extraValue a value =>
    "unexpected value '" ++ value ++ "' for '" ++ a.label ++ "' found; no more were expected"
  | repeated a => "the argument '" ++ a.label ++ "' cannot be used multiple times"
  | conflict a [b] => "the argument '" ++ a.label ++ "' cannot be used with '" ++ b.label ++ "'"
  | conflict a bs =>
    Text.joined "\n  "
      (("the argument '" ++ a.label ++ "' cannot be used with:") :: bs.map (·.label))

/-- The lines that are printed. -/
def lines : UsageProblem → List String
  | help level => Help.lines level
  | version => [versionLine]
  | nothing => Help.lines none
  | p => ["error: " ++ p.fault, "", "For more information, try '--help'."]

end UsageProblem

end SecretScan.CommandLine
