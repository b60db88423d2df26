import SecretScan.CommandLine.Usage
import SecretScan.Decimal.Digits
import SecretScan.Decimal.Power

/-!
# Reading words

The words of a command line become arguments with their values. A value that follows its option
in a word of its own is only examined once the next argument is complete, so that of two mistakes
the one that shows first in the spelling of the words is the one that is reported.
-/

namespace SecretScan.CommandLine

/-- Reads a count: digits, possibly behind a plus sign. -/
def readCount (text : List Char) : Except CountFault Nat :=
  match text with
  | [] => .error .empty
  | ['+'] => .error .notDigit
  | '+' :: rest => digits rest 0
  | _ => digits text 0
where
  digits : List Char → Nat → Except CountFault Nat
    | [], n => .ok n
    | c :: rest, n =>
      if !Decimal.isDigit c then .error .notDigit
      else
        let n := 10 * n + Decimal.digitValue c
        if Decimal.twoTo 64 ≤ n then .error .tooLarge else digits rest n

/-- Arguments with the texts of their values, in the order in which they were completed. The text
of a flag is empty. -/
abbrev Given := List (Argument × String)

/-- An argument whose value has not been examined, or has yet to come. -/
structure Pending where
  argument : Argument
  text : Option String
  deriving DecidableEq, Repr

/-- What has been read of the words. -/
structure Progress where
  given : Given := []
  pending : Option Pending := none
  /-- Has the argument that is written by its place been met? -/
  placed : Bool := false
  deriving DecidableEq, Repr

namespace Progress

/-- Is the text a value of the kind? -/
def examine (a : Argument) (kind : ValueKind) (text : String) : Except UsageProblem Unit :=
  match kind with
  | .text => .ok ()
  | .path => if text = "" then .error (.noValue a) else .ok ()
  | .count =>
    match readCount text.toList with
    | .ok _ => .ok ()
    | .error fault => .error (.badCount a text fault)

/-- Notes an argument, unless it stands there already. -/
def note (s : Progress) (a : Argument) (text : String) : Except UsageProblem Progress :=
  if s.given.any (·.1 = a) then .error (.repeated a)
  else .ok { s with given := s.given ++ [(a, text)] }

/-- Completes an argument that takes a value. -/
def complete (s : Progress) (a : Argument) (text : Option String) : Except UsageProblem Progress :=
  match text with
  | none => .error (.noValue a)
  | some text => do
    let s ← s.note a text
    match a.form with
    | .place _ kind | .option _ kind => examine a kind text
    | .flag => .ok ()
    return s

/-- Completes the argument that is pending, if there is one. -/
def settle (s : Progress) : Except UsageProblem Progress :=
  match s.pending with
  | none => .ok s
  | some p => { s with pending := none }.complete p.argument p.text

/-- A flag was met. -/
def takeFlag (level : Level) (s : Progress) (a : Argument) : Except UsageProblem Progress := do
  let s ← s.settle
  match a with
  | .help => .error (.help level)
  | .version => .error .version
  | _ => s.note a ""

/-- An option was met, with a value or with one to come. -/
def takeOption (s : Progress) (a : Argument) (text : Option String) :
    Except UsageProblem Progress := do
  let s ← s.settle
  match text with
  | some _ => s.complete a text
  | none => return { s with pending := some ⟨a, none⟩ }

/-- A long name was met, with what stands behind an equals sign. -/
def takeLong (level : Level) (s : Progress) (name : String) (text : Option String) :
    Except UsageProblem Progress :=
  match level.named.find? fun a => a.long == name with
  | none => .error (.unexpected ("--" ++ name))
  | some a =>
    match a.form, text with
    | .flag, none => s.takeFlag level a
    | .flag, some text => .error (.extraValue a text)
    | _, text => s.takeOption a text

/-- Letters were met in one word. The rest behind the letter of an option is its value, without an
equals sign in front; if nothing is left, the value is still to come. -/
def takeLetters (level : Level) (s : Progress) : List Char → Except UsageProblem Progress
  | [] => .ok s
  | c :: rest =>
    match level.named.find? fun a => a.letter? == some c with
    | none => .error (.unexpected (String.ofList ['-', c]))
    | some a =>
      match a.form with
      | .flag =>
        match s.takeFlag level a with
        | .ok s => takeLetters level s rest
        | .error p => .error p
      | _ =>
        match rest with
        | [] => s.takeOption a none
        | '=' :: text => s.takeOption a (some (String.ofList text))
        | text => s.takeOption a (some (String.ofList text))

/-- A word was met that stands for itself. -/
def takeValue (level : Level) (s : Progress) (word : String) : Except UsageProblem Progress :=
  match s.placed, level.placed? with
  | false, some a => do
    let s ← s.settle
    return { s with pending := some ⟨a, some word⟩, placed := true }
  | _, _ => .error (.unexpected word)

end Progress

/-- What a word is by its spelling. -/
inductive Word where
  /-- Two dashes: all that follows stands for itself. -/
  | rest
  | long (name : String) (text : Option String)
  | letters (cs : List Char)
  | value (word : String)
  deriving DecidableEq, Repr

/-- Reads the spelling of a word. -/
def Word.ofString (word : String) : Word :=
  match word.toList with
  | ['-', '-'] => rest
  | '-' :: '-' :: text =>
    match Text.cut? '=' text with
    | some (name, after) => long (String.ofList name) (some (String.ofList after))
    | none => long (String.ofList text) none
  | '-' :: c :: cs => letters (c :: cs)
  | _ => value word

namespace Progress

/-- Reads the words behind two dashes. -/
def readValues (level : Level) (s : Progress) : List String → Except UsageProblem Progress
  | [] => .ok s
  | word :: rest => do
    let s ← s.takeValue level word
    s.readValues level rest

/-- Reads the words behind a command. -/
def readWords (level : Level) (s : Progress) : List String → Except UsageProblem Progress
  | [] => .ok s
  | word :: rest =>
    match Word.ofString word with
    | .rest => s.readValues level rest
    | .long name text => do
      let s ← s.takeLong level name text
      s.readWords level rest
    | .letters cs => do
      let s ← s.takeLetters level cs
      s.readWords level rest
    | .value word =>
      match s.pending with
      | some ⟨a, none⟩ => { s with pending := some ⟨a, some word⟩ }.readWords level rest
      | _ => do
        let s ← s.takeValue level word
        s.readWords level rest

end Progress

/-- The first argument, in the order of the words, that another one excludes. -/
def conflictIn? (given : Given) : Option UsageProblem :=
  given.findSome? fun (a, _) =>
    match (given.filter fun g => a.excludes g.1).map (·.1) with
    | [] => none
    | others => some (.conflict a others)

/-- Reads all the words behind a command. -/
def readCommand (c : Command) (words : List String) : Except UsageProblem Given := do
  let s ← Progress.readWords (some c) {} words
  let s ← s.settle
  match conflictIn? s.given with
  | some p => .error p
  | none => return s.given

/-- The help for a command, which may be named by words. -/
def readHelp : List String → UsageProblem
  | [] => .help none
  | ["help"] => .help none
  | word :: rest =>
    match Command.named? word, rest with
    | some c, [] => .help (some c)
    | some _, next :: _ => .unknownCommand next
    | none, rest => .unknownCommand (if word = "help" then rest.headD word else word)

/-- What is wrong if the words end without a command. -/
def endOf (given : Given) : UsageProblem := if given.isEmpty then .nothing else .noCommand

/-- Reads words up to a command: the arguments before it, the command, and those behind it. -/
def readTop (s : Progress) : List String → Except UsageProblem (Given × Command × Given)
  | [] => .error (endOf s.given)
  | word :: rest =>
    match Command.named? word with
    | some c => do return (s.given, c, ← readCommand c rest)
    | none =>
      if word = "help" then .error (readHelp rest)
      else
        match Word.ofString word with
        | .rest =>
          match rest with
          | [] => .error (endOf s.given)
          | next :: _ =>
            if (Command.named? next).isSome || next = "help" then .error (.unexpected next)
            else .error (.unknownCommand next)
        | .long name text => do
          let s ← s.takeLong none name text
          readTop s rest
        | .letters cs => do
          let s ← s.takeLetters none cs
          readTop s rest
        | .value word => .error (.unknownCommand word)

end SecretScan.CommandLine
