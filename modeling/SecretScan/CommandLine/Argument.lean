import SecretScan.Text.Basic

/-!
# Commands and their arguments

The commands of the program, the arguments that each of them takes, and how an argument is
written: by its place, or behind a long name or a letter. An option takes a value, a flag does not.
-/

namespace SecretScan.CommandLine

/-- What the program can be asked to do. -/
inductive Command where
  | scan
  | redact
  | list
  deriving DecidableEq, Repr

namespace Command

/-- Every command. -/
def all : List Command := [scan, redact, list]

/-- The word for a command. -/
def name : Command → String
  | scan => "scan"
  | redact => "redact"
  | list => "list"

/-- The command for a word. -/
def named? (word : String) : Option Command := all.find? fun c => c.name == word

/-- What a command does. -/
def about : Command → String
  | scan => "Scan a directory, its git history, or a remote repository"
  | redact => "Redact sensitive values from JSON or text"
  | list => "List available detectors"

end Command

/-- How the value of an argument is read. -/
inductive ValueKind where
  | text
  /-- A text that may not be empty. -/
  | path
  /-- A natural number of at most 64 bits. -/
  | count
  deriving DecidableEq, Repr

/-- An argument of some command. -/
inductive Argument where
  | path
  | git
  | changedOnly
  | depth
  | repo
  | verify
  | mask
  | failOnFindings
  | format
  | config
  | file
  | rules
  | cacheSize
  | verbose
  | help
  | version
  deriving DecidableEq, Repr

/-- How an argument is written. -/
inductive Form where
  /-- By its place. -/
  | place (placeholder : String) (kind : ValueKind)
  /-- By its name alone. -/
  | flag
  /-- By its name and a value. -/
  | option (placeholder : String) (kind : ValueKind)
  deriving DecidableEq, Repr

namespace Argument

/-- How an argument is written. -/
def form : Argument → Form
  | path => .place "PATH" .path
  | file => .place "FILE" .path
  | depth => .option "DEPTH" .count
  | repo => .option "REPO" .text
  | format => .option "FORMAT" .text
  | config => .option "CONFIG" .path
  | rules => .option "RULES" .path
  | cacheSize => .option "CACHE_SIZE" .count
  | git | changedOnly | verify | mask | failOnFindings | verbose | help | version => .flag

/-- The long name. -/
def long : Argument → String
  | path => "path"
  | git => "git"
  | changedOnly => "changed-only"
  | depth => "depth"
  | repo => "repo"
  | verify => "verify"
  | mask => "mask"
  | failOnFindings => "fail-on-findings"
  | format => "format"
  | config => "config"
  | file => "file"
  | rules => "rules"
  | cacheSize => "cache-size"
  | verbose => "verbose"
  | help => "help"
  | version => "version"

/-- The letter that stands for the name. -/
def letter? : Argument → Option Char
  | git => some 'g'
  | depth => some 'd'
  | repo => some 'r'
  | mask => some 'm'
  | format => some 'f'
  | config => some 'c'
  | rules => some 'r'
  | verbose => some 'v'
  | help => some 'h'
  | version => some 'V'
  | _ => none

/-- What an argument is for. -/
def about : Argument → String
  | path => "Directory or file to scan [default: .]"
  | git => "Also scan recent git history of PATH"
  | changedOnly => "Only scan commits not yet on the upstream branch (implies --git)"
  | depth => "Number of commits to scan (default from config)"
  | repo => "Clone and scan a remote repository instead of PATH"
  | verify => "Check candidates against their issuing service"
  | mask => "Only show the first few characters of each secret"
  | failOnFindings => "Exit with status 1 when anything is found"
  | format => "Output format (text, json) [default: text]"
  | config => "Config file (.toml or .json)"
  | file => "Input file (default: stdin)"
  | rules => "Rules file (.toml or .json); built-in rules when omitted"
  | cacheSize => "Number of cached inputs (0 disables the cache)"
  | verbose => "Enable verbose logging"
  | help => "Print help"
  | version => "Print version"

/-- How an argument is called in messages. -/
def label (a : Argument) : String :=
  match a.form with
  | .place placeholder _ => "[" ++ placeholder ++ "]"
  | .flag => "--" ++ a.long
  | .option placeholder _ => "--" ++ a.long ++ " <" ++ placeholder ++ ">"

/-- Is the argument one that excludes the other? -/
def excludes (a b : Argument) : Bool :=
  match a, b with
  | repo, git | repo, changedOnly | git, repo | changedOnly, repo => true
  | _, _ => false

end Argument

/-- Where words are read: behind a command, or before any. -/
abbrev Level := Option Command

namespace Level

/-- The arguments that are written by name. -/
def named : Level → List Argument
  | none => [.verbose, .help, .version]
  | some .scan =>
    [.git, .changedOnly, .depth, .repo, .verify, .mask, .failOnFindings, .format, .config,
     .verbose, .help]
  | some .redact => [.rules, .cacheSize, .config, .verbose, .help]
  | some .list => [.config, .verbose, .help]

/-- The argument that is written by its place. -/
def placed? : Level → Option Argument
  | some .scan => some .path
  | some .redact => some .file
  | _ => none

end Level

end SecretScan.CommandLine
