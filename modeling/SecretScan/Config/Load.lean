import SecretScan.Config.Basic
import SecretScan.Json.Reader
import SecretScan.Toml.Reader
import SecretScan.Text.Utf8
import SecretScan.Text.Quoted
import SecretScan.Path
import SecretScan.Failure

/-!
# Reading configuration files

The format of a configuration file follows from the extension of its name.
-/

namespace SecretScan.Config

/-- The text of a file, which has to be UTF-8. -/
def fileText (content : Except SystemError (List UInt8)) : Except Failure (List Char) :=
  match content with
  | .error e => .error (.io e)
  | .ok bytes =>
    match Text.Utf8.decode? bytes with
    | some text => .ok text
    | none => .error (.io .notUtf8)

/-- Reads the value of a text in JSON. -/
def ofJsonText {α : Type} (decode : Decoder α) (text : List Char) : Except Failure α :=
  match (Json.readDocument? text).bind decode with
  | some v => .ok v
  | none => .error (.json "")

/-- Reads the value of a text in TOML. -/
def ofTomlText {α : Type} (decode : Decoder α) (text : List Char) : Except Failure α :=
  match (Toml.readDocument? text).bind decode with
  | some v => .ok v
  | none => .error (.toml "")

/-- Reads a configuration file with this path and content. -/
def load (path : String) (content : Except SystemError (List UInt8)) : Except Failure Config := do
  let text ← fileText content
  match (Path.extension? path).map Text.asciiLower with
  | some "toml" => ofTomlText decode? text
  | some "json" => ofJsonText decode? text
  | other =>
    .error (.configuration
      ("unsupported config file extension " ++ Text.shown (other.getD "") ++ " for " ++ path))

/-- Where a configuration file is looked for, in order. -/
def searchPaths : List String := ["leak_hunter.toml", ".leak_hunter.toml", "config/default.toml"]

end SecretScan.Config
