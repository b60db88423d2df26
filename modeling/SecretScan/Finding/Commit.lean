import SecretScan.Json.Decode

/-!
# Commits

What is known of the commit that added a line.
-/

namespace SecretScan

/-- The commit that added a line, and the line's number. -/
structure Commit where
  hash : String := ""
  author : String := ""
  email : String := ""
  title : String := ""
  line : Nat := 0
  deriving DecidableEq, Repr

namespace Commit

/-- The written form. -/
def toJson (c : Commit) : Json :=
  .obj [("hash", .str c.hash), ("author_name", .str c.author),
    ("author_email", .str c.email), ("title", .str c.title), ("line_number", .int c.line)]

/-- Reads a commit. -/
def decode? : Decoder Commit := fun d => do
  match ← d.slots? [["hash"], ["author_name"], ["author_email"], ["title"], ["line_number"]] with
  | [hash, author, email, title, line] =>
    return {
      hash := ← hash.required Document.string?
      author := ← author.required Document.string?
      email := ← email.required Document.string?
      title := ← title.required Document.string?
      line := ← line.required Document.nat64? }
  | _ => none

end Commit

end SecretScan
