/-!
# Masking

A masked value keeps its first characters and its length; every later character is replaced.
-/

namespace SecretScan.Text

/-- How many characters of a masked value stay visible. -/
def visibleChars : Nat := 5

/-- What a hidden character is shown as. -/
def maskChar : Char := '*'

/-- The first `visible` characters, and a mark for each of the others. -/
def maskChars (visible : Nat) (value : List Char) : List Char :=
  value.take visible ++ List.replicate (value.length - visible) maskChar

/-- The value with all but its first `visible` characters hidden. -/
def mask (value : String) (visible : Nat) : String :=
  String.ofList (maskChars visible value.toList)

theorem length_maskChars (visible : Nat) (value : List Char) :
    (maskChars visible value).length = value.length := by
  simp only [maskChars, List.length_append, List.length_take, List.length_replicate]
  omega

end SecretScan.Text
