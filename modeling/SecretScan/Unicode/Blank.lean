/-!
# White space

The property `White_Space`: the characters that trimming removes and that `\s` matches.
-/

namespace SecretScan.Unicode

/-- The ranges of the property `White_Space`, ascending. -/
def blankRanges : List (Nat × Nat) :=
  [(0x9, 0xD), (0x20, 0x20), (0x85, 0x85), (0xA0, 0xA0), (0x1680, 0x1680), (0x2000, 0x200A),
   (0x2028, 0x2029), (0x202F, 0x202F), (0x205F, 0x205F), (0x3000, 0x3000)]

/-- Is `c` white space? -/
def isBlank (c : Char) : Bool :=
  blankRanges.any fun r => r.1 ≤ c.toNat && c.toNat ≤ r.2

/-- Is `c` a control character (general category `Cc`)? -/
def isControl (c : Char) : Bool :=
  c.toNat < 0x20 || 0x7F ≤ c.toNat && c.toNat < 0xA0

example : isBlank ' ' = true ∧ isBlank '\n' = true ∧ isBlank '_' = false := by decide

end SecretScan.Unicode
