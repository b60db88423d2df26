/-!
# Powers

Powers of two and of ten. A number of `k` bits is one below `twoTo k`.
-/

namespace SecretScan.Decimal

/-- A power of two. -/
def twoTo (exponent : Nat) : Nat := Nat.pow 2 exponent

/-- A power of ten. -/
def tenTo (exponent : Nat) : Nat := Nat.pow 10 exponent

end SecretScan.Decimal
