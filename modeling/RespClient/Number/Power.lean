/-!
# Powers

The powers that floating point numbers and decimals are made of.
-/

namespace RespClient

/-- Two to the power of `n`. -/
abbrev twoTo (n : Nat) : Nat := Nat.pow 2 n

/-- Five to the power of `n`. -/
abbrev fiveTo (n : Nat) : Nat := Nat.pow 5 n

/-- Ten to the power of `n`. -/
abbrev tenTo (n : Nat) : Nat := Nat.pow 10 n

end RespClient
