import RespClient.Number.Width

/-!
# Decimal integers

`Decimal.ofInt` writes an integer with no padding. `Decimal.read` reads one inside
a range: an optional sign, then one or more digits, leading zeros allowed. Digits
are taken from the left, and the first that is no digit or leaves the range decides
the fault.
-/

namespace RespClient.Decimal

/-- The digits of a natural number. -/
def ofNat (n : Nat) : List Char := Nat.toDigits 10 n

/-- The digits of an integer, after a minus sign if it is negative. -/
def ofInt (n : Int) : List Char :=
  if n < 0 then '-' :: ofNat n.natAbs else ofNat n.natAbs

/-- Why a text is no integer of a range. -/
inductive Fault where
  | empty
  | badDigit
  | tooLarge
  | tooSmall
  deriving Repr, DecidableEq

/-- The wording of a fault. -/
def Fault.message : Fault → String
  | .empty => "cannot parse integer from empty string"
  | .badDigit => "invalid digit found in string"
  | .tooLarge => "number too large to fit in target type"
  | .tooSmall => "number too small to fit in target type"

/-- The value of a digit. -/
def digitValue (c : Char) : Nat := c.toNat - '0'.toNat

/-- Reads digits after the number `acc`, up to `limit`. -/
def readDigits (limit : Nat) (beyond : Fault) :
    { n : Nat // n ≤ limit } → List Char → Except Fault { n : Nat // n ≤ limit }
  | acc, [] => .ok acc
  | acc, c :: rest =>
    if c.isDigit then
      if h : 10 * acc.val + digitValue c ≤ limit then readDigits limit beyond ⟨_, h⟩ rest
      else .error beyond
    else .error .badDigit

/-- Reads one or more digits, up to `limit`. -/
def readNat (limit : Nat) (beyond : Fault) (text : List Char) :
    Except Fault { n : Nat // n ≤ limit } :=
  if text.isEmpty then .error .badDigit
  else readDigits limit beyond ⟨0, Nat.zero_le _⟩ text

/-- Reads an integer of the range `w`. -/
def read (w : Width) (text : List Char) : Except Fault (Sized w) :=
  match text with
  | [] => .error .empty
  | '+' :: digits => (readNat w.above .tooLarge digits).map fun n => .ofNat n.val n.property
  | '-' :: digits =>
    if w.isSigned then
      (readNat w.below .tooSmall digits).map fun n => .negOfNat n.val n.property
    else .error .badDigit
  | digits => (readNat w.above .tooLarge digits).map fun n => .ofNat n.val n.property

/-- Reads an integer of the range `w` if the text is one. -/
def read? (w : Width) (text : List Char) : Option (Sized w) := (read w text).toOption

end RespClient.Decimal
