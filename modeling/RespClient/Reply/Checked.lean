import RespClient.Number.Width
import RespClient.Reply.Fault
import RespClient.Reply.Limits

/-!
# Checked steps

A reader that leaves its octets where they are works on indices, and some of its steps
cannot be done for every index: a range may reach beyond the octets, a sum beyond the
greatest machine word. Such a step ends in a `Trap`. A trap says nothing about the
octets, which is what a `ParseFault` does.
-/

namespace RespClient

/-- Why a step cannot be done. -/
inductive Trap where
  /-- An index that is not inside the octets, or a range that is not or that ends before
  it begins. -/
  | outOfRange
  /-- A number beyond the greatest machine word. -/
  | overflow
  /-- A negative number for a machine word. -/
  | negative
  /-- More replies inside one another than there is fuel for. -/
  | outOfFuel
  deriving Repr, DecidableEq

/-- The outcome of a step: a result, a fault of the octets, or a trap. -/
inductive Checked (α : Type) where
  | ok (a : α)
  | refused (fault : ParseFault)
  | trapped (trap : Trap)

/-- A number as a machine word, if it is one. -/
def word? (n : Nat) : Option UInt64 := if n ≤ wordMax then some (UInt64.ofNat n) else none

namespace Checked

variable {α β : Type}

/-- A step, and then one that depends on its result. -/
protected def bind (step : Checked α) (next : α → Checked β) : Checked β :=
  match step with
  | .ok a => next a
  | .refused fault => .refused fault
  | .trapped trap => .trapped trap

instance : Monad Checked where
  pure := .ok
  bind := Checked.bind

/-- Applies a function to the result of a step. -/
protected def map (f : α → β) (step : Checked α) : Checked β := step.bind fun a => .ok (f a)

/-- The outcome of a step that cannot trap. -/
def ofOutcome : Except ParseFault α → Checked α
  | .ok a => .ok a
  | .error fault => .refused fault

/-- A number as a machine word. -/
def word (n : Nat) : Checked UInt64 :=
  match word? n with
  | some w => .ok w
  | none => .trapped .overflow

/-- An integer as a machine word. -/
def wordOfInt (n : Int) : Checked UInt64 :=
  if n < 0 then .trapped .negative else word n.toNat

/-- The sum of two machine words. -/
def add (a b : UInt64) : Checked UInt64 := word (a.toNat + b.toNat)

/-- The octet at an index. -/
def octetAt (octets : Bytes) (index : UInt64) : Checked UInt8 :=
  match octets[index.toNat]? with
  | some octet => .ok octet
  | none => .trapped .outOfRange

/-- The octets from the first index up to the last, without the octet there. -/
def slice (octets : Bytes) (first last : UInt64) : Checked Bytes :=
  if first ≤ last ∧ last.toNat ≤ octets.length then
    .ok ((octets.take last.toNat).drop first.toNat)
  else .trapped .outOfRange

end Checked

end RespClient
