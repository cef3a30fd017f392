/-!
# Integers of a fixed width

A `Width` is one of the eight integer ranges that replies and arguments use, and
`Sized w` is the type of the integers inside it. The two word widths have 64 bits.
-/

namespace RespClient

/-- An integer range. -/
inductive Width where
  | int16
  | int32
  | int64
  | intWord
  | nat16
  | nat32
  | nat64
  | natWord
  deriving Repr, DecidableEq

namespace Width

/-- The name of the range in messages. -/
def label : Width → String
  | .int16 => "i16"
  | .int32 => "i32"
  | .int64 => "i64"
  | .intWord => "isize"
  | .nat16 => "u16"
  | .nat32 => "u32"
  | .nat64 => "u64"
  | .natWord => "usize"

/-- The absolute value of the least integer of the range. -/
def below : Width → Nat
  | .int16 => 32768
  | .int32 => 2147483648
  | .int64 => 9223372036854775808
  | .intWord => 9223372036854775808
  | .nat16 => 0
  | .nat32 => 0
  | .nat64 => 0
  | .natWord => 0

/-- The greatest integer of the range. -/
def above : Width → Nat
  | .int16 => 32767
  | .int32 => 2147483647
  | .int64 => 9223372036854775807
  | .intWord => 9223372036854775807
  | .nat16 => 65535
  | .nat32 => 4294967295
  | .nat64 => 18446744073709551615
  | .natWord => 18446744073709551615

/-- Ranges with negative integers. -/
def isSigned (w : Width) : Bool := w.below != 0

end Width

/-- An integer inside the range of `w`. -/
structure Sized (w : Width) where
  val : Int
  below_le : -(w.below : Int) ≤ val
  le_above : val ≤ w.above
  deriving DecidableEq

namespace Sized

/-- The integer `n` if it is inside the range. -/
def ofInt? (w : Width) (n : Int) : Option (Sized w) :=
  if h : -(w.below : Int) ≤ n ∧ n ≤ w.above then some ⟨n, h.1, h.2⟩ else none

/-- A natural number up to the greatest integer of the range. -/
def ofNat {w : Width} (n : Nat) (h : n ≤ w.above) : Sized w := ⟨n, by omega, by omega⟩

/-- The opposite of a natural number down to the least integer of the range. -/
def negOfNat {w : Width} (n : Nat) (h : n ≤ w.below) : Sized w := ⟨-n, by omega, by omega⟩

/-- Zero, which every range holds. -/
def zero (w : Width) : Sized w := ofNat 0 (Nat.zero_le _)

instance (w : Width) : Inhabited (Sized w) := ⟨zero w⟩

@[ext] theorem ext {w : Width} {a b : Sized w} (h : a.val = b.val) : a = b := by
  cases a; cases b; cases h; rfl

/-- An integer is found in the range exactly when the range holds it. -/
theorem ofInt?_eq_some_iff {w : Width} {n : Int} {a : Sized w} :
    ofInt? w n = some a ↔ a.val = n := by
  unfold ofInt?
  split
  · constructor
    · intro h; cases h; rfl
    · intro h; exact congrArg some (ext h.symm)
  · constructor
    · intro h; cases h
    · intro h; have := a.below_le; have := a.le_above; omega

end Sized

/-- Signed 64-bit integers, the integers of the wire. -/
abbrev Int64Value := Sized .int64

/-- Unsigned 64-bit integers. -/
abbrev Nat64Value := Sized .nat64

/-- Unsigned 16-bit integers: the numbers of slots and of network endpoints. -/
abbrev Nat16Value := Sized .nat16

end RespClient
