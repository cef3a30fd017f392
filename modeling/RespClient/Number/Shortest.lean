import RespClient.Number.Binary

/-!
# Shortest decimals

`Format.shortest` gives the decimal with the fewest digits among those that round
to a rank, and of these the one nearest to the rank's value. A decimal rounds to a
rank when it lies between the middles to the two neighbouring values, the middles
themselves included exactly for even ranks. On each power of ten, from large to
small, only the two multiples around the value can be the nearest that qualify.
-/

namespace RespClient

/-- The decimal `digits * 10 ^ exponent`. -/
structure Scaled where
  digits : Nat
  exponent : Int
  deriving Repr, DecidableEq

namespace Scaled

/-- The numerator of a decimal as a fraction. -/
def num (d : Scaled) : Nat := d.digits * tenTo d.exponent.toNat

/-- The denominator of a decimal as a fraction. -/
def den (d : Scaled) : Nat := tenTo (-d.exponent).toNat

end Scaled

/-- Which of two equally near decimals is taken. -/
inductive Tie where
  /-- The one whose last digit is even. -/
  | even
  /-- The greater one. -/
  | up
  deriving Repr, DecidableEq

namespace Format

/-- Does a decimal round to the rank? -/
def roundsTo (f : Format) (rank : Nat) (d : Scaled) : Bool :=
  let value := 2 * d.num * twoTo f.scale
  let low := (f.units (rank - 1) + f.units rank) * d.den
  let high := (f.units rank + f.units (rank + 1)) * d.den
  if rank % 2 = 0 then low ≤ value && value ≤ high else low < value && value < high

/-- The greatest multiple of `10 ^ exponent` that is at most the value of a rank. -/
def multipleBelow (f : Format) (rank : Nat) (exponent : Int) : Scaled :=
  ⟨f.units rank * tenTo (-exponent).toNat / (tenTo exponent.toNat * twoTo f.scale), exponent⟩

/-- Is the multiple below the value of a rank taken, and not the next one? The
decimal `d` is the multiple below. -/
def takesBelow (f : Format) (tie : Tie) (rank : Nat) (d : Scaled) : Bool :=
  let middle := (2 * d.digits + 1) * tenTo d.exponent.toNat * twoTo f.scale
  let value := 2 * f.units rank * d.den
  if value < middle then true
  else if middle < value then false
  else
    match tie with
    | .even => d.digits % 2 = 0
    | .up => false

/-- Looks for a decimal that rounds to the rank on `count` powers of ten from
`exponent` downwards. The exact value, which has finitely many digits, ends the
search. -/
def searchDecimal (f : Format) (tie : Tie) (rank : Nat) : Nat → Int → Scaled
  | 0, _ => ⟨f.units rank * fiveTo f.scale, -(f.scale : Int)⟩
  | count + 1, exponent =>
    let below := f.multipleBelow rank exponent
    let above : Scaled := ⟨below.digits + 1, exponent⟩
    match f.roundsTo rank below, f.roundsTo rank above with
    | true, true => if f.takesBelow tie rank below then below else above
    | true, false => below
    | false, true => above
    | false, false => searchDecimal f tie rank count (exponent - 1)

/-- A power of ten above the value of a positive rank, and near it. -/
def decimalCeiling (f : Format) (rank : Nat) : Int :=
  ((Nat.log2 (f.units rank) : Int) - f.scale) * 30103 / 100000 + 2

/-- The shortest decimal that rounds to a positive finite rank. Twenty-two powers of
ten reach past the seventeen digits that any double needs. -/
def shortest (f : Format) (tie : Tie) (rank : Nat) : Scaled :=
  f.searchDecimal tie rank 22 (f.decimalCeiling rank)

end Format

end RespClient
