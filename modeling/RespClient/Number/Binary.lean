import RespClient.Number.Power

/-!
# Binary floating point numbers

A number of a format is a sign and a rank: its place in the increasing order of the
non-negative values, infinity last. All not-a-number patterns are one value, so two
values are equal exactly when their bits agree up to that. Rounding finds the
greatest rank whose value does not exceed a fraction, then takes the nearer of its
two neighbours, the even rank on a tie.
-/

namespace RespClient

/-- The number of fraction and exponent bits of an interchange format. -/
structure Format where
  fraction : Nat
  exponent : Nat

namespace Format

/-- The 64-bit format. -/
def double : Format := ⟨52, 11⟩

/-- The 32-bit format. -/
def single : Format := ⟨23, 8⟩

/-- The rank of infinity. -/
def top (f : Format) : Nat := (twoTo f.exponent - 1) * twoTo f.fraction

/-- The least positive value is two to the power of minus this. -/
def scale (f : Format) : Nat := twoTo (f.exponent - 1) - 2 + f.fraction

/-- The value of a rank in multiples of the least positive value. The rank of
infinity counts as the next power of two. -/
def units (f : Format) (rank : Nat) : Nat :=
  if rank < twoTo f.fraction then rank
  else (twoTo f.fraction + rank % twoTo f.fraction) * twoTo (rank / twoTo f.fraction - 1)

/-- Tests the binary digits of a rank from digit `count` downwards, and keeps each
that `fits` allows. -/
def search (fits : Nat → Bool) : Nat → Nat → Nat
  | 0, rank => rank
  | count + 1, rank =>
    if fits (rank + twoTo count) then search fits count (rank + twoTo count)
    else search fits count rank

/-- The greatest rank whose value is at most `num / den`. -/
def floorRank (f : Format) (num den : Nat) : Nat :=
  search (fun rank => rank ≤ f.top && f.units rank * den ≤ num * twoTo f.scale)
    (f.fraction + f.exponent) 0

/-- The rank of the value nearest to `num / den`, the even one of two. -/
def nearestRank (f : Format) (num den : Nat) : Nat :=
  let rank := f.floorRank num den
  if rank = f.top then rank
  else
    let middle := (f.units rank + f.units (rank + 1)) * den
    let twice := 2 * (num * twoTo f.scale)
    if twice < middle then rank
    else if middle < twice then rank + 1
    else if rank % 2 = 0 then rank
    else rank + 1

end Format

/-- A floating point number of a format. -/
inductive Binary (f : Format) where
  | nan
  | number (negative : Bool) (rank : Nat) (le_top : rank ≤ f.top)
  deriving DecidableEq

/-- Double precision numbers. -/
abbrev Double := Binary .double

/-- Single precision numbers. -/
abbrev Single := Binary .single

namespace Binary

variable {f : Format}

/-- The number of a sign and a rank; ranks past infinity count as infinity. -/
def ofRank (negative : Bool) (rank : Nat) : Binary f :=
  .number negative (min rank f.top) (Nat.min_le_right _ _)

/-- Zero. -/
def zero : Binary f := ofRank false 0

instance : Inhabited (Binary f) := ⟨zero⟩

/-- Infinity. -/
def infinity (negative : Bool) : Binary f := ofRank negative f.top

/-- The number nearest to `num / den`. -/
def ofFraction (negative : Bool) (num den : Nat) : Binary f :=
  ofRank negative (f.nearestRank num den)

/-- The number nearest to an integer. -/
def ofInt (n : Int) : Binary f := ofFraction (n < 0) n.natAbs 1

/-- The number of a bit pattern. -/
def ofBits (bits : Nat) : Binary f :=
  let signBit := twoTo (f.fraction + f.exponent)
  let rank := bits % signBit
  if h : rank ≤ f.top then .number (bits / signBit % 2 = 1) rank h else .nan

/-- The bit pattern of a number. -/
def toBits? : Binary f → Option Nat
  | .nan => none
  | .number negative rank _ =>
    some (rank + if negative then twoTo (f.fraction + f.exponent) else 0)

/-- Numbers other than infinity. -/
def isFinite : Binary f → Bool
  | .nan => false
  | .number _ rank _ => rank < f.top

/-- The two infinities. -/
def isInfinite : Binary f → Bool
  | .nan => false
  | .number _ rank _ => rank = f.top

/-- The same number in another format, rounded to the nearest. -/
def convert (g : Format) : Binary f → Binary g
  | .nan => .nan
  | .number negative rank _ =>
    if rank = f.top then infinity negative else ofFraction negative (f.units rank) (twoTo f.scale)

/-- Is this a finite number whose size exceeds every finite number of `g`? -/
def exceeds (g : Format) : Binary f → Bool
  | .nan => false
  | .number _ rank _ =>
    rank < f.top && g.units (g.top - 1) * twoTo f.scale < f.units rank * twoTo g.scale

/-- The integer that a number equals. -/
def toInt? : Binary f → Option Int
  | .nan => none
  | .number negative rank _ =>
    if rank < f.top && f.units rank % twoTo f.scale = 0 then
      let size : Int := f.units rank / twoTo f.scale
      some (if negative then -size else size)
    else none

end Binary

end RespClient
