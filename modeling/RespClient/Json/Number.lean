import RespClient.Number.Literal

/-!
# Numbers in JSON text

A number is an optional minus sign, digits without leading zeros, and optionally a
fraction and an exponent. It is read in two steps of limited precision. First the
digits are gathered into a significand of 64 bits: whole digits that no longer fit
count as powers of ten, and digits of the fraction that no longer fit are dropped.
Then the significand is rounded, and multiplied or divided by a power of ten with a
rounding of its own. A number that grows to infinity is refused.
-/

namespace RespClient.Json

/-- The greatest significand. -/
def significandMax : Nat := 18446744073709551615

/-- Gathers digits while the significand fits: the significand and the digits left. -/
def gather (significand : Nat) : List Char → Nat × List Char
  | [] => (significand, [])
  | c :: rest =>
    let next := significand * 10 + Decimal.digitValue c
    if next ≤ significandMax then gather next rest else (significand, c :: rest)

/-- The rank of the double nearest to a power of ten. -/
def tenPower (exponent : Nat) : Nat := Format.double.nearestRank (tenTo exponent) 1

/-- The rank of the product of two doubles. -/
def timesRank (a b : Nat) : Nat :=
  Format.double.nearestRank (Format.double.units a * Format.double.units b)
    (twoTo (2 * Format.double.scale))

/-- The rank of the quotient of two doubles. -/
def divideRank (a b : Nat) : Nat :=
  Format.double.nearestRank (Format.double.units a) (Format.double.units b)

/-- The greatest power of ten below infinity. -/
def largestPower : Nat := 308

/-- The rank of a significand times a power of ten; none if it is infinite. Small
powers are divided in steps, of which two take every significand to zero. -/
def scaleRank? (significand : Nat) (exponent : Int) : Option Nat :=
  let rank := Format.double.nearestRank significand 1
  let size := exponent.natAbs
  if rank = 0 then some 0
  else if 0 ≤ exponent then
    if size ≤ largestPower then
      let product := timesRank rank (tenPower size)
      if product < Format.double.top then some product else none
    else none
  else if size ≤ largestPower then some (divideRank rank (tenPower size))
  else if size ≤ 2 * largestPower then
    some (divideRank (divideRank rank (tenPower largestPower)) (tenPower (size - largestPower)))
  else some 0

/-- Takes the digits at the front of a text. -/
def takeDigits (text : List Char) : List Char × List Char :=
  (text.takeWhile Char.isDigit, text.dropWhile Char.isDigit)

/-- Takes the whole digits of a number: a zero, or digits that start with another. -/
def takeWhole? (text : List Char) : Option (List Char × List Char) :=
  match takeDigits text with
  | ([], _) => none
  | ('0' :: _ :: _, _) => none
  | parts => some parts

/-- Takes a fraction, which must have a digit; a text without a point has none. -/
def takeFraction? : List Char → Option (List Char × List Char)
  | '.' :: rest =>
    match takeDigits rest with
    | ([], _) => none
    | parts => some parts
  | rest => some ([], rest)

/-- Takes an exponent, which must have a digit; a text without its letter has the
exponent zero. -/
def takeExponent? : List Char → Option (Int × List Char)
  | [] => some (0, [])
  | c :: rest =>
    if c = 'e' || c = 'E' then
      let (negative, rest) := Literal.takeSign rest
      match takeDigits rest with
      | ([], _) => none
      | (digits, rest) =>
        let size : Int := Literal.digitsValue digits
        some (if negative then -size else size, rest)
    else some (0, c :: rest)

/-- Takes an unsigned number off the front of a text. -/
def takeUnsigned? (negative : Bool) (text : List Char) : Option (Double × List Char) := do
  let (whole, rest) ← takeWhole? text
  let (fraction, rest) ← takeFraction? rest
  let (exponent, rest) ← takeExponent? rest
  let (significand, wholeLeft) := gather 0 whole
  let (significand, fractionLeft) := gather significand fraction
  let shift : Int := wholeLeft.length - (fraction.length - fractionLeft.length : Nat)
  let rank ← scaleRank? significand (exponent + shift)
  some (.ofRank negative rank, rest)

/-- Takes a number off the front of a text. -/
def takeNumber? : List Char → Option (Double × List Char)
  | '-' :: rest => takeUnsigned? true rest
  | text => takeUnsigned? false text

end RespClient.Json
