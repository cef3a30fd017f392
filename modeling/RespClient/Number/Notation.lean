import RespClient.Number.Decimal
import RespClient.Number.Shortest

/-!
# Text of floating point numbers

A `Layout` says how the shortest digits of a number are set out: between which
exponents they are written positionally, whether a whole number keeps a `.0`, and
whether a positive exponent has a sign. `Layout.write` applies one to a number.
-/

namespace RespClient

/-- How the digits of a finite number are set out. The exponent of a number is that
of its first digit. -/
structure Layout where
  /-- Positional from this exponent on, in `some` layouts. -/
  positionalFrom : Option Int
  /-- Positional up to this exponent, in `some` layouts. -/
  positionalTo : Option Int
  /-- Whole numbers in positional form end in `.0`. -/
  pointZero : Bool
  /-- Positive exponents have a plus sign. -/
  plusSign : Bool
  /-- The choice between two equally near decimals. -/
  tie : Tie

namespace Layout

/-- The layout of doubles on the wire and in arguments. -/
def wide : Layout := ⟨some (-5), some 15, true, false, .even⟩

/-- The layout of single precision arguments. -/
def narrow : Layout := ⟨some (-6), some 12, true, false, .even⟩

/-- The layout that never writes an exponent. -/
def plain : Layout := ⟨none, none, false, false, .up⟩

/-- Is the exponent one of those written positionally? -/
def isPositional (l : Layout) (exponent : Int) : Bool :=
  l.positionalFrom.all (· ≤ exponent) && l.positionalTo.all (exponent ≤ ·)

/-- Digits whose first has the given exponent, in positional form. -/
def positional (l : Layout) (digits : List Char) (exponent : Int) : List Char :=
  if exponent < 0 then
    '0' :: '.' :: List.replicate (-exponent - 1).toNat '0' ++ digits
  else
    let whole := exponent.toNat + 1
    let front := digits.take whole ++ List.replicate (whole - digits.length) '0'
    match digits.drop whole with
    | [] => if l.pointZero then front ++ ['.', '0'] else front
    | back => front ++ '.' :: back

/-- Digits whose first has the given exponent, with the exponent written out. -/
def scientific (l : Layout) (digits : List Char) (exponent : Int) : List Char :=
  let mantissa :=
    match digits with
    | first :: second :: rest => first :: '.' :: second :: rest
    | _ => digits
  let sign := if l.plusSign && 0 ≤ exponent then ['+'] else []
  mantissa ++ 'e' :: sign ++ Decimal.ofInt exponent

/-- The text of zero. -/
def zeroText (l : Layout) : List Char := if l.pointZero then ['0', '.', '0'] else ['0']

/-- The text of a positive decimal. -/
def writeScaled (l : Layout) (d : Scaled) : List Char :=
  let all := Decimal.ofNat d.digits
  let digits := (all.reverse.dropWhile (· == '0')).reverse
  let exponent := d.exponent + (all.length - 1 : Nat)
  if l.isPositional exponent then l.positional digits exponent else l.scientific digits exponent

/-- The text of a finite rank. -/
def writeRank (l : Layout) (f : Format) (rank : Nat) : List Char :=
  if rank = 0 then l.zeroText else l.writeScaled (f.shortest l.tie rank)

/-- The text of a number, with `nan`, `inf` and `-inf` for the values that have no
digits, given the texts of the first two. -/
def write (l : Layout) (nan inf : List Char) {f : Format} : Binary f → List Char
  | .nan => nan
  | .number negative rank _ =>
    let size := if rank = f.top then inf else l.writeRank f rank
    if negative then '-' :: size else size

end Layout

end RespClient
