import RespClient.Number.Decimal
import RespClient.Number.Shortest

/-!
# Reading floating point numbers

A number is an optional sign before `inf`, `infinity` or `nan` in any case, or before
decimal digits with at most one point among, before or after them, and an optional
exponent. The number read is the nearest to the decimal. Decimals so large or so
small that the format cannot tell them from infinity or zero are settled by their
length.
-/

namespace RespClient.Literal

/-- The number that the digits of a text spell. -/
def digitsValue (digits : List Char) : Nat := Nat.ofDigitChars 10 digits 0

/-- The number nearest to a decimal. -/
def ofScaled {f : Format} (negative : Bool) (d : Scaled) : Binary f :=
  if d.digits = 0 then Binary.ofRank negative 0
  else
    let length : Int := (Decimal.ofNat d.digits).length
    let bound : Int := (twoTo f.exponent : Nat)
    if bound < length + d.exponent then Binary.infinity negative
    else if length + d.exponent < -bound then Binary.ofRank negative 0
    else Binary.ofFraction negative d.num d.den

/-- Takes an optional sign off a text: is it negative, and what follows. -/
def takeSign : List Char → Bool × List Char
  | '+' :: rest => (false, rest)
  | '-' :: rest => (true, rest)
  | rest => (false, rest)

/-- The exponent that ends a number; nothing at all is the exponent zero. -/
def exponent? : List Char → Option Int
  | [] => some 0
  | e :: rest =>
    if e = 'e' || e = 'E' then
      let (negative, digits) := takeSign rest
      if digits.isEmpty || !digits.all Char.isDigit then none
      else
        let size : Int := digitsValue digits
        some (if negative then -size else size)
    else none

/-- Reads an unsigned decimal. -/
def scaled? (text : List Char) : Option Scaled :=
  let whole := text.takeWhile Char.isDigit
  let rest := text.dropWhile Char.isDigit
  let (part, rest) :=
    match rest with
    | '.' :: more => (more.takeWhile Char.isDigit, more.dropWhile Char.isDigit)
    | _ => ([], rest)
  if whole.isEmpty && part.isEmpty then none
  else (exponent? rest).map fun e => ⟨digitsValue (whole ++ part), e - part.length⟩

/-- Is a text the given lower-case word, in any case? -/
def isWord (word : String) (text : List Char) : Bool := text.map Char.toLower == word.toList

/-- Reads a number of a format. -/
def read? (f : Format) (text : List Char) : Option (Binary f) :=
  let (negative, body) := takeSign text
  match scaled? body with
  | some d => some (ofScaled negative d)
  | none =>
    if isWord "nan" body then some .nan
    else if isWord "inf" body || isWord "infinity" body then some (.infinity negative)
    else none

end RespClient.Literal
