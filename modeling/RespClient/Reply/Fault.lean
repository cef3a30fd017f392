import RespClient.Bytes
import RespClient.Number.Decimal
import RespClient.Text.Quoted
import RespClient.Text.Utf8

/-!
# Why octets are no reply

`ParseFault` lists the reasons, `ParseFault.message` words them. The fault
`incomplete` is the only one that more octets can mend.
-/

namespace RespClient

/-- Why a line is no integer. -/
inductive IntegerFault where
  /-- The line is no text. -/
  | notText (fault : Utf8.Fault)
  /-- The text is no integer. -/
  | notInteger (text : String) (fault : Decimal.Fault)
  /-- The integer is a count and negative. -/
  | negativeCount (n : Int)
  deriving Repr, DecidableEq

/-- Why a line is no floating point number. -/
inductive DoubleFault where
  /-- The line is no text. -/
  | notText (fault : Utf8.Fault)
  /-- The text is no number. -/
  | notNumber (text : String)
  deriving Repr, DecidableEq

/-- How octets break the framing. -/
inductive FramingFault where
  | returnWithoutFeed
  | textAfterNull
  | nullError
  | missingLineEnd
  deriving Repr, DecidableEq

/-- Why octets are no reply. -/
inductive ParseFault where
  | incomplete
  | badMarker (octet : UInt8)
  | badInteger (cause : IntegerFault)
  | badFraming (cause : FramingFault)
  | collectionTooLarge (count : Nat)
  | nestingTooDeep (depth : Nat)
  | bulkTooLong (length limit : Nat)
  | badDouble (cause : DoubleFault)
  | badBoolean
  | badVerbatim
  deriving Repr, DecidableEq

/-- The wording of an integer fault. -/
def IntegerFault.message : IntegerFault → String
  | .notText fault => fault.message
  | .notInteger text fault => Text.quoted text ++ ": " ++ fault.message
  | .negativeCount n => s!"negative length {n}"

/-- The wording of a fault of a floating point number. -/
def DoubleFault.message : DoubleFault → String
  | .notText fault => fault.message
  | .notNumber text => text

/-- The wording of a framing fault. -/
def FramingFault.message : FramingFault → String
  | .returnWithoutFeed => "CR not followed by LF"
  | .textAfterNull => "unexpected data after null"
  | .nullError => "null bulk error"
  | .missingLineEnd => "missing trailing CRLF"

namespace ParseFault

/-- An octet as two hexadecimal digits after `0x`. -/
def hexOctet (octet : UInt8) : String :=
  let digits := Nat.toDigits 16 octet.toNat
  "0x" ++ String.ofList (List.replicate (2 - digits.length) '0' ++ digits)

/-- The wording of a fault. -/
def message : ParseFault → String
  | .incomplete => "incomplete data"
  | .badMarker octet => "invalid prefix byte: " ++ hexOctet octet
  | .badInteger cause => "invalid integer: " ++ cause.message
  | .badFraming cause => "protocol error: " ++ cause.message
  | .collectionTooLarge count => s!"collection too large: {count} elements exceeds limit"
  | .nestingTooDeep depth => s!"nesting too deep: depth {depth} exceeds limit"
  | .bulkTooLong length limit =>
    s!"bulk string too long: {length} bytes exceeds {limit} byte limit"
  | .badDouble cause => "invalid double: " ++ cause.message
  | .badBoolean => "invalid boolean: expected 't' or 'f'"
  | .badVerbatim => "invalid verbatim string format"

/-- Can more octets mend the fault? -/
def isIncomplete : ParseFault → Bool
  | .incomplete => true
  | _ => false

end ParseFault

end RespClient
