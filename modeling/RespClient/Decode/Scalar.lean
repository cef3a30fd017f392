import RespClient.Decode.Decoder
import RespClient.Number.Literal
import RespClient.Text.Split

/-!
# Scalars from replies

The readers here take strings, integers, floating point numbers and truth values from
one reply. Strings come as simple or bulk strings and, under the third revision, also
as verbatim strings and big numbers; under the second an array where a string is due
is the answer to a ping on a subscribed connection. Numbers may come as strings.
-/

namespace RespClient

/-- The octets of a string. -/
def readText (revision : Revision) (reply : Reply) : Except Error Bytes :=
  match reply with
  | .simple text => .ok text
  | .bulk text => .ok text
  | .verbatim _ text =>
    if revision.isThird then .ok text else .error (.unexpected .string reply)
  | .bigNumber digits =>
    if revision.isThird then .ok digits else .error (.unexpected .string reply)
  | .array _ =>
    if revision.isThird then .error (.unexpected .string reply)
    else .ok (Utf8.ofString "PONG")
  | .null => .error (.malformed .nullString)
  | reply => .error (.unexpected .string reply)

/-- Octets as a string. -/
def stringOfOctets (octets : Bytes) : Except Error String :=
  match Utf8.decodeString octets with
  | .ok text => .ok text
  | .error fault => .error (.malformed (.notText fault))

/-- A string. -/
def readString (revision : Revision) (reply : Reply) : Except Error String := do
  stringOfOctets (← readText revision reply)

/-- An integer of the range `w`. -/
def readInteger (w : Width) (reply : Reply) : Except Error (Sized w) :=
  match reply with
  | .integer n =>
    match Sized.ofInt? w n.val with
    | some value => .ok value
    | none => .error (.malformed (.integerRange n.val w))
  | reply => .error (.unexpected .integer reply)

/-- Does a text, its sign apart, spell infinity? -/
def spellsInfinity (text : List Char) : Bool :=
  let body := text.dropWhile fun c => c == '+' || c == '-'
  Literal.isWord "inf" body || Literal.isWord "infinity" body

/-- Octets as a floating point number, with blanks around it allowed. A finite decimal
must not round to infinity. -/
def doubleOfOctets (octets : Bytes) : Except Error Double :=
  match Utf8.decode? octets with
  | none => .error (.malformed .numberNotText)
  | some text =>
    let body := Text.trim text
    match Literal.read? .double body with
    | none => .error (.malformed (.notNumber (String.ofList body)))
    | some x =>
      if x.isInfinite && !spellsInfinity body then
        .error (.malformed (.numberRange (String.ofList body)))
      else .ok x

/-- A double precision number. -/
def readDouble (revision : Revision) (reply : Reply) : Except Error Double :=
  match reply with
  | .double x =>
    if revision.isThird then .ok x else .error (.unexpected .string reply)
  | .integer n =>
    if revision.isThird then .ok (.ofInt n.val) else .error (.unexpected .string reply)
  | reply => do doubleOfOctets (← readText revision reply)

/-- A single precision number: the nearest to a double no larger than the format
holds. -/
def readSingle (revision : Revision) (reply : Reply) : Except Error Single := do
  let x ← readDouble revision reply
  if x.exceeds .single then .error (.malformed (.singleRange x)) else .ok (x.convert .single)

/-- A truth value; null is false. -/
def readTruth (revision : Revision) (reply : Reply) : Except Error Bool :=
  match reply with
  | .null => .ok false
  | .boolean b =>
    if revision.isThird then .ok b else .error (.unexpected .integer reply)
  | .integer n =>
    if n.val = 0 then .ok false
    else if n.val = 1 then .ok true
    else .error (.malformed (.notTruthValue n.val))
  | reply =>
    .error (.unexpected (if revision.isThird then .boolean else .integer) reply)

end RespClient
