import RespClient.Decode.Scalar
import RespClient.Json.Basic

/-!
# Replies as loosely typed values

Any reply but an error reads as a `Json`. An array or push message is an object when
every other item is a string that can be a name, beginning with the first, and none
is left over; maps are always objects. The strings `true`, `false` and `null` stand
for the values they name. Attributes are dropped.
-/

namespace RespClient.Json

/-- The value that a text stands for. -/
def ofWord (text : String) : Json :=
  match text with
  | "true" => .bool true
  | "false" => .bool false
  | "null" => .null
  | text => .string text

/-- Replies that can be the name of a member in an array. -/
def isName (reply : Reply) : Bool := reply.text?.isSome

/-- Is an array of these items an object? -/
def isObject (items : List Reply) : Bool :=
  items.length % 2 = 0 && (adjacentPairs items).all fun pair => isName pair.1

/-- The name of a member. -/
def readName (reply : Reply) : Except Error String :=
  match reply.text? with
  | some octets => stringOfOctets octets
  | none => .error (.unexpected .string reply)

/-- The number of a big number. -/
def readBigNumber (digits : Bytes) : Except Error Json :=
  match (Utf8.decode? digits).bind (Literal.read? .double) with
  | some x => .ok (.number x)
  | none => .error (.malformed .bigNumber)

mutual

/-- Reads a reply. -/
def ofReply : Reply → Except Error Json
  | .null => .ok .null
  | .boolean b => .ok (.bool b)
  | .integer n => .ok (.number (.ofInt n.val))
  | .double x => .ok (.number x)
  | .bigNumber digits => readBigNumber digits
  | .simple text => (stringOfOctets text).map ofWord
  | .bulk text => (stringOfOctets text).map ofWord
  | .verbatim _ text => (stringOfOctets text).map ofWord
  | .array items =>
    if isObject items then (ofPairs items).map .object else (ofItems items).map .array
  | .push items =>
    if isObject items then (ofPairs items).map .object else (ofItems items).map .array
  | .set items => (ofItems items).map .array
  | .map entries => (ofEntries entries).map .object
  | .attribute _ value => ofReply value
  | .error message => .error (.unexpected .json (.error message))
  | .bulkError message => .error (.unexpected .json (.bulkError message))

/-- Reads the items of an array. -/
def ofItems : List Reply → Except Error (List Json)
  | [] => .ok []
  | item :: items => do
    let value ← ofReply item
    let values ← ofItems items
    .ok (value :: values)

/-- Reads names and values that alternate. -/
def ofPairs : List Reply → Except Error (List (String × Json))
  | name :: value :: items => do
    let name ← readName name
    let value ← ofReply value
    let members ← ofPairs items
    .ok ((name, value) :: members)
  | _ => .ok []

/-- Reads the entries of a map. -/
def ofEntries : List (Reply × Reply) → Except Error (List (String × Json))
  | [] => .ok []
  | (name, value) :: entries => do
    let name ← readName name
    let value ← ofReply value
    let members ← ofEntries entries
    .ok ((name, value) :: members)

end

/-- Loosely typed values read alike under both revisions. -/
def decoder : Decoder Json := .ofReply ofReply

end RespClient.Json
