import RespClient.Bytes
import RespClient.Number.Binary
import RespClient.Number.Width
import RespClient.Reply.Kind

/-!
# Replies

A `Reply` is what a server sends: a scalar, a collection of replies, or a reply with
attributes attached. Both revisions of the protocol share this one type. The views
below give the part of a reply that a caller asks for, when the reply has it.
-/

namespace RespClient

/-- The three octets that name the format of a verbatim string. -/
structure TextFormat where
  first : UInt8
  second : UInt8
  third : UInt8
  deriving Repr, DecidableEq

/-- The octets of a text format, in order. -/
def TextFormat.octets (t : TextFormat) : Bytes := [t.first, t.second, t.third]

/-- A reply of a server. -/
inductive Reply where
  | simple (text : Bytes)
  | error (message : Bytes)
  | integer (n : Int64Value)
  | bulk (text : Bytes)
  | null
  | array (items : List Reply)
  | boolean (b : Bool)
  | double (x : Double)
  | bigNumber (digits : Bytes)
  | bulkError (message : Bytes)
  | verbatim (format : TextFormat) (text : Bytes)
  | map (entries : List (Reply × Reply))
  | set (items : List Reply)
  | push (items : List Reply)
  | attribute (attributes : List (Reply × Reply)) (value : Reply)

namespace Reply

instance : Inhabited Reply := ⟨.null⟩

/-- The array of bulk strings with the given texts, the form of every request. -/
def bulkArray (texts : List Bytes) : Reply := .array (texts.map .bulk)

/-- The kind of a reply. -/
def kind : Reply → Kind
  | .simple _ => .status
  | .error _ => .error
  | .integer _ => .integer
  | .bulk _ => .string
  | .null => .nil
  | .array _ => .array
  | .boolean _ => .boolean
  | .double _ => .double
  | .bigNumber _ => .bigNumber
  | .bulkError _ => .bulkError
  | .verbatim _ _ => .verbatim
  | .map _ => .map
  | .set _ => .set
  | .push _ => .push
  | .attribute _ _ => .attribute

/-- The null reply. -/
def isNull : Reply → Bool
  | .null => true
  | _ => false

/-- Error replies, simple or bulk. -/
def isError : Reply → Bool
  | .error _ => true
  | .bulkError _ => true
  | _ => false

/-- Collections: arrays, maps, sets and push messages. A reply with attributes is
none, whatever it wraps. -/
def isAggregate : Reply → Bool
  | .array _ => true
  | .map _ => true
  | .set _ => true
  | .push _ => true
  | _ => false

/-- The text of a string reply. -/
def text? : Reply → Option Bytes
  | .simple text => some text
  | .bulk text => some text
  | .verbatim _ text => some text
  | _ => none

/-- The message of an error reply. -/
def errorMessage? : Reply → Option Bytes
  | .error message => some message
  | .bulkError message => some message
  | _ => none

/-- The integer of an integer reply. -/
def integer? : Reply → Option Int64Value
  | .integer n => some n
  | _ => none

/-- The items of an array. -/
def array? : Reply → Option (List Reply)
  | .array items => some items
  | _ => none

/-- The items of an array, a set or a push message. -/
def elements? : Reply → Option (List Reply)
  | .array items => some items
  | .set items => some items
  | .push items => some items
  | _ => none

/-- The entries of a map. -/
def map? : Reply → Option (List (Reply × Reply))
  | .map entries => some entries
  | _ => none

/-- The reply inside all attributes. -/
def withoutAttributes : Reply → Reply
  | .attribute _ value => value.withoutAttributes
  | reply => reply

end Reply

end RespClient
