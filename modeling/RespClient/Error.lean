import RespClient.Number.Notation
import RespClient.Reply.Basic
import RespClient.Reply.Fault

/-!
# Errors

An `Error` says why a command gave no value: the server refused it, its reply is not
of the kind or form that the result type needs, the reply is no frame, or the
connection failed. `Malformed` lists the ways in which a reply of a fitting kind, or
a command, can be ill-formed. Messages are worded here and nowhere else.
-/

namespace RespClient

/-- The kinds of replies that result types ask for. -/
inductive Expected where
  | string
  | integer
  | boolean
  | array
  | status
  | json
  | oneOfTwo
  | oneOfThree
  deriving Repr, DecidableEq

/-- The name of what was asked for. -/
def Expected.label : Expected → String
  | .string => "STRING"
  | .integer => "INTEGER"
  | .boolean => "BOOLEAN"
  | .array => "ARRAY"
  | .status => "STATUS"
  | .json => "JSON"
  | .oneOfTwo => "Either"
  | .oneOfThree => "OneOf3"

/-- The forms that have a fixed number of elements. -/
inductive Form where
  | pair
  | tuple
  | geoPosition
  | scoredMember
  | scanPage
  | streamEntry
  | searchDocument
  | subscription
  deriving Repr, DecidableEq

/-- The name of a form. -/
def Form.label : Form → String
  | .pair => "a pair"
  | .tuple => "a tuple"
  | .geoPosition => "a geo position"
  | .scoredMember => "a scored member"
  | .scanPage => "a scan page"
  | .streamEntry => "a stream entry"
  | .searchDocument => "a search document"
  | .subscription => "a subscription"

/-- How a reply or a command is ill-formed. -/
inductive Malformed where
  /-- A null where a string is needed. -/
  | nullString
  /-- A null where a status is needed. -/
  | nullStatus
  /-- A string that is no text. -/
  | notText (fault : Utf8.Fault)
  /-- An integer outside the range of the result. -/
  | integerRange (n : Int) (w : Width)
  /-- A string that should be a number and is no text. -/
  | numberNotText
  /-- A text that is no number. -/
  | notNumber (text : String)
  /-- A finite number too large for double precision. -/
  | numberRange (text : String)
  /-- A finite number too large for single precision. -/
  | singleRange (x : Double)
  /-- An integer other than zero and one where a truth value is needed. -/
  | notTruthValue (n : Int)
  /-- A form with the wrong number of elements. -/
  | elementCount (form : Form) (needed given : Nat)
  /-- A flat array of keys and values that lacks the last value. -/
  | oddPairs (length : Nat)
  | emptyCursor
  | badCursor (text : String)
  /-- A stream id without a dash. -/
  | streamIdDash (text : String)
  | streamId (text : String)
  | clusterLine (line : String)
  | emptyCluster
  | emptySearch
  | bigNumber
  | jsonText
  /-- A position after the last reply of a batch. -/
  | batchIndex (index length : Nat)
  /-- A batch answered with the wrong number of replies. -/
  | batchLength (needed given : Nat)
  /-- An argument that wrote another number of elements than it declared. -/
  | argumentCount (index : Nat) (command : String) (declared written : Nat)
  deriving DecidableEq

/-- The wording of a fault of form. -/
def Malformed.message : Malformed → String
  | .nullString => "null reply where a string is required"
  | .nullStatus => "null reply where a status is required"
  | .notText fault => "invalid UTF-8 in string reply: " ++ fault.message
  | .integerRange n w => s!"integer reply {n} out of range for {w.label}"
  | .numberNotText => "not a number: invalid UTF-8"
  | .notNumber text => "not a number: " ++ Text.quoted text
  | .numberRange text => "out of range: " ++ Text.quoted text
  | .singleRange x =>
    "out of range for f32: " ++
      String.ofList (Layout.plain.write ['N', 'a', 'N'] ['i', 'n', 'f'] x)
  | .notTruthValue n => s!"invalid bool reply: {n}"
  | .elementCount form needed given =>
    s!"expect {needed} elements for {form.label}, but got {given}"
  | .oddPairs length => s!"flat key/value array has odd length {length}"
  | .emptyCursor => "empty scan cursor"
  | .badCursor text => "invalid scan cursor " ++ Text.quoted text
  | .streamIdDash text => "invalid stream id " ++ Text.quoted text ++ ": missing '-'"
  | .streamId text => "invalid stream id " ++ Text.quoted text
  | .clusterLine line => "invalid cluster node line " ++ Text.quoted line
  | .emptyCluster => "empty cluster node reply"
  | .emptySearch => "empty search reply"
  | .bigNumber => "not a number: invalid big number"
  | .jsonText => "invalid JSON document"
  | .batchIndex index length => s!"pipeline reply index {index} out of range for {length} replies"
  | .batchLength needed given => s!"expect {needed} pipeline replies, but got {given}"
  | .argumentCount index command declared written =>
    s!"argument {index} of {command} declares {declared} elements but wrote {written}"

/-- Why a command gave no value. -/
inductive Error where
  /-- The server's own error message. -/
  | server (message : String)
  /-- A reply of another kind than the result type needs. -/
  | mismatch (expected : Expected) (actual : Kind)
  /-- An ill-formed reply or command. -/
  | malformed (cause : Malformed)
  /-- Octets that are no reply. -/
  | unreadable (cause : ParseFault)
  /-- The connection is closed. -/
  | closed
  /-- The connection failed. -/
  | io (text : String)
  deriving DecidableEq

namespace Error

/-- The wording of an error. -/
def message : Error → String
  | .server message => message
  | .mismatch expected actual =>
    s!"expect {expected.label} reply, but got {actual.label} reply"
  | .malformed cause => "protocol error: " ++ cause.message
  | .unreadable cause => "parse error: " ++ cause.message
  | .closed => "connection closed"
  | .io text => "io error: " ++ text

/-- Errors of turning octets or a reply into a value. -/
def isDecode : Error → Bool
  | .mismatch _ _ => true
  | .malformed _ => true
  | .unreadable _ => true
  | _ => false

/-- Errors that the server reported. -/
def isServer : Error → Bool
  | .server _ => true
  | _ => false

/-- The error for a reply that is not what was asked for. An error reply is the
server's own error, whatever was asked for. -/
def unexpected (expected : Expected) (reply : Reply) : Error :=
  match reply.errorMessage? with
  | some message => .server (Utf8.lossyString message)
  | none => .mismatch expected reply.kind

end Error

end RespClient
