import RespClient.Decode.Composite
import RespClient.Decode.Scalar

/-!
# Stream entries

An entry of a stream has an id, written as a time and a sequence number with a dash
between, and a list of fields with their values.
-/

namespace RespClient

/-- The id of a stream entry. -/
structure StreamId where
  timestamp : Int64Value
  sequence : Int64Value
  deriving DecidableEq

instance : Inhabited StreamId := ⟨⟨.zero _, .zero _⟩⟩

namespace StreamId

/-- The text of an id. -/
def text (id : StreamId) : List Char :=
  Decimal.ofInt id.timestamp.val ++ '-' :: Decimal.ofInt id.sequence.val

/-- The id that a text spells: its halves stand before and after the first dash. -/
def ofText (text : String) : Except Error StreamId :=
  match Text.splitFirst '-' text.toList with
  | none => .error (.malformed (.streamIdDash text))
  | some (timestamp, sequence) =>
    match Decimal.read? .int64 timestamp, Decimal.read? .int64 sequence with
    | some timestamp, some sequence => .ok ⟨timestamp, sequence⟩
    | _, _ => .error (.malformed (.streamId text))

/-- Is an id not after another? Times count first, then sequence numbers. -/
def isLe (a b : StreamId) : Bool :=
  a.timestamp.val < b.timestamp.val ||
    (a.timestamp.val = b.timestamp.val && a.sequence.val ≤ b.sequence.val)

/-- Some ids from the first to the last. -/
def inOrder (ids : List StreamId) : List StreamId := ids.mergeSort isLe

end StreamId

/-- An entry of a stream. -/
structure StreamEntry where
  id : StreamId := default
  fields : List (String × String) := []
  deriving DecidableEq

/-- The value of the first pair with the given name. -/
def lookupFirst {α : Type} (name : String) (pairs : List (String × α)) : Option α :=
  (pairs.find? fun pair => pair.1 == name).map Prod.snd

/-- The value of the first field with the given name. -/
def StreamEntry.get? (entry : StreamEntry) (name : String) : Option String :=
  lookupFirst name entry.fields

namespace Decoder

/-- A string. -/
def string (revision : Revision) : Decoder String := ofReply (readString revision)

/-- A list of names with values: flat, nested or, under the third revision, a map. -/
def stringPairs (revision : Revision) (reply : Reply) : Except Error (List (String × String)) :=
  sequence revision (pair (string revision) (string revision)) reply

/-- An id is a string. -/
def streamId (revision : Revision) : Decoder StreamId := ofReply fun reply => do
  StreamId.ofText (← readString revision reply)

/-- An entry is an array of id and fields; a deleted entry has null for its fields. -/
def streamEntry (revision : Revision) : Decoder StreamEntry := ofReply fun reply => do
  let (id, fields) ← twoItems .streamEntry reply
  let id ← (streamId revision).reply id
  match fields with
  | .null => .ok ⟨id, []⟩
  | fields => do
    let fields ← stringPairs revision fields
    .ok ⟨id, fields⟩

end Decoder

end RespClient
