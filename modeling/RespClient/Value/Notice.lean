import RespClient.Decode.Composite
import RespClient.Decode.Scalar

/-!
# Statuses and subscription notices

Many commands answer with a status line, `OK` when all went well. Subscribing and
unsubscribing answer with a notice per channel.
-/

namespace RespClient

/-- A status line. -/
structure Status where
  text : String := ""
  deriving Repr, DecidableEq

/-- Did the command succeed? -/
def Status.isOk (status : Status) : Bool := status.text == "OK"

/-- A notice that a subscription began or ended. -/
structure Subscription where
  kind : String := ""
  channel : Option String := none
  count : Int64Value := .zero _
  deriving DecidableEq

namespace Decoder

/-- A status is a simple string, whatever its octets. -/
def status : Decoder Status := ofReply fun reply =>
  match reply with
  | .simple text => .ok ⟨Utf8.lossyString text⟩
  | .null => .error (.malformed .nullStatus)
  | reply => .error (.unexpected .status reply)

/-- The items of an array or, under the third revision, of a push message. -/
def noticeItems (revision : Revision) (reply : Reply) : Except Error (List Reply) :=
  match reply with
  | .array items => .ok items
  | .push items =>
    if revision.isThird then .ok items else .error (.unexpected .array reply)
  | reply => .error (.unexpected .array reply)

/-- A notice has a kind, a channel, which may be missing, and the number of
subscriptions left. -/
def subscription (revision : Revision) : Decoder Subscription := ofReply fun reply => do
  match ← noticeItems revision reply with
  | [kind, channel, count] => do
    let kind ← readString revision kind
    let channel ← (optional (ofReply (readString revision))).reply channel
    let count ← readInteger .int64 count
    .ok ⟨kind, channel, count⟩
  | items => .error (.malformed (.elementCount .subscription 3 items.length))

end Decoder

end RespClient
