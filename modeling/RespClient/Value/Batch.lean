import RespClient.Decode.Decoder

/-!
# Results of a batch

Commands that are sent together are answered together. A batch result keeps the
replies in order and knows whether every command succeeded.
-/

namespace RespClient

/-- The replies to a batch. -/
structure BatchResult where
  replies : List Reply := []
  allSucceeded : Bool := false

namespace BatchResult

/-- The result with the given replies: it succeeded if none is null or an error. -/
def ofReplies (replies : List Reply) : BatchResult :=
  ⟨replies, replies.all fun reply => !reply.isNull && !reply.isError⟩

/-- The number of replies. -/
def length (result : BatchResult) : Nat := result.replies.length

/-- Is there no reply? -/
def isEmpty (result : BatchResult) : Bool := result.replies.isEmpty

/-- The reply at a position. -/
def reply (result : BatchResult) (index : Nat) : Except Error Reply :=
  match result.replies[index]? with
  | some reply => .ok reply
  | none => .error (.malformed (.batchIndex index result.length))

/-- The positions and messages of the error replies. -/
def errors (result : BatchResult) : List (Nat × String) :=
  result.replies.zipIdx.filterMap fun (reply, index) =>
    reply.errorMessage?.map fun message => (index, Utf8.lossyString message)

end BatchResult

/-- A batch result is an array; null is a batch that was not run. -/
def Decoder.batchResult : Decoder BatchResult := ofReply fun reply =>
  match reply with
  | .array items => .ok (.ofReplies items)
  | .null => .ok {}
  | reply => .error (.unexpected .array reply)

end RespClient
