import RespClient.Shape.Decoding

/-!
# Responses

A `Response` is what a caller gets back for a command: a value with the reply that
gave it, or an error message with a value that stands in. A server error always makes
a failed response. A reply that does not decode is an error of `Response.ofReply`, for
callers that wait for the response, and a failed response of `Response.settle`, for
callbacks.
-/

namespace RespClient

/-- The outcome of a command. -/
inductive Response (α : Type) where
  | success (value : α) (raw : Reply)
  | failure (standIn : α) (raw : Option Reply) (error : String)

namespace Response

variable {α : Type}

/-- Did the command succeed? -/
def isOk : Response α → Bool
  | .success _ _ => true
  | .failure _ _ _ => false

/-- The value, or the one that stands in. -/
def value : Response α → α
  | .success value _ => value
  | .failure standIn _ _ => standIn

/-- The value of a command that succeeded. -/
def value? : Response α → Option α
  | .success value _ => some value
  | .failure _ _ _ => none

/-- The reply, if one came. -/
def raw? : Response α → Option Reply
  | .success _ raw => some raw
  | .failure _ raw _ => raw

/-- The error message of a command that failed. -/
def error? : Response α → Option String
  | .success _ _ => none
  | .failure _ _ error => some error

/-- The failed response of a shape, with the default result. -/
def failed (s : Shape) (raw : Option Reply) (error : String) : Response s.Carrier :=
  .failure s.default raw error

/-- The message of an error reply, with or without attributes. -/
def serverError? (reply : Reply) : Option String :=
  reply.withoutAttributes.errorMessage?.map Utf8.lossyString

/-- The response for a reply, or the error of decoding it. -/
def ofReply (revision : Revision) (s : Shape) (reply : Reply) :
    Except Error (Response s.Carrier) :=
  match serverError? reply with
  | some error => .ok (failed s (some reply) error)
  | none => (s.decode revision reply).map fun value => .success value reply

/-- The response for a reply; it fails with the error of decoding it. -/
def settle (revision : Revision) (s : Shape) (reply : Reply) : Response s.Carrier :=
  match serverError? reply with
  | some error => failed s (some reply) error
  | none =>
    match s.decode revision reply with
    | .ok value => .success value reply
    | .error e => failed s (some reply) e.message

/-- The response when no reply came. -/
def ofError (s : Shape) (e : Error) : Response s.Carrier := failed s none e.message

end Response

end RespClient
