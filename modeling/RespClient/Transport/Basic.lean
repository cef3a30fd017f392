import RespClient.Command
import RespClient.Response

/-!
# Transports

A `Transport` sends requests and brings back replies, for the price of a change of its
state. A caller waits for the reply (`Transport.issue`) or leaves a `Handler`, which
the transport answers later (`Transport.issueWith`). Either way a command that does
not encode reaches no transport.
-/

namespace RespClient

/-- What a caller leaves behind to get a response: the shape of the result, and a
ticket that tells this caller from others. -/
structure Handler where
  revision : Revision
  shape : Shape
  ticket : Nat

namespace Handler

/-- The response when a reply came. -/
def handle (handler : Handler) (reply : Reply) : Response handler.shape.Carrier :=
  .settle handler.revision handler.shape reply

/-- The response when no reply came. -/
def fail (handler : Handler) (e : Error) : Response handler.shape.Carrier :=
  .ofError handler.shape e

/-- The response for whatever came. -/
def answer (handler : Handler) (outcome : Except Error Reply) : Response handler.shape.Carrier :=
  match outcome with
  | .ok reply => handler.handle reply
  | .error e => handler.fail e

end Handler

/-- How requests are sent. -/
structure Transport (σ : Type) where
  revision : Revision := .second
  /-- Sends one request and waits for its reply. -/
  roundTrip : Bytes → σ → Except Error Reply × σ
  /-- Sends a number of requests at once and waits for their replies. -/
  roundTripBatch : Bytes → Nat → σ → Except Error (List Reply) × σ
  /-- Sends one request and keeps a handler for its reply. -/
  submit : Bytes → Handler → σ → Except Error Unit × σ

namespace Transport

variable {σ : Type}

/-- Sends a command and waits for its response. -/
def issue (transport : Transport σ) (s : Shape) (command : Command) (state : σ) :
    Except Error (Response s.Carrier) × σ :=
  match command.encode with
  | .error e => (.error e, state)
  | .ok request =>
    match transport.roundTrip request state with
    | (.error e, state) => (.error e, state)
    | (.ok reply, state) => (Response.ofReply transport.revision s reply, state)

/-- Sends a command whose response goes to the caller with the given ticket. -/
def issueWith (transport : Transport σ) (s : Shape) (command : Command) (ticket : Nat)
    (state : σ) : Except Error Unit × σ :=
  match command.encode with
  | .error e => (.error e, state)
  | .ok request => transport.submit request ⟨transport.revision, s, ticket⟩ state

end Transport

end RespClient
