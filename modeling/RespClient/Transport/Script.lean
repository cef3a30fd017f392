import RespClient.Transport.Basic

/-!
# A transport that follows a script

A `Script` answers from a queue of prepared answers, records what is sent, and keeps
the handlers that were submitted until they are flushed. An answer is taken from the
front of the queue whenever one is due; an empty queue means a closed connection.
-/

namespace RespClient

/-- A prepared answer. -/
inductive Canned where
  /-- Octets, of which the first reply counts. -/
  | frame (octets : Bytes)
  | closed
  | io (text : String)
  deriving Repr, DecidableEq

/-- What taking a prepared answer gives. -/
def Canned.outcome : Canned → Except Error Reply
  | .frame octets =>
    match Reply.parse {} octets with
    | .ok (reply, _) => .ok reply
    | .error fault => .error (.unreadable fault)
  | .closed => .error .closed
  | .io text => .error (.io text)

/-- The state of the transport. -/
structure Script where
  /-- The answers to come. -/
  canned : List Canned := []
  /-- The requests sent, first one first. -/
  sent : List Bytes := []
  /-- The handlers kept, first one first. -/
  pending : List Handler := []
  /-- Are submissions refused? -/
  refusing : Bool := false
  /-- The answers that a batch takes, if it is not one per command. -/
  batchTake : Option Nat := none

/-- A handler with the response it was given. -/
structure Delivery where
  handler : Handler
  response : Response handler.shape.Carrier

namespace Script

/-- Takes an answer. -/
def next (script : Script) : Except Error Reply × Script :=
  match script.canned with
  | [] => (.error .closed, script)
  | answer :: rest => (answer.outcome, { script with canned := rest })

/-- Takes answers up to a number, or up to the first error. -/
def nextMany : Nat → Script → Except Error (List Reply) × Script
  | 0, script => (.ok [], script)
  | count + 1, script =>
    match script.next with
    | (.error e, script) => (.error e, script)
    | (.ok reply, script) =>
      match nextMany count script with
      | (.error e, script) => (.error e, script)
      | (.ok replies, script) => (.ok (reply :: replies), script)

/-- Records a request. -/
def record (request : Bytes) (script : Script) : Script :=
  { script with sent := script.sent ++ [request] }

/-- The transport of a script. -/
def transport (revision : Revision) : Transport Script where
  revision := revision
  roundTrip request script := (script.record request).next
  roundTripBatch requests count script :=
    nextMany (script.batchTake.getD count) (script.record requests)
  submit request handler script :=
    if script.refusing then (.error .closed, script)
    else
      let script := script.record request
      (.ok (), { script with pending := script.pending ++ [handler] })

/-- Answers handlers in order, each with the next answer. -/
def deliver : List Handler → Script → List Delivery × Script
  | [], script => ([], script)
  | handler :: handlers, script =>
    let (outcome, script) := script.next
    let (deliveries, script) := deliver handlers script
    (⟨handler, handler.answer outcome⟩ :: deliveries, script)

/-- Answers every kept handler. -/
def flush (script : Script) : List Delivery × Script :=
  deliver script.pending { script with pending := [] }

end Script

end RespClient
