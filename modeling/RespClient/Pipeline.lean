import RespClient.Transport.Basic

/-!
# Pipelines

A pipeline collects the wire forms of commands and sends them at once. An empty one
is answered without a transport, and a batch that is not answered reply for command is
an error.
-/

namespace RespClient

/-- The commands that wait to be sent together. -/
structure Pipeline where
  buffer : Bytes := []
  count : Nat := 0
  deriving Repr, DecidableEq

namespace Pipeline

/-- Adds a command: the outcome, and the pipeline after it. -/
def add (pipeline : Pipeline) (command : Command) : Except Error Unit × Pipeline :=
  match command.appendTo pipeline.buffer with
  | (.ok (), buffer) => (.ok (), ⟨buffer, pipeline.count + 1⟩)
  | (.error e, buffer) => (.error e, { pipeline with buffer := buffer })

/-- The number of commands. -/
def length (pipeline : Pipeline) : Nat := pipeline.count

/-- Is there no command? -/
def isEmpty (pipeline : Pipeline) : Bool := pipeline.count = 0

/-- Drops all commands. -/
def clear (_ : Pipeline) : Pipeline := {}

/-- Sends all commands and waits for their replies. -/
def execute {σ : Type} (pipeline : Pipeline) (transport : Transport σ) (state : σ) :
    Except Error BatchResult × σ :=
  if pipeline.isEmpty then (.ok (.ofReplies []), state)
  else
    match transport.roundTripBatch pipeline.buffer pipeline.count state with
    | (.error e, state) => (.error e, state)
    | (.ok replies, state) =>
      if replies.length = pipeline.count then (.ok (.ofReplies replies), state)
      else (.error (.malformed (.batchLength pipeline.count replies.length)), state)

end Pipeline

end RespClient
