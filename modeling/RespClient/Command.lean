import RespClient.Argument
import RespClient.Request

/-!
# Commands

A `Command` is a name and the parts that its arguments have written. It becomes a
request only if every part wrote as many elements as it declared; otherwise the first
part that did not is the error, and nothing is written.
-/

namespace RespClient

/-- What one argument declared and wrote. -/
structure Part where
  declared : Nat
  bulks : List Bytes
  deriving Repr, DecidableEq

/-- The part of an argument. -/
def Argument.part (a : Argument) : Part := ⟨a.count, a.bulks⟩

/-- A command with its arguments. -/
structure Command where
  name : Bytes
  parts : List Part := []
  deriving Repr, DecidableEq

namespace Command

/-- The command with one more argument. -/
def push (command : Command) (a : Argument) : Command :=
  { command with parts := command.parts ++ [a.part] }

/-- The command with the given name and arguments. -/
def ofArgs (name : Bytes) (args : List Argument) : Command := args.foldl push ⟨name, []⟩

/-- The number of elements declared, the name included. -/
def argCount (command : Command) : Nat :=
  command.parts.foldl (fun total part => total + part.declared) 1

/-- The elements of some parts, the first of which has the given index, or the first
part that wrote another number of elements than it declared. -/
def collect (name : Bytes) : Nat → List Part → Except Error (List Bytes)
  | _, [] => .ok []
  | index, part :: parts =>
    if part.bulks.length = part.declared then
      (collect name (index + 1) parts).map (part.bulks ++ ·)
    else
      .error (.malformed
        (.argumentCount index (Utf8.lossyString name) part.declared part.bulks.length))

/-- The request of a command. -/
def toRequest (command : Command) : Except Error Request :=
  (collect command.name 0 command.parts).map fun args => ⟨command.name :: args⟩

/-- Appends the wire form of a command to a buffer: the outcome, and the buffer after
it. -/
def appendTo (buffer : Bytes) (command : Command) : Except Error Unit × Bytes :=
  match command.toRequest with
  | .ok request => (.ok (), request.appendTo buffer)
  | .error e => (.error e, buffer)

/-- The wire form of a command. -/
def encode (command : Command) : Except Error Bytes := command.toRequest.map Request.encode

/-- Appends the wire form of the command with the given name and arguments to a
buffer. -/
def appendArgs (buffer name : Bytes) (args : List Argument) : Except Error Unit × Bytes :=
  (ofArgs name args).appendTo buffer

end Command

end RespClient
