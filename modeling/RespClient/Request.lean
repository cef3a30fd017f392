import RespClient.Reply.Encoding

/-!
# Requests

A request is a list of octet strings, the command name first. On the wire it is an
array of bulk strings, so its arguments may hold any octets.
-/

namespace RespClient

/-- A command name and its arguments, as they are sent. -/
structure Request where
  args : List Bytes := []
  deriving Repr, DecidableEq

namespace Request

/-- The request with a command name and no argument. -/
def ofName (name : Bytes) : Request := ⟨[name]⟩

/-- The request with one more argument. -/
def push (request : Request) (arg : Bytes) : Request := ⟨request.args ++ [arg]⟩

/-- The number of elements, the name included. -/
def length (request : Request) : Nat := request.args.length

/-- Is there not even a name? -/
def isEmpty (request : Request) : Bool := request.args.isEmpty

/-- Appends the wire form of a list of arguments to a buffer, piece by piece. -/
def appendArgs (buffer : Bytes) (args : List Bytes) : Bytes :=
  args.foldl (fun buffer arg => buffer ++ Frame.blob .string arg)
    (buffer ++ Frame.header .array args.length)

/-- Appends the wire form of a request to a buffer. -/
def appendTo (buffer : Bytes) (request : Request) : Bytes := appendArgs buffer request.args

/-- The wire form of a request. -/
def encode (request : Request) : Bytes := request.appendTo []

/-- The number of octets of the wire form of a request. -/
def encodedLength (request : Request) : Nat :=
  request.args.foldl (fun total arg => total + Frame.blobLength arg.length)
    (Frame.headerLength request.length)

end Request

end RespClient
