import RespClient.Reply.Parsing

/-!
# Replies from a stream

A connection delivers octets in chunks that need not end where replies end. A
`StreamReader` keeps the octets that no reply has claimed. Each chunk starts a round,
which reads replies off the front until none is left or one cannot be read. After a
fault that more octets cannot mend, later rounds only keep their octets.
-/

namespace RespClient

/-- The state between two chunks. -/
structure StreamReader where
  /-- The octets that no reply has claimed. -/
  buffer : Bytes := []
  /-- The fault that ended reading for good. -/
  failure : Option ParseFault := none
  deriving Repr, DecidableEq

/-- What a round gave: its replies, and the fault that ended it, if one did. -/
structure Round where
  replies : List Reply
  stop : Option ParseFault

/-- Reads replies off the front of some octets, at most `fuel` of them: the replies,
the fault that ended the reading, and the octets left. Every reply takes octets, so
as many as there are octets are enough. -/
def readAll (limits : Limits) : Nat → Bytes → List Reply × Option ParseFault × Bytes
  | 0, octets => ([], none, octets)
  | fuel + 1, octets =>
    if octets.isEmpty then ([], none, octets)
    else
      match Reply.parse limits octets with
      | .error fault => ([], some fault, octets)
      | .ok (reply, taken) =>
        let (replies, stop, left) := readAll limits fuel (octets.drop taken)
        (reply :: replies, stop, left)

namespace StreamReader

/-- Is reading over for good? -/
def isDead (reader : StreamReader) : Bool := reader.failure.isSome

/-- One round: takes in a chunk and reads the replies that are there. -/
def receive (limits : Limits) (reader : StreamReader) (chunk : Bytes) : Round × StreamReader :=
  let octets := reader.buffer ++ chunk
  if reader.isDead then (⟨[], none⟩, { reader with buffer := octets })
  else
    let (replies, stop, left) := readAll limits octets.length octets
    (⟨replies, stop⟩, ⟨left, stop.filter fun fault => !fault.isIncomplete⟩)

/-- The rounds of a list of chunks, each with the state after it. -/
def receiveAll (limits : Limits) : StreamReader → List Bytes → List (Round × StreamReader)
  | _, [] => []
  | reader, chunk :: chunks =>
    let (round, reader) := reader.receive limits chunk
    (round, reader) :: receiveAll limits reader chunks

end StreamReader

end RespClient
