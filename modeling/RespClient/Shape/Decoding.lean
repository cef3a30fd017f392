import RespClient.Json.Decoding
import RespClient.Reply.Parsing
import RespClient.Shape.Basic

/-!
# Decoding by shape

`Shape.decoder` gives the decoder of every shape. `Shape.decode` applies it to a reply
whose attributes are dropped, and `Shape.decodeFrame` to the first reply of some
octets.
-/

namespace RespClient.Shape

/-- The decoder of the results of a shape. -/
def decoder (revision : Revision) : (s : Shape) → Decoder s.Carrier
  | .reply => .ofReply .ok
  | .bytes => .ofReply (readText revision)
  | .string => .string revision
  | .integer w => .ofReply (readInteger w)
  | .double => .ofReply (readDouble revision)
  | .single => .ofReply (readSingle revision)
  | .truth => .ofReply (readTruth revision)
  | .optional s => .optional (s.decoder revision)
  | .pair a b => .pair (a.decoder revision) (b.decoder revision)
  | .tuple _ fields => .tuple fun i => (fields i).decoder revision
  | .list s => .ofReply (Decoder.sequence revision (s.decoder revision))
  | .set s => .ofReply fun reply =>
    ((s.decoder revision).sequence revision reply).map (Ordered.ofItems s.sortKey)
  | .map key value => .ofReply fun reply =>
    (((key.decoder revision).pair (value.decoder revision)).sequence revision reply).map
      (Ordered.ofEntries key.sortKey)
  | .oneOfTwo a b => .oneOfTwo (a.decoder revision) (b.decoder revision)
  | .oneOfThree a b c =>
    .oneOfThree (a.decoder revision) (b.decoder revision) (c.decoder revision)
  | .geoPosition => .geoPosition revision
  | .score => .score revision
  | .scoredMember => .scoredMember revision
  | .streamId => .streamId revision
  | .streamEntry => .streamEntry revision
  | .scanPage s => .scanPage revision (s.decoder revision)
  | .clusterNode => .clusterNode revision
  | .clusterNodes => .clusterNodes revision
  | .memoryReport => .memoryReport revision
  | .batchResult => .batchResult
  | .json => Json.decoder
  | .subscription => .subscription revision
  | .status => .status
  | .searchDocument => .searchDocument revision
  | .searchResults => .searchResults revision

/-- The result that a reply gives, its outer attributes dropped. -/
def decode (revision : Revision) (s : Shape) (reply : Reply) : Except Error s.Carrier :=
  (s.decoder revision).reply reply.withoutAttributes

/-- The result that the first reply of some octets gives, and how many octets it
took. -/
def decodeFrame (config : Config) (s : Shape) (octets : Bytes) :
    Except Error (s.Carrier × Nat) :=
  match Reply.parse config.limits octets with
  | .error fault => .error (.unreadable fault)
  | .ok (answer, taken) => (s.decode config.revision answer).map fun value => (value, taken)

end RespClient.Shape
