import RespClient.Cluster.Node
import RespClient.Decode.Composite
import RespClient.Json.Basic
import RespClient.Memory.Report
import RespClient.Value.Batch
import RespClient.Value.Notice
import RespClient.Value.Ranked
import RespClient.Value.Scan
import RespClient.Value.Search
import RespClient.Value.Stream

/-!
# Result shapes

A `Shape` describes the type of result that a caller asks for. The catalogue is
closed: scalars, records, and collections, tuples and alternatives made of other
shapes. `Shape.Carrier` is the type of the results of a shape and `Shape.default` the
result that stands in when a command fails.
-/

namespace RespClient

/-- The description of a result type. -/
inductive Shape where
  /-- The reply itself. -/
  | reply
  | bytes
  | string
  | integer (w : Width)
  | double
  | single
  | truth
  | optional (s : Shape)
  | pair (a b : Shape)
  /-- A fixed number of values of given shapes. -/
  | tuple (n : Nat) (fields : Fin n → Shape)
  | list (s : Shape)
  | set (s : Shape)
  | map (key value : Shape)
  | oneOfTwo (a b : Shape)
  | oneOfThree (a b c : Shape)
  | geoPosition
  | score
  | scoredMember
  | streamId
  | streamEntry
  | scanPage (s : Shape)
  | clusterNode
  | clusterNodes
  | memoryReport
  | batchResult
  | json
  | subscription
  | status
  | searchDocument
  | searchResults

namespace Shape

/-- The results of a shape. Sets and maps are lists in key order. -/
def Carrier : Shape → Type
  | .reply => Reply
  | .bytes => Bytes
  | .string => String
  | .integer w => Sized w
  | .double => Double
  | .single => Single
  | .truth => Bool
  | .optional s => Option s.Carrier
  | .pair a b => a.Carrier × b.Carrier
  | .tuple n fields => (i : Fin n) → (fields i).Carrier
  | .list s => List s.Carrier
  | .set s => List s.Carrier
  | .map key value => List (key.Carrier × value.Carrier)
  | .oneOfTwo a b => a.Carrier ⊕ b.Carrier
  | .oneOfThree a b c => OneOfThree a.Carrier b.Carrier c.Carrier
  | .geoPosition => GeoPosition
  | .score => Score
  | .scoredMember => ScoredMember
  | .streamId => StreamId
  | .streamEntry => StreamEntry
  | .scanPage s => ScanPage s.Carrier
  | .clusterNode => ClusterNode
  | .clusterNodes => List ClusterNode
  | .memoryReport => MemoryReport
  | .batchResult => BatchResult
  | .json => Json
  | .subscription => Subscription
  | .status => Status
  | .searchDocument => SearchDocument
  | .searchResults => SearchResults

/-- The result of a shape when a command fails: zero, empty or missing, and the first
of several alternatives. -/
def default : (s : Shape) → s.Carrier
  | .reply => Reply.null
  | .bytes => ([] : Bytes)
  | .string => ""
  | .integer w => Sized.zero w
  | .double => Binary.zero
  | .single => Binary.zero
  | .truth => false
  | .optional _ => none
  | .pair a b => (a.default, b.default)
  | .tuple _ fields => fun i => (fields i).default
  | .list _ => []
  | .set _ => []
  | .map _ _ => []
  | .oneOfTwo a _ => .inl a.default
  | .oneOfThree a _ _ => .first a.default
  | .geoPosition => ({} : GeoPosition)
  | .score => ({} : Score)
  | .scoredMember => ({} : ScoredMember)
  | .streamId => (Inhabited.default : StreamId)
  | .streamEntry => ({} : StreamEntry)
  | .scanPage s => ⟨.zero _, s.default⟩
  | .clusterNode => ({} : ClusterNode)
  | .clusterNodes => ([] : List ClusterNode)
  | .memoryReport => ({} : MemoryReport)
  | .batchResult => ({} : BatchResult)
  | .json => Json.null
  | .subscription => ({} : Subscription)
  | .status => ({} : Status)
  | .searchDocument => ({} : SearchDocument)
  | .searchResults => ({} : SearchResults)

/-- What the order of a result depends on. Shapes whose results have no order of their
own (floating point numbers, replies and records other than stream ids and statuses)
give every result one key, so they are of no use as keys. -/
def sortKey : (s : Shape) → s.Carrier → SortKey
  | .bytes, octets => .ofBytes octets
  | .string, text => .ofString text
  | .integer _, n => .number n.val
  | .truth, false => .number 0
  | .truth, true => .number 1
  | .optional _, none => .list []
  | .optional s, some value => .list [s.sortKey value]
  | .pair a b, value => .list [a.sortKey value.1, b.sortKey value.2]
  | .tuple _ fields, values => .list (List.ofFn fun i => (fields i).sortKey (values i))
  | .list s, values => .list (values.map s.sortKey)
  | .set s, values => .list (values.map s.sortKey)
  | .map key value, entries =>
    .list (entries.map fun entry => .list [key.sortKey entry.1, value.sortKey entry.2])
  | .streamId, id => .list [.number id.timestamp.val, .number id.sequence.val]
  | .status, line => .ofString line.text
  | _, _ => .list []

end Shape

end RespClient
