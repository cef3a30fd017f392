import RespClient.Cluster.Slots
import RespClient.Json.Decoding
import RespClient.Json.Printing
import RespClient.Json.Reading
import RespClient.Proofs.Cluster.Listing
import RespClient.Proofs.Cluster.Slots
import RespClient.Proofs.Decode.Alternatives
import RespClient.Proofs.Decode.Batch
import RespClient.Proofs.Decode.Collections
import RespClient.Proofs.Decode.Failures
import RespClient.Proofs.Decode.Ordered
import RespClient.Proofs.Decode.Pairs
import RespClient.Proofs.Decode.Revisions
import RespClient.Proofs.Json.Forms
import RespClient.Proofs.Json.RoundTrip
import RespClient.Proofs.Memory.LastEntry
import RespClient.Proofs.Reply.Canonical
import RespClient.Proofs.Reply.Indexed
import RespClient.Proofs.Reply.Lowering
import RespClient.Proofs.Reply.RoundTrip
import RespClient.Proofs.Reply.Waiting
import RespClient.Proofs.Reply.Weight
import RespClient.Proofs.Request.Counts
import RespClient.Proofs.Search.Ids
import RespClient.Proofs.Session.Callbacks
import RespClient.Proofs.Stream.Entries
import RespClient.Proofs.Stream.Ids
import RespClient.Proofs.Transport.Agreement
import RespClient.Query.Keys
import RespClient.Query.Scans
import RespClient.Query.Streams
