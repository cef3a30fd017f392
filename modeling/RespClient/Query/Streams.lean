import RespClient.Query.Basic

/-!
# Queries about streams
-/

namespace RespClient.Query

/-- Adds an entry to a stream; without an id the server chooses one. -/
def streamAdd (key : Argument) (id : Option StreamId) (fields : Argument) : Query :=
  ofArgs "XADD" [key, (id.map Argument.streamId).getD (.text "*"), fields] .streamId

/-- The entries of a stream between two ids, at most `count` of them. -/
def streamRange (key : Argument) (first last : String) (count : Option Nat64Value) : Query :=
  ofArgs "XRANGE"
    [key, .text first, .text last, .option "COUNT" (count.map (Argument.integer _))]
    (.list .streamEntry)

/-- The number of entries of a stream. -/
def streamLength (key : Argument) : Query := ofArgs "XLEN" [key] (.integer .int64)

end RespClient.Query
