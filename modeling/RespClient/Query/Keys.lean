import RespClient.Query.Basic

/-!
# Queries about keys
-/

namespace RespClient.Query

/-- The value of a key. -/
def get (key : Argument) : Query := ofArgs "GET" [key] (.optional .bytes)

/-- Gives a key a value. -/
def set (key value : Argument) : Query := ofArgs "SET" [key, value] .status

/-- Gives a key a value for some seconds. -/
def setFor (key value : Argument) (seconds : Nat64Value) : Query :=
  ofArgs "SET" [key, value, .text "EX", .integer _ seconds] .status

/-- Deletes keys; the result is how many there were. -/
def delete (keys : Argument) : Query := ofArgs "DEL" [keys] (.integer .int64)

/-- Is there a value? -/
def exists? (key : Argument) : Query := ofArgs "EXISTS" [key] .truth

/-- Adds to the integer of a key; the result is the sum. -/
def incrementBy (key : Argument) (delta : Int64Value) : Query :=
  ofArgs "INCRBY" [key, .integer _ delta] (.integer .int64)

/-- The seconds that a key has left. -/
def timeToLive (key : Argument) : Query := ofArgs "TTL" [key] (.integer .int64)

end RespClient.Query
