import RespClient.Decode.Scalar

/-!
# Scores and positions

Members of a sorted set have a score, and members of a geographic set a position.
-/

namespace RespClient

/-- The score of a member. -/
structure Score where
  value : Double := .zero
  deriving DecidableEq

/-- A member with its score. -/
structure ScoredMember where
  score : Double := .zero
  member : String := ""
  deriving DecidableEq

/-- A position in degrees. -/
structure GeoPosition where
  longitude : Double := .zero
  latitude : Double := .zero
  deriving DecidableEq

namespace Decoder

/-- Scores are numbers. -/
def score (revision : Revision) : Decoder Score := ofReply fun reply =>
  (readDouble revision reply).map Score.mk

/-- A scored member from its parts: the member comes before its score. -/
def memberAndScore (revision : Revision) (parts : Reply × Reply) :
    Except Error ScoredMember := do
  let member ← readString revision parts.1
  let score ← readDouble revision parts.2
  .ok ⟨score, member⟩

/-- Scored members pair up like keys and values. -/
def scoredMember (revision : Revision) : Decoder ScoredMember :=
  ofPair (memberAndScore revision) fun reply => do
    memberAndScore revision (← twoItems .scoredMember reply)

/-- A position is an array of longitude and latitude. -/
def geoPosition (revision : Revision) : Decoder GeoPosition := ofReply fun reply => do
  let (longitude, latitude) ← twoItems .geoPosition reply
  let longitude ← readDouble revision longitude
  let latitude ← readDouble revision latitude
  .ok ⟨longitude, latitude⟩

end Decoder

end RespClient
