import RespClient.Query.Basic

/-!
# Queries that scan
-/

namespace RespClient.Query

/-- A page of the keys, those that match a pattern if one is given. -/
def scan (cursor : Nat64Value) (pattern : Option String) (count : Option Nat64Value) : Query :=
  ofArgs "SCAN"
    [.integer _ cursor, .option "MATCH" (pattern.map Argument.text),
      .option "COUNT" (count.map (Argument.integer _))]
    (.scanPage (.list .string))

/-- A page of the fields of a hash, with their values. -/
def scanHash (key : Argument) (cursor : Nat64Value) : Query :=
  ofArgs "HSCAN" [key, .integer _ cursor] (.scanPage (.list (.pair .string .string)))

/-- A page of the members of a sorted set, with their scores. -/
def scanRanked (key : Argument) (cursor : Nat64Value) : Query :=
  ofArgs "ZSCAN" [key, .integer _ cursor] (.scanPage (.list .scoredMember))

end RespClient.Query
