/-!
# Limits of reading

A reader refuses replies that announce more than its limits allow. Limits are
machine words, and so is the number of items that a reply may announce in all.
-/

namespace RespClient

/-- The greatest machine word. -/
def wordMax : Nat := 18446744073709551615

/-- What a reply may announce. -/
structure Limits where
  /-- Items of one collection, entries of one map. -/
  maxCollection : UInt64 := 16777216
  /-- Octets of one length-prefixed text. -/
  maxBulk : UInt64 := 536870912
  /-- Collections inside one another. -/
  maxDepth : UInt64 := 32
  /-- Items of all collections together, a map entry counting as two. -/
  maxTotal : UInt64 := 67108864
  deriving Repr, DecidableEq

instance : Inhabited Limits := ⟨{}⟩

end RespClient
