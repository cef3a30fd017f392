import RespClient.Bytes

/-!
# Values in key order

Sets and maps are lists in the order of their keys, without repetition. The order is
that of a `SortKey` computed from each key: integers by size, lists item by item, so
that texts stand in the order of their code points, which is that of their octets.
-/

namespace RespClient

/-- What the order of a value depends on. -/
inductive SortKey where
  | number (n : Int)
  | list (keys : List SortKey)

namespace SortKey

mutual

/-- Compares two keys; a number is less than a list. -/
def compare : SortKey → SortKey → Ordering
  | .number a, .number b => Ord.compare a b
  | .number _, .list _ => .lt
  | .list _, .number _ => .gt
  | .list as, .list bs => compareLists as bs

/-- Compares two lists of keys from the left; a list is greater than its beginnings. -/
def compareLists : List SortKey → List SortKey → Ordering
  | [], [] => .eq
  | [], _ :: _ => .lt
  | _ :: _, [] => .gt
  | a :: as, b :: bs =>
    match compare a b with
    | .lt => .lt
    | .gt => .gt
    | .eq => compareLists as bs

end

/-- The key of a text. -/
def ofString (text : String) : SortKey :=
  .list (text.toList.map fun c => .number c.toNat)

/-- The key of octets. -/
def ofBytes (octets : Bytes) : SortKey := .list (octets.map fun b => .number b.toNat)

end SortKey

namespace Ordered

variable {α β : Type}

/-- Puts an entry at its place, instead of one with the same key if there is one. -/
def insert (key : α → SortKey) (k : α) (v : β) : List (α × β) → List (α × β)
  | [] => [(k, v)]
  | (k', v') :: rest =>
    match (key k).compare (key k') with
    | .lt => (k, v) :: (k', v') :: rest
    | .eq => (k, v) :: rest
    | .gt => (k', v') :: insert key k v rest

/-- The map with the given entries; of those with one key the last one stays. -/
def ofEntries (key : α → SortKey) (entries : List (α × β)) : List (α × β) :=
  entries.foldl (fun sorted entry => insert key entry.1 entry.2 sorted) []

/-- The set with the given items. -/
def ofItems (key : α → SortKey) (items : List α) : List α :=
  (ofEntries key (items.map fun item => (item, ()))).map Prod.fst

end Ordered

end RespClient
