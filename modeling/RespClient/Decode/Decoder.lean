import RespClient.Error
import RespClient.Revision

/-!
# Decoders

A `Decoder α` turns replies into values of `α`. Next to the way it reads one reply it
says how it reads the items of an array and the entries of a map as a list of values:
most result types take one value per item, those made of two parts pair them up.
-/

namespace RespClient

/-- How values of a type are read. -/
structure Decoder (α : Type) where
  /-- One value from one reply. -/
  reply : Reply → Except Error α
  /-- A list of values from the items of an array or a set. -/
  items : List Reply → Except Error (List α)
  /-- A list of values from the entries of a map. -/
  entries : List (Reply × Reply) → Except Error (List α)

/-- The keys and values of a map, each key before its value. -/
def flattened (entries : List (Reply × Reply)) : List Reply :=
  entries.flatMap fun entry => [entry.1, entry.2]

/-- The first item with the second, the third with the fourth, and so on; a last item
left alone is dropped. -/
def adjacentPairs {α : Type} : List α → List (α × α)
  | a :: b :: rest => (a, b) :: adjacentPairs rest
  | _ => []

namespace Decoder

variable {α : Type}

/-- The decoder that takes one value from each item, and two from each map entry. -/
def ofReply (read : Reply → Except Error α) : Decoder α where
  reply := read
  items items := items.mapM read
  entries entries := (flattened entries).mapM read

/-- Reads the items of an array of values made of two parts. If the first item is no
collection, the array is flat: parts alternate. Otherwise every item is one value. -/
def pairedItems (pair : Reply × Reply → Except Error α) (single : Reply → Except Error α)
    (items : List Reply) : Except Error (List α) :=
  match items with
  | [] => .ok []
  | first :: _ =>
    if first.isAggregate then items.mapM single
    else if items.length % 2 = 1 then .error (.malformed (.oddPairs items.length))
    else (adjacentPairs items).mapM pair

/-- The decoder of values made of two parts: `pair` reads one from its parts, `single`
from one reply. -/
def ofPair (pair : Reply × Reply → Except Error α) (single : Reply → Except Error α) :
    Decoder α where
  reply := single
  items := pairedItems pair single
  entries entries := entries.mapM pair

/-- Reads a list of values from an array or, under the third revision, from a set or a
map. -/
def sequence (revision : Revision) (d : Decoder α) (reply : Reply) : Except Error (List α) :=
  match reply with
  | .array items => d.items items
  | .set items =>
    if revision.isThird then d.items items else .error (.unexpected .array reply)
  | .map entries =>
    if revision.isThird then d.entries entries else .error (.unexpected .array reply)
  | reply => .error (.unexpected .array reply)

end Decoder

/-- The two items of an array that has just them. -/
def twoItems (form : Form) (reply : Reply) : Except Error (Reply × Reply) :=
  match reply with
  | .array [a, b] => .ok (a, b)
  | .array items => .error (.malformed (.elementCount form 2 items.length))
  | reply => .error (.unexpected .array reply)

end RespClient
