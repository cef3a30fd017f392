import RespClient.Decode.Ordered
import RespClient.Number.Binary
import RespClient.Value.Stream

/-!
# Loosely typed values

A `Json` is null, a truth value, a number, a text, a list of values or a list of named
members. Members keep their order and may repeat a name; looking one up finds the
first. The canonical form has every object in the order of its names, each name once,
with the value it had last.
-/

namespace RespClient

/-- A loosely typed value. -/
inductive Json where
  | null
  | bool (b : Bool)
  | number (x : Double)
  | string (text : String)
  | array (items : List Json)
  | object (members : List (String × Json))

namespace Json

instance : Inhabited Json := ⟨.null⟩

/-- Is it null? -/
def isNull : Json → Bool
  | .null => true
  | _ => false

/-- The truth value. -/
def bool? : Json → Option Bool
  | .bool b => some b
  | _ => none

/-- The number. -/
def number? : Json → Option Double
  | .number x => some x
  | _ => none

/-- The text. -/
def string? : Json → Option String
  | .string text => some text
  | _ => none

/-- The items of an array. -/
def array? : Json → Option (List Json)
  | .array items => some items
  | _ => none

/-- The value of the first member with the given name. -/
def get? (value : Json) (name : String) : Option Json :=
  match value with
  | .object members => lookupFirst name members
  | _ => none

/-- The members in the order of their names; of those with one name the last stays. -/
def sortMembers (members : List (String × Json)) : List (String × Json) :=
  Ordered.ofEntries SortKey.ofString members

mutual

/-- The value with the members of every object in the order of their names. -/
def canonical : Json → Json
  | .null => .null
  | .bool b => .bool b
  | .number x => .number x
  | .string text => .string text
  | .array items => .array (canonicalItems items)
  | .object members => .object (sortMembers (canonicalMembers members))

/-- The items of an array, each in canonical form. -/
def canonicalItems : List Json → List Json
  | [] => []
  | item :: items => canonical item :: canonicalItems items

/-- The members of an object, each in canonical form. -/
def canonicalMembers : List (String × Json) → List (String × Json)
  | [] => []
  | (name, value) :: members => (name, canonical value) :: canonicalMembers members

end

end Json

end RespClient
