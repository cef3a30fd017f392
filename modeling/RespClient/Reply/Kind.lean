/-!
# Kinds of replies

A reply has one of fifteen kinds. Each kind has a name for messages and the octet
that announces it on the wire.
-/

namespace RespClient

/-- The kinds of replies. -/
inductive Kind where
  | error
  | status
  | integer
  | string
  | nil
  | array
  | boolean
  | double
  | bigNumber
  | bulkError
  | verbatim
  | map
  | set
  | push
  | attribute
  deriving Repr, DecidableEq

namespace Kind

/-- The name of a kind in messages. -/
def label : Kind → String
  | .error => "ERROR"
  | .status => "STATUS"
  | .integer => "INTEGER"
  | .string => "STRING"
  | .nil => "NIL"
  | .array => "ARRAY"
  | .boolean => "BOOLEAN"
  | .double => "DOUBLE"
  | .bigNumber => "BIGNUM"
  | .bulkError => "BULK ERROR"
  | .verbatim => "VERBATIM"
  | .map => "MAP"
  | .set => "SET"
  | .push => "PUSH"
  | .attribute => "ATTRIBUTE"

/-- The octet that announces a kind on the wire. -/
def marker : Kind → UInt8
  | .error => 45
  | .status => 43
  | .integer => 58
  | .string => 36
  | .nil => 95
  | .array => 42
  | .boolean => 35
  | .double => 44
  | .bigNumber => 40
  | .bulkError => 33
  | .verbatim => 61
  | .map => 37
  | .set => 126
  | .push => 62
  | .attribute => 124

/-- The kind that an octet announces. -/
def ofMarker? (octet : UInt8) : Option Kind :=
  match octet with
  | 45 => some .error
  | 43 => some .status
  | 58 => some .integer
  | 36 => some .string
  | 95 => some .nil
  | 42 => some .array
  | 35 => some .boolean
  | 44 => some .double
  | 40 => some .bigNumber
  | 33 => some .bulkError
  | 61 => some .verbatim
  | 37 => some .map
  | 126 => some .set
  | 62 => some .push
  | 124 => some .attribute
  | _ => none

/-- Each kind has its own marker. -/
theorem ofMarker?_marker (k : Kind) : ofMarker? k.marker = some k := by
  cases k <;> rfl

end Kind

end RespClient
