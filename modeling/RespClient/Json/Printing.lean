import RespClient.Json.Basic
import RespClient.Number.Notation

/-!
# JSON text

`Json.text` writes the canonical form of a value without blanks. Whole numbers below
two to the power of 53 are written as integers and other finite numbers with their
shortest digits; infinities and not-a-number, which JSON lacks, become null. In texts
only the quote, the backslash and control characters are escaped.
-/

namespace RespClient.Json

/-- The layout of numbers that are not whole or too large. -/
def layout : Layout := ⟨some (-5), some 15, true, true, .even⟩

/-- Whole numbers of a smaller size are written as integers. -/
def wholeBound : Nat := 9007199254740992

/-- A number. -/
def writeNumber (x : Double) : List Char :=
  let general := if x.isFinite then layout.write [] [] x else ['n', 'u', 'l', 'l']
  match x.toInt? with
  | some n => if n.natAbs < wholeBound then Decimal.ofInt n else general
  | none => general

/-- A character inside a text. -/
def writeChar (c : Char) : List Char :=
  match c with
  | '"' => ['\\', '"']
  | '\\' => ['\\', '\\']
  | '\n' => ['\\', 'n']
  | '\r' => ['\\', 'r']
  | '\t' => ['\\', 't']
  | '\x08' => ['\\', 'b']
  | '\x0c' => ['\\', 'f']
  | c =>
    if c.toNat < 0x20 then
      ['\\', 'u', '0', '0', Nat.digitChar (c.toNat / 16), Nat.digitChar (c.toNat % 16)]
    else [c]

/-- A text between quotes. -/
def writeString (text : String) : List Char :=
  '"' :: (text.toList.flatMap writeChar ++ ['"'])

mutual

/-- A value, its members in the order they have. -/
def write : Json → List Char
  | .null => ['n', 'u', 'l', 'l']
  | .bool true => ['t', 'r', 'u', 'e']
  | .bool false => ['f', 'a', 'l', 's', 'e']
  | .number x => writeNumber x
  | .string text => writeString text
  | .array [] => ['[', ']']
  | .array (item :: items) => '[' :: (write item ++ writeItems items)
  | .object [] => ['\x7b', '\x7d']
  | .object ((name, value) :: members) =>
    '\x7b' :: (writeString name ++ ':' :: (write value ++ writeMembers members))

/-- The items after the first, and the end of the array. -/
def writeItems : List Json → List Char
  | [] => [']']
  | item :: items => ',' :: (write item ++ writeItems items)

/-- The members after the first, and the end of the object. -/
def writeMembers : List (String × Json) → List Char
  | [] => ['\x7d']
  | (name, value) :: members =>
    ',' :: (writeString name ++ ':' :: (write value ++ writeMembers members))

end

/-- The JSON text of a value. -/
def text (value : Json) : List Char := value.canonical.write

end RespClient.Json
