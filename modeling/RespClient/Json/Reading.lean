import RespClient.Error
import RespClient.Json.Basic
import RespClient.Json.Number

/-!
# Reading JSON text

`Json.ofText` reads one JSON document: strict JSON, with nothing but blanks around
it, fewer than 128 arrays and objects inside one another, and numbers inside the
range of doubles. Objects come out in the order of their names; of members with one
name the last stays.
-/

namespace RespClient.Json

/-- The blanks of JSON. -/
def isSpace (c : Char) : Bool := c == ' ' || c == '\n' || c == '\t' || c == '\r'

/-- Drops blanks. -/
def skipSpace (text : List Char) : List Char := text.dropWhile isSpace

/-- The value of a hexadecimal digit. -/
def hexDigit? (c : Char) : Option Nat :=
  if '0' ≤ c ∧ c ≤ '9' then some (c.toNat - '0'.toNat)
  else if 'a' ≤ c ∧ c ≤ 'f' then some (c.toNat - 'a'.toNat + 10)
  else if 'A' ≤ c ∧ c ≤ 'F' then some (c.toNat - 'A'.toNat + 10)
  else none

/-- The code that four hexadecimal digits spell. -/
def hexCode? (a b c d : Char) : Option Nat := do
  let a ← hexDigit? a
  let b ← hexDigit? b
  let c ← hexDigit? c
  let d ← hexDigit? d
  some (((a * 16 + b) * 16 + c) * 16 + d)

/-- The first halves of surrogate pairs. -/
def isHighSurrogate (code : Nat) : Bool := 0xD800 ≤ code && code ≤ 0xDBFF

/-- The second halves of surrogate pairs. -/
def isLowSurrogate (code : Nat) : Bool := 0xDC00 ≤ code && code ≤ 0xDFFF

/-- The character of a surrogate pair. -/
def pairedChar (high low : Nat) : Char :=
  Char.ofNat (0x10000 + (high - 0xD800) * 0x400 + (low - 0xDC00))

/-- The character of an escape of one letter. -/
def shortEscape? (c : Char) : Option Char :=
  match c with
  | '"' => some '"'
  | '\\' => some '\\'
  | '/' => some '/'
  | 'b' => some '\x08'
  | 'f' => some '\x0c'
  | 'n' => some '\n'
  | 'r' => some '\r'
  | 't' => some '\t'
  | _ => none

/-- Puts a character in front of the text read after it. -/
def addChar (c : Char) (read : Option (List Char × List Char)) :
    Option (List Char × List Char) :=
  read.map fun parts => (c :: parts.1, parts.2)

/-- Takes the rest of a text and its closing quote. -/
def takeString? : List Char → Option (List Char × List Char)
  | [] => none
  | '"' :: rest => some ([], rest)
  | '\\' :: 'u' :: a :: b :: c :: d :: rest =>
    match hexCode? a b c d with
    | none => none
    | some code =>
      if isLowSurrogate code then none
      else if isHighSurrogate code then
        match rest with
        | '\\' :: 'u' :: e :: f :: g :: h :: rest' =>
          match hexCode? e f g h with
          | none => none
          | some low =>
            if isLowSurrogate low then addChar (pairedChar code low) (takeString? rest') else none
        | _ => none
      else addChar (Char.ofNat code) (takeString? rest)
  | '\\' :: c :: rest =>
    match shortEscape? c with
    | none => none
    | some c => addChar c (takeString? rest)
  | c :: rest => if c.toNat < 0x20 || c = '\\' then none else addChar c (takeString? rest)

/-- Takes a fixed word off the front of a text. -/
def takeWord? (word : List Char) (value : Json) (text : List Char) : Option (Json × List Char) :=
  if word.isPrefixOf text then some (value, text.drop word.length) else none

/-- The number of arrays and objects inside one another that is too many. -/
def depthBound : Nat := 128

mutual

/-- Takes a value off the front of a text, inside `depth` arrays and objects. The fuel
bounds the number of nested calls, of which there are at most two for each character
and two more. -/
def takeValue? : Nat → Nat → List Char → Option (Json × List Char)
  | 0, _, _ => none
  | fuel + 1, depth, text =>
    match skipSpace text with
    | [] => none
    | '"' :: rest => (takeString? rest).map fun parts => (.string (String.ofList parts.1), parts.2)
    | '[' :: rest =>
      if depthBound ≤ depth + 1 then none
      else
        match skipSpace rest with
        | ']' :: rest => some (.array [], rest)
        | rest => (takeItems? fuel (depth + 1) rest).map fun parts => (.array parts.1, parts.2)
    | '\x7b' :: rest =>
      if depthBound ≤ depth + 1 then none
      else
        match skipSpace rest with
        | '\x7d' :: rest => some (.object [], rest)
        | rest =>
          (takeMembers? fuel (depth + 1) rest).map fun parts =>
            (.object (sortMembers parts.1), parts.2)
    | 'n' :: rest => takeWord? ['u', 'l', 'l'] .null rest
    | 't' :: rest => takeWord? ['r', 'u', 'e'] (.bool true) rest
    | 'f' :: rest => takeWord? ['a', 'l', 's', 'e'] (.bool false) rest
    | text => (takeNumber? text).map fun parts => (.number parts.1, parts.2)

/-- Takes the items of an array and its end. -/
def takeItems? : Nat → Nat → List Char → Option (List Json × List Char)
  | 0, _, _ => none
  | fuel + 1, depth, text =>
    match takeValue? fuel depth text with
    | none => none
    | some (item, rest) =>
      match skipSpace rest with
      | ']' :: rest => some ([item], rest)
      | ',' :: rest => (takeItems? fuel depth rest).map fun parts => (item :: parts.1, parts.2)
      | _ => none

/-- Takes the members of an object and its end. -/
def takeMembers? : Nat → Nat → List Char → Option (List (String × Json) × List Char)
  | 0, _, _ => none
  | fuel + 1, depth, text =>
    match skipSpace text with
    | '"' :: rest =>
      match takeString? rest with
      | none => none
      | some (name, rest) =>
        match skipSpace rest with
        | ':' :: rest =>
          match takeValue? fuel depth rest with
          | none => none
          | some (value, rest) =>
            match skipSpace rest with
            | '\x7d' :: rest => some ([(String.ofList name, value)], rest)
            | ',' :: rest =>
              (takeMembers? fuel depth rest).map fun parts =>
                ((String.ofList name, value) :: parts.1, parts.2)
            | _ => none
        | _ => none
    | _ => none

end

/-- Reads a JSON document. -/
def ofText? (text : List Char) : Option Json :=
  match takeValue? (2 * text.length + 2) 0 text with
  | some (value, rest) => if (skipSpace rest).isEmpty then some value else none
  | none => none

/-- Reads a JSON document, or reports that it is none. -/
def ofText (text : List Char) : Except Error Json :=
  match ofText? text with
  | some value => .ok value
  | none => .error (.malformed .jsonText)

end RespClient.Json
