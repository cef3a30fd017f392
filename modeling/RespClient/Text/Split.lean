/-!
# Cutting text at separators

Blanks are the characters with the Unicode property `White_Space`. The functions
here trim them, cut text into fields, words and lines, and split at the first or
last occurrence of one character.
-/

namespace RespClient.Text

/-- The characters with the Unicode property `White_Space`. -/
def isBlank (c : Char) : Bool :=
  let n := c.toNat
  (9 ≤ n && n ≤ 13) || n == 0x20 || n == 0x85 || n == 0xA0 || n == 0x1680 ||
    (0x2000 ≤ n && n ≤ 0x200A) || n == 0x2028 || n == 0x2029 || n == 0x202F ||
    n == 0x205F || n == 0x3000

/-- Drops the characters at the end that satisfy `p`. -/
def dropEndWhile (p : Char → Bool) (text : List Char) : List Char :=
  (text.reverse.dropWhile p).reverse

/-- Drops the blanks at both ends. -/
def trim (text : List Char) : List Char := dropEndWhile isBlank (text.dropWhile isBlank)

/-- The fields between the characters that satisfy `p`: one more than there are
such characters. -/
def fields (p : Char → Bool) : List Char → List (List Char)
  | [] => [[]]
  | c :: rest =>
    if p c then [] :: fields p rest
    else
      match fields p rest with
      | [] => [[c]]
      | f :: fs => (c :: f) :: fs

/-- The words of a text: its non-empty fields between blanks. -/
def words (text : List Char) : List (List Char) :=
  (fields isBlank text).filter fun w => !w.isEmpty

/-- The lines of a text that hold more than blanks, trimmed. A carriage return
before the line feed is a blank and goes with the others. -/
def trimmedLines (text : List Char) : List (List Char) :=
  ((fields (· == '\n') text).map trim).filter fun l => !l.isEmpty

/-- What stands before and after the first `sep`. -/
def splitFirst (sep : Char) : List Char → Option (List Char × List Char)
  | [] => none
  | c :: rest =>
    if c = sep then some ([], rest)
    else (splitFirst sep rest).map fun parts => (c :: parts.1, parts.2)

/-- What stands before and after the last `sep`. -/
def splitLast (sep : Char) : List Char → Option (List Char × List Char)
  | [] => none
  | c :: rest =>
    match splitLast sep rest with
    | some parts => some (c :: parts.1, parts.2)
    | none => if c = sep then some ([], rest) else none

end RespClient.Text
