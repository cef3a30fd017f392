import RespClient.Number.Notation
import RespClient.Reply.Basic
import RespClient.Text.Utf8

/-!
# Replies on the wire

`Reply.encode` gives the octets of a reply, `Reply.appendTo` writes them to the end of a
buffer, and `Reply.encodedLength` announces their number without writing them. Null is
written as a bulk string of length minus one.
-/

namespace RespClient

namespace Frame

/-- A kind, a line of text and the line ending. -/
def line (k : Kind) (body : Bytes) : Bytes := k.marker :: (body ++ crlf)

/-- A kind and a count. -/
def header (k : Kind) (count : Nat) : Bytes := line k (Utf8.encode (Decimal.ofNat count))

/-- A text after its length. -/
def blob (k : Kind) (text : Bytes) : Bytes := header k text.length ++ (text ++ crlf)

/-- Appends a kind, a line of text and the line ending to a buffer. -/
def appendLine (buffer : Bytes) (k : Kind) (body : Bytes) : Bytes :=
  buffer ++ [k.marker] ++ body ++ crlf

/-- Appends a kind and a count to a buffer. -/
def appendHeader (buffer : Bytes) (k : Kind) (count : Nat) : Bytes :=
  appendLine buffer k (Utf8.encode (Decimal.ofNat count))

/-- Appends a text after its length to a buffer. -/
def appendBlob (buffer : Bytes) (k : Kind) (text : Bytes) : Bytes :=
  appendHeader buffer k text.length ++ text ++ crlf

/-- The octets that a count takes. -/
def countLength (count : Nat) : Nat := (Decimal.ofNat count).length

/-- The octets that a header takes. -/
def headerLength (count : Nat) : Nat := 1 + countLength count + 2

/-- The octets that a text after its length takes. -/
def blobLength (length : Nat) : Nat := headerLength length + length + 2

end Frame

namespace Reply

/-- A floating point number on the wire. -/
def doubleText (x : Double) : List Char :=
  Layout.wide.write ['n', 'a', 'n'] ['i', 'n', 'f'] x

mutual

/-- The wire form of a reply. -/
def encode : Reply → Bytes
  | .simple text => Frame.line .status text
  | .error message => Frame.line .error message
  | .integer n => Frame.line .integer (Utf8.encode (Decimal.ofInt n.val))
  | .bulk text => Frame.blob .string text
  | .null => Kind.string.marker :: 45 :: 49 :: crlf
  | .array items => Frame.header .array items.length ++ encodeItems items
  | .boolean b => Frame.line .boolean [if b then 116 else 102]
  | .double x => Frame.line .double (Utf8.encode (doubleText x))
  | .bigNumber digits => Frame.line .bigNumber digits
  | .bulkError message => Frame.blob .bulkError message
  | .verbatim format text => Frame.blob .verbatim (format.octets ++ 58 :: text)
  | .map entries => Frame.header .map entries.length ++ encodeEntries entries
  | .set items => Frame.header .set items.length ++ encodeItems items
  | .push items => Frame.header .push items.length ++ encodeItems items
  | .attribute attributes value =>
    Frame.header .attribute attributes.length ++ (encodeEntries attributes ++ encode value)

/-- The wire forms of the items of a collection, in order. -/
def encodeItems : List Reply → Bytes
  | [] => []
  | item :: items => encode item ++ encodeItems items

/-- The wire forms of the keys and values of a map, in order. -/
def encodeEntries : List (Reply × Reply) → Bytes
  | [] => []
  | (key, value) :: entries => encode key ++ (encode value ++ encodeEntries entries)

end

mutual

/-- Appends the wire form of a reply to a buffer, piece by piece. -/
def appendTo : Bytes → Reply → Bytes
  | buffer, .simple text => Frame.appendLine buffer .status text
  | buffer, .error message => Frame.appendLine buffer .error message
  | buffer, .integer n => Frame.appendLine buffer .integer (Utf8.encode (Decimal.ofInt n.val))
  | buffer, .bulk text => Frame.appendBlob buffer .string text
  | buffer, .null => buffer ++ Kind.string.marker :: 45 :: 49 :: crlf
  | buffer, .array items => appendItems (Frame.appendHeader buffer .array items.length) items
  | buffer, .boolean b => Frame.appendLine buffer .boolean [if b then 116 else 102]
  | buffer, .double x => Frame.appendLine buffer .double (Utf8.encode (doubleText x))
  | buffer, .bigNumber digits => Frame.appendLine buffer .bigNumber digits
  | buffer, .bulkError message => Frame.appendBlob buffer .bulkError message
  | buffer, .verbatim format text =>
    Frame.appendHeader buffer .verbatim (text.length + 4) ++ format.octets ++ [58] ++ text ++ crlf
  | buffer, .map entries => appendEntries (Frame.appendHeader buffer .map entries.length) entries
  | buffer, .set items => appendItems (Frame.appendHeader buffer .set items.length) items
  | buffer, .push items => appendItems (Frame.appendHeader buffer .push items.length) items
  | buffer, .attribute attributes value =>
    appendTo
      (appendEntries (Frame.appendHeader buffer .attribute attributes.length) attributes) value

/-- Appends the wire forms of the items of a collection, one after the other. -/
def appendItems : Bytes → List Reply → Bytes
  | buffer, [] => buffer
  | buffer, item :: items => appendItems (appendTo buffer item) items

/-- Appends the wire forms of the keys and values of a map, each key before its value. -/
def appendEntries : Bytes → List (Reply × Reply) → Bytes
  | buffer, [] => buffer
  | buffer, (key, value) :: entries => appendEntries (appendTo (appendTo buffer key) value) entries

end

/-- The null of the third revision, which readers know but `encode` does not write. -/
def namedNull : Bytes := Frame.line .nil []

mutual

/-- The number of octets of the wire form of a reply. -/
def encodedLength : Reply → Nat
  | .simple text => 1 + text.length + 2
  | .error message => 1 + message.length + 2
  | .integer n => 1 + (Decimal.ofInt n.val).length + 2
  | .bulk text => Frame.blobLength text.length
  | .null => 5
  | .array items => Frame.headerLength items.length + lengthOfItems items
  | .boolean _ => 4
  | .double x => 1 + (doubleText x).length + 2
  | .bigNumber digits => 1 + digits.length + 2
  | .bulkError message => Frame.blobLength message.length
  | .verbatim _ text => Frame.blobLength (text.length + 4)
  | .map entries => Frame.headerLength entries.length + lengthOfEntries entries
  | .set items => Frame.headerLength items.length + lengthOfItems items
  | .push items => Frame.headerLength items.length + lengthOfItems items
  | .attribute attributes value =>
    Frame.headerLength attributes.length + lengthOfEntries attributes + encodedLength value

/-- The octets of the items of a collection. -/
def lengthOfItems : List Reply → Nat
  | [] => 0
  | item :: items => encodedLength item + lengthOfItems items

/-- The octets of the entries of a map. -/
def lengthOfEntries : List (Reply × Reply) → Nat
  | [] => 0
  | (key, value) :: entries => encodedLength key + encodedLength value + lengthOfEntries entries

end

end Reply

end RespClient
