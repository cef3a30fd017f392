import RespClient.Number.Literal
import RespClient.Reply.Basic
import RespClient.Reply.Fault
import RespClient.Reply.Limits

/-!
# Reading replies

`Reply.parse` reads one reply off the front of some octets and says how many it
took. A reader works on a `Cursor`: the octets left and the number of items that
collections have announced so far. Collections are checked against the limits when
they are announced, before any of their items is read.
-/

namespace RespClient

/-- Where a reader stands. -/
structure Cursor where
  /-- The octets that are left. -/
  rest : Bytes
  /-- The items announced by the collections read so far. -/
  announced : Nat
  deriving Repr, DecidableEq

/-- Splits octets at the first line ending into the line and what follows. -/
def takeLine : Bytes → Except ParseFault (Bytes × Bytes)
  | [] => .error .incomplete
  | b :: rest =>
    if b = 13 then
      match rest with
      | [] => .error .incomplete
      | c :: after => if c = 10 then .ok ([], after) else .error (.badFraming .returnWithoutFeed)
    else (takeLine rest).map fun parts => (b :: parts.1, parts.2)

/-- Reads a line as an integer. -/
def takeInteger (octets : Bytes) : Except ParseFault (Int64Value × Bytes) := do
  let (body, after) ← takeLine octets
  match Utf8.decode body with
  | .error fault => .error (.badInteger (.notText fault))
  | .ok text =>
    match Decimal.read .int64 text with
    | .error fault => .error (.badInteger (.notInteger (String.ofList text) fault))
    | .ok n => .ok (n, after)

/-- Reads a text after its length; a negative length stands for no text. -/
def takeBlob (limits : Limits) (octets : Bytes) : Except ParseFault (Option Bytes × Bytes) := do
  let (n, after) ← takeInteger octets
  if n.val < 0 then .ok (none, after)
  else
    let length := n.val.toNat
    if limits.maxBulk.toNat < length then
      .error (.bulkTooLong length limits.maxBulk.toNat)
    else
      match after.drop length with
      | [] => .error .incomplete
      | [_] => .error .incomplete
      | b :: c :: rest =>
        if b = 13 ∧ c = 10 then .ok (some (after.take length), rest)
        else .error (.badFraming .missingLineEnd)

/-- Reads a line as a floating point number. -/
def takeDouble (octets : Bytes) : Except ParseFault (Double × Bytes) := do
  let (body, after) ← takeLine octets
  match Utf8.decode body with
  | .error fault => .error (.badDouble (.notText fault))
  | .ok text =>
    match Literal.read? .double text with
    | none => .error (.badDouble (.notNumber (String.ofList text)))
    | some x => .ok (x, after)

/-- Splits the text of a verbatim string into its format and the text proper. -/
def verbatimParts? : Bytes → Option (TextFormat × Bytes)
  | a :: b :: c :: d :: text => if d = 58 then some (⟨a, b, c⟩, text) else none
  | _ => none

/-- Books a collection of `n` items at the given depth, where an item counts `weight`
and `announced` items are booked before it: the count, and the items then booked. -/
def book (limits : Limits) (depth weight announced : Nat) (n : Int64Value) :
    Except ParseFault (Nat × Nat) :=
  if limits.maxDepth.toNat ≤ depth then .error (.nestingTooDeep depth)
  else if n.val < 0 then .error (.badInteger (.negativeCount n.val))
  else
    let count := n.val.toNat
    let total := announced + count * weight
    if limits.maxCollection.toNat < count then .error (.collectionTooLarge count)
    else if wordMax < total then .error (.collectionTooLarge wordMax)
    else if limits.maxTotal.toNat < total then .error (.collectionTooLarge total)
    else .ok (count, total)

/-- Reads the count of a collection and books its items. -/
def takeCount (limits : Limits) (depth weight : Nat) (cursor : Cursor) :
    Except ParseFault (Nat × Cursor) := do
  let (n, after) ← takeInteger cursor.rest
  let (count, announced) ← book limits depth weight cursor.announced n
  .ok (count, ⟨after, announced⟩)

/-- Runs a reader `count` times. -/
def repeatReader {α : Type} (reader : Cursor → Except ParseFault (α × Cursor)) :
    Nat → Cursor → Except ParseFault (List α × Cursor)
  | 0, cursor => .ok ([], cursor)
  | count + 1, cursor => do
    let (item, cursor) ← reader cursor
    let (items, cursor) ← repeatReader reader count cursor
    .ok (item :: items, cursor)

/-- Runs a reader twice, for a key and its value. -/
def readTwice {α : Type} (reader : Cursor → Except ParseFault (α × Cursor)) (cursor : Cursor) :
    Except ParseFault ((α × α) × Cursor) := do
  let (key, cursor) ← reader cursor
  let (value, cursor) ← reader cursor
  .ok ((key, value), cursor)

/-- Reads the rest of a reply of the given kind at the given depth, where `inner`
reads a reply one level deeper. -/
def takeBody (limits : Limits) (inner : Cursor → Except ParseFault (Reply × Cursor))
    (depth : Nat) (cursor : Cursor) : Kind → Except ParseFault (Reply × Cursor)
  | .status => do
    let (body, after) ← takeLine cursor.rest
    .ok (.simple body, { cursor with rest := after })
  | .error => do
    let (body, after) ← takeLine cursor.rest
    .ok (.error body, { cursor with rest := after })
  | .integer => do
    let (n, after) ← takeInteger cursor.rest
    .ok (.integer n, { cursor with rest := after })
  | .string => do
    let (text, after) ← takeBlob limits cursor.rest
    match text with
    | none => .ok (.null, { cursor with rest := after })
    | some text => .ok (.bulk text, { cursor with rest := after })
  | .nil => do
    let (body, after) ← takeLine cursor.rest
    if body.isEmpty then .ok (.null, { cursor with rest := after })
    else .error (.badFraming .textAfterNull)
  | .array => do
    let (n, after) ← takeInteger cursor.rest
    if n.val < 0 then .ok (.null, { cursor with rest := after })
    else
      let (count, announced) ← book limits depth 1 cursor.announced n
      let (items, cursor) ← repeatReader inner count ⟨after, announced⟩
      .ok (.array items, cursor)
  | .boolean => do
    let (body, after) ← takeLine cursor.rest
    if body = [116] then .ok (.boolean true, { cursor with rest := after })
    else if body = [102] then .ok (.boolean false, { cursor with rest := after })
    else .error .badBoolean
  | .double => do
    let (x, after) ← takeDouble cursor.rest
    .ok (.double x, { cursor with rest := after })
  | .bigNumber => do
    let (body, after) ← takeLine cursor.rest
    .ok (.bigNumber body, { cursor with rest := after })
  | .bulkError => do
    let (text, after) ← takeBlob limits cursor.rest
    match text with
    | none => .error (.badFraming .nullError)
    | some message => .ok (.bulkError message, { cursor with rest := after })
  | .verbatim => do
    let (text, after) ← takeBlob limits cursor.rest
    match text.bind verbatimParts? with
    | none => .error .badVerbatim
    | some (format, text) => .ok (.verbatim format text, { cursor with rest := after })
  | .map => do
    let (count, cursor) ← takeCount limits depth 2 cursor
    let (entries, cursor) ← repeatReader (readTwice inner) count cursor
    .ok (.map entries, cursor)
  | .set => do
    let (count, cursor) ← takeCount limits depth 1 cursor
    let (items, cursor) ← repeatReader inner count cursor
    .ok (.set items, cursor)
  | .push => do
    let (count, cursor) ← takeCount limits depth 1 cursor
    let (items, cursor) ← repeatReader inner count cursor
    .ok (.push items, cursor)
  | .attribute => do
    let (count, cursor) ← takeCount limits depth 2 cursor
    let (attributes, cursor) ← repeatReader (readTwice inner) count cursor
    let (value, cursor) ← inner cursor
    .ok (.attribute attributes value, cursor)

/-- Reads a reply at the given depth, with at most `fuel` replies inside one
another. Each of them takes at least its marker, so as many as there are octets are
enough, and without fuel there is no octet left. -/
def takeReply (limits : Limits) : Nat → Nat → Cursor → Except ParseFault (Reply × Cursor)
  | 0, _, _ => .error .incomplete
  | fuel + 1, depth, cursor =>
    match cursor.rest with
    | [] => .error .incomplete
    | octet :: rest =>
      match Kind.ofMarker? octet with
      | none => .error (.badMarker octet)
      | some kind =>
        takeBody limits (takeReply limits fuel (depth + 1)) depth { cursor with rest := rest } kind

/-- Reads one reply off the front of some octets; the number is how many of them it
took. -/
def Reply.parse (limits : Limits) (octets : Bytes) : Except ParseFault (Reply × Nat) := do
  let (reply, cursor) ← takeReply limits octets.length 0 ⟨octets, 0⟩
  .ok (reply, octets.length - cursor.rest.length)

end RespClient
