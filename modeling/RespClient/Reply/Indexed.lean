import RespClient.Reply.Checked
import RespClient.Reply.Parsing

/-!
# Reading replies by index

`Reply.parseIndexed` reads one reply off the front of some octets without taking the
octets apart: it keeps an index into them and looks at single octets and ranges. Indices,
lengths, depths and numbers of items are machine words. Where `Reply.parse` works on
lists and numbers, every step here that a machine may be unable to do is a step in
`Checked`.
-/

namespace RespClient

/-- Where a reader on indices stands. -/
structure Position where
  /-- The index of the next octet. -/
  index : UInt64
  /-- The items announced by the collections read so far. -/
  announced : UInt64

namespace Indexed

open Checked

/-- The index of the return octet that ends the line at an index. -/
def lineEnd (octets : Bytes) (start : UInt64) : Checked UInt64 :=
  if octets.length < start.toNat then .refused .incomplete
  else
    let rest := octets.drop start.toNat
    match rest.idxOf? 13 with
    | none => .refused .incomplete
    | some n => do
      let length ← word n
      let behind ← add length 1
      match rest[behind.toNat]? with
      | none => .refused .incomplete
      | some c => if c = 10 then add start length else .refused (.badFraming .returnWithoutFeed)

/-- Reads a line as an integer. -/
def integer (octets : Bytes) (start : UInt64) : Checked (Int64Value × UInt64) := do
  let last ← lineEnd octets start
  let body ← slice octets start last
  match Utf8.decode body with
  | .error fault => .refused (.badInteger (.notText fault))
  | .ok text =>
    match Decimal.read .int64 text with
    | .error fault => .refused (.badInteger (.notInteger (String.ofList text) fault))
    | .ok n => do
      let next ← add last 2
      .ok (n, next)

/-- Reads a text after its length; a negative length stands for no text. -/
def blob (limits : Limits) (octets : Bytes) (start : UInt64) :
    Checked (Option Bytes × UInt64) := do
  let (n, first) ← integer octets start
  if n.val < 0 then .ok (none, first)
  else do
    let length ← wordOfInt n.val
    if limits.maxBulk < length then
      .refused (.bulkTooLong length.toNat limits.maxBulk.toNat)
    else do
      -- a text that would end behind the greatest word is refused with a fault of its own, which no
      -- octets reach: it counts as a trap here, so that it is shown not to occur
      let last ← add first length
      let next ← add last 2
      if octets.length < next.toNat then .refused .incomplete
      else do
        let ending ← slice octets last next
        if ending = crlf then do
          let text ← slice octets first last
          .ok (some text, next)
        else .refused (.badFraming .missingLineEnd)

/-- Reads a line as a floating point number. -/
def double (octets : Bytes) (start : UInt64) : Checked (Double × UInt64) := do
  let last ← lineEnd octets start
  let body ← slice octets start last
  match Utf8.decode body with
  | .error fault => .refused (.badDouble (.notText fault))
  | .ok text =>
    match Literal.read? .double text with
    | none => .refused (.badDouble (.notNumber (String.ofList text)))
    | some x => do
      let next ← add last 2
      .ok (x, next)

/-- Splits the text of a verbatim string into its format and the text proper. -/
def verbatimParts (text : Bytes) : Checked (TextFormat × Bytes) :=
  if text.length < 4 then .refused .badVerbatim
  else do
    let colon ← octetAt text 3
    if colon = 58 then do
      let first ← octetAt text 0
      let second ← octetAt text 1
      let third ← octetAt text 2
      let length ← word text.length
      let rest ← slice text 4 length
      .ok (⟨first, second, third⟩, rest)
    else .refused .badVerbatim

/-- Books a collection of `n` items at the given depth, where an item counts `weight`
and `announced` items are booked before it: the count, and the items then booked. Totals
beyond the greatest word are refused and no trap. -/
def book (limits : Limits) (depth weight announced : UInt64) (n : Int64Value) :
    Checked (UInt64 × UInt64) :=
  if limits.maxDepth ≤ depth then .refused (.nestingTooDeep depth.toNat)
  else if n.val < 0 then .refused (.badInteger (.negativeCount n.val))
  else do
    let count ← wordOfInt n.val
    if limits.maxCollection < count then .refused (.collectionTooLarge count.toNat)
    else
      match (word? (count.toNat * weight.toNat)).bind fun items =>
          word? (items.toNat + announced.toNat) with
      | none => .refused (.collectionTooLarge wordMax)
      | some total =>
        if limits.maxTotal < total then .refused (.collectionTooLarge total.toNat)
        else .ok (count, total)

/-- Runs a reader `count` times. -/
def repeated {α : Type} (reader : Position → Checked (α × Position)) :
    Nat → Position → Checked (List α × Position)
  | 0, position => .ok ([], position)
  | count + 1, position => do
    let (item, position) ← reader position
    let (items, position) ← repeated reader count position
    .ok (item :: items, position)

/-- Books `n` items and runs a reader for each of them. -/
def counted {α : Type} (limits : Limits) (depth weight : UInt64)
    (reader : Position → Checked (α × Position)) (n : Int64Value) (position : Position) :
    Checked (List α × Position) := do
  let (count, announced) ← book limits depth weight position.announced n
  repeated reader count.toNat { position with announced := announced }

section

variable (limits : Limits) (octets : Bytes)
  (inner : UInt64 → Position → Checked (Reply × Position)) (depth : UInt64)

/-- Reads a reply one level deeper. -/
def deeper (position : Position) : Checked (Reply × Position) := do
  let below ← add depth 1
  inner below position

/-- Books `n` items and reads them. -/
def items : Int64Value → Position → Checked (List Reply × Position) :=
  counted limits depth 1 (deeper inner depth)

/-- Reads a key and its value. -/
def entry (position : Position) : Checked ((Reply × Reply) × Position) := do
  let (key, position) ← deeper inner depth position
  let (value, position) ← deeper inner depth position
  .ok ((key, value), position)

/-- Books `n` entries and reads them. -/
def entries : Int64Value → Position → Checked (List (Reply × Reply) × Position) :=
  counted limits depth 2 (entry inner depth)

/-- Reads a reply that is a line of text. -/
def textLine (make : Bytes → Reply) (position : Position) : Checked (Reply × Position) := do
  let last ← lineEnd octets position.index
  let text ← slice octets position.index last
  let next ← add last 2
  .ok (make text, { position with index := next })

/-- Reads the rest of a reply of the given kind at the given depth, where `inner` reads a
reply at any depth. -/
def body (position : Position) : Kind → Checked (Reply × Position)
  | .status => textLine octets .simple position
  | .error => textLine octets .error position
  | .bigNumber => textLine octets .bigNumber position
  | .integer => do
    let (n, next) ← integer octets position.index
    .ok (.integer n, { position with index := next })
  | .string => do
    let (text, next) ← blob limits octets position.index
    match text with
    | none => .ok (.null, { position with index := next })
    | some text => .ok (.bulk text, { position with index := next })
  | .nil => do
    let last ← lineEnd octets position.index
    if last = position.index then do
      let next ← add last 2
      .ok (.null, { position with index := next })
    else .refused (.badFraming .textAfterNull)
  | .array => do
    let (n, next) ← integer octets position.index
    if n.val < 0 then .ok (.null, { position with index := next })
    else do
      let (replies, position) ← items limits inner depth n { position with index := next }
      .ok (.array replies, position)
  | .boolean => do
    let last ← lineEnd octets position.index
    let text ← slice octets position.index last
    if text = [116] then do
      let next ← add last 2
      .ok (.boolean true, { position with index := next })
    else if text = [102] then do
      let next ← add last 2
      .ok (.boolean false, { position with index := next })
    else .refused .badBoolean
  | .double => do
    let (x, next) ← double octets position.index
    .ok (.double x, { position with index := next })
  | .bulkError => do
    let (text, next) ← blob limits octets position.index
    match text with
    | none => .refused (.badFraming .nullError)
    | some message => .ok (.bulkError message, { position with index := next })
  | .verbatim => do
    let (text, next) ← blob limits octets position.index
    match text with
    | none => .refused .badVerbatim
    | some text => do
      let (format, rest) ← verbatimParts text
      .ok (.verbatim format rest, { position with index := next })
  | .map => do
    let (n, next) ← integer octets position.index
    let (entries, position) ← entries limits inner depth n { position with index := next }
    .ok (.map entries, position)
  | .set => do
    let (n, next) ← integer octets position.index
    let (replies, position) ← items limits inner depth n { position with index := next }
    .ok (.set replies, position)
  | .push => do
    let (n, next) ← integer octets position.index
    let (replies, position) ← items limits inner depth n { position with index := next }
    .ok (.push replies, position)
  | .attribute => do
    let (n, next) ← integer octets position.index
    let (attributes, position) ← entries limits inner depth n { position with index := next }
    let (value, position) ← deeper inner depth position
    .ok (.attribute attributes value, position)

end

/-- Reads a reply at the given depth, with less than `fuel` replies inside one another. -/
def reply (limits : Limits) (octets : Bytes) :
    Nat → UInt64 → Position → Checked (Reply × Position)
  | 0, _, _ => .trapped .outOfFuel
  | fuel + 1, depth, position =>
    match octets[position.index.toNat]? with
    | none => .refused .incomplete
    | some octet => do
      let next ← add position.index 1
      match Kind.ofMarker? octet with
      | none => .refused (.badMarker octet)
      | some kind =>
        body limits octets (reply limits octets fuel) depth { position with index := next } kind

end Indexed

/-- Reads one reply off the front of some octets by index; the word is the index behind
it. -/
def Reply.parseIndexed (limits : Limits) (octets : Bytes) : Checked (Reply × UInt64) := do
  let (reply, position) ← Indexed.reply limits octets (octets.length + 1) 0 ⟨0, 0⟩
  .ok (reply, position.index)

end RespClient
