import RespClient.Bytes
import RespClient.Cluster.Node
import RespClient.Json.Printing
import RespClient.Memory.Report
import RespClient.Value.Notice
import RespClient.Value.Ranked
import RespClient.Value.Search
import RespClient.Value.Stream

/-!
# Arguments of commands

An argument announces a number of elements (`Argument.count`) and writes bulk strings
(`Argument.bulks`). A list or map of arguments announces the count of its first item
once per item, so it keeps its word when its items have equal counts. An argument of
the caller's own announces and writes what it likes.
-/

namespace RespClient

/-- An argument of a command. -/
inductive Argument where
  | octets (b : Bytes)
  | text (s : String)
  | integer (w : Width) (n : Sized w)
  | double (x : Double)
  | single (x : Single)
  /-- An optional argument that is left out. -/
  | missing
  /-- An optional argument that is given. -/
  | present (a : Argument)
  /-- Some arguments one after the other. -/
  | tuple (fields : List Argument)
  /-- The items of a collection. -/
  | list (items : List Argument)
  /-- The entries of a collection with keys. -/
  | map (entries : List (Argument × Argument))
  | geoPosition (p : GeoPosition)
  | score (s : Score)
  | scoredMember (m : ScoredMember)
  | streamId (id : StreamId)
  | streamEntry (entry : StreamEntry)
  | searchDocument (document : SearchDocument)
  | json (value : Json)
  | status (s : Status)
  | memoryReport (report : MemoryReport)
  /-- An argument of the caller's own. -/
  | custom (declared : Nat) (written : List Bytes)

namespace Argument

/-- The text of a floating point number in a command. -/
def floatText {f : Format} (layout : Layout) (x : Binary f) : List Char :=
  match x with
  | .nan => ['n', 'a', 'n']
  | .number negative rank _ =>
    if rank = f.top then [if negative then '-' else '+', 'i', 'n', 'f']
    else layout.write [] [] x

/-- The bulk string of a text. -/
def ofChars (text : List Char) : List Bytes := [Utf8.encode text]

/-- The bulk strings of names and values, each name before its value. -/
def ofFields (fields : List (String × String)) : List Bytes :=
  fields.flatMap fun field => [Utf8.ofString field.1, Utf8.ofString field.2]

/-- Takes from two lists in turn, and the rest of the longer one. -/
def interleave : List String → List String → List String
  | a :: as, b :: bs => a :: b :: interleave as bs
  | as, [] => as
  | [], bs => bs

mutual

/-- The number of elements that an argument announces. -/
def count : Argument → Nat
  | .missing => 0
  | .present a => count a
  | .tuple fields => countAll fields
  | .list [] => 0
  | .list (first :: items) => count first * (items.length + 1)
  | .map [] => 0
  | .map ((key, value) :: entries) => (count key + count value) * (entries.length + 1)
  | .geoPosition _ => 2
  | .scoredMember _ => 2
  | .streamEntry entry => 1 + 2 * entry.fields.length
  | .searchDocument document => 1 + document.fields.length + document.values.length
  | .memoryReport _ => 0
  | .custom declared _ => declared
  | _ => 1

/-- The number of elements that some arguments announce together. -/
def countAll : List Argument → Nat
  | [] => 0
  | a :: as => count a + countAll as

end

mutual

/-- The bulk strings that an argument writes. -/
def bulks : Argument → List Bytes
  | .octets b => [b]
  | .text s => [Utf8.ofString s]
  | .integer _ n => ofChars (Decimal.ofInt n.val)
  | .double x => ofChars (floatText .wide x)
  | .single x => ofChars (floatText .narrow x)
  | .missing => []
  | .present a => bulks a
  | .tuple fields => bulksOfAll fields
  | .list items => bulksOfAll items
  | .map entries => bulksOfEntries entries
  | .geoPosition p =>
    [Utf8.encode (floatText .wide p.longitude), Utf8.encode (floatText .wide p.latitude)]
  | .score s => ofChars (floatText .wide s.value)
  | .scoredMember m => [Utf8.encode (floatText .wide m.score), Utf8.ofString m.member]
  | .streamId id => ofChars id.text
  | .streamEntry entry => Utf8.encode entry.id.text :: ofFields entry.fields
  | .searchDocument document =>
    Utf8.ofString document.id :: (interleave document.fields document.values).map Utf8.ofString
  | .json value => ofChars value.text
  | .status s => [Utf8.ofString s.text]
  | .memoryReport _ => []
  | .custom _ written => written

/-- The bulk strings of some arguments, in order. -/
def bulksOfAll : List Argument → List Bytes
  | [] => []
  | a :: as => bulks a ++ bulksOfAll as

/-- The bulk strings of some entries, each key before its value. -/
def bulksOfEntries : List (Argument × Argument) → List Bytes
  | [] => []
  | (key, value) :: entries => bulks key ++ (bulks value ++ bulksOfEntries entries)

end

/-- A set of texts, in their order. -/
def ofStringSet (texts : List String) : Argument :=
  .list ((Ordered.ofItems SortKey.ofString texts).map .text)

/-- A set of integers, in their order. -/
def ofIntegerSet (w : Width) (numbers : List (Sized w)) : Argument :=
  .list ((Ordered.ofItems (fun n => .number n.val) numbers).map (.integer w))

/-- A map from texts, in their order; of entries with one text the last stays. -/
def ofStringMap (entries : List (String × Argument)) : Argument :=
  .map ((Ordered.ofEntries SortKey.ofString entries).map fun entry => (.text entry.1, entry.2))

end Argument

end RespClient
