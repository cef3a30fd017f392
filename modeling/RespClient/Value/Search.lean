import RespClient.Value.Stream

/-!
# Search results

A search answers with the number of matches and, for each document, its id and
mostly its body. A document without a body is just its id, so a collection after an
id is that document's body.
-/

namespace RespClient

/-- A document that a search found: fields and values at equal places belong
together. -/
structure SearchDocument where
  id : String := ""
  fields : List String := []
  values : List String := []
  deriving Repr, DecidableEq

/-- The answer of a search. -/
structure SearchResults where
  total : Int64Value := .zero _
  documents : List SearchDocument := []
  deriving DecidableEq

namespace SearchDocument

/-- The document with the given id and body. -/
def ofPairs (id : String) (body : List (String × String)) : SearchDocument :=
  ⟨id, body.map Prod.fst, body.map Prod.snd⟩

/-- The value at the place of the first field with the given name. -/
def get? (document : SearchDocument) (name : String) : Option String :=
  (document.fields.findIdx? (· == name)).bind fun index => document.values[index]?

end SearchDocument

namespace Decoder

/-- A document is an array of id and body. -/
def searchDocument (revision : Revision) : Decoder SearchDocument := ofReply fun reply => do
  let (id, body) ← twoItems .searchDocument reply
  let id ← readString revision id
  let body ← stringPairs revision body
  .ok (.ofPairs id body)

/-- Reads documents one after the other. -/
def documents (revision : Revision) : List Reply → Except Error (List SearchDocument)
  | [] => .ok []
  | id :: rest => do
    let id ← readString revision id
    match rest with
    | [] => .ok [.ofPairs id []]
    | body :: more =>
      if body.isAggregate then do
        let body ← stringPairs revision body
        let others ← documents revision more
        .ok (.ofPairs id body :: others)
      else do
        let others ← documents revision (body :: more)
        .ok (.ofPairs id [] :: others)

/-- Results are an array of the total and the documents. The total is read last. -/
def searchResults (revision : Revision) : Decoder SearchResults := ofReply fun reply =>
  match reply with
  | .array [] => .error (.malformed .emptySearch)
  | .array (total :: rest) => do
    let found ← documents revision rest
    let total ← readInteger .int64 total
    .ok ⟨total, found⟩
  | reply => .error (.unexpected .array reply)

end Decoder

end RespClient
