import RespClient.Argument
import RespClient.Proofs.Decode.Fields

/-!
# Documents read back

The items of a page of search results are read as documents from left to right, and a collection
after an id is the body of its document (`SearchDocument.AreRead`, `Decoder.documents_eq_ok_iff`).
Documents are therefore read back from any listing of them, whichever of them have a body and in
whichever form it is; and in every document that is read, fields and values belong together place
by place (`Shape.decode_searchResults_listed`).
-/

set_option autoImplicit false

namespace RespClient

namespace SearchDocument

variable {revision : Revision}

/-! ## Fields and values -/

/-- Fields and values belong together place by place: looking up a name gives the value of its first
place, and as an argument the document is its id with each field before its value. -/
structure IsAligned (document : SearchDocument) : Prop where
  length_eq : document.fields.length = document.values.length
  get?_eq_some_iff : ∀ name value, document.get? name = some value ↔
    ∃ i : Nat, document.fields[i]? = some name ∧ document.values[i]? = some value ∧
      ∀ j < i, document.fields[j]? ≠ some name
  get?_eq_none_iff : ∀ name, document.get? name = none ↔ name ∉ document.fields
  bulks_eq : (Argument.searchDocument document).bulks =
    Utf8.ofString document.id :: Argument.ofFields (document.fields.zip document.values)

/-- The place that a look-up finds is the first with the name. -/
theorem findIdx?_eq_some_iff {fields : List String} {name : String} {i : Nat} :
    fields.findIdx? (· == name) = some i ↔
      fields[i]? = some name ∧ ∀ j < i, fields[j]? ≠ some name := by
  simp only [List.findIdx?_eq_some_iff_getElem, List.getElem?_eq_some_iff, beq_iff_eq, ne_eq,
    not_exists]
  constructor
  · rintro ⟨hlt, hname, hbefore⟩
    exact ⟨⟨hlt, hname⟩, fun j hj _ => hbefore j hj⟩
  · rintro ⟨⟨hlt, hname⟩, hbefore⟩
    exact ⟨hlt, hname, fun j hj => hbefore j hj (Nat.lt_trans hj hlt)⟩

theorem map_interleave (fields : List (String × String)) :
    (Argument.interleave (fields.map Prod.fst) (fields.map Prod.snd)).map Utf8.ofString =
      Argument.ofFields fields := by
  induction fields with
  | nil => rfl
  | cons field fields ih =>
      rw [List.map_cons, List.map_cons, Argument.interleave, List.map_cons, List.map_cons, ih]
      rfl

theorem isAligned_ofPairs (id : String) (fields : List (String × String)) :
    (ofPairs id fields).IsAligned where
  length_eq := by rw [ofPairs, List.length_map, List.length_map]
  get?_eq_some_iff name value := by
    simp only [get?, Option.bind_eq_some_iff, findIdx?_eq_some_iff, and_assoc]
    exact exists_congr fun i => and_congr_right fun _ => and_comm
  get?_eq_none_iff name := by
    rw [get?, Option.bind_eq_none_iff]
    constructor
    · intro h hmem
      have hfound : ((ofPairs id fields).fields.findIdx? (· == name)).isSome = true := by
        rw [List.findIdx?_isSome]
        exact List.any_eq_true.2 ⟨name, hmem, beq_self_eq_true name⟩
      obtain ⟨i, hi⟩ := Option.isSome_iff_exists.1 hfound
      -- there are as many values as fields
      have hlt : i < fields.length := by
        obtain ⟨hlt, -⟩ := List.findIdx?_eq_some_iff_getElem.1 hi
        rwa [ofPairs, List.length_map] at hlt
      have hvalue := h i hi
      rw [ofPairs, List.getElem?_eq_none_iff, List.length_map] at hvalue
      omega
    · intro h i hi
      exact absurd (List.mem_of_getElem? (findIdx?_eq_some_iff.1 hi).1) h
  bulks_eq := by
    have hzip : (fields.map Prod.fst).zip (fields.map Prod.snd) = fields :=
      (List.zip_of_prod rfl rfl).symm
    rw [Argument.bulks, ofPairs, map_interleave, hzip]

/-! ## Listings -/

/-- Items are read as documents: a collection after an id is the body of its document, and a
document without a body has no fields. -/
inductive AreRead (revision : Revision) : List Reply → List SearchDocument → Prop
  | nil : AreRead revision [] []
  | bare {r : Reply} {id : String} {items : List Reply} {documents : List SearchDocument}
    (hid : readString revision r = .ok id) (hnext : ∀ next ∈ items.head?, next.isAggregate = false)
    (rest : AreRead revision items documents) :
    AreRead revision (r :: items) (.ofPairs id [] :: documents)
  | withBody {r body : Reply} {id : String} {fields : List (String × String)} {items : List Reply}
    {documents : List SearchDocument} (hid : readString revision r = .ok id)
    (hbody : body.isAggregate = true) (hfields : Decoder.stringPairs revision body = .ok fields)
    (rest : AreRead revision items documents) :
    AreRead revision (r :: body :: items) (.ofPairs id fields :: documents)

/-- The items that list a document: its id and, unless it is left out, its body. -/
inductive IsListedAs (revision : Revision) : SearchDocument → List Reply → Prop
  | bare {id : String} {r : Reply} (hid : r.Carries revision id.toList) :
    IsListedAs revision ⟨id, [], []⟩ [r]
  | withBody {id : String} {fields : List (String × String)} {r body : Reply}
    (hid : r.Carries revision id.toList) (hbody : body.ListsFields revision fields) :
    IsListedAs revision (.ofPairs id fields) [r, body]

variable {items : List Reply} {documents : List SearchDocument} {chunks : List (List Reply)}

theorem IsListedAs.head? {document : SearchDocument} {chunk : List Reply}
    (h : document.IsListedAs revision chunk) :
    ∃ r, chunk.head? = some r ∧ r.isAggregate = false := by
  cases h with
  | bare hid => exact ⟨_, rfl, hid.isAggregate⟩
  | withBody hid _ => exact ⟨_, rfl, hid.isAggregate⟩

/-- A listing is read as the documents that it lists. -/
theorem areRead_of_listed (h : List.Forall₂ (IsListedAs revision) documents chunks) :
    AreRead revision chunks.flatten documents := by
  induction h with
  | nil => exact .nil
  | @cons document chunk documents chunks hdocument hrest ih =>
      rw [List.flatten_cons]
      cases hdocument with
      | bare hcarries =>
          -- the next item is the id of the next document
          have hnext : ∀ next ∈ chunks.flatten.head?, next.isAggregate = false := by
            cases hrest with
            | nil => exact nofun
            | cons hdocument _ =>
                obtain ⟨r, hr, hnot⟩ := hdocument.head?
                obtain ⟨rest, rfl⟩ := List.head?_eq_some_iff.1 hr
                rintro _ ⟨⟩
                exact hnot
          exact .bare hcarries.readString_toList hnext ih
      | withBody hcarries hbody =>
          exact .withBody hcarries.readString_toList hbody.isAggregate hbody.stringPairs ih

theorem AreRead.isAligned (h : AreRead revision items documents) :
    ∀ document ∈ documents, document.IsAligned := by
  induction h with
  | nil => exact nofun
  | bare _ _ _ ih => exact List.forall_mem_cons.2 ⟨isAligned_ofPairs _ _, ih⟩
  | withBody _ _ _ _ ih => exact List.forall_mem_cons.2 ⟨isAligned_ofPairs _ _, ih⟩

end SearchDocument

namespace Decoder

variable {revision : Revision}

open SearchDocument

theorem documents_of_bare {r : Reply} {items : List Reply}
    (hnext : ∀ next ∈ items.head?, next.isAggregate = false) :
    documents revision (r :: items) =
      (readString revision r >>= fun id => documents revision items >>= fun others =>
        .ok (.ofPairs id [] :: others)) := by
  cases items with
  | nil => rfl
  | cons body more =>
      have hbody : ¬ body.isAggregate = true := Bool.eq_false_iff.1 (hnext body rfl)
      rw [documents]
      simp only [if_neg hbody]

theorem documents_of_body {r body : Reply} {items : List Reply} (hbody : body.isAggregate = true) :
    documents revision (r :: body :: items) =
      (readString revision r >>= fun id => stringPairs revision body >>= fun fields =>
        documents revision items >>= fun others => .ok (.ofPairs id fields :: others)) := by
  rw [documents]
  simp only [if_pos hbody]

theorem areRead_of_documents : ∀ {items : List Reply} {found : List SearchDocument},
    documents revision items = .ok found → AreRead revision items found
  | [], _, h => by
      cases h
      exact .nil
  | [r], _, h => by
      obtain ⟨id, hid, hrest⟩ := bind_eq_ok_iff.1 h
      cases hrest
      exact .bare hid nofun .nil
  | r :: body :: more, _, h => by
      by_cases hbody : body.isAggregate = true
      · rw [documents_of_body hbody] at h
        obtain ⟨id, hid, h⟩ := bind_eq_ok_iff.1 h
        obtain ⟨fields, hfields, h⟩ := bind_eq_ok_iff.1 h
        obtain ⟨others, hothers, h⟩ := bind_eq_ok_iff.1 h
        cases h
        exact .withBody hid hbody hfields (areRead_of_documents hothers)
      · have hnext : ∀ next ∈ (body :: more).head?, next.isAggregate = false := by
          rintro _ ⟨⟩
          exact Bool.eq_false_iff.2 hbody
        rw [documents_of_bare hnext] at h
        obtain ⟨id, hid, h⟩ := bind_eq_ok_iff.1 h
        obtain ⟨others, hothers, h⟩ := bind_eq_ok_iff.1 h
        cases h
        exact .bare hid hnext (areRead_of_documents hothers)

/-- The reader of documents reads what the rules of listings say. -/
theorem documents_eq_ok_iff {items : List Reply} {found : List SearchDocument} :
    documents revision items = .ok found ↔ AreRead revision items found := by
  constructor
  · exact areRead_of_documents
  · intro h
    induction h with
    | nil => rfl
    | bare hid hnext _ ih => rw [documents_of_bare hnext, hid, ok_bind, ih, ok_bind]
    | withBody hid hbody hfields _ ih =>
        rw [documents_of_body hbody, hid, ok_bind, hfields, ok_bind, ih, ok_bind]

/-- An integer of the wire is read as it is. -/
theorem readInteger_eq_ok_iff {r : Reply} {n : Int64Value} :
    readInteger .int64 r = .ok n ↔ r = .integer n := by
  have hread : ∀ m : Int64Value, readInteger .int64 (.integer m) = .ok m := fun m => by
    rw [readInteger, Sized.ofInt?_eq_some_iff.2 rfl]
  constructor
  · intro h
    cases r with
    | integer m =>
        rw [hread m] at h
        cases h
        rfl
    | _ => cases h
  · rintro rfl
    exact hread n

/-- Results are an array of a total and of items that are read as documents. -/
theorem searchResults_eq_ok_iff {reply : Reply} {results : SearchResults} :
    (searchResults revision).reply reply = .ok results ↔
      ∃ items, reply = .array (.integer results.total :: items) ∧
        AreRead revision items results.documents := by
  constructor
  · intro h
    cases reply with
    | array items =>
        cases items with
        | nil => cases h
        | cons total items =>
            obtain ⟨found, hfound, h⟩ := bind_eq_ok_iff.1 h
            obtain ⟨n, htotal, h⟩ := bind_eq_ok_iff.1 h
            cases h
            rw [readInteger_eq_ok_iff.1 htotal]
            exact ⟨items, rfl, documents_eq_ok_iff.1 hfound⟩
    | _ => cases h
  · obtain ⟨total, found⟩ := results
    rintro ⟨items, rfl, hread⟩
    show (documents revision items >>= fun found =>
      readInteger .int64 (.integer total) >>= fun total => .ok (SearchResults.mk total found)) = _
    rw [documents_eq_ok_iff.2 hread, ok_bind, readInteger_eq_ok_iff.2 rfl, ok_bind]

/-- A document on its own is an array of an id and a body. -/
theorem searchDocument_eq_ok_iff {reply : Reply} {document : SearchDocument} :
    (searchDocument revision).reply reply = .ok document ↔
      ∃ r body id fields, reply = .array [r, body] ∧ readString revision r = .ok id ∧
        stringPairs revision body = .ok fields ∧ document = .ofPairs id fields := by
  constructor
  · intro h
    obtain ⟨⟨r, body⟩, hparts, h⟩ := bind_eq_ok_iff.1 h
    obtain ⟨id, hid, h⟩ := bind_eq_ok_iff.1 h
    obtain ⟨fields, hfields, h⟩ := bind_eq_ok_iff.1 h
    cases h
    exact ⟨r, body, id, fields, twoItems_eq_ok_iff.1 hparts, hid, hfields, rfl⟩
  · rintro ⟨r, body, id, fields, rfl, hid, hfields, rfl⟩
    show (readString revision r >>= fun id => stringPairs revision body >>= fun fields =>
      .ok (SearchDocument.ofPairs id fields)) = _
    rw [hid, ok_bind, hfields, ok_bind]

end Decoder

namespace Shape

open SearchDocument

/-- A listing of documents after their total is read as that total and exactly these documents, in
order, whichever of them have a body and in whichever form. Whatever is read as results is an array
of an integer and items that are read as documents, and whatever is read as a document an array of
an id and a body; in all of these documents fields and values belong together. -/
theorem decode_searchResults_listed (revision : Revision) :
    (∀ (total : Int64Value) (documents : List SearchDocument) (chunks : List (List Reply)),
      List.Forall₂ (IsListedAs revision) documents chunks →
        Shape.searchResults.decode revision (.array (.integer total :: chunks.flatten)) =
          .ok ⟨total, documents⟩) ∧
    (∀ (reply : Reply) (results : SearchResults),
      (Shape.searchResults.decoder revision).reply reply = .ok results →
        ∃ items, reply = .array (.integer results.total :: items) ∧
          AreRead revision items results.documents ∧
          ∀ document ∈ results.documents, document.IsAligned) ∧
    ∀ (reply : Reply) (document : SearchDocument),
      (Shape.searchDocument.decoder revision).reply reply = .ok document →
        ∃ r body id fields, reply = .array [r, body] ∧ readString revision r = .ok id ∧
          Decoder.stringPairs revision body = .ok fields ∧ document = .ofPairs id fields ∧
          document.IsAligned := by
  refine ⟨fun total documents chunks h => ?_, fun reply results h => ?_,
    fun reply document h => ?_⟩
  · exact Decoder.searchResults_eq_ok_iff.2 ⟨chunks.flatten, rfl, areRead_of_listed h⟩
  · obtain ⟨items, hreply, hread⟩ := Decoder.searchResults_eq_ok_iff.1 h
    exact ⟨items, hreply, hread, hread.isAligned⟩
  · obtain ⟨r, body, id, fields, hreply, hid, hfields, rfl⟩ :=
      Decoder.searchDocument_eq_ok_iff.1 h
    exact ⟨r, body, id, fields, hreply, hid, hfields, rfl, isAligned_ofPairs id fields⟩

/-- A document without a body, one with a field that comes twice, as an array of arrays, and one
with an empty map for its body. -/
theorem decode_searchResults_listed_mixed :
    let bulk (text : String) : Reply := .bulk (Utf8.ofString text)
    let first : SearchDocument := ⟨"a", [], []⟩
    let second : SearchDocument := .ofPairs "b" [("t", "x"), ("t", "y")]
    let third : SearchDocument := .ofPairs "c" []
    let reply : Reply := .array [.integer ⟨5, by decide, by decide⟩, bulk "a",
      .simple (Utf8.ofString "b"),
      .array [.array [bulk "t", bulk "x"], .array [bulk "t", bulk "y"]], bulk "c", .map []]
    Shape.searchResults.decode .third reply =
        .ok ⟨⟨5, by decide, by decide⟩, [first, second, third]⟩ ∧
      second.get? "t" = some "x" ∧ second.get? "u" = none ∧
      (Argument.searchDocument second).bulks =
        ["b", "t", "x", "t", "y"].map Utf8.ofString := by
  intro bulk first second third reply
  have hrows : List.Forall₂ (Reply.CarryField .third) [("t", "x"), ("t", "y")]
      [(bulk "t", bulk "x"), (bulk "t", bulk "y")] :=
    .cons ⟨.bulk, .bulk⟩ (.cons ⟨.bulk, .bulk⟩ .nil)
  have hlisted : List.Forall₂ (IsListedAs .third) [first, second, third]
      [[bulk "a"], [.simple (Utf8.ofString "b"),
        .array (nested [(bulk "t", bulk "x"), (bulk "t", bulk "y")])], [bulk "c", .map []]] :=
    .cons (.bare .bulk) (.cons (.withBody .simple (.nested hrows))
      (.cons (.withBody .bulk (.map rfl .nil)) .nil))
  obtain ⟨hdecode, hresults, -⟩ := decode_searchResults_listed .third
  have hread := hdecode ⟨5, by decide, by decide⟩ _ _ hlisted
  obtain ⟨-, -, -, haligned⟩ := hresults _ _ hread
  have hsecond : second.IsAligned := haligned second (by simp)
  exact ⟨hread, (hsecond.get?_eq_some_iff "t" "x").2 ⟨0, rfl, rfl, nofun⟩,
    (hsecond.get?_eq_none_iff "u").2 (by decide), hsecond.bulks_eq⟩

end Shape

end RespClient
