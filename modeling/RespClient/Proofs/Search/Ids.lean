import RespClient.Proofs.Search.Documents

/-!
# One id for each document

In a page of search results every item that is no collection is the id of one document, and a
collection where an id is due is refused (`Shape.decode_searchResults_ids`). The second revision
makes an exception for arrays, since its reader of strings takes any array for the answer to a ping:
an array where an id is due starts a document of that name (`Shape.decode_searchResults_array_id`).
-/

set_option autoImplicit false

namespace RespClient

namespace SearchDocument

variable {revision : Revision} {items : List Reply} {documents : List SearchDocument} {r : Reply}

/-! ## Places of ids -/

/-- An item comes right after a collection. -/
def FollowsCollection (items : List Reply) (r : Reply) : Prop :=
  ∃ body, body.isAggregate = true ∧ [body, r] <:+: items

/-- A collection stands where an id is due: it is the first item, or it comes right after another
collection, the body of a document. -/
structure IsMisplaced (items : List Reply) (r : Reply) : Prop where
  isAggregate : r.isAggregate = true
  isDue : items.head? = some r ∨ FollowsCollection items r

theorem followsCollection_cons_iff {first : Reply} :
    FollowsCollection (first :: items) r ↔
      (first.isAggregate = true ∧ items.head? = some r) ∨ FollowsCollection items r := by
  have hprefix : ∀ body, [body, r] <+: first :: items ↔ body = first ∧ items.head? = some r :=
    fun body => by rw [List.cons_prefix_cons, List.singleton_prefix_iff_head?_eq_some]
  simp only [FollowsCollection, List.infix_cons_iff, hprefix]
  constructor
  · rintro ⟨body, hbody, ⟨rfl, hhead⟩ | hitems⟩
    · exact .inl ⟨hbody, hhead⟩
    · exact .inr ⟨body, hbody, hitems⟩
  · rintro (⟨hfirst, hhead⟩ | ⟨body, hbody, hitems⟩)
    · exact ⟨first, hfirst, .inl ⟨rfl, hhead⟩⟩
    · exact ⟨body, hbody, .inr hitems⟩

theorem IsMisplaced.first_or_follows {first : Reply} (h : IsMisplaced (first :: items) r) :
    first.isAggregate = true ∨ FollowsCollection items r := by
  rcases h.isDue with hhead | hfollows
  · cases hhead
    exact .inl h.isAggregate
  · exact (followsCollection_cons_iff.1 hfollows).imp_left And.left

theorem IsMisplaced.after_bare {first : Reply}
    (hnext : ∀ next ∈ items.head?, next.isAggregate = false) (h : IsMisplaced items r) :
    IsMisplaced (first :: items) r := by
  refine ⟨h.isAggregate, .inr (followsCollection_cons_iff.2 ?_)⟩
  rcases h.isDue with hhead | hfollows
  · have hbare := hnext r hhead
    rw [h.isAggregate] at hbare
    cases hbare
  · exact .inr hfollows

theorem IsMisplaced.after_body {first body : Reply} (hbody : body.isAggregate = true)
    (h : IsMisplaced items r) : IsMisplaced (first :: body :: items) r := by
  refine ⟨h.isAggregate, .inr (followsCollection_cons_iff.2 (.inr ?_))⟩
  exact followsCollection_cons_iff.2 (h.isDue.imp_left fun hhead => ⟨hbody, hhead⟩)

/-! ## Ids of documents -/

/-- Every document has an item for its id: all items that are no collections are such items, and
collections only where an id is due. -/
theorem AreRead.exists_ids (h : AreRead revision items documents) :
    ∃ ids : List Reply, ids.Sublist items ∧
      ids.filter (!·.isAggregate) = items.filter (!·.isAggregate) ∧
      (∀ r ∈ ids, r.isAggregate = true → IsMisplaced items r) ∧
      List.Forall₂ (fun r document => readString revision r = .ok document.id) ids documents := by
  induction h with
  | nil => exact ⟨[], .refl [], rfl, nofun, .nil⟩
  | @bare r id items documents hid hnext _ ih =>
      obtain ⟨ids, hsublist, hfilter, hplaces, hread⟩ := ih
      refine ⟨r :: ids, hsublist.cons_cons r, ?_, ?_, .cons hid hread⟩
      · rw [List.filter_cons, List.filter_cons, hfilter]
      · exact List.forall_mem_cons.2 ⟨fun hr => ⟨hr, .inl rfl⟩,
          fun x hx hagg => (hplaces x hx hagg).after_bare hnext⟩
  | @withBody r body id fields items documents hid hbody _ _ ih =>
      obtain ⟨ids, hsublist, hfilter, hplaces, hread⟩ := ih
      -- the body is passed over, and what comes next is due to be an id
      refine ⟨r :: ids, (hsublist.cons body).cons_cons r, ?_, ?_, .cons hid hread⟩
      · have hskip : (body :: items).filter (!·.isAggregate) = items.filter (!·.isAggregate) :=
          List.filter_cons_of_neg (by simp [hbody])
        rw [List.filter_cons, List.filter_cons, hskip, hfilter]
      · exact List.forall_mem_cons.2 ⟨fun hr => ⟨hr, .inl rfl⟩,
          fun x hx hagg => (hplaces x hx hagg).after_body hbody⟩

/-- Where a collection is misplaced, one that is misplaced was read as an id. -/
theorem AreRead.exists_misplaced_id (h : AreRead revision items documents)
    (hr : IsMisplaced items r) :
    ∃ r id, IsMisplaced items r ∧ readString revision r = .ok id := by
  induction h with
  | nil =>
      rcases hr.isDue with hhead | ⟨body, -, hitems⟩
      · cases hhead
      · cases List.infix_nil.1 hitems
  | @bare first id items documents hid hnext _ ih =>
      rcases hr.first_or_follows with hfirst | hfollows
      · exact ⟨first, id, ⟨hfirst, .inl rfl⟩, hid⟩
      · obtain ⟨x, text, hx, hread⟩ := ih ⟨hr.isAggregate, .inr hfollows⟩
        exact ⟨x, text, hx.after_bare hnext, hread⟩
  | @withBody first body id fields items documents hid hbody _ _ ih =>
      rcases hr.first_or_follows with hfirst | hfollows
      · exact ⟨first, id, ⟨hfirst, .inl rfl⟩, hid⟩
      · -- the body is in its place, so the collection is among the items after it
        have hdue := (followsCollection_cons_iff.1 hfollows).imp_left And.right
        obtain ⟨x, text, hx, hread⟩ := ih ⟨hr.isAggregate, hdue⟩
        exact ⟨x, text, hx.after_body hbody, hread⟩

/-- Unless an array stands where an id is due under the second revision, what is read as an id holds
the text of the id. -/
theorem holdsText_of_readString {id : String}
    (harrays : revision.isThird = false → ∀ inner, ¬ IsMisplaced items (.array inner))
    (hplace : r.isAggregate = true → IsMisplaced items r) (h : readString revision r = .ok id) :
    r.HoldsText revision (Utf8.ofString id) := by
  rcases readString_eq_ok_iff.1 h with hholds | ⟨hsecond, ⟨inner, rfl⟩, -⟩
  · exact hholds
  · exact absurd (hplace rfl) (harrays hsecond inner)

end SearchDocument

namespace Shape

open SearchDocument

/-- The items of a page after its total give the ids of its documents, one to one and in order: all
items that are no collections and, under the second revision, arrays where an id is due, which give
a fixed text. If there are no such arrays, then the items that are no collections alone hold the
ids, and a collection where an id is due is refused. -/
theorem decode_searchResults_ids (revision : Revision) (total : Reply) (items : List Reply) :
    let decoded := Shape.searchResults.decode revision (.array (total :: items))
    (∀ results : SearchResults, decoded = .ok results → ∃ ids : List Reply,
      ids.Sublist items ∧ ids.filter (!·.isAggregate) = items.filter (!·.isAggregate) ∧
      (∀ r ∈ ids, r.isAggregate = true → IsMisplaced items r) ∧
      List.Forall₂ (fun r (document : SearchDocument) =>
        r.HoldsText revision (Utf8.ofString document.id) ∨
          (revision.isThird = false ∧ (∃ inner, r = .array inner) ∧ document.id = "PONG"))
        ids results.documents) ∧
    ((revision.isThird = false → ∀ inner, ¬ IsMisplaced items (.array inner)) →
      (∀ results : SearchResults, decoded = .ok results →
        List.Forall₂ (fun r (document : SearchDocument) =>
          r.HoldsText revision (Utf8.ofString document.id))
          (items.filter (!·.isAggregate)) results.documents) ∧
      ∀ r, IsMisplaced items r → ∃ fault, decoded = .error fault) := by
  intro decoded
  -- the array is one of a total and items, so the items that are read are these
  have hread : ∀ results : SearchResults, decoded = .ok results →
      AreRead revision items results.documents := fun results h => by
    obtain ⟨_, hreply, hread⟩ := Decoder.searchResults_eq_ok_iff.1 h
    cases hreply
    exact hread
  refine ⟨fun results h => ?_, fun harrays => ⟨fun results h => ?_, fun r hr => ?_⟩⟩
  · obtain ⟨ids, hsublist, hfilter, hplaces, hids⟩ := (hread results h).exists_ids
    exact ⟨ids, hsublist, hfilter, hplaces, hids.imp fun _ _ => readString_eq_ok_iff.1⟩
  · obtain ⟨ids, -, hfilter, hplaces, hids⟩ := (hread results h).exists_ids
    have hholds : List.Forall₂ (fun r (document : SearchDocument) => r.isAggregate = false ∧
        r.HoldsText revision (Utf8.ofString document.id)) ids results.documents := by
      refine ((List.forall₂_and_left _ _).2 ⟨hplaces, hids⟩).imp ?_
      rintro r document ⟨hplace, hid⟩
      have htext := holdsText_of_readString harrays hplace hid
      exact ⟨htext.isAggregate, htext⟩
    -- none of the ids is a collection, so they are all items that the filter keeps
    obtain ⟨hbare, htexts⟩ := (List.forall₂_and_left _ _).1 hholds
    have hall : ids.filter (!·.isAggregate) = ids :=
      List.filter_eq_self.2 fun r hr => by rw [hbare r hr, Bool.not_false]
    rwa [← hfilter, hall]
  · cases hdecoded : decoded with
    | error fault => exact ⟨fault, rfl⟩
    | ok results =>
        obtain ⟨x, id, hx, hid⟩ := (hread results hdecoded).exists_misplaced_id hr
        have hbare := (holdsText_of_readString harrays (fun _ => hx) hid).isAggregate
        rw [hx.isAggregate] at hbare
        cases hbare

/-- Two documents under the second revision, one with a body, and under the third a collection right
after the body of a document. -/
theorem decode_searchResults_ids_instances :
    let bulk (text : String) : Reply := .bulk (Utf8.ofString text)
    let total : Reply := .integer ⟨2, by decide, by decide⟩
    let listed : List Reply := [bulk "a", .array [bulk "t", bulk "x"], .simple (Utf8.ofString "b")]
    let results : SearchResults :=
      ⟨⟨2, by decide, by decide⟩, [.ofPairs "a" [("t", "x")], ⟨"b", [], []⟩]⟩
    Shape.searchResults.decode .second (.array (total :: listed)) = .ok results ∧
      List.Forall₂ (fun r (document : SearchDocument) =>
        r.HoldsText .second (Utf8.ofString document.id))
        [bulk "a", .simple (Utf8.ofString "b")] results.documents ∧
      ∃ fault, Shape.searchResults.decode .third (.array [total, bulk "a", .array [], .map []]) =
        .error fault := by
  intro bulk total listed results
  have hlisted : List.Forall₂ (IsListedAs .second) results.documents
      [[bulk "a", .array (flattened [(bulk "t", bulk "x")])], [.simple (Utf8.ofString "b")]] :=
    .cons (.withBody .bulk (.flat (.cons ⟨.bulk, .bulk⟩ .nil))) (.cons (.bare .simple) .nil)
  have hdecode : Shape.searchResults.decode .second (.array (total :: listed)) = .ok results :=
    Decoder.searchResults_eq_ok_iff.2 ⟨listed, rfl, areRead_of_listed hlisted⟩
  have harrays : ∀ inner, ¬ IsMisplaced listed (.array inner) := by
    rintro inner ⟨-, hhead | hfollows⟩
    · cases hhead
    · simp only [listed, followsCollection_cons_iff] at hfollows
      rcases hfollows with ⟨h, -⟩ | ⟨-, h⟩ | ⟨h, -⟩ | ⟨body, -, h⟩
      · cases h
      · cases h
      · cases h
      · cases List.infix_nil.1 h
  have hmisplaced : IsMisplaced [bulk "a", .array [], .map []] (.map []) :=
    ⟨rfl, .inr ⟨.array [], rfl, [bulk "a"], [], rfl⟩⟩
  obtain ⟨-, hids⟩ := decode_searchResults_ids .second total listed
  obtain ⟨-, hrefused⟩ := decode_searchResults_ids .third total [bulk "a", .array [], .map []]
  exact ⟨hdecode, (hids fun _ => harrays).1 results hdecode,
    (hrefused nofun).2 (.map []) hmisplaced⟩

/-- Under the second revision an array where an id is due is taken for an id, so a page without ids
gives a document. -/
theorem decode_searchResults_array_id :
    let total : Reply := .integer ⟨1, by decide, by decide⟩
    Shape.searchResults.decode .second (.array [total, .array []]) =
        .ok ⟨⟨1, by decide, by decide⟩, [⟨"PONG", [], []⟩]⟩ ∧
      (¬ ∀ (revision : Revision) (total : Reply) (items : List Reply) (results : SearchResults),
        Shape.searchResults.decode revision (.array (total :: items)) = .ok results →
          List.Forall₂ (fun r (document : SearchDocument) =>
            r.HoldsText revision (Utf8.ofString document.id))
            (items.filter (!·.isAggregate)) results.documents) ∧
      ¬ ∀ (revision : Revision) (total : Reply) (items : List Reply) (r : Reply),
        IsMisplaced items r → ∃ fault,
          Shape.searchResults.decode revision (.array (total :: items)) = .error fault := by
  intro total
  have hdecode : Shape.searchResults.decode .second (.array [total, .array []]) =
    .ok ⟨⟨1, by decide, by decide⟩, [⟨"PONG", [], []⟩]⟩ := rfl
  refine ⟨hdecode, fun h => ?_, fun h => ?_⟩
  · cases h _ _ _ _ hdecode
  · obtain ⟨fault, hfault⟩ := h .second total [.array []] (.array []) ⟨rfl, .inl rfl⟩
    rw [hdecode] at hfault
    cases hfault

end Shape

end RespClient
