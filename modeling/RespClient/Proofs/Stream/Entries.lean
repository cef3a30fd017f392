import RespClient.Proofs.Decode.Fields
import RespClient.Proofs.Request.Counts
import RespClient.Proofs.Text.Lines

/-!
# Stream entries sent and read back

As an argument an entry of a stream writes its id and then its fields. A reply that gives these bulk
strings back is read as the entry, in whichever form the fields are
(`Shape.decode_streamEntry_sent`). The time of the id must not be negative, because the first dash
of a text ends the time; no id with a negative time is read
(`StreamId.timestamp_nonneg_of_ofText`).
-/

set_option autoImplicit false

namespace RespClient

namespace StreamId

open Decimal Text

variable {id : StreamId} {text : String}

/-- A text spells an id when integers stand before and after its first dash. -/
theorem ofText_eq_ok_iff :
    ofText text = .ok id ↔ ∃ before after, '-' ∉ before ∧ text.toList = before ++ '-' :: after ∧
      read? .int64 before = some id.timestamp ∧ read? .int64 after = some id.sequence := by
  constructor
  · intro h
    rw [ofText] at h
    split at h
    · cases h
    · next before after hsplit =>
      obtain ⟨hbefore, htext⟩ := splitFirst_eq_some_iff.1 hsplit
      split at h
      · next timestamp sequence htimestamp hsequence =>
        cases h
        exact ⟨before, after, hbefore, htext, htimestamp, hsequence⟩
      · cases h
  · rintro ⟨before, after, hbefore, htext, htimestamp, hsequence⟩
    rw [ofText, htext, splitFirst_append hbefore]
    simp only [htimestamp, hsequence]

theorem ofText_text (h : 0 ≤ id.timestamp.val) : ofText (String.ofList id.text) = .ok id := by
  -- the time has no sign, so the first dash is the one between the halves; the second may have one
  refine ofText_eq_ok_iff.2 ⟨_, _, minus_not_mem_ofInt h, ?_, read?_ofInt _, read?_ofInt _⟩
  rw [String.toList_ofList, StreamId.text]

theorem timestamp_nonneg_of_ofText (h : ofText text = .ok id) : 0 ≤ id.timestamp.val := by
  obtain ⟨before, after, hbefore, -, htimestamp, -⟩ := ofText_eq_ok_iff.1 h
  exact nonneg_of_spells ((read_eq_ok_iff rfl).1 (read?_eq_some_iff.1 htimestamp)) hbefore

end StreamId

/-! ## Fields as bulk strings -/

namespace Reply

/-- The replies that give bulk strings back two by two: an array of them all, an array of arrays of
two or, under the third revision, a map. -/
inductive HoldsBulks (revision : Revision) (bulks : List Bytes) : Reply → Prop
  | flat : HoldsBulks revision bulks (.array (bulks.map .bulk))
  | nested : HoldsBulks revision bulks (.array (nested (adjacentPairs (bulks.map .bulk))))
  | map (hthird : revision = .third) :
    HoldsBulks revision bulks (.map (adjacentPairs (bulks.map .bulk)))

/-- Fields as rows of two bulk strings. -/
def bulkRows (fields : List (String × String)) : List (Reply × Reply) :=
  fields.map fun field => (.bulk (Utf8.ofString field.1), .bulk (Utf8.ofString field.2))

variable {revision : Revision} {fields : List (String × String)} {body : Reply}

theorem map_bulk_ofFields (fields : List (String × String)) :
    (Argument.ofFields fields).map .bulk = flattened (bulkRows fields) := by
  induction fields with
  | nil => rfl
  | cons field fields ih =>
      exact congrArg (.bulk (Utf8.ofString field.1) :: .bulk (Utf8.ofString field.2) :: ·) ih

theorem carryField_bulkRows (fields : List (String × String)) :
    List.Forall₂ (CarryField revision) fields (bulkRows fields) :=
  List.forall₂_map_right_iff.2 (List.forall₂_same.2 fun _ _ => ⟨.bulk, .bulk⟩)

theorem HoldsBulks.listsFields (h : HoldsBulks revision (Argument.ofFields fields) body) :
    ListsFields revision fields body := by
  have hrows : List.Forall₂ (CarryField revision) fields (bulkRows fields) :=
    carryField_bulkRows fields
  -- bulk strings two by two are the rows again
  have hpairs : adjacentPairs ((Argument.ofFields fields).map .bulk) = bulkRows fields := by
    rw [map_bulk_ofFields, adjacentPairs_flattened]
  cases h with
  | flat =>
      rw [map_bulk_ofFields]
      exact .flat hrows
  | nested =>
      rw [hpairs]
      exact .nested hrows
  | map hthird =>
      rw [hpairs]
      exact .map hthird hrows

end Reply

/-! ## Entries -/

/-- The replies that give an entry back after its bulk strings were sent: an array of its id and its
fields. If the entry was deleted since, null stands for the fields. -/
inductive StreamEntry.IsAnsweredBy (revision : Revision) : StreamEntry → Reply → Prop
  | fields {entry : StreamEntry} {id : Bytes} {fields : List Bytes} {body : Reply}
    (hbulks : (Argument.streamEntry entry).bulks = id :: fields)
    (hbody : body.HoldsBulks revision fields) :
    IsAnsweredBy revision entry (.array [.bulk id, body])
  | deleted {entry : StreamEntry} {id : Bytes} {fields : List Bytes}
    (hbulks : (Argument.streamEntry entry).bulks = id :: fields) :
    IsAnsweredBy revision ⟨entry.id, []⟩ (.array [.bulk id, .null])

namespace Decoder

variable {revision : Revision}

theorem streamId_eq_ok_iff {r : Reply} {id : StreamId} :
    (streamId revision).reply r = .ok id ↔
      ∃ text, readString revision r = .ok text ∧ StreamId.ofText text = .ok id :=
  bind_eq_ok_iff

/-- An entry is read from an array of its id and its fields, where null stands for no fields. -/
theorem streamEntry_eq_ok_iff {reply : Reply} {entry : StreamEntry} :
    (streamEntry revision).reply reply = .ok entry ↔
      ∃ r body, reply = .array [r, body] ∧ (streamId revision).reply r = .ok entry.id ∧
        (body = .null ∧ entry.fields = [] ∨ stringPairs revision body = .ok entry.fields) := by
  constructor
  · intro h
    obtain ⟨⟨r, body⟩, hparts, h⟩ := bind_eq_ok_iff.1 h
    obtain ⟨id, hid, h⟩ := bind_eq_ok_iff.1 h
    refine ⟨r, body, twoItems_eq_ok_iff.1 hparts, ?_⟩
    split at h
    · cases h
      exact ⟨hid, .inl ⟨rfl, rfl⟩⟩
    · obtain ⟨fields, hfields, h⟩ := bind_eq_ok_iff.1 h
      cases h
      exact ⟨hid, .inr hfields⟩
  · obtain ⟨id, fields⟩ := entry
    rintro ⟨r, body, rfl, hid, hbody⟩
    refine bind_eq_ok_iff.2 ⟨(r, body), rfl, bind_eq_ok_iff.2 ⟨id, hid, ?_⟩⟩
    rcases hbody with ⟨rfl, hfields⟩ | hfields
    · cases hfields
      rfl
    · split
      -- null lists no fields, so only one of the two ways applies to it
      · cases hfields
      · exact bind_eq_ok_iff.2 ⟨fields, hfields, rfl⟩

theorem streamId_bulk {id : StreamId} (h : 0 ≤ id.timestamp.val) :
    (streamId revision).reply (.bulk (Utf8.encode id.text)) = .ok id :=
  streamId_eq_ok_iff.2 ⟨_, Reply.Carries.bulk.readString, StreamId.ofText_text h⟩

theorem streamEntry_of_isAnsweredBy {entry : StreamEntry} {reply : Reply}
    (hid : 0 ≤ entry.id.timestamp.val) (h : entry.IsAnsweredBy revision reply) :
    (streamEntry revision).reply reply = .ok entry := by
  cases h with
  | fields hbulks hbody =>
      rw [Argument.bulks] at hbulks
      cases hbulks
      exact streamEntry_eq_ok_iff.2
        ⟨_, _, rfl, streamId_bulk hid, .inr hbody.listsFields.stringPairs⟩
  | deleted hbulks =>
      rw [Argument.bulks] at hbulks
      cases hbulks
      exact streamEntry_eq_ok_iff.2 ⟨_, _, rfl, streamId_bulk hid, .inl ⟨rfl, rfl⟩⟩

end Decoder

namespace Shape

/-- An entry whose time is not negative writes its id and two bulk strings for each field, and is
read from every reply that gives these back; a deleted one is read without its fields, and a list of
entries one by one. Ids that are read have no negative time, so each is read again from its text. -/
theorem decode_streamEntry_sent (revision : Revision) :
    (∀ entry : StreamEntry, ∃ id fields, (Argument.streamEntry entry).bulks = id :: fields ∧
      fields.length = 2 * entry.fields.length) ∧
    (∀ (entry : StreamEntry) (reply : Reply), 0 ≤ entry.id.timestamp.val →
      entry.IsAnsweredBy revision reply →
        Shape.streamEntry.decode revision reply = .ok entry) ∧
    (∀ (entries : List StreamEntry) (replies : List Reply),
      (∀ entry ∈ entries, 0 ≤ entry.id.timestamp.val) →
      List.Forall₂ (StreamEntry.IsAnsweredBy revision) entries replies →
        (Shape.list .streamEntry).decode revision (.array replies) = .ok entries) ∧
    (∀ (text : String) (id : StreamId), StreamId.ofText text = .ok id →
      0 ≤ id.timestamp.val ∧ StreamId.ofText (String.ofList id.text) = .ok id) ∧
    ∀ (reply : Reply) (id : StreamId), Shape.streamId.decode revision reply = .ok id →
      0 ≤ id.timestamp.val ∧ StreamId.ofText (String.ofList id.text) = .ok id := by
  have htext : ∀ (text : String) (id : StreamId), StreamId.ofText text = .ok id →
      0 ≤ id.timestamp.val ∧ StreamId.ofText (String.ofList id.text) = .ok id :=
    fun text id h =>
      have hid := StreamId.timestamp_nonneg_of_ofText h
      ⟨hid, StreamId.ofText_text hid⟩
  refine ⟨fun entry => ?_, fun entry reply hid h => ?_, fun entries replies hids h => ?_, htext,
    fun reply id h => ?_⟩
  · exact ⟨_, _, by rw [Argument.bulks], Argument.length_ofFields entry.fields⟩
  · -- an answer is an array, so there are no attributes to drop
    have hattributes : reply.withoutAttributes = reply := by
      cases h <;> rfl
    rw [Shape.decode, hattributes]
    exact Decoder.streamEntry_of_isAnsweredBy hid h
  · exact mapM_eq_ok_iff.2 (((List.forall₂_and_left _ _).2 ⟨hids, h⟩).flip.imp
      fun _ _ h => Decoder.streamEntry_of_isAnsweredBy h.1 h.2)
  · obtain ⟨text, -, htext'⟩ := Decoder.streamId_eq_ok_iff.1 h
    exact htext text id htext'

/-- A negative sequence number, a name that comes twice and empty texts, as a map, as an array of
arrays, flat, and with null for the fields. -/
theorem decode_streamEntry_sent_forms :
    let bulk (text : String) : Reply := .bulk (Utf8.ofString text)
    let rows : List (Reply × Reply) :=
      [(bulk "a", bulk ""), (bulk "a", bulk "1"), (bulk "", bulk "x")]
    let id : StreamId := ⟨⟨5, by decide, by decide⟩, ⟨-3, by decide, by decide⟩⟩
    let entry : StreamEntry := ⟨id, [("a", ""), ("a", "1"), ("", "x")]⟩
    let replies : List Reply := [.array [bulk "5--3", .map rows],
      .array [bulk "5--3", .array (nested rows)], .array [bulk "5--3", .array (flattened rows)],
      .array [bulk "5--3", .null]]
    (Argument.streamEntry entry).bulks = ["5--3", "a", "", "a", "1", "", "x"].map Utf8.ofString ∧
      (Shape.list .streamEntry).decode .third (.array replies) =
        .ok [entry, entry, entry, ⟨id, []⟩] ∧
      (∀ reply ∈ replies.head?, Shape.streamEntry.decode .third reply = .ok entry) ∧
      Shape.streamId.decode .third (bulk "5--3") = .ok id ∧
      StreamId.ofText (String.ofList id.text) = .ok id := by
  intro bulk rows id entry replies
  have hbulks : (Argument.streamEntry entry).bulks =
      ["5--3", "a", "", "a", "1", "", "x"].map Utf8.ofString := by decide
  have hid : Shape.streamId.decode .third (bulk "5--3") = .ok id := by rfl
  have hdeleted : StreamEntry.IsAnsweredBy .third ⟨id, []⟩ (.array [bulk "5--3", .null]) :=
    @StreamEntry.IsAnsweredBy.deleted _ entry _ _ hbulks
  have hentries : List.Forall₂ (StreamEntry.IsAnsweredBy .third) [entry, entry, entry, ⟨id, []⟩]
      replies :=
    .cons (.fields hbulks (.map rfl)) (.cons (.fields hbulks .nested)
      (.cons (.fields hbulks .flat) (.cons hdeleted .nil)))
  have htimes : ∀ sent ∈ [entry, entry, entry, ⟨id, []⟩], 0 ≤ sent.id.timestamp.val := by
    simp [entry, id]
  obtain ⟨-, hentry, hlist, -, hread⟩ := decode_streamEntry_sent .third
  refine ⟨hbulks, hlist _ _ htimes hentries, ?_, hid, (hread _ id hid).2⟩
  rintro _ ⟨⟩
  exact hentry entry _ (by decide) (.fields hbulks (.map rfl))

end Shape

end RespClient
