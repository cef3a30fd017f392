import RespClient.Proofs.Stream.Entries

/-!
# Ids of stream entries as text

Different ids have different texts (`StreamId.text_injective`): the sign of the time, its digits and
the dash after them can be told from the text. The reader does not look for the sign. It ends the
time at the first dash, so it gives back exactly the ids whose time is not negative and refuses the
texts of all others (`Shape.decode_streamId_text`, `Shape.decode_streamId_negative`).
-/

set_option autoImplicit false

namespace RespClient

namespace Decimal

open Text

variable {rest rest' : List Char}

/-- A text that begins with an integer begins with a minus sign when the integer is negative. -/
theorem head?_ofInt_append (n : Int) (rest : List Char) :
    (ofInt n ++ rest).head? = some '-' ↔ n < 0 := by
  rw [ofInt]
  split
  · next hneg => exact iff_of_true rfl hneg
  · next hnonneg =>
    refine iff_of_false (fun hhead => ?_) hnonneg
    rw [List.head?_append_of_ne_nil _ (ofNat_ne_nil n.natAbs)] at hhead
    exact minus_not_mem_ofNat n.natAbs (List.mem_of_head? hhead)

theorem ofNat_append_minus_inj {m n : Nat} (h : ofNat m ++ '-' :: rest = ofNat n ++ '-' :: rest') :
    m = n ∧ rest = rest' := by
  have hsplit := congrArg (splitFirst '-') h
  rw [splitFirst_append (minus_not_mem_ofNat m),
    splitFirst_append (minus_not_mem_ofNat n)] at hsplit
  obtain ⟨hdigits, hrest⟩ := Prod.mk.inj (Option.some.inj hsplit)
  exact ⟨ofNat_injective hdigits, hrest⟩

/-- An integer and what follows the dash after it can be told from the text, although the integer
may begin with a dash as well. -/
theorem ofInt_append_minus_inj {m n : Int}
    (h : ofInt m ++ '-' :: rest = ofInt n ++ '-' :: rest') :
    m = n ∧ rest = rest' := by
  -- splitting at the first dash tells the digits apart only after the signs are known to agree
  have hsign : m < 0 ↔ n < 0 := by
    rw [← head?_ofInt_append m ('-' :: rest), h, head?_ofInt_append]
  by_cases hm : m < 0
  · have hn := hsign.1 hm
    rw [ofInt, if_pos hm, ofInt, if_pos hn] at h
    obtain ⟨habs, hrest⟩ := ofNat_append_minus_inj (List.cons.inj h).2
    exact ⟨by omega, hrest⟩
  · have hn : ¬ n < 0 := fun hn => hm (hsign.2 hn)
    rw [ofInt, if_neg hm, ofInt, if_neg hn] at h
    obtain ⟨habs, hrest⟩ := ofNat_append_minus_inj h
    exact ⟨by omega, hrest⟩

theorem ofInt_injective : Function.Injective ofInt := fun _ _ h =>
  (ofInt_append_minus_inj (congrArg (· ++ ['-']) h)).1

end Decimal

namespace StreamId

open Decimal Text

/-- Different ids have different texts. -/
theorem text_injective : Function.Injective text := by
  intro id other h
  obtain ⟨htimestamp, hsequence⟩ := ofInt_append_minus_inj h
  obtain ⟨timestamp, sequence⟩ := id
  obtain ⟨timestamp', sequence'⟩ := other
  obtain rfl := Sized.ext htimestamp
  obtain rfl := Sized.ext (ofInt_injective hsequence)
  rfl

/-- The first dash of the text is the sign of the time, and nothing stands before it. -/
theorem ofText_text_of_neg {id : StreamId} (h : id.timestamp.val < 0) :
    ofText (String.ofList id.text) = .error (.malformed (.streamId (String.ofList id.text))) := by
  have hsplit : splitFirst '-' id.text =
      some ([], ofNat id.timestamp.val.natAbs ++ '-' :: ofInt id.sequence.val) := by
    rw [text, ofInt, if_pos h]
    rfl
  have hempty : read? .int64 [] = none := rfl
  rw [ofText, String.toList_ofList, hsplit]
  simp only [hempty]

/-- The text of an id is read as the id if its time is not negative, and refused otherwise. -/
theorem ofText_text_eq (id : StreamId) :
    ofText (String.ofList id.text) =
      if 0 ≤ id.timestamp.val then .ok id
      else .error (.malformed (.streamId (String.ofList id.text))) := by
  split
  · next hnonneg => exact ofText_text hnonneg
  · next hneg => exact ofText_text_of_neg (Int.not_le.1 hneg)

end StreamId

namespace Shape

/-- A reply that carries a text gives the id that the text spells. -/
theorem decode_streamId_of_carries {revision : Revision} {reply : Reply} {text : List Char}
    (h : reply.Carries revision text) :
    Shape.streamId.decode revision reply = StreamId.ofText (String.ofList text) := by
  rw [Shape.decode, h.withoutAttributes]
  show (readString revision reply >>= StreamId.ofText) = _
  rw [h.readString, ok_bind]

/-- The text of an id, and a status or a bulk string that holds the one bulk string which the id
writes as an argument, are read as the id if its time is not negative and are refused otherwise.
No other id has the same text. -/
theorem decode_streamId_text (revision : Revision) (id : StreamId) :
    let text := String.ofList id.text
    let reading := if 0 ≤ id.timestamp.val then .ok id else .error (.malformed (.streamId text))
    StreamId.ofText text = reading ∧
    (∃ bulk, (Argument.streamId id).bulks = [bulk] ∧
      Shape.streamId.decode revision (.simple bulk) = reading ∧
      Shape.streamId.decode revision (.bulk bulk) = reading) ∧
    ∀ other : StreamId, String.ofList other.text = text ↔ other = id := by
  intro text reading
  have hreading : StreamId.ofText text = reading := StreamId.ofText_text_eq id
  refine ⟨hreading, ⟨Utf8.encode id.text, ?_, ?_, ?_⟩, fun other => ?_⟩
  · rw [Argument.bulks, Argument.ofChars]
  · exact (decode_streamId_of_carries .simple).trans hreading
  · exact (decode_streamId_of_carries .bulk).trans hreading
  · rw [String.ofList_inj, StreamId.text_injective.eq_iff]

/-- An id with a negative time is written with two dashes and is not read back, neither from its
text nor from the bulk string that it writes. -/
theorem decode_streamId_negative :
    let id : StreamId := ⟨⟨-5, by decide, by decide⟩, ⟨3, by decide, by decide⟩⟩
    let refused : Error := .malformed (.streamId "-5-3")
    String.ofList id.text = "-5-3" ∧ StreamId.ofText "-5-3" = .error refused ∧
      (Argument.streamId id).bulks = [Utf8.ofString "-5-3"] ∧
      Shape.streamId.decode .third (.bulk (Utf8.ofString "-5-3")) = .error refused ∧
      ¬ ∀ id : StreamId, StreamId.ofText (String.ofList id.text) = .ok id := by
  intro id refused
  have htext : String.ofList id.text = "-5-3" := by decide
  have hrefused : StreamId.ofText "-5-3" = .error refused := by rfl
  refine ⟨htext, hrefused, by decide, by rfl, fun h => ?_⟩
  have hread := h id
  rw [htext, hrefused] at hread
  cases hread

end Shape

end RespClient
