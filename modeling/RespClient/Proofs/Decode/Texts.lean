import RespClient.Decode.Scalar
import RespClient.Proofs.Outcome
import RespClient.Proofs.Text.Utf8

/-!
# Replies that carry a text

A text comes as a simple or a bulk string or, under the third revision, as a verbatim string. The
readers of octets, of strings and of any octets as text all find it there. They also take the digits
of a big number under the third revision, and under the second read every array as one fixed text
(`readText_eq_ok_iff`, `readString_eq_ok_iff`).
-/

set_option autoImplicit false

namespace RespClient

theorem Utf8.decodeLossy_encode (text : List Char) : decodeLossy (encode text) = text := by
  have hpieces := pieces_encode text []
  rw [List.append_nil, pieces, List.append_nil] at hpieces
  rw [decodeLossy, hpieces, List.map_map]
  exact List.map_id text

theorem stringOfOctets_encode (text : List Char) :
    stringOfOctets (Utf8.encode text) = .ok (String.ofList text) := by
  rw [stringOfOctets, Utf8.decodeString, Utf8.decode_encode]
  rfl

/-- Octets are read as a string exactly when they are the string written. -/
theorem stringOfOctets_eq_ok_iff {octets : Bytes} {text : String} :
    stringOfOctets octets = .ok text ↔ octets = Utf8.ofString text := by
  constructor
  · intro h
    unfold stringOfOctets Utf8.decodeString at h
    cases hdecode : Utf8.decode octets with
    | error fault =>
        rw [hdecode] at h
        cases h
    | ok chars =>
        rw [hdecode] at h
        cases h
        rw [Utf8.ofString, String.toList_ofList]
        exact Utf8.decode_eq_ok_iff.1 hdecode
  · rintro rfl
    rw [Utf8.ofString, stringOfOctets_encode, String.ofList_toList]

namespace Reply

/-- The replies that hold octets as their text under a revision: strings and, under the third
revision, big numbers. -/
inductive HoldsText (revision : Revision) (octets : Bytes) : Reply → Prop
  | simple : HoldsText revision octets (.simple octets)
  | bulk : HoldsText revision octets (.bulk octets)
  | verbatim (h : revision.isThird = true) (format : TextFormat) :
    HoldsText revision octets (.verbatim format octets)
  | bigNumber (h : revision.isThird = true) : HoldsText revision octets (.bigNumber octets)

/-- The replies that carry a text under a revision. -/
inductive Carries (revision : Revision) (text : List Char) : Reply → Prop
  | simple : Carries revision text (.simple (Utf8.encode text))
  | bulk : Carries revision text (.bulk (Utf8.encode text))
  | verbatim (h : revision.isThird = true) (format : TextFormat) :
    Carries revision text (.verbatim format (Utf8.encode text))

variable {revision : Revision} {octets : Bytes} {text : List Char} {reply : Reply}

theorem HoldsText.readText (h : HoldsText revision octets reply) :
    RespClient.readText revision reply = .ok octets := by
  cases h with
  | simple => rfl
  | bulk => rfl
  | verbatim h format => exact if_pos h
  | bigNumber h => exact if_pos h

theorem HoldsText.isAggregate (h : HoldsText revision octets reply) :
    reply.isAggregate = false := by
  cases h <;> rfl

theorem HoldsText.withoutAttributes (h : HoldsText revision octets reply) :
    reply.withoutAttributes = reply := by
  cases h <;> rfl

theorem Carries.holdsText (h : Carries revision text reply) :
    HoldsText revision (Utf8.encode text) reply := by
  cases h with
  | simple => exact .simple
  | bulk => exact .bulk
  | verbatim h format => exact .verbatim h format

theorem Carries.withoutAttributes (h : Carries revision text reply) :
    reply.withoutAttributes = reply :=
  h.holdsText.withoutAttributes

theorem Carries.isAggregate (h : Carries revision text reply) : reply.isAggregate = false :=
  h.holdsText.isAggregate

theorem Carries.readString (h : Carries revision text reply) :
    readString revision reply = .ok (String.ofList text) := by
  rw [RespClient.readString, h.holdsText.readText, ok_bind, stringOfOctets_encode]

theorem Carries.readString_toList {name : String} (h : Carries revision name.toList reply) :
    RespClient.readString revision reply = .ok name := by
  rw [h.readString, String.ofList_toList]

end Reply

section Readers

variable {revision : Revision} {reply : Reply}

/-- The reader of octets takes the replies that hold them. Under the second revision it also takes
every array, for the answer to a ping. -/
theorem readText_eq_ok_iff {octets : Bytes} :
    readText revision reply = .ok octets ↔ reply.HoldsText revision octets ∨
      (revision.isThird = false ∧ (∃ items, reply = .array items) ∧
        octets = Utf8.ofString "PONG") := by
  constructor
  · intro h
    cases reply with
    | simple text =>
        cases h
        exact .inl .simple
    | bulk text =>
        cases h
        exact .inl .bulk
    | verbatim format text =>
        rw [readText] at h
        split at h
        · next hthird =>
          cases h
          exact .inl (.verbatim hthird format)
        · cases h
    | bigNumber digits =>
        rw [readText] at h
        split at h
        · next hthird =>
          cases h
          exact .inl (.bigNumber hthird)
        · cases h
    | array items =>
        rw [readText] at h
        split at h
        · cases h
        · next hthird =>
          cases h
          exact .inr ⟨Bool.eq_false_iff.2 hthird, ⟨items, rfl⟩, rfl⟩
    | _ => cases h
  · rintro (h | ⟨hsecond, ⟨items, rfl⟩, rfl⟩)
    · exact h.readText
    · rw [readText, hsecond, if_neg Bool.false_ne_true]

theorem readString_eq_ok_iff {text : String} :
    readString revision reply = .ok text ↔ reply.HoldsText revision (Utf8.ofString text) ∨
      (revision.isThird = false ∧ (∃ items, reply = .array items) ∧ text = "PONG") := by
  have hpong : ∀ {text : String}, Utf8.ofString text = Utf8.ofString "PONG" → text = "PONG" :=
    fun h => String.toList_injective (Utf8.encode_injective h)
  rw [readString, bind_eq_ok_iff]
  simp only [stringOfOctets_eq_ok_iff, readText_eq_ok_iff]
  constructor
  · rintro ⟨octets, hread, rfl⟩
    exact hread.imp_right fun ⟨hsecond, harray, htext⟩ => ⟨hsecond, harray, hpong htext⟩
  · intro hread
    refine ⟨_, hread.imp_right fun ⟨hsecond, harray, htext⟩ => ⟨hsecond, harray, ?_⟩, rfl⟩
    rw [htext]

end Readers

end RespClient
