import RespClient.Proofs.Number.Notation
import RespClient.Reply.Encoding

/-!
# The wire form of a reply

Induction on replies, with a hypothesis for each item of a collection and for the key and the value
of each entry of a map (`Reply.induction`), and the number of octets of the wire form
(`Reply.length_encode`). Writing a reply to a buffer appends its wire form, so the buffer grows by
the number of octets that the reply announces (`Reply.appends_what_it_announces`).
-/

set_option autoImplicit false

namespace RespClient

namespace Reply

/-- Induction on a reply and the replies inside it. -/
@[elab_as_elim]
theorem induction {motive : Reply → Prop} (simple : ∀ text, motive (.simple text))
    (error : ∀ message, motive (.error message)) (integer : ∀ n, motive (.integer n))
    (bulk : ∀ text, motive (.bulk text)) (null : motive .null)
    (array : ∀ items, (∀ r ∈ items, motive r) → motive (.array items))
    (boolean : ∀ b, motive (.boolean b)) (double : ∀ x, motive (.double x))
    (bigNumber : ∀ digits, motive (.bigNumber digits))
    (bulkError : ∀ message, motive (.bulkError message))
    (verbatim : ∀ format text, motive (.verbatim format text))
    (map : ∀ entries, (∀ e ∈ entries, motive e.1 ∧ motive e.2) → motive (.map entries))
    (set : ∀ items, (∀ r ∈ items, motive r) → motive (.set items))
    (push : ∀ items, (∀ r ∈ items, motive r) → motive (.push items))
    (withAttributes : ∀ attributes value, (∀ e ∈ attributes, motive e.1 ∧ motive e.2) →
      motive value → motive (.attribute attributes value)) :
    ∀ r, motive r :=
  @Reply.rec motive (fun items => ∀ r ∈ items, motive r)
    (fun entries => ∀ e ∈ entries, motive e.1 ∧ motive e.2) (fun e => motive e.1 ∧ motive e.2)
    simple error integer bulk null array boolean double bigNumber bulkError verbatim map set push
    withAttributes (by simp) (fun _ _ hhead htail => List.forall_mem_cons.2 ⟨hhead, htail⟩)
    (by simp) (fun _ _ hhead htail => List.forall_mem_cons.2 ⟨hhead, htail⟩)
    (fun _ _ hkey hvalue => ⟨hkey, hvalue⟩)

/-! ## Length -/

theorem isVisible_doubleText (x : Double) : ∀ c ∈ doubleText x, Utf8.IsVisible c :=
  Layout.isVisible_write .wide x (Utf8.isVisible_of_all rfl) (Utf8.isVisible_of_all rfl)

theorem length_line (k : Kind) (body : Bytes) :
    (Frame.line k body).length = 1 + body.length + 2 := by
  simp only [Frame.line, crlf, List.length_cons, List.length_append, List.length_nil]
  omega

theorem length_header (k : Kind) (count : Nat) :
    (Frame.header k count).length = Frame.headerLength count := by
  rw [Frame.header, length_line, Utf8.length_encode fun _ hc => Decimal.isVisible_of_mem_ofNat hc]
  rfl

theorem length_blob (k : Kind) (text : Bytes) :
    (Frame.blob k text).length = Frame.blobLength text.length := by
  simp only [Frame.blob, crlf, List.length_append, length_header, List.length_cons, List.length_nil,
    Frame.blobLength]
  omega

theorem length_encodeItems {items : List Reply}
    (h : ∀ r ∈ items, r.encode.length = r.encodedLength) :
    (encodeItems items).length = lengthOfItems items := by
  induction items with
  | nil => rfl
  | cons item items ih =>
      obtain ⟨hitem, hitems⟩ := List.forall_mem_cons.1 h
      rw [encodeItems, List.length_append, hitem, ih hitems, lengthOfItems]

theorem length_encodeEntries {entries : List (Reply × Reply)}
    (h : ∀ e ∈ entries,
      e.1.encode.length = e.1.encodedLength ∧ e.2.encode.length = e.2.encodedLength) :
    (encodeEntries entries).length = lengthOfEntries entries := by
  induction entries with
  | nil => rfl
  | cons entry entries ih =>
      obtain ⟨hentry, hentries⟩ := List.forall_mem_cons.1 h
      rw [encodeEntries, List.length_append, List.length_append, hentry.1, hentry.2, ih hentries,
        lengthOfEntries, Nat.add_assoc]

/-- The announced number of octets is the number of octets written. -/
theorem length_encode (r : Reply) : r.encode.length = r.encodedLength := by
  induction r using Reply.induction with
  | simple text => exact length_line _ _
  | error message => exact length_line _ _
  | integer n =>
      rw [encode, length_line, Utf8.length_encode fun _ hc => Decimal.isVisible_of_mem_ofInt hc]
      rfl
  | bulk text => exact length_blob _ _
  | null => rfl
  | array items ih =>
      rw [encode, List.length_append, length_header, length_encodeItems ih, encodedLength]
  | boolean b => exact length_line _ _
  | double x =>
      rw [encode, length_line, Utf8.length_encode (isVisible_doubleText x)]
      rfl
  | bigNumber digits => exact length_line _ _
  | bulkError message => exact length_blob _ _
  | verbatim format text => exact length_blob _ _
  | map entries ih =>
      rw [encode, List.length_append, length_header, length_encodeEntries ih, encodedLength]
  | set items ih =>
      rw [encode, List.length_append, length_header, length_encodeItems ih, encodedLength]
  | push items ih =>
      rw [encode, List.length_append, length_header, length_encodeItems ih, encodedLength]
  | withAttributes attributes value ih hvalue =>
      rw [encode, List.length_append, List.length_append, length_header, length_encodeEntries ih,
        hvalue, encodedLength, Nat.add_assoc]

/-! ## Appending to a buffer -/

theorem appendLine_eq (buffer : Bytes) (k : Kind) (body : Bytes) :
    Frame.appendLine buffer k body = buffer ++ Frame.line k body := by
  simp only [Frame.appendLine, Frame.line, List.append_assoc, List.cons_append, List.nil_append]

theorem appendHeader_eq (buffer : Bytes) (k : Kind) (count : Nat) :
    Frame.appendHeader buffer k count = buffer ++ Frame.header k count :=
  appendLine_eq buffer k _

theorem appendBlob_eq (buffer : Bytes) (k : Kind) (text : Bytes) :
    Frame.appendBlob buffer k text = buffer ++ Frame.blob k text := by
  simp only [Frame.appendBlob, appendHeader_eq, Frame.blob, List.append_assoc]

theorem appendItems_eq {items : List Reply}
    (h : ∀ r ∈ items, ∀ buffer, appendTo buffer r = buffer ++ r.encode) (buffer : Bytes) :
    appendItems buffer items = buffer ++ encodeItems items := by
  induction items generalizing buffer with
  | nil => exact (List.append_nil buffer).symm
  | cons item items ih =>
      obtain ⟨hitem, hitems⟩ := List.forall_mem_cons.1 h
      rw [appendItems, ih hitems, hitem, encodeItems, List.append_assoc]

theorem appendEntries_eq {entries : List (Reply × Reply)}
    (h : ∀ e ∈ entries, (∀ buffer, appendTo buffer e.1 = buffer ++ e.1.encode) ∧
      ∀ buffer, appendTo buffer e.2 = buffer ++ e.2.encode) (buffer : Bytes) :
    appendEntries buffer entries = buffer ++ encodeEntries entries := by
  induction entries generalizing buffer with
  | nil => exact (List.append_nil buffer).symm
  | cons entry entries ih =>
      obtain ⟨⟨hkey, hvalue⟩, hentries⟩ := List.forall_mem_cons.1 h
      rw [appendEntries, ih hentries, hvalue, hkey, encodeEntries, List.append_assoc,
        List.append_assoc]

/-- What is in the buffer stays, and the wire form stands behind it. -/
theorem appendTo_eq (r : Reply) : ∀ buffer, appendTo buffer r = buffer ++ r.encode := by
  induction r using Reply.induction with
  | simple text => exact fun buffer => appendLine_eq buffer _ _
  | error message => exact fun buffer => appendLine_eq buffer _ _
  | integer n => exact fun buffer => appendLine_eq buffer _ _
  | bulk text => exact fun buffer => appendBlob_eq buffer _ _
  | null => exact fun buffer => rfl
  | array items ih =>
      intro buffer
      rw [appendTo, appendItems_eq ih, appendHeader_eq, encode, List.append_assoc]
  | boolean b => exact fun buffer => appendLine_eq buffer _ _
  | double x => exact fun buffer => appendLine_eq buffer _ _
  | bigNumber digits => exact fun buffer => appendLine_eq buffer _ _
  | bulkError message => exact fun buffer => appendBlob_eq buffer _ _
  | verbatim format text =>
      intro buffer
      -- the announced length is the length of the format, the colon and the text together
      have hlength : (format.octets ++ 58 :: text).length = text.length + 4 := by
        simp only [TextFormat.octets, List.length_append, List.length_cons, List.length_nil]
        omega
      rw [appendTo, appendHeader_eq, encode, Frame.blob, hlength]
      simp only [List.append_assoc, List.cons_append, List.nil_append]
  | map entries ih =>
      intro buffer
      rw [appendTo, appendEntries_eq ih, appendHeader_eq, encode, List.append_assoc]
  | set items ih =>
      intro buffer
      rw [appendTo, appendItems_eq ih, appendHeader_eq, encode, List.append_assoc]
  | push items ih =>
      intro buffer
      rw [appendTo, appendItems_eq ih, appendHeader_eq, encode, List.append_assoc]
  | withAttributes attributes value ih hvalue =>
      intro buffer
      rw [appendTo, hvalue, appendEntries_eq ih, appendHeader_eq, encode, List.append_assoc,
        List.append_assoc]

/-- Every reply, whatever its texts hold and however it is nested, is appended behind what the
buffer holds, and as many octets are appended as it announces. -/
theorem appends_what_it_announces (r : Reply) (buffer : Bytes) :
    appendTo buffer r = buffer ++ r.encode ∧ r.encode.length = r.encodedLength ∧
      (appendTo buffer r).length = buffer.length + r.encodedLength := by
  have happend := appendTo_eq r buffer
  have hlength := length_encode r
  refine ⟨happend, hlength, ?_⟩
  rw [happend, List.length_append, hlength]

end Reply

end RespClient
