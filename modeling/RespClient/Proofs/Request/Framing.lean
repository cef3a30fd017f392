import RespClient.Proofs.Reply.Frame
import RespClient.Request

/-!
# Framing of requests

The two writers of a list of arguments, `Request.appendArgs` and `Reply.encode` on an array of bulk
strings, put the same octets on the wire, and both length functions announce their number
(`appendArgs_eq`, `encodedLength_eq`). The octets decide the arguments: what follows one list of
arguments cannot be read as more of them, nor can an argument hide some of what follows
(`uniquely_framed`).
-/

set_option autoImplicit false

namespace RespClient

namespace Reply

theorem encodeItems_bulk (texts : List Bytes) :
    encodeItems (texts.map .bulk) = texts.flatMap (Frame.blob .string) := by
  induction texts with
  | nil => rfl
  | cons text texts ih =>
      rw [List.map_cons, encodeItems, encode, ih, List.flatMap_cons]

theorem encode_bulkArray (texts : List Bytes) :
    (bulkArray texts).encode =
      Frame.header .array texts.length ++ texts.flatMap (Frame.blob .string) := by
  rw [bulkArray, encode, List.length_map, encodeItems_bulk]

end Reply

namespace Request

variable {x y : Bytes}

theorem foldl_blob (buffer : Bytes) (args : List Bytes) :
    args.foldl (fun buffer arg => buffer ++ Frame.blob .string arg) buffer =
      buffer ++ args.flatMap (Frame.blob .string) := by
  induction args generalizing buffer with
  | nil => rw [List.foldl_nil, List.flatMap_nil, List.append_nil]
  | cons arg args ih => rw [List.foldl_cons, ih, List.flatMap_cons, List.append_assoc]

theorem appendArgs_eq (buffer : Bytes) (args : List Bytes) :
    appendArgs buffer args = buffer ++ (Reply.bulkArray args).encode := by
  rw [appendArgs, foldl_blob, Reply.encode_bulkArray, List.append_assoc]

theorem encode_eq (request : Request) : request.encode = (Reply.bulkArray request.args).encode :=
  appendArgs_eq [] request.args

theorem foldl_blobLength (total : Nat) (args : List Bytes) :
    args.foldl (fun total arg => total + Frame.blobLength arg.length) total =
      total + (args.flatMap (Frame.blob .string)).length := by
  induction args generalizing total with
  | nil => rfl
  | cons arg args ih =>
      rw [List.foldl_cons, ih, List.flatMap_cons, List.length_append, Reply.length_blob,
        Nat.add_assoc]

theorem encodedLength_eq (request : Request) :
    request.encodedLength = (Reply.bulkArray request.args).encode.length := by
  rw [encodedLength, foldl_blobLength, Reply.encode_bulkArray, List.length_append,
    Reply.length_header]
  rfl

theorem foldl_push (request : Request) (args : List Bytes) :
    args.foldl push request = ⟨request.args ++ args⟩ := by
  induction args generalizing request with
  | nil => rw [List.foldl_nil, List.append_nil]
  | cons arg args ih => rw [List.foldl_cons, ih, push, List.append_assoc, List.singleton_append]

/-- As many texts on both sides are the same texts. -/
theorem flatMap_blob_append_inj {a b : List Bytes} (hlength : a.length = b.length)
    (h : a.flatMap (Frame.blob .string) ++ x = b.flatMap (Frame.blob .string) ++ y) :
    a = b ∧ x = y := by
  induction a generalizing b with
  | nil =>
      cases b with
      | nil => exact ⟨rfl, h⟩
      | cons t b => cases hlength
  | cons s a ih =>
      cases b with
      | nil => cases hlength
      | cons t b =>
          -- the first texts are equal, and what follows them is
          simp only [List.flatMap_cons, List.append_assoc] at h
          obtain ⟨htext, hmore⟩ := Frame.blob_append_inj h
          obtain ⟨hargs, hrest⟩ := ih (Nat.succ.inj hlength) hmore
          exact ⟨by rw [htext, hargs], hrest⟩

theorem appendArgs_append_inj {a b : List Bytes}
    (h : appendArgs [] a ++ x = appendArgs [] b ++ y) : a = b ∧ x = y := by
  -- the headers decide how many texts there are on each side
  simp only [appendArgs_eq, List.nil_append, Reply.encode_bulkArray, List.append_assoc] at h
  obtain ⟨hlength, hargs⟩ := Frame.header_append_inj h
  exact flatMap_blob_append_inj hlength hargs

/-- Requests are framed one after the other: no list of arguments writes the beginning of what
another one writes. Every writer appends the array of bulk strings with the arguments of the
request, however it was made, and the announced number of octets is the number written. -/
theorem uniquely_framed :
    (∀ (a b : List Bytes) (x y : Bytes),
      appendArgs [] a ++ x = appendArgs [] b ++ y → a = b ∧ x = y) ∧
    (∀ (args : List Bytes) (buffer : Bytes),
      appendArgs buffer args = buffer ++ (Reply.bulkArray args).encode) ∧
    (∀ (request : Request) (buffer : Bytes),
      request.appendTo buffer = buffer ++ (Reply.bulkArray request.args).encode ∧
      request.encode = (Reply.bulkArray request.args).encode ∧
      request.encodedLength = request.encode.length ∧
      request.encodedLength = (Reply.bulkArray request.args).encodedLength) ∧
    (∀ (name : Bytes) (rest : List Bytes),
      rest.foldl push (ofName name) = (⟨name :: rest⟩ : Request)) := by
  refine ⟨fun a b x y h => appendArgs_append_inj h, fun args buffer => appendArgs_eq buffer args,
    fun request buffer => ?_, fun name rest => foldl_push (ofName name) rest⟩
  have hencode : request.encode = (Reply.bulkArray request.args).encode :=
    appendArgs_eq [] request.args
  refine ⟨appendArgs_eq buffer request.args, hencode, ?_, ?_⟩
  · rw [encodedLength_eq, hencode]
  · rw [encodedLength_eq, Reply.length_encode]

/-- An argument that looks like a request of its own, before such a request. -/
theorem uniquely_framed_nested :
    let nested := appendArgs [] [[80]]
    let octets : Bytes := [42, 49, 13, 10, 36, 49, 13, 10, 80, 13, 10]
    appendArgs [] [[71], nested] ++ nested = appendArgs [] [[71], octets] ++ octets ∧
      [[71], nested] = [[71], octets] ∧ nested = octets := by
  intro nested octets
  have h : appendArgs [] [[71], nested] ++ nested = appendArgs [] [[71], octets] ++ octets := rfl
  exact ⟨h, uniquely_framed.1 _ _ _ _ h⟩

end Request

end RespClient
