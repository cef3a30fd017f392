import RespClient.Response

/-!
# Error replies are the server's errors

A server that answers with an error is reported with its own message, whatever result was asked for
(`Shape.decode_error_reply`). Each decoder refuses what it has no reading for by the same function,
which reports an error reply as an error of the server, and alternatives go on after decode errors
only. The exceptions are the raw shapes, whose first choice is the reply itself: they take an error
reply for a value. A response fails all the same, since it looks for an error before it decodes.
-/

set_option autoImplicit false

namespace RespClient

variable {revision : Revision} {message : Bytes}

namespace Reply

/-- The reply is an error with the given message, inside any number of attributes. -/
inductive IsErrorWith (message : Bytes) : Reply → Prop
  | error : IsErrorWith message (.error message)
  | bulkError : IsErrorWith message (.bulkError message)
  | withAttributes (attributes : List (Reply × Reply)) {value : Reply}
    (h : IsErrorWith message value) : IsErrorWith message (.attribute attributes value)

/-- An error reply is a simple or a bulk error. -/
theorem eq_of_errorMessage? {r : Reply} (h : r.errorMessage? = some message) :
    r = .error message ∨ r = .bulkError message := by
  cases r with
  | error m =>
      cases h
      exact Or.inl rfl
  | bulkError m =>
      cases h
      exact Or.inr rfl
  | _ => cases h

theorem IsErrorWith.errorMessage? {r : Reply} (h : r.IsErrorWith message) :
    r.withoutAttributes.errorMessage? = some message := by
  induction h with
  | error => rfl
  | bulkError => rfl
  | withAttributes attributes _ ih => exact ih

end Reply

/-! ## Decoders -/

namespace Decoder

variable {α β γ : Type} {a : Decoder α} {r : Reply}

/-- An error reply is reported with its message. -/
def Reports (d : Decoder α) : Prop :=
  ∀ r message, r.errorMessage? = some message →
    d.reply r = .error (.server (Utf8.lossyString message))

/-- An error reply is a value. -/
def Accepts (d : Decoder α) : Prop :=
  ∀ r message, r.errorMessage? = some message → ∃ value, d.reply r = .ok value

theorem reply_optional_of_error (h : r.errorMessage? = some message) :
    a.optional.reply r = (a.reply r).map some := by
  rcases Reply.eq_of_errorMessage? h with rfl | rfl <;> rfl

/-- What the server reported is final: no other alternative is tried. -/
theorem reply_oneOfTwo_of_server (b : Decoder β) {text : String}
    (h : a.reply r = .error (.server text)) :
    (a.oneOfTwo b).reply r = .error (.server text) := by
  simp only [oneOfTwo, ofReply, h]
  rfl

theorem reply_oneOfThree_of_server (b : Decoder β) (c : Decoder γ) {text : String}
    (h : a.reply r = .error (.server text)) :
    (a.oneOfThree b c).reply r = .error (.server text) := by
  simp only [oneOfThree, ofReply, h]
  rfl

theorem reply_oneOfTwo_of_ok (b : Decoder β) {value : α} (h : a.reply r = .ok value) :
    (a.oneOfTwo b).reply r = .ok (.inl value) := by
  simp only [oneOfTwo, ofReply, h]
  rfl

theorem reply_oneOfThree_of_ok (b : Decoder β) (c : Decoder γ) {value : α}
    (h : a.reply r = .ok value) : (a.oneOfThree b c).reply r = .ok (.first value) := by
  simp only [oneOfThree, ofReply, h]
  rfl

end Decoder

namespace Shape

/-- The shapes that take any reply, an error reply included: the reply itself, and what tries to
read it first. -/
def isRaw : Shape → Bool
  | .reply => true
  | .optional s => s.isRaw
  | .oneOfTwo a _ => a.isRaw
  | .oneOfThree a _ _ => a.isRaw
  | _ => false

/-- The decoder of every shape that is not raw reports error replies. -/
theorem reports_of_not_raw (s : Shape) (h : s.isRaw = false) : (s.decoder revision).Reports := by
  induction s with
  | reply => cases h
  | optional s ih =>
      intro r message hr
      have hinner := ih h r message hr
      rw [decoder, Decoder.reply_optional_of_error hr, hinner]
      rfl
  | oneOfTwo a b iha _ =>
      intro r message hr
      exact Decoder.reply_oneOfTwo_of_server _ (iha h r message hr)
  | oneOfThree a b c iha _ _ =>
      intro r message hr
      exact Decoder.reply_oneOfThree_of_server _ _ (iha h r message hr)
  -- all others look at the kind of the reply before anything else
  | _ =>
      intro r message hr
      rcases Reply.eq_of_errorMessage? hr with rfl | rfl <;> rfl

theorem accepts_of_raw (s : Shape) (h : s.isRaw = true) : (s.decoder revision).Accepts := by
  induction s with
  | reply => exact fun r _ _ => ⟨r, rfl⟩
  | optional s ih =>
      intro r message hr
      obtain ⟨value, hvalue⟩ := ih h r message hr
      refine ⟨some value, ?_⟩
      rw [decoder, Decoder.reply_optional_of_error hr, hvalue]
      rfl
  | oneOfTwo a b iha _ =>
      intro r message hr
      obtain ⟨value, hvalue⟩ := iha h r message hr
      exact ⟨.inl value, Decoder.reply_oneOfTwo_of_ok _ hvalue⟩
  | oneOfThree a b c iha _ _ =>
      intro r message hr
      obtain ⟨value, hvalue⟩ := iha h r message hr
      exact ⟨.first value, Decoder.reply_oneOfThree_of_ok _ _ hvalue⟩
  | _ => cases h

/-! ## Responses -/

theorem serverError?_eq {r : Reply} (h : r.IsErrorWith message) :
    Response.serverError? r = some (Utf8.lossyString message) := by
  rw [Response.serverError?, h.errorMessage?]
  rfl

/-- An error reply, with or without attributes, is reported with the message of the server by
exactly the shapes that are not raw; the raw ones take it for a value. The response to it fails for
every shape, with the same message, the default result and the whole reply. -/
theorem decode_error_reply (s : Shape) (revision : Revision) (r : Reply) (message : Bytes)
    (h : r.IsErrorWith message) :
    (s.decode revision r = .error (.server (Utf8.lossyString message)) ↔ s.isRaw = false) ∧
    (s.isRaw = true → ∃ value, s.decode revision r = .ok value) ∧
    Response.ofReply revision s r =
      .ok (.failure s.default (some r) (Utf8.lossyString message)) ∧
    Response.settle revision s r = .failure s.default (some r) (Utf8.lossyString message) := by
  have haccepts : s.isRaw = true → ∃ value, s.decode revision r = .ok value := fun hraw =>
    accepts_of_raw s hraw _ message h.errorMessage?
  refine ⟨⟨fun hreported => ?_, fun hraw => ?_⟩, haccepts, ?_, ?_⟩
  · cases hraw : s.isRaw with
    | false => rfl
    | true =>
        obtain ⟨value, hvalue⟩ := haccepts hraw
        rw [hvalue] at hreported
        cases hreported
  · exact reports_of_not_raw s hraw _ message h.errorMessage?
  · rw [Response.ofReply, serverError?_eq h]
    rfl
  · rw [Response.settle, serverError?_eq h]
    rfl

/-- A bulk error that is no text, inside two attributes: alternatives behind the first do not take
it, although one of them is the reply itself. -/
theorem decode_error_reply_nested :
    let attributes : List (Reply × Reply) := [(.bulk [107], .null)]
    let r : Reply := .attribute attributes (.attribute [] (.bulkError [69, 255]))
    let reported : Shape := .optional (.oneOfThree .json .reply .string)
    let taken : Shape := .oneOfTwo (.optional .reply) .string
    r.IsErrorWith [69, 255] ∧ reported.decode .third r = .error (.server "E\uFFFD") ∧
      (∃ value, taken.decode .second r = .ok value) ∧
      Response.settle .second taken r = .failure (.inl none) (some r) "E\uFFFD" := by
  intro attributes r reported taken
  have h : r.IsErrorWith [69, 255] := .withAttributes _ (.withAttributes _ .bulkError)
  have htext : Utf8.lossyString [69, 255] = "E\uFFFD" := by decide
  obtain ⟨hreported, -⟩ := decode_error_reply reported .third r [69, 255] h
  obtain ⟨-, htaken, -, hsettled⟩ := decode_error_reply taken .second r [69, 255] h
  rw [htext] at hreported hsettled
  exact ⟨h, hreported.2 rfl, htaken rfl, hsettled⟩

end Shape

end RespClient
