import RespClient.Proofs.Decode.Causes
import RespClient.Proofs.Decode.ErrorReplies

/-!
# What a caller that waits gets instead of a response

A reply that is an error makes a failed response, so what comes back instead of a response is the
error of decoding another reply. It is a decode error, unless a reply inside of the one that came is
an error: a command that failed is reported with the message of the server wherever its reply stands
(`Response.ofReply_error_cause`, `Response.ofReply_nested_error`).
-/

set_option autoImplicit false

namespace RespClient

/-- The node is inside the reply with its attributes dropped, and is not that reply itself. -/
def Reply.Beneath (node r : Reply) : Prop :=
  ∃ c ∈ r.withoutAttributes.children, Reply.Inside node c

open Reply

/-- A node that is no error is refused with the kind that it has. -/
theorem Error.unexpected_eq_mismatch {expected : Expected} {node : Reply}
    (h : node.errorMessage? = none) :
    Error.unexpected expected node = .mismatch expected node.kind := by
  rw [Error.unexpected, h]

/-- A node that is no error is refused with a decode error. -/
theorem Error.isDecode_of_unexpected {expected : Expected} {node : Reply}
    (h : node.errorMessage? = none) : (Error.unexpected expected node).isDecode = true := by
  rw [Error.unexpected_eq_mismatch h]
  rfl

theorem Error.isServer_of_isDecode {e : Error} (h : e.isDecode = true) : e.isServer = false := by
  cases e with
  | server message => cases h
  | _ => rfl

namespace Response

variable {s : Shape} {revision : Revision} {r : Reply} {e : Error}

/-- Instead of a response there is the error of decoding a reply that is no error. -/
theorem ofReply_eq_error_iff : ofReply revision s r = .error e ↔
    r.withoutAttributes.errorMessage? = none ∧ s.decode revision r = .error e := by
  rw [ofReply, serverError?]
  cases r.withoutAttributes.errorMessage? with
  | some message => simp
  | none => cases s.decode revision r <;> simp [Except.map]

/-- The error of decoding a reply that is no error is a decode error or the message of an error
inside of it. -/
theorem isDecode_or_beneath (hr : r.withoutAttributes.errorMessage? = none)
    (h : s.decode revision r = .error e) :
    e.isDecode = true ∨ ∃ node message, Beneath node r ∧ node.errorMessage? = some message ∧
      e = .server (Utf8.lossyString message) := by
  rcases (Shape.traceable_decoder s).reply r.withoutAttributes e h with
    ⟨fault, rfl⟩ | ⟨expected, node, ⟨r', hr', hnode⟩, rfl⟩
  · exact Or.inl rfl
  -- a node was refused, and what it is decides the kind of the error
  obtain rfl := List.mem_singleton.1 hr'
  cases hmessage : node.errorMessage? with
  | none => exact Or.inl (Error.isDecode_of_unexpected hmessage)
  | some message =>
      refine Or.inr ⟨node, message, ?_, hmessage, by rw [Error.unexpected, hmessage]⟩
      cases hnode with
      -- the reply itself is no error
      | self =>
          rw [hr] at hmessage
          cases hmessage
      | child hchild hinside => exact ⟨_, hchild, hinside⟩

/-- Whoever waits for a response to an error reply, with or without attributes, gets a response.
What comes back instead of a response is a decode error and no error of the server, or the own
message of an error reply that stands inside of the reply and outside of attributes. Without such an
error reply it is a decode error. -/
theorem ofReply_error_cause (s : Shape) (revision : Revision) (r : Reply) (e : Error)
    (h : ofReply revision s r = .error e) :
    (∀ message, ¬ r.IsErrorWith message) ∧
    ((e.isDecode = true ∧ e.isServer = false) ∨
      ∃ node message, Beneath node r ∧ node.errorMessage? = some message ∧
        e = .server (Utf8.lossyString message)) ∧
    ((∀ node, Beneath node r → node.errorMessage? = none) →
      e.isDecode = true ∧ e.isServer = false) := by
  obtain ⟨hr, hdecode⟩ := ofReply_eq_error_iff.1 h
  have hcause := isDecode_or_beneath hr hdecode
  refine ⟨fun message herror => ?_, ?_, fun hclean => ?_⟩
  · rw [herror.errorMessage?] at hr
    cases hr
  · exact hcause.imp_left fun hdecode => ⟨hdecode, Error.isServer_of_isDecode hdecode⟩
  · rcases hcause with hdecode | ⟨node, message, hnode, hmessage, -⟩
    · exact ⟨hdecode, Error.isServer_of_isDecode hdecode⟩
    · rw [hclean node hnode] at hmessage
      cases hmessage

/-- A page whose items hold an error reply comes back as the error of the server. One whose items
are no collection is a decode error, although attributes on it hold an error. -/
theorem ofReply_error_cause_page :
    let attributes : List (Reply × Reply) := [(.bulk [107], .error [72])]
    let failed : Reply := .attribute attributes (.array [.bulk [48], .array [.null, .error [69]]])
    let flat : Reply := .array [.bulk [48], .attribute attributes (.array [])]
    let s : Shape := .scanPage (.list (.optional .string))
    ofReply .third s failed = .error (.server "E") ∧
      (∃ node message, Beneath node failed ∧ node.errorMessage? = some message ∧
        Error.server "E" = .server (Utf8.lossyString message)) ∧
      ofReply .third s flat = .error (.mismatch .array .attribute) ∧
      ∀ message, ¬ flat.IsErrorWith message := by
  intro attributes failed flat s
  have hfailed : ofReply .third s failed = .error (.server "E") := by
    have htext : Utf8.lossyString [69] = "E" := by decide
    rw [← htext]
    rfl
  have hflat : ofReply .third s flat = .error (.mismatch .array .attribute) := rfl
  obtain ⟨-, hcause, -⟩ := ofReply_error_cause s .third failed _ hfailed
  obtain ⟨hnone, -⟩ := ofReply_error_cause s .third flat _ hflat
  exact ⟨hfailed, hcause.resolve_left fun hdecode => (nomatch hdecode.1), hflat, hnone⟩

/-- The second command of a transaction failed, and its error comes back as one of the server, not
as a decode error. -/
theorem ofReply_nested_error :
    let r : Reply := .array [.integer (.zero .int64), .error [69]]
    let s : Shape := .list (.integer .int64)
    ofReply .second s r = .error (.server "E") ∧
      (Error.server "E").isDecode = false ∧ (Error.server "E").isServer = true ∧
      ¬ ∀ (s : Shape) (revision : Revision) (r : Reply) (e : Error),
        ofReply revision s r = .error e → e.isDecode = true ∧ e.isServer = false := by
  intro r s
  have hserver : ofReply .second s r = .error (.server "E") := by
    have htext : Utf8.lossyString [69] = "E" := by decide
    rw [← htext]
    rfl
  exact ⟨hserver, rfl, rfl, fun h => nomatch (h s .second r _ hserver).1⟩

end Response

end RespClient
