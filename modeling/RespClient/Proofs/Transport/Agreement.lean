import RespClient.Proofs.Transport.Script

/-!
# Waiting for a response and leaving a handler agree

A caller who waits for a response and one who leaves a handler and flushes send the same octets and
take the same answer. Both get the same response where the first one gets any; where it gets an
error instead, the handler gets a failed response with the message of this error and the default
result (`Transport.issue_agrees`). The reason is that `Response.settle` is `Response.ofReply` with
its errors made into failed responses (`Response.settle_eq`).
-/

set_option autoImplicit false

namespace RespClient

variable {s : Shape} {revision : Revision}

namespace Response

/-! ## Responses for replies -/

/-- The response of a caller who does not take errors. -/
def settled (s : Shape) (raw : Option Reply) :
    Except Error (Response s.Carrier) → Response s.Carrier
  | .ok response => response
  | .error e => failed s raw e.message

/-- A reply is settled as it is waited for. -/
theorem settle_eq (revision : Revision) (s : Shape) (reply : Reply) :
    settle revision s reply = settled s (some reply) (ofReply revision s reply) := by
  rw [settle, ofReply]
  cases serverError? reply with
  | some message => rfl
  | none =>
      cases s.decode revision reply with
      | ok value => rfl
      | error e => rfl

/-- The parts of a response go together: it is a success if it has no message and if it has a value
of its own, and a failure has the default result. -/
structure Coherent (response : Response s.Carrier) : Prop where
  isOk_iff_error : response.isOk = true ↔ response.error? = none
  isOk_iff_value : response.isOk = true ↔ response.value? = some response.value
  value?_eq : response.isOk = false → response.value? = none
  value_eq : response.isOk = false → response.value = s.default

theorem coherent_success (value : s.Carrier) (raw : Reply) :
    Coherent (.success value raw) where
  isOk_iff_error := iff_of_true rfl rfl
  isOk_iff_value := iff_of_true rfl rfl
  value?_eq := nofun
  value_eq := nofun

theorem coherent_failed (raw : Option Reply) (message : String) :
    Coherent (failed s raw message) where
  isOk_iff_error := iff_of_false Bool.false_ne_true nofun
  isOk_iff_value := iff_of_false Bool.false_ne_true nofun
  value?_eq _ := rfl
  value_eq _ := rfl

theorem coherent_ofReply {reply : Reply} {response : Response s.Carrier}
    (h : ofReply revision s reply = .ok response) : Coherent response := by
  rw [ofReply] at h
  cases hserver : serverError? reply with
  | some message =>
      rw [hserver] at h
      cases h
      exact coherent_failed (some reply) message
  | none =>
      rw [hserver] at h
      cases hdecode : s.decode revision reply with
      | error e =>
          rw [hdecode] at h
          cases h
      | ok value =>
          rw [hdecode] at h
          cases h
          exact coherent_success value reply

theorem coherent_settled {raw : Option Reply} {result : Except Error (Response s.Carrier)}
    (h : ∀ response, result = .ok response → Coherent response) :
    Coherent (settled s raw result) := by
  cases result with
  | ok response => exact h response rfl
  | error e => exact coherent_failed raw e.message

end Response

/-! ## Two ways of issuing -/

open Response

/-- What a handler is given goes with what a caller who waits is given, where `outcome` is what the
transport brought. -/
structure Agrees (outcome : Except Error Reply) (result : Except Error (Response s.Carrier))
    (response : Response s.Carrier) : Prop where
  /-- A response is the same for both. -/
  eq_of_ok : ∀ awaited, result = .ok awaited → response = awaited
  /-- An error of decoding a reply fails the response of the handler, which has the reply. -/
  eq_of_undecoded : ∀ reply e, outcome = .ok reply → result = .error e →
    response = .failure s.default (some reply) e.message
  /-- An error of the transport fails it, too, without a reply. -/
  eq_of_unanswered : ∀ e, outcome = .error e →
    result = .error e ∧ response = .failure s.default none e.message
  coherent : Coherent response
  coherent_of_ok : ∀ awaited, result = .ok awaited → Coherent awaited

theorem agrees_answer (ticket : Nat) (outcome : Except Error Reply) :
    Agrees outcome (outcome >>= ofReply revision s)
      (Handler.answer ⟨revision, s, ticket⟩ outcome) := by
  cases outcome with
  | error e =>
      exact ⟨nofun, nofun, fun e' h => by cases h; exact ⟨rfl, rfl⟩, coherent_failed none e.message,
        nofun⟩
  | ok reply =>
      have hanswer : Handler.answer ⟨revision, s, ticket⟩ (.ok reply) =
          settled s (some reply) (ofReply revision s reply) := settle_eq revision s reply
      have hcoherent : ∀ awaited, ofReply revision s reply = .ok awaited → Coherent awaited :=
        fun _ => coherent_ofReply
      rw [hanswer, ok_bind]
      refine ⟨fun awaited h => ?_, fun r e hr h => ?_, nofun, coherent_settled hcoherent, hcoherent⟩
      · rw [h, settled]
      · cases hr
        rw [h, settled, failed]

namespace Transport

open Script

variable {script : Script}

theorem flush_of_none (hpending : script.pending = []) : script.flush = ([], script) := by
  rcases script with ⟨canned, sent, pending, refusing, batchTake⟩
  obtain rfl : pending = [] := hpending
  rfl

/-- A flush with one handler takes one answer. -/
theorem flush_of_one (hpending : script.pending = []) (handler : Handler) :
    Script.flush { script with pending := script.pending ++ [handler] } =
      ([handler.delivery script.canned.head?], { script with canned := script.canned.tail }) := by
  rcases script with ⟨canned, sent, pending, refusing, batchTake⟩
  obtain rfl : pending = [] := hpending
  rw [flush_eq]
  -- an empty queue gives no answer, and taking one leaves it empty
  cases canned with
  | nil => rfl
  | cons answer queue => rfl

/-- Over a script that keeps no handler, a command whose response is waited for and the same command
with a handler, answered by a flush, leave the same state. A command that does not encode leaves the
state as it was, with the same error for both callers and nobody to answer. The octets of any other
are sent once, after all that were sent before, and take one answer, and what the two callers are
given for it agrees. -/
theorem issue_agrees (revision : Revision) (s : Shape) (command : Command) (ticket : Nat)
    (script : Script) (hpending : script.pending = []) (haccepts : script.refusing = false) :
    let awaited := (transport revision).issue s command script
    let submitted := (transport revision).issueWith s command ticket script
    submitted.2.flush.2 = awaited.2 ∧
    (∀ e, command.encode = .error e →
      awaited = (.error e, script) ∧ submitted = (.error e, script) ∧ submitted.2.flush.1 = []) ∧
    (∀ octets, command.encode = .ok octets →
      submitted.1 = .ok () ∧
      awaited.2 = { script with
        sent := script.sent ++ [octets]
        canned := script.canned.tail } ∧
      ∃ response, submitted.2.flush.1 = [⟨⟨revision, s, ticket⟩, response⟩] ∧
        Agrees (Canned.due script.canned.head?) awaited.1 response) := by
  intro awaited submitted
  cases hencode : command.encode with
  | error e =>
      have hawaited : awaited = (.error e, script) := issue_of_error _ _ hencode
      have hsubmitted : submitted = (.error e, script) := issueWith_of_error _ _ _ hencode
      rw [hawaited, hsubmitted, flush_of_none hpending]
      refine ⟨rfl, fun e' he => ?_, nofun⟩
      cases he
      exact ⟨rfl, rfl, rfl⟩
  | ok octets =>
      -- both callers have sent the octets when the answer is due
      have hawaited : awaited = (Canned.due script.canned.head? >>= ofReply revision s,
          { script with sent := script.sent ++ [octets], canned := script.canned.tail }) :=
        issue_of_ok hencode
      have hsubmitted : submitted = (.ok (), { script with
          sent := script.sent ++ [octets]
          pending := script.pending ++ [⟨revision, s, ticket⟩] }) :=
        issueWith_of_ok ticket hencode haccepts
      have hflush : submitted.2.flush =
          ([Handler.delivery ⟨revision, s, ticket⟩ script.canned.head?],
            { script with sent := script.sent ++ [octets], canned := script.canned.tail }) := by
        rw [hsubmitted]
        exact @flush_of_one { script with sent := script.sent ++ [octets] } hpending
          ⟨revision, s, ticket⟩
      rw [hflush, hawaited, hsubmitted]
      refine ⟨rfl, nofun, fun octets' ho => ?_⟩
      cases ho
      exact ⟨rfl, rfl, _, rfl, agrees_answer ticket _⟩

/-- A text that is no integer, after another request was sent: both callers add the octets of the
command to it and take the answer. Waiting for it is an error, and a handler gets the default
result, the reply and the message of this error. -/
theorem issue_agrees_mismatch :
    let command : Command := ⟨[80], []⟩
    let script : Script := { canned := [.frame [36, 49, 13, 10, 120, 13, 10]], sent := [[33]] }
    let awaited := (transport .second).issue (.integer .int64) command script
    let submitted := (transport .second).issueWith (.integer .int64) command 7 script
    submitted.2.flush.2 = awaited.2 ∧
      awaited.2.sent = [[33], [42, 49, 13, 10, 36, 49, 13, 10, 80, 13, 10]] ∧
      awaited.2.canned = [] ∧
      ∃ e response, awaited.1 = .error e ∧
        submitted.2.flush.1 = [⟨⟨.second, .integer .int64, 7⟩, response⟩] ∧
        response = .failure (Sized.zero .int64) (some (.bulk [120])) e.message := by
  intro command script awaited submitted
  obtain ⟨hstate, _, hissued⟩ :=
    issue_agrees .second (.integer .int64) command 7 script rfl rfl
  have hencode : Command.encode ⟨[80], []⟩ = .ok [42, 49, 13, 10, 36, 49, 13, 10, 80, 13, 10] := by
    decide
  obtain ⟨_, hafter, response, hresponse, hagrees⟩ := hissued _ hencode
  have hawaited : awaited.1 = .error (.unexpected .integer (.bulk [120])) := rfl
  exact ⟨hstate, congrArg Script.sent hafter, congrArg Script.canned hafter, _, response, hawaited,
    hresponse, hagrees.eq_of_undecoded (.bulk [120]) _ rfl hawaited⟩

end Transport

end RespClient
