import RespClient.Proofs.Transport.Pipeline

/-!
# What a scripted transport takes from its queue

Each operation of a scripted transport takes answers off the front of its queue, and what it gives
is a function of these answers: the next reply (`Script.next_eq`), the replies of a batch
(`Script.nextMany_eq`), the responses of kept handlers (`Script.deliver_eq`). Nothing else of the
state changes. The equations of `Transport.issue` and `Transport.issueWith` over a script follow.
-/

set_option autoImplicit false

namespace RespClient

/-- What comes when the front of the queue is due. -/
def Canned.due : Option Canned → Except Error Reply
  | some answer => answer.outcome
  | none => .error .closed

/-- The delivery of an answer, or of its absence, to a handler. -/
def Handler.delivery (handler : Handler) (answer : Option Canned) : Delivery :=
  ⟨handler, handler.answer (Canned.due answer)⟩

namespace Script

/-! ## Taking answers -/

@[simp] theorem canned_record (request : Bytes) (script : Script) :
    (script.record request).canned = script.canned := rfl

theorem next_eq (script : Script) :
    script.next =
      (Canned.due script.canned.head?, { script with canned := script.canned.tail }) := by
  rcases script with ⟨canned, sent, pending, refusing, batchTake⟩
  cases canned with
  | nil => rfl
  | cons answer queue => rfl

/-- The answers up to the first one that brings no reply, that one included. -/
def throughError : List Canned → List Canned
  | [] => []
  | answer :: queue =>
    match answer.outcome with
    | .ok _ => answer :: throughError queue
    | .error _ => [answer]

/-- What the answers taken make of a batch: their replies, if there is one for each command. -/
def collected (count : Nat) (taken : List Canned) : Except Error (List Reply) := do
  let replies ← taken.mapM Canned.outcome
  if replies.length = count then .ok replies else .error .closed

section Answer

variable {answer : Canned} {reply : Reply} {e : Error} {count : Nat} {taken : List Canned}

theorem throughError_cons_of_ok (h : answer.outcome = .ok reply) (queue : List Canned) :
    throughError (answer :: queue) = answer :: throughError queue := by
  rw [throughError, h]

theorem throughError_cons_of_error (h : answer.outcome = .error e) (queue : List Canned) :
    throughError (answer :: queue) = [answer] := by
  rw [throughError, h]

theorem collected_cons_of_ok (h : answer.outcome = .ok reply) :
    collected (count + 1) (answer :: taken) = (collected count taken).map (reply :: ·) := by
  rw [collected, collected, List.mapM_cons, h, ok_bind]
  cases taken.mapM Canned.outcome with
  | error e => rfl
  | ok replies =>
      -- one reply more is what one command more needs
      show (if replies.length + 1 = count + 1 then _ else _) = Except.map _ (if _ then _ else _)
      by_cases hlength : replies.length = count
      · rw [if_pos hlength, if_pos (congrArg Nat.succ hlength)]
        rfl
      · rw [if_neg hlength, if_neg (mt Nat.succ.inj hlength)]
        rfl

theorem collected_cons_of_error (h : answer.outcome = .error e) :
    collected count (answer :: taken) = .error e := by
  rw [collected, List.mapM_cons, h]
  rfl

/-- The answers of a batch are the front of the queue. -/
theorem throughError_append_drop (count : Nat) (queue : List Canned) :
    throughError (queue.take count) ++ queue.drop (throughError (queue.take count)).length =
      queue := by
  induction queue generalizing count with
  | nil =>
      rw [List.take_nil]
      rfl
  | cons answer queue ih =>
      cases count with
      | zero => rfl
      | succ count =>
          rw [List.take_succ_cons]
          cases h : answer.outcome with
          | ok reply =>
              rw [throughError_cons_of_ok h, List.length_cons, List.drop_succ_cons,
                List.cons_append, ih count]
          | error e =>
              rw [throughError_cons_of_error h]
              rfl

end Answer

/-- A batch takes one answer for each command, up to the first that brings no reply. -/
theorem nextMany_eq (count : Nat) (script : Script) :
    let taken := throughError (script.canned.take count)
    nextMany count script =
      (collected count taken, { script with canned := script.canned.drop taken.length }) := by
  rcases script with ⟨canned, sent, pending, refusing, batchTake⟩
  induction count generalizing canned with
  | zero => rfl
  | succ count ih =>
      cases canned with
      | nil => rfl
      | cons answer queue =>
          -- an error ends the batch, and its answer is the last one taken
          cases houtcome : answer.outcome with
          | error e =>
              simp only [nextMany, next, houtcome, List.take_succ_cons,
                throughError_cons_of_error houtcome, collected_cons_of_error houtcome]
              rfl
          | ok reply =>
              simp only [nextMany, next, houtcome, ih queue, List.take_succ_cons,
                throughError_cons_of_ok houtcome, collected_cons_of_ok houtcome, List.length_cons,
                List.drop_succ_cons]
              cases collected count (throughError (queue.take count)) with
              | error e => rfl
              | ok replies => rfl

/-- Each handler with the answer at its place in the queue. -/
def answered (handlers : List Handler) (queue : List Canned) : List Delivery :=
  handlers.mapIdx fun place handler => handler.delivery queue[place]?

theorem answered_cons (handler : Handler) (handlers : List Handler) (queue : List Canned) :
    answered (handler :: handlers) queue =
      handler.delivery queue.head? :: answered handlers queue.tail := by
  simp only [answered, List.mapIdx_cons, List.getElem?_tail, List.head?_eq_getElem?]

theorem map_handler_answered (handlers : List Handler) (queue : List Canned) :
    (answered handlers queue).map Delivery.handler = handlers := by
  induction handlers generalizing queue with
  | nil => rfl
  | cons handler handlers ih => rw [answered_cons, List.map_cons, ih, Handler.delivery]

theorem deliver_eq (handlers : List Handler) (script : Script) :
    deliver handlers script =
      (answered handlers script.canned,
        { script with canned := script.canned.drop handlers.length }) := by
  induction handlers generalizing script with
  | nil => rfl
  | cons handler handlers ih =>
      -- the other handlers are answered from what the first one left
      rw [deliver, next_eq]
      simp only [ih, answered_cons, List.length_cons, List.drop_tail]
      rfl

theorem flush_eq (script : Script) :
    script.flush = (answered script.pending script.canned,
      { script with canned := script.canned.drop script.pending.length, pending := [] }) := by
  rw [flush, deliver_eq]

end Script

/-! ## Commands -/

section Commands

variable {σ : Type} {s : Shape} {command : Command} {octets : Bytes} {e : Error}
  {revision : Revision} {script : Script}

theorem Transport.issue_of_error (transport : Transport σ) (state : σ)
    (h : command.encode = .error e) : transport.issue s command state = (.error e, state) := by
  rw [issue, h]

theorem Transport.issueWith_of_error (transport : Transport σ) (ticket : Nat) (state : σ)
    (h : command.encode = .error e) :
    transport.issueWith s command ticket state = (.error e, state) := by
  rw [issueWith, h]

namespace Script

theorem issue_of_ok (h : command.encode = .ok octets) :
    (transport revision).issue s command script =
      (Canned.due script.canned.head? >>= Response.ofReply revision s,
        { script with sent := script.sent ++ [octets], canned := script.canned.tail }) := by
  simp only [Transport.issue, h, transport, next_eq, canned_record]
  cases Canned.due script.canned.head? with
  | error e => rfl
  | ok reply => rfl

/-- A batch that is sent takes one answer for each command, unless another number is prescribed. -/
theorem execute_of_not_isEmpty {pipeline : Pipeline} (h : pipeline.isEmpty = false) :
    let count := script.batchTake.getD pipeline.length
    let taken := throughError (script.canned.take count)
    pipeline.execute (transport revision) script =
      (pipeline.settled (collected count taken),
        { script with
          sent := script.sent ++ [pipeline.buffer]
          canned := script.canned.drop taken.length }) := by
  intro count taken
  have hbatch : (transport revision).roundTripBatch pipeline.buffer pipeline.length script =
      (collected count taken,
        { script with
          sent := script.sent ++ [pipeline.buffer]
          canned := script.canned.drop taken.length }) :=
    nextMany_eq count (script.record pipeline.buffer)
  rw [Pipeline.execute_of_not_isEmpty _ _ _ h, hbatch]

theorem issueWith_of_ok (ticket : Nat) (h : command.encode = .ok octets)
    (haccepts : script.refusing = false) :
    (transport revision).issueWith s command ticket script =
      (.ok (), { script with
        sent := script.sent ++ [octets]
        pending := script.pending ++ [⟨revision, s, ticket⟩] }) := by
  rw [Transport.issueWith, h]
  exact if_neg (ne_true_of_eq_false haccepts)

theorem issueWith_of_refusing (ticket : Nat) (h : command.encode = .ok octets)
    (hrefuses : script.refusing = true) :
    (transport revision).issueWith s command ticket script = (.error .closed, script) := by
  simp only [Transport.issueWith, h, transport, hrefuses]
  rfl

end Script

end Commands

end RespClient
