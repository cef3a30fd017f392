import Mathlib.Data.List.DropRight
import RespClient.Pipeline
import RespClient.Proofs.Reply.Acceptance
import RespClient.Proofs.Reply.Stream
import RespClient.Proofs.Request.Command
import RespClient.Transport.Script

/-!
# Pipelines queue whole commands and send them at once

Whatever is added to a pipeline and cleared from it, it holds the wire forms of the commands that
were added since it was last cleared and that encode, in order, and their number (`Holds.run`). A
server that reads these octets finds these commands and nothing else (`drains_encodeItems`). A
pipeline with commands calls its transport once, with these octets and this number, and an empty one
does not call it (`executes`). The main result, `queued_and_sent`, puts these together.
-/

set_option autoImplicit false

namespace RespClient

/-! ## Calls of a transport -/

/-- A call of a transport. -/
inductive Call where
  | roundTrip (request : Bytes)
  | roundTripBatch (requests : Bytes) (count : Nat)
  | submit (request : Bytes) (handler : Handler)

/-- The transport with a record of its calls. -/
def Transport.recorded {σ : Type} (transport : Transport σ) : Transport (σ × List Call) where
  revision := transport.revision
  roundTrip request state :=
    let (outcome, after) := transport.roundTrip request state.1
    (outcome, after, state.2 ++ [.roundTrip request])
  roundTripBatch requests count state :=
    let (outcome, after) := transport.roundTripBatch requests count state.1
    (outcome, after, state.2 ++ [.roundTripBatch requests count])
  submit request handler state :=
    let (outcome, after) := transport.submit request handler state.1
    (outcome, after, state.2 ++ [.submit request handler])

namespace Pipeline

/-! ## Additions and clearings -/

/-- What is asked of a pipeline before it is sent. -/
inductive Edit where
  | add (command : Command)
  | clear

/-- The pipeline after an edit, which changes nothing if its command does not encode. -/
def apply (pipeline : Pipeline) : Edit → Pipeline
  | .add command => (pipeline.add command).2
  | .clear => pipeline.clear

/-- A new pipeline after some edits. -/
def edited (edits : List Edit) : Pipeline := edits.foldl apply {}

def Edit.isAdd : Edit → Bool
  | .add _ => true
  | .clear => false

/-- The command that an edit adds, if it encodes. -/
def Edit.command? : Edit → Option Command
  | .add command => if command.encode.isOk then some command else none
  | .clear => none

/-- The commands that encode among those added since the last clearing. -/
def queued (edits : List Edit) : List Command :=
  (edits.rtakeWhile Edit.isAdd).filterMap Edit.command?

theorem edited_concat (edits : List Edit) (edit : Edit) :
    edited (edits ++ [edit]) = (edited edits).apply edit :=
  List.foldl_concat apply {} edit edits

theorem queued_concat_clear (edits : List Edit) : queued (edits ++ [.clear]) = [] := by
  rw [queued, List.rtakeWhile_concat_neg _ _ _ Bool.false_ne_true]
  rfl

theorem queued_concat_add (edits : List Edit) (command : Command) :
    queued (edits ++ [.add command]) =
      queued edits ++ if command.encode.isOk then [command] else [] := by
  rw [queued, List.rtakeWhile_concat_pos _ _ _ rfl, List.filterMap_append, queued]
  cases hok : command.encode.isOk with
  | true => simp [Edit.command?, hok]
  | false => simp [Edit.command?, hok]

/-- The pipeline holds the wire forms of the commands, one after the other, and their number. The
requests are those of the commands. -/
structure Holds (pipeline : Pipeline) (commands : List Command) (requests : List Request) :
    Prop where
  toRequest_eq : commands.map Command.toRequest = requests.map .ok
  encode_eq : commands.map Command.encode = requests.map fun request => .ok request.encode
  buffer_eq : pipeline.buffer = (requests.map Request.encode).flatten
  length_eq : pipeline.length = commands.length

variable {pipeline : Pipeline} {commands : List Command} {requests : List Request}
  {command : Command} {request : Request} {e : Error}

theorem add_of_ok (pipeline : Pipeline) (h : command.toRequest = .ok request) :
    pipeline.add command = (.ok (), ⟨pipeline.buffer ++ request.encode, pipeline.count + 1⟩) := by
  simp only [add, Command.appendTo_of_ok h]

theorem add_of_error (pipeline : Pipeline) (h : command.toRequest = .error e) :
    pipeline.add command = (.error e, pipeline) := by
  simp only [add, Command.appendTo_of_error h]

namespace Holds

theorem empty : Holds {} [] [] := ⟨rfl, rfl, rfl, rfl⟩

theorem concat (h : Holds pipeline commands requests) (hrequest : command.toRequest = .ok request) :
    Holds ⟨pipeline.buffer ++ request.encode, pipeline.count + 1⟩ (commands ++ [command])
      (requests ++ [request]) := by
  have hencode : command.encode = .ok request.encode := Command.encode_of_ok hrequest
  have hlength : pipeline.count = commands.length := h.length_eq
  constructor
  · simp [h.toRequest_eq, hrequest]
  · simp [h.encode_eq, hencode]
  · simp [h.buffer_eq]
  · simp [length, hlength]

/-- An edit keeps the pipeline in step with its commands. -/
theorem step {edits : List Edit} (h : Holds pipeline (queued edits) requests) (edit : Edit) :
    ∃ requests', Holds (pipeline.apply edit) (queued (edits ++ [edit])) requests' := by
  cases edit with
  | clear =>
      refine ⟨[], ?_⟩
      rw [queued_concat_clear]
      exact empty
  | add command =>
      rw [queued_concat_add, apply]
      -- the command is queued exactly if it has a request, and otherwise both sides stay
      cases hrequest : command.toRequest with
      | ok request =>
          refine ⟨requests ++ [request], ?_⟩
          rw [add_of_ok pipeline hrequest, Command.encode_of_ok hrequest]
          exact h.concat hrequest
      | error e =>
          refine ⟨requests, ?_⟩
          rw [add_of_error pipeline hrequest, Command.encode_of_error hrequest]
          simpa [Except.isOk, Except.toBool] using h

/-- Whatever is added and cleared, a pipeline holds the commands that were added since. -/
theorem run (edits : List Edit) : ∃ requests, Holds (edited edits) (queued edits) requests := by
  -- edits are added at the end, since the last clearing decides
  induction edits using List.reverseRecOn with
  | nil => exact ⟨[], empty⟩
  | append_singleton edits edit ih =>
      obtain ⟨requests, h⟩ := ih
      rw [edited_concat]
      exact h.step edit

end Holds

/-! ## What a server reads -/

/-- The limits admit the request: its array of bulk strings has signed 64-bit lengths, as on every
wire, and is within the limits. -/
def Admits (limits : Limits) (request : Request) : Prop :=
  (Reply.bulkArray request.args).Framable ∧ (Reply.bulkArray request.args).Within limits

/-- A round on wire forms one after the other reads every reply, and no octet is left. -/
theorem drains_encodeItems {limits : Limits} {replies : List Reply}
    (h : ∀ r ∈ replies, r.Framable ∧ r.Within limits) :
    Drains limits (Reply.encodeItems replies) replies none [] := by
  induction replies with
  | nil => exact .empty
  | cons r replies ih =>
      obtain ⟨⟨hframable, hwithin⟩, hreplies⟩ := List.forall_mem_cons.1 h
      have hframe : Reply.Derives r.encode r := Reply.derives_encode r hframable
      -- a frame is read whatever follows, here the wire forms of the other replies
      have hparse := (Reply.gated_parse hframe (Reply.encodeItems replies)).eq_ok hwithin
      have hne : r.encode ≠ [] := List.ne_nil_of_length_pos hframe.length_pos
      refine .reply (List.append_ne_nil_of_left_ne_nil hne _) hparse ?_
      rw [Reply.encodeItems, List.drop_left]
      exact ih hreplies

theorem encodeItems_bulkArray (requests : List Request) :
    Reply.encodeItems (requests.map fun request => .bulkArray request.args) =
      (requests.map Request.encode).flatten := by
  induction requests with
  | nil => rfl
  | cons request requests ih =>
      rw [List.map_cons, Reply.encodeItems, ih, List.map_cons, List.flatten_cons,
        Request.encode_eq]

/-- The octets of a pipeline are read as its commands, in order, and no octet is left. -/
theorem Holds.readAll_buffer {limits : Limits} (h : Holds pipeline commands requests)
    (hadmits : ∀ request ∈ requests, Admits limits request) :
    readAll limits pipeline.buffer.length pipeline.buffer =
      (requests.map fun request => .bulkArray request.args, none, []) := by
  have hdrains := drains_encodeItems (List.forall_mem_map.2 hadmits)
  rw [encodeItems_bulkArray, ← h.buffer_eq] at hdrains
  have hread := drains_readAll limits _ pipeline.buffer (Nat.le_refl _)
  -- a round has one outcome, so the reader gives what the wire forms are read as
  obtain ⟨hreplies, hstop, hleft⟩ := hread.unique hdrains
  exact Prod.ext hreplies (Prod.ext hstop hleft)

/-! ## Sending -/

/-- How a pipeline is sent over a transport in some state. -/
structure Executes {σ : Type} (pipeline : Pipeline) (transport : Transport σ) (state : σ) :
    Prop where
  /-- An empty pipeline makes no call. -/
  of_isEmpty : pipeline.isEmpty = true → ∀ calls,
    pipeline.execute transport.recorded (state, calls) = (.ok (.ofReplies []), state, calls)
  /-- Any other makes one call, with its octets and its number of commands. -/
  calls_eq : pipeline.isEmpty = false → ∀ calls,
    (pipeline.execute transport.recorded (state, calls)).2 =
      ((transport.roundTripBatch pipeline.buffer pipeline.length state).2,
        calls ++ [.roundTripBatch pipeline.buffer pipeline.length])
  /-- It succeeds when each command got a reply, and keeps the replies as they came. -/
  ok_iff : pipeline.isEmpty = false → ∀ result,
    (pipeline.execute transport state).1 = .ok result ↔
      (transport.roundTripBatch pipeline.buffer pipeline.length state).1 = .ok result.replies ∧
        result.replies.length = pipeline.length ∧ result = .ofReplies result.replies
  /-- An error of the transport is its error. -/
  eq_error : pipeline.isEmpty = false → ∀ e,
    (transport.roundTripBatch pipeline.buffer pipeline.length state).1 = .error e →
      (pipeline.execute transport state).1 = .error e
  /-- Another number of replies is an error that names both numbers. -/
  eq_batchLength : pipeline.isEmpty = false → ∀ replies,
    (transport.roundTripBatch pipeline.buffer pipeline.length state).1 = .ok replies →
      replies.length ≠ pipeline.length → (pipeline.execute transport state).1 =
        .error (.malformed (.batchLength pipeline.length replies.length))
  /-- The record changes nothing. -/
  recorded_eq : ∀ calls, (pipeline.execute transport.recorded (state, calls)).1 =
    (pipeline.execute transport state).1

section Sending

variable {σ : Type} (pipeline : Pipeline) (transport : Transport σ) (state : σ)

theorem execute_of_isEmpty (h : pipeline.isEmpty = true) :
    pipeline.execute transport state = (.ok (.ofReplies []), state) := if_pos h

/-- What an answer to a batch makes of it. -/
def settled (pipeline : Pipeline) (answer : Except Error (List Reply)) :
    Except Error BatchResult := do
  let replies ← answer
  if replies.length = pipeline.length then .ok (.ofReplies replies)
  else .error (.malformed (.batchLength pipeline.length replies.length))

/-- A pipeline with commands asks the transport once, and settles what comes back. -/
theorem execute_of_not_isEmpty (h : pipeline.isEmpty = false) :
    pipeline.execute transport state =
      (pipeline.settled (transport.roundTripBatch pipeline.buffer pipeline.length state).1,
        (transport.roundTripBatch pipeline.buffer pipeline.length state).2) := by
  rw [execute, if_neg (by simp [h]), settled, length]
  rcases transport.roundTripBatch pipeline.buffer pipeline.count state with ⟨answer, after⟩
  cases answer with
  | error e => rfl
  | ok replies =>
      by_cases hlength : replies.length = pipeline.count
      · simp [hlength]
      · simp [hlength]

theorem settled_eq_ok_iff {answer : Except Error (List Reply)} {result : BatchResult} :
    pipeline.settled answer = .ok result ↔
      answer = .ok result.replies ∧ result.replies.length = pipeline.length ∧
        result = .ofReplies result.replies := by
  rw [settled, bind_eq_ok_iff]
  constructor
  · rintro ⟨replies, rfl, hsettled⟩
    split at hsettled
    · next hlength =>
        cases hsettled
        exact ⟨rfl, hlength, rfl⟩
    · cases hsettled
  · rintro ⟨hanswer, hlength, hresult⟩
    exact ⟨result.replies, hanswer, by rw [if_pos hlength, ← hresult]⟩

theorem executes : Executes pipeline transport state where
  of_isEmpty h calls := execute_of_isEmpty pipeline transport.recorded (state, calls) h
  calls_eq h calls := by rw [execute_of_not_isEmpty pipeline _ _ h]; rfl
  ok_iff h result := by
    rw [execute_of_not_isEmpty pipeline _ _ h]
    exact settled_eq_ok_iff pipeline
  eq_error h e he := by
    rw [execute_of_not_isEmpty pipeline _ _ h]
    show pipeline.settled _ = _
    rw [he]
    rfl
  eq_batchLength h replies hreplies hlength := by
    rw [execute_of_not_isEmpty pipeline _ _ h]
    show pipeline.settled _ = _
    rw [hreplies, settled, ok_bind, if_neg hlength]
  recorded_eq calls := by
    cases h : pipeline.isEmpty with
    | true => rw [execute_of_isEmpty _ _ _ h, execute_of_isEmpty _ _ _ h]
    | false => rw [execute_of_not_isEmpty _ _ _ h, execute_of_not_isEmpty _ _ _ h]; rfl

end Sending

/-! ## Whole runs -/

theorem isEmpty_iff (pipeline : Pipeline) : pipeline.isEmpty = true ↔ pipeline.length = 0 :=
  decide_eq_true_iff

theorem add_fst (pipeline : Pipeline) (command : Command) :
    (pipeline.add command).1 = command.encode.map fun _ => () := by
  cases hrequest : command.toRequest with
  | ok request =>
      rw [add_of_ok pipeline hrequest, Command.encode_of_ok hrequest]
      rfl
  | error e =>
      rw [add_of_error pipeline hrequest, Command.encode_of_error hrequest]
      rfl

theorem add_snd_of_error {pipeline : Pipeline} {command : Command} {e : Error}
    (h : (pipeline.add command).1 = .error e) : (pipeline.add command).2 = pipeline := by
  cases hrequest : command.toRequest with
  | ok request =>
      rw [add_of_ok pipeline hrequest] at h
      cases h
  | error e' => rw [add_of_error pipeline hrequest]

/-- After any edits, a pipeline holds the wire forms and the number of the commands that were
added since it was last cleared and that encode, and under limits that admit each of them a server
reads all, in order. A command is added if it encodes, and otherwise changes nothing. Over every
transport, the pipeline is sent at once or, if it is empty, not at all. -/
theorem queued_and_sent (edits : List Edit) :
    (∃ requests, Holds (edited edits) (queued edits) requests ∧
      ∀ limits, (∀ request ∈ requests, Admits limits request) →
        readAll limits (edited edits).buffer.length (edited edits).buffer =
          (requests.map fun request => .bulkArray request.args, none, [])) ∧
    ((edited edits).isEmpty = true ↔ (edited edits).length = 0) ∧
    (∀ command, ((edited edits).add command).1 = command.encode.map fun _ => ()) ∧
    (∀ command e, ((edited edits).add command).1 = .error e →
      ((edited edits).add command).2 = edited edits) ∧
    ∀ {σ : Type} (transport : Transport σ) (state : σ),
      Executes (edited edits) transport state := by
  obtain ⟨requests, hholds⟩ := Holds.run edits
  refine ⟨⟨requests, hholds, fun limits => hholds.readAll_buffer⟩, isEmpty_iff _, add_fst _,
    fun command e => add_snd_of_error, fun transport state => executes _ transport state⟩

/-- Two commands, of which the first one is added before a command that does not encode, after a
clearing; a batch that got one reply too many; and a pipeline that was cleared. -/
theorem queued_and_sent_after_clear :
    let get : Command := ⟨[71], [⟨1, [[107]]⟩]⟩
    let broken : Command := ⟨[71], [⟨2, [[107]]⟩]⟩
    let ping : Command := ⟨[80], []⟩
    let edits : List Edit := [.add ping, .clear, .add get, .add broken, .add ping]
    let script : Script := { canned := List.replicate 3 (.frame [43, 13, 10]), batchTake := some 3 }
    queued edits = [get, ping] ∧
      readAll {} (edited edits).buffer.length (edited edits).buffer =
        ([.bulkArray [[71], [107]], .bulkArray [[80]]], none, []) ∧
      ((edited edits).add broken).2 = edited edits ∧
      ((edited edits).execute (Script.transport .second) script).1 =
        .error (.malformed (.batchLength 2 3)) ∧
      (edited (edits ++ [.clear])).execute (Script.transport .second).recorded (script, []) =
        (.ok (.ofReplies []), script, []) := by
  intro get broken ping edits script
  obtain ⟨⟨requests, hholds, hread⟩, _, _, hadd, hexecutes⟩ := queued_and_sent edits
  have hrequests : requests = [⟨[[71], [107]]⟩, ⟨[[80]]⟩] :=
    List.map_injective_iff.2 (fun _ _ => Except.ok.inj) hholds.toRequest_eq.symm
  subst hrequests
  have hadmits : ∀ request ∈ ([⟨[[71], [107]]⟩, ⟨[[80]]⟩] : List Request), Admits {} request := by
    unfold Admits
    decide
  obtain ⟨_, _, _, _, hcleared⟩ := queued_and_sent (edits ++ [.clear])
  refine ⟨rfl, hread {} hadmits, hadd broken _ rfl, ?_, ?_⟩
  · exact (hexecutes (Script.transport .second) script).eq_batchLength rfl
      (List.replicate 3 (.simple [])) rfl (by decide)
  · exact (hcleared (Script.transport .second) script).of_isEmpty rfl []

end Pipeline

end RespClient
