import RespClient.Proofs.Transport.Script
import RespClient.Session

/-!
# The steps of a session

`Effect` says all that one step can do: the outcome, the answers that it takes off the queue, and
the state of the transport after it. Every step has one of these effects (`Session.step_effect`),
and a run is a step after each beginning of the list of steps (`Session.run_getElem?`). What holds
of sessions follows by induction on the steps from a case analysis of effects.
-/

set_option autoImplicit false

namespace RespClient

/-- The command that a step encodes. -/
def Step.command? : Step → Option Command
  | .issue _ command => some command
  | .issueWith _ command _ => some command
  | .add command => some command
  | _ => none

/-- Does the step need no transport? -/
def Step.isLocal (pipeline : Pipeline) : Step → Bool
  | .add _ => true
  | .clear => true
  | .get _ _ => true
  | .execute _ => pipeline.isEmpty
  | _ => false

namespace Outcome

/-- The handlers that were answered, in order. -/
def handlers : Outcome → List Handler
  | .delivered deliveries => deliveries.map Delivery.handler
  | _ => []

/-- Was a handler kept? -/
def isKept : Outcome → Bool
  | .submitted (.ok ()) => true
  | _ => false

/-- The error of a step that failed. -/
def error? : Outcome → Option Error
  | .response _ (.error e) => some e
  | .submitted (.error e) => some e
  | .added (.error e) => some e
  | .executed (.error e) => some e
  | .decoded _ (.error e) => some e
  | _ => none

/-- A step that failed keeps and answers no handler. -/
theorem handlers_of_error {outcome : Outcome} {e : Error} (h : outcome.error? = some e) :
    outcome.isKept = false ∧ outcome.handlers = [] := by
  cases outcome with
  | submitted result =>
      cases result with
      | error e => exact ⟨rfl, rfl⟩
      | ok done => cases h
  | delivered deliveries => cases h
  | _ => exact ⟨rfl, rfl⟩

end Outcome

open Script

/-- No submission is refused, and no number of answers is prescribed. -/
structure Script.Ready (script : Script) : Prop where
  refusing_eq : script.refusing = false
  batchTake_eq : script.batchTake = none

/-- What a step can do: its outcome, the state of the transport after it, and the answers that it
takes off the queue. -/
inductive Effect (session : Session) : Step → Outcome → Script → List Canned → Prop
  /-- A command is sent, and the first answer is its reply. -/
  | issued {s : Shape} {command : Command} {octets : Bytes}
    (hencode : command.encode = .ok octets) :
    Effect session (.issue s command)
      (.response s
        (Canned.due session.script.canned.head? >>= Response.ofReply session.revision s))
      { session.script with
        sent := session.script.sent ++ [octets]
        canned := session.script.canned.tail }
      (session.script.canned.take 1)
  /-- A command is sent, and its handler is the last one kept. -/
  | kept {s : Shape} {command : Command} {octets : Bytes}
    (hencode : command.encode = .ok octets) :
    Effect session (.issueWith s command false) (.submitted (.ok ()))
      { session.script with
        sent := session.script.sent ++ [octets]
        pending := session.script.pending ++ [⟨session.revision, s, session.clock⟩] } []
  | refused {s : Shape} {command : Command} {octets : Bytes}
    (hencode : command.encode = .ok octets) :
    Effect session (.issueWith s command true) (.submitted (.error .closed)) session.script []
  /-- Each kept handler gets the answer at its place in the queue. -/
  | flushed : Effect session .flush
      (.delivered (answered session.script.pending session.script.canned))
      { session.script with
        canned := session.script.canned.drop session.script.pending.length, pending := [] }
      (session.script.canned.take session.script.pending.length)
  /-- The pipeline is sent, and takes answers up to the first that is no reply. -/
  | batched {take : Option Nat} {count : Nat} {taken : List Canned}
    (hsome : session.pipeline.isEmpty = false) (hcount : count = take.getD session.pipeline.length)
    (htaken : taken = throughError (session.script.canned.take count)) :
    Effect session (.execute take)
      (.executed (session.pipeline.settled (collected count taken)))
      { session.script with
        sent := session.script.sent ++ [session.pipeline.buffer]
        canned := session.script.canned.drop taken.length } taken
  /-- A command that does not encode does not reach the transport. -/
  | unsent {s : Step} {command : Command} {outcome : Outcome} {e : Error}
    (hcommand : s.command? = some command) (hencode : command.encode = .error e)
    (herror : outcome.error? = some e) : Effect session s outcome session.script []
  | idle {s : Step} {outcome : Outcome} (hlocal : s.isLocal session.pipeline = true)
    (hnone : outcome.handlers = []) (hnot : outcome.isKept = false) :
    Effect session s outcome session.script []

namespace Session

variable {session : Session} {s : Step} {command : Command} {e : Error}

/-- A command that does not encode changes nothing but the clock. -/
theorem step_of_error (hready : session.script.Ready) (hcommand : s.command? = some command)
    (hencode : command.encode = .error e) :
    (session.step s).1.error? = some e ∧
      (session.step s).2 = { session with clock := session.clock + 1 } := by
  rcases session with
    ⟨revision, ⟨canned, sent, pending, refusing, batchTake⟩, pipeline, last, clock⟩
  obtain ⟨rfl, rfl⟩ := hready
  cases s with
  | issue s command =>
      cases hcommand
      simp only [step, perform, Transport.issue_of_error _ _ hencode]
      exact ⟨rfl, trivial⟩
  | issueWith s command refused =>
      cases hcommand
      simp only [step, perform, Transport.issueWith_of_error _ _ _ hencode]
      exact ⟨rfl, trivial⟩
  | add command =>
      cases hcommand
      have hadd : (pipeline.add command).1 = .error e := by
        rw [Pipeline.add_fst, hencode]
        rfl
      simp only [step, perform, hadd, Pipeline.add_snd_of_error hadd]
      exact ⟨rfl, trivial⟩
  -- no other step has a command
  | _ => cases hcommand

theorem effect_of_error (hready : session.script.Ready) (hcommand : s.command? = some command)
    (hencode : command.encode = .error e) :
    Effect session s (session.step s).1 (session.step s).2.script [] := by
  obtain ⟨herror, hafter⟩ := step_of_error hready hcommand hencode
  rw [hafter]
  exact .unsent hcommand hencode herror

/-- Every step has one of the effects. -/
theorem step_effect (hready : session.script.Ready) (s : Step) :
    ∃ taken, Effect session s (session.step s).1 (session.step s).2.script taken := by
  rcases session with
    ⟨revision, ⟨canned, sent, pending, refusing, batchTake⟩, pipeline, last, clock⟩
  -- a step sets the two flags for itself only, so with both unset it puts them back
  obtain ⟨rfl, rfl⟩ := hready
  cases s with
  | issue s command =>
      cases hencode : command.encode with
      | error e => exact ⟨_, effect_of_error ⟨rfl, rfl⟩ rfl hencode⟩
      | ok octets =>
          simp only [step, perform, transport, Script.issue_of_ok hencode]
          exact ⟨_, .issued hencode⟩
  | issueWith s command refused =>
      cases hencode : command.encode with
      | error e => exact ⟨_, effect_of_error ⟨rfl, rfl⟩ rfl hencode⟩
      | ok octets =>
          cases refused with
          | false =>
              simp only [step, perform, transport, Script.issueWith_of_ok _ hencode]
              exact ⟨_, .kept hencode⟩
          | true =>
              simp only [step, perform, transport, Script.issueWith_of_refusing _ hencode]
              exact ⟨_, .refused hencode⟩
  | flush =>
      simp only [step, perform, Script.flush_eq]
      exact ⟨_, .flushed⟩
  | add command => exact ⟨[], .idle rfl rfl rfl⟩
  | clear => exact ⟨[], .idle rfl rfl rfl⟩
  | execute take =>
      cases hempty : pipeline.isEmpty with
      | true =>
          simp only [step, perform, Pipeline.execute_of_isEmpty _ _ _ hempty]
          exact ⟨[], .idle hempty rfl rfl⟩
      | false =>
          simp only [step, perform, transport, Script.execute_of_not_isEmpty hempty]
          exact ⟨_, .batched hempty rfl rfl⟩
  | get index s => exact ⟨[], .idle rfl rfl rfl⟩

end Session

namespace Effect

variable {session : Session} {s : Step} {outcome : Outcome} {script : Script} {taken : List Canned}

theorem ready (h : Effect session s outcome script taken) (hready : session.script.Ready) :
    script.Ready := by
  cases h with
  | _ => exact ⟨hready.refusing_eq, hready.batchTake_eq⟩

/-- The answers taken are the front of the queue, and the others stay. -/
theorem canned_eq (h : Effect session s outcome script taken) :
    session.script.canned = taken ++ script.canned := by
  cases h with
  | issued hencode =>
      cases session.script.canned with
      | nil => rfl
      | cons answer queue => rfl
  | flushed => exact (List.take_append_drop _ _).symm
  | batched hsome hcount htaken =>
      rw [htaken]
      exact (throughError_append_drop _ _).symm
  | _ => rfl

/-- A step answers all kept handlers, keeps one more, or leaves them. -/
theorem handlers_cases (h : Effect session s outcome script taken) :
    (s = .flush ∧ outcome.isKept = false ∧ outcome.handlers = session.script.pending ∧
        script.pending = []) ∨
      (∃ shape command, s = .issueWith shape command false ∧ outcome = .submitted (.ok ()) ∧
        script.pending =
          session.script.pending ++ [⟨session.revision, shape, session.clock⟩]) ∨
      (s ≠ .flush ∧ outcome.isKept = false ∧ outcome.handlers = [] ∧
        script.pending = session.script.pending) := by
  cases h with
  | flushed => exact .inl ⟨rfl, rfl, map_handler_answered _ _, rfl⟩
  | kept hencode => exact .inr (.inl ⟨_, _, rfl, rfl, rfl⟩)
  | issued hencode => exact .inr (.inr ⟨nofun, rfl, rfl, rfl⟩)
  | refused hencode => exact .inr (.inr ⟨nofun, rfl, rfl, rfl⟩)
  | batched hsome hcount htaken => exact .inr (.inr ⟨nofun, rfl, rfl, rfl⟩)
  | unsent hcommand hencode herror =>
      obtain ⟨hkept, hnone⟩ := Outcome.handlers_of_error herror
      refine .inr (.inr ⟨?_, hkept, hnone, rfl⟩)
      rintro rfl
      cases hcommand
  | idle hlocal hnone hnot =>
      refine .inr (.inr ⟨?_, hnot, hnone, rfl⟩)
      rintro rfl
      cases hlocal

end Effect

namespace Session

/-! ## Runs -/

/-- The session after some steps. -/
def after (session : Session) (steps : List Step) : Session :=
  steps.foldl (fun session s => (session.step s).2) session

variable {session : Session} {steps : List Step} {s : Step} {n : Nat}

theorem run_cons (session : Session) (s : Step) (steps : List Step) :
    run session (s :: steps) = session.step s :: run (session.step s).2 steps := rfl

theorem after_cons (session : Session) (s : Step) (steps : List Step) :
    session.after (s :: steps) = (session.step s).2.after steps := rfl

/-- A run is a step after each beginning of the steps. -/
theorem run_getElem? (session : Session) (steps : List Step) (n : Nat) :
    (run session steps)[n]? = steps[n]?.map (session.after (steps.take n)).step := by
  induction steps generalizing session n with
  | nil => rfl
  | cons s steps ih =>
      cases n with
      | zero => rfl
      | succ n => exact ih (session.step s).2 n

theorem run_getElem?_eq_some_iff {outcome : Outcome} {last : Session} :
    (run session steps)[n]? = some (outcome, last) ↔
      ∃ s, steps[n]? = some s ∧ (session.after (steps.take n)).step s = (outcome, last) := by
  rw [run_getElem?, Option.map_eq_some_iff]

theorem after_take_succ (session : Session) (h : steps[n]? = some s) :
    session.after (steps.take (n + 1)) = ((session.after (steps.take n)).step s).2 := by
  rw [List.take_add_one, h, Option.toList_some, after, List.foldl_concat]
  rfl

theorem clock_after (session : Session) (steps : List Step) :
    (session.after steps).clock = session.clock + steps.length := by
  induction steps generalizing session with
  | nil => rfl
  | cons s steps ih =>
      rw [List.length_cons, Nat.add_comm steps.length, ← Nat.add_assoc, after_cons, ih]
      rfl

theorem revision_after (session : Session) (steps : List Step) :
    (session.after steps).revision = session.revision := by
  induction steps generalizing session with
  | nil => rfl
  | cons s steps ih =>
      rw [after_cons, ih]
      cases s with
      | _ => rfl

theorem ready_step (hready : session.script.Ready) (s : Step) :
    (session.step s).2.script.Ready := by
  obtain ⟨taken, heffect⟩ := step_effect hready s
  exact heffect.ready hready

theorem ready_after (hready : session.script.Ready) (steps : List Step) :
    (session.after steps).script.Ready := by
  induction steps generalizing session with
  | nil => exact hready
  | cons s steps ih =>
      rw [after_cons]
      exact ih (ready_step hready s)

/-- The answers that the steps of a run take are the front of the queue, in order. -/
theorem effects_of_run (hready : session.script.Ready) (steps : List Step) :
    ∃ takens : List (List Canned), takens.length = steps.length ∧
      session.script.canned = takens.flatten ++ (session.after steps).script.canned ∧
      ∀ n s outcome last, steps[n]? = some s → (run session steps)[n]? = some (outcome, last) →
        ∃ taken, takens[n]? = some taken ∧
          Effect (session.after (steps.take n)) s outcome last.script taken := by
  induction steps generalizing session with
  | nil =>
      refine ⟨[], rfl, rfl, fun n s outcome last hs => ?_⟩
      rw [List.getElem?_nil] at hs
      cases hs
  | cons s steps ih =>
      obtain ⟨taken, heffect⟩ := step_effect hready s
      obtain ⟨takens, hlength, hcanned, heffects⟩ := ih (ready_step hready s)
      refine ⟨taken :: takens, congrArg Nat.succ hlength, ?_, ?_⟩
      · rw [heffect.canned_eq, hcanned, List.flatten_cons, List.append_assoc, after_cons]
      · intro n t outcome last ht hrun
        cases n with
        | zero =>
            cases ht
            cases hrun
            exact ⟨taken, rfl, heffect⟩
        | succ n =>
            rw [run_cons, List.getElem?_cons_succ] at hrun
            rw [List.take_succ_cons, after_cons]
            exact heffects n t outcome last ht hrun

end Session

end RespClient
