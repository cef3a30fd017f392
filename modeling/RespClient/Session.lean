import RespClient.Pipeline
import RespClient.Transport.Script

/-!
# Sessions

A session runs steps over a scripted transport: commands whose response is waited for,
commands with a handler, and a pipeline with the result of its last run. Steps are
numbered from zero, and the number of a step is the ticket of the handler it leaves.
-/

namespace RespClient

/-- One step of a session. -/
inductive Step where
  /-- A command whose response is waited for. -/
  | issue (s : Shape) (command : Command)
  /-- A command with a handler; the transport may refuse it. -/
  | issueWith (s : Shape) (command : Command) (refused : Bool)
  /-- Answers the handlers. -/
  | flush
  /-- Adds a command to the pipeline. -/
  | add (command : Command)
  /-- Empties the pipeline. -/
  | clear
  /-- Sends the pipeline; the batch may take another number of answers. -/
  | execute (take : Option Nat)
  /-- Decodes a reply of the last batch. -/
  | get (index : Nat) (s : Shape)

/-- What a step gave. -/
inductive Outcome where
  | response (s : Shape) (result : Except Error (Response s.Carrier))
  | submitted (result : Except Error Unit)
  | delivered (deliveries : List Delivery)
  /-- The length of the pipeline after an addition. -/
  | added (result : Except Error Nat)
  | cleared
  | executed (result : Except Error BatchResult)
  | decoded (s : Shape) (result : Except Error s.Carrier)

/-- The state of a session. -/
structure Session where
  revision : Revision
  script : Script
  pipeline : Pipeline := {}
  /-- The result of the last batch that was answered. -/
  last : BatchResult := {}
  /-- The number of the next step. -/
  clock : Nat := 0

/-- The result of decoding a reply of a batch. -/
def BatchResult.get (result : BatchResult) (revision : Revision) (s : Shape) (index : Nat) :
    Except Error s.Carrier := do
  s.decode revision (← result.reply index)

namespace Session

/-- The transport of a session. -/
def transport (session : Session) : Transport Script := Script.transport session.revision

/-- What a step does, the clock apart. -/
def perform (session : Session) : Step → Outcome × Session
  | .issue s command =>
    let (result, script) := session.transport.issue s command session.script
    (.response s result, { session with script := script })
  | .issueWith s command refused =>
    let (result, script) :=
      session.transport.issueWith s command session.clock
        { session.script with refusing := refused }
    (.submitted result, { session with script := { script with refusing := false } })
  | .flush =>
    let (deliveries, script) := session.script.flush
    (.delivered deliveries, { session with script := script })
  | .add command =>
    let (result, pipeline) := session.pipeline.add command
    (.added (result.map fun _ => pipeline.length), { session with pipeline := pipeline })
  | .clear => (.cleared, { session with pipeline := session.pipeline.clear })
  | .execute take =>
    let (result, script) :=
      session.pipeline.execute session.transport { session.script with batchTake := take }
    (.executed result,
      { session with
        script := { script with batchTake := none }
        last := result.toOption.getD session.last })
  | .get index s => (.decoded s (session.last.get session.revision s index), session)

/-- One step, after which the clock stands one further. -/
def step (session : Session) (s : Step) : Outcome × Session :=
  let (outcome, after) := session.perform s
  (outcome, { after with clock := session.clock + 1 })

/-- The outcomes of some steps, each with the state after it. -/
def run : Session → List Step → List (Outcome × Session)
  | _, [] => []
  | session, s :: steps =>
    let (outcome, session) := session.step s
    (outcome, session) :: run session steps

end Session

end RespClient
