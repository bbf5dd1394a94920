/-
  Parley.Stage
  ────────────
  **A WORLD TO TRY DIALOGS IN.**

  A `Stage` is a recorder for a host, routines for callbacks, and a plan of
  calls that fail before they reach the host.  Calls of one kind are numbered
  from zero within a turn.
-/
import Parley.Routine
import Parley.World

namespace Parley

/-- The kinds of calls on a host. -/
inductive HostCall where
  /-- Deliver a message. -/
  | send
  /-- Start a prompt. -/
  | prompt
  /-- Make a session. -/
  | spawn
  /-- End the dialog. -/
  | finish
  /-- Replace the dialog. -/
  | handOver
  deriving DecidableEq, Repr

/-- The state of a world to try dialogs in. -/
structure Stage where
  /-- What the host and the callbacks keep. -/
  ledger : Ledger
  /-- The calls that fail. -/
  plan : List (HostCall × Nat) := []
  /-- The calls made so far in this turn. -/
  made : List HostCall := []

namespace Stage

/-- A stage for a conversation. -/
def new (conversation : String) : Stage := { ledger := { recorder := { conversation } } }

/-- Start a turn with a plan of failures. -/
def startTurn (s : Stage) (plan : List (HostCall × Nat)) : Stage := { s with plan, made := [] }

/-- Register a prompt. -/
def register (s : Stage) (prompt : String) : Stage :=
  { s with ledger := { s.ledger with recorder := s.ledger.recorder.register prompt } }

/-- Count a call, and tell whether the plan lets it pass. -/
def pass (call : HostCall) (s : Stage) : Bool × Stage :=
  (!s.plan.contains (call, s.made.count call), { s with made := call :: s.made })

/-- A call that changes the recorder, unless the plan makes it fail. -/
def ask (call : HostCall) (planned : Fault) (op : Recorder → Except Fault Recorder)
    (s : Stage) : Except Fault Unit × Stage :=
  match pass call s with
  | (false, s) => (.error planned, s)
  | (true, s) =>
    match op s.ledger.recorder with
    | .ok recorder => (.ok (), { s with ledger := { s.ledger with recorder } })
    | .error fault => (.error fault, s)

/-- Run a routine. -/
def perform (routine : Routine) (reply : Option String) (handle : Handle) (session : Session)
    (s : Stage) : Except Fault Handle × Stage :=
  let (result, ledger) := routine.run reply handle session s.ledger
  (result, { s with ledger })

/-- Running a routine keeps to a relation that routines cannot leave. -/
theorem perform_closed {R : Handle → Handle → Prop} (hR : Routine.Closed R) {routine : Routine}
    {reply : Option String} {handle after : Handle} {session : Session} {s s' : Stage}
    (hperform : perform routine reply handle session s = (.ok after, s')) : R handle after := by
  unfold perform Routine.run at hperform
  rcases hrun : Routine.runCommands ⟨reply, session⟩ routine handle s.ledger with
    ⟨result, ledger⟩
  rw [hrun] at hperform
  cases hperform
  exact Routine.runCommands_closed hR _ _ _ _ hrun

/-- The stage as a world. -/
def world : World Stage Routine where
  send message := ask .send (.sendFailed "socket closed") fun r => .ok (r.send message)
  prompt name message :=
    ask .prompt (.promptFailed name "prompt broke") fun r => r.prompt name message
  spawn s :=
    match pass .spawn s with
    | (false, s) => (.error (.spawnFailed "no session"), s)
    | (true, s) => (.ok s.ledger.recorder.session, s)
  finish result :=
    ask .finish (.lifecycleFailed "end refused") fun r => .ok (r.finish result)
  handOver script options :=
    ask .handOver (.lifecycleFailed "replace refused") fun r => .ok (r.handOver script options)
  atEntry routine handle session := perform routine none handle session
  atReply routine reply handle session := perform routine (some reply) handle session
  atEnd routine values session s :=
    match perform routine none ⟨"", ⟨"", 0⟩, values⟩ session s with
    | (.ok _, s) => (.ok (), s)
    | (.error fault, s) => (.error fault, s)

end Stage

end Parley
