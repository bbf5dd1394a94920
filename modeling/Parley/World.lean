/-
  Parley.World
  ────────────
  **WHAT A TURN CALLS ON, AND THE RECORD OF IT.**

  Everything outside a dialog (the host that delivers messages, and the
  callbacks of its author) is a `World`: functions on a state of any type `σ`
  that answer or fail.  Nothing is assumed of them.

  A turn is an `Act`.  Run in an environment it gives an answer or a fault, the
  environment it leaves, and the events of the turn in order.  The environment
  has the state of the world, the random words to come, and the progress that
  is saved for the next turn; a fault undoes none of them.
-/
import Parley.Handle
import Parley.Progress
import Parley.Variants

namespace Parley

/-! ## §1. Worlds. -/

/-- The host and the callbacks of a dialog, over a state `σ`; callbacks are
known by values of `H`. -/
structure World (σ H : Type) where
  /-- Deliver a message. -/
  send : Message → σ → Except Fault Unit × σ
  /-- Start the prompt of a name with a message. -/
  prompt : String → Message → σ → Except Fault Unit × σ
  /-- Make a session for callbacks. -/
  spawn : σ → Except Fault Session × σ
  /-- End the dialog, with what its last reply was. -/
  finish : Option String → σ → Except Fault Unit × σ
  /-- Replace the dialog by another, begun with options. -/
  handOver : String → Values → σ → Except Fault Unit × σ
  /-- Call back at the entry of a thread. -/
  atEntry : H → Handle → Session → σ → Except Fault Handle × σ
  /-- Call back about a reply: after it was put into a variable, or to decide
  what follows. -/
  atReply : H → String → Handle → Session → σ → Except Fault Handle × σ
  /-- Call back at the end, with the final variables. -/
  atEnd : H → Values → Session → σ → Except Fault Unit × σ

/-! ## §2. Events. -/

/-- What happens in a turn.  Calls tell whether they succeeded. -/
inductive Event (H : Type) where
  /-- A position is resolved. -/
  | reached (position : Position)
  /-- The reply to a question is put into a variable. -/
  | captured (question : Position) (key reply : String)
  /-- The branches of a question are tried on its reply. -/
  | offered (question : Position) (reply : String)
  /-- A message is sent. -/
  | sent (message : Message) (ok : Bool)
  /-- A question is asked through a prompt. -/
  | prompted (question : Position) (prompt : String) (message : Message) (ok : Bool)
  /-- A session is made. -/
  | spawned (ok : Bool)
  /-- A callback for the entry of a thread runs. -/
  | entryCall (callback : H) (handle : Handle) (ok : Bool)
  /-- A callback for a changed variable runs. -/
  | changeCall (callback : H) (reply : String) (handle : Handle) (ok : Bool)
  /-- The callback of a branch runs. -/
  | branchCall (callback : H) (reply : String) (handle : Handle) (ok : Bool)
  /-- A callback for the end runs. -/
  | endCall (callback : H) (values : Values) (ok : Bool)
  /-- The dialog is ended. -/
  | finished (result : Option String) (ok : Bool)
  /-- The dialog is replaced. -/
  | handedOver (script : String) (options : Values) (ok : Bool)

/-! ## §3. Acts. -/

/-- What surrounds a turn. -/
structure Env (σ : Type) where
  /-- The state of the world. -/
  world : σ
  /-- The random words to come. -/
  words : Words
  /-- The progress saved for the next turn. -/
  saved : Progress

/-- What came of an act. -/
structure Outcome (σ H α : Type) where
  /-- Its answer, or why it failed. -/
  result : Except Fault α
  /-- The environment it left. -/
  env : Env σ
  /-- What happened, in order. -/
  events : List (Event H)

/-- Something done in an environment. -/
def Act (σ H α : Type) : Type := Env σ → Outcome σ H α

namespace Act

variable {σ H α β : Type}

/-- Answer without doing anything. -/
def answer (a : α) : Act σ H α := fun env => ⟨.ok a, env, []⟩

/-- Fail without doing anything. -/
def fail (fault : Fault) : Act σ H α := fun env => ⟨.error fault, env, []⟩

/-- Do one act and then another that depends on its answer; a fault ends
both. -/
def andThen (act : Act σ H α) (next : α → Act σ H β) : Act σ H β := fun env =>
  match act env with
  | ⟨.error fault, env, events⟩ => ⟨.error fault, env, events⟩
  | ⟨.ok a, env, events⟩ =>
    let last := next a env
    ⟨last.result, last.env, events ++ last.events⟩

instance : Monad (Act σ H) where
  pure := answer
  bind := andThen

/-- Do an act and answer how it went. -/
def attempt (act : Act σ H α) : Act σ H (Except Fault α) := fun env =>
  let done := act env
  ⟨.ok done.result, done.env, done.events⟩

/-- Answer or fail as given. -/
def ofExcept : Except Fault α → Act σ H α
  | .ok a => answer a
  | .error fault => fail fault

/-- Note an event. -/
def note (event : Event H) : Act σ H Unit := fun env => ⟨.ok (), env, [event]⟩

/-- Whether a result is no fault. -/
def succeeded : Except Fault α → Bool
  | .ok _ => true
  | .error _ => false

/-- Call on the world and note how it went. -/
def call (event : Bool → Event H) (op : σ → Except Fault α × σ) : Act σ H α := fun env =>
  let (result, world) := op env.world
  ⟨result, { env with world }, [event (succeeded result)]⟩

/-- The saved progress. -/
def saved : Act σ H Progress := fun env => ⟨.ok env.saved, env, []⟩

/-- Save progress. -/
def save (progress : Progress) : Act σ H Unit := fun env =>
  ⟨.ok (), { env with saved := progress }, []⟩

/-- Save variables, and nothing else. -/
def saveValues (values : Values) : Act σ H Unit := fun env =>
  ⟨.ok (), { env with saved := { env.saved with values } }, []⟩

/-- Make a message of a draft, drawing words for the choice of its text. -/
def render (draft : Draft) (values : Values) : Act σ H Message := fun env =>
  let (message, words) := draft.render values env.words
  ⟨.ok message, { env with words }, []⟩

end Act

end Parley
