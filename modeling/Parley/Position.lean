/-
  Parley.Position
  ───────────────
  **PLACES IN A SCRIPT AND STEPS AT THEM.**

  A `Step` is one visit to a line: where it is, why it runs, and the reply it
  was given.  The position after it can be asked for once only.
-/
import Parley.Fault
import Parley.Report

namespace Parley

/-- A line of a script. -/
structure Position where
  /-- The thread. -/
  thread : String
  /-- The line within the thread. -/
  index : Nat
  deriving DecidableEq, Repr

/-- A visit to a line. -/
structure Step where
  /-- The dialog. -/
  dialog : String
  /-- The line. -/
  position : Position
  /-- Why the line is visited. -/
  cause : Cause
  /-- What the user sent, if anything. -/
  given : Option String
  /-- Whether the position after it was asked for. -/
  continued : Bool := false
  deriving DecidableEq, Repr

namespace Step

/-- The reply: what the user sent, unless it is empty. -/
def reply (s : Step) : Option String := s.given.filter (· ≠ "")

/-- The position after the step, and the step with that noted; a second request
fails. -/
def next (s : Step) : Except Fault (Position × Step) :=
  if s.continued then
    .error (.continuationReused s.dialog s.position.thread s.position.index)
  else
    .ok ({ s.position with index := s.position.index + 1 }, { s with continued := true })

end Step

end Parley
