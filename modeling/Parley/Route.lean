/-
  Parley.Route
  ────────────
  **WHERE A STEP LEADS.**

  A directive is turned into a route at the position where it stands.  A jump
  to a thread that does not exist is ignored.
-/
import Parley.Position
import Parley.Script

namespace Parley

/-- Where a step leads. -/
inductive Route where
  /-- On to the next line. -/
  | onward
  /-- To another position. -/
  | restart (target : Position)
  /-- Nowhere: a question was asked. -/
  | suspend
  /-- Nowhere: this line is run again on the next turn. -/
  | hold
  /-- To the end of the dialog. -/
  | finish (ending : Ending)
  /-- To another dialog. -/
  | handOver (script : String) (thread : Option String)
  deriving DecidableEq, Repr

/-- The route of a directive at a position. -/
def Directive.route {H : Type} (script : Script H) (here : Position) : Directive → Route
  | .next => .onward
  | .complete => .finish .completed
  | .stop => .finish .canceled
  | .timeout => .finish .timeout
  | .handOver script thread => .handOver script thread
  | .again => .restart { here with index := here.index - 1 }
  | .hold => .hold
  | .jump thread => if script.hasThread thread then .restart ⟨thread, 0⟩ else .onward

end Parley
