/-
  Parley.Report
  ─────────────
  **HOW DIALOGS AND TURNS END, AND WHY STEPS RUN.**

  Three closed lists of names (`Ending`, `Cause`, `Status`), each with its
  stored form, and the `Report` that a turn hands back.
-/
import Parley.Json.Record
import Parley.Values

namespace Parley

/-! ## §1. Endings. -/

/-- How a dialog that an order ended has ended. -/
inductive Ending where
  /-- The script was followed to its end. -/
  | completed
  /-- The script was broken off. -/
  | canceled
  /-- The user went quiet. -/
  | timeout
  deriving DecidableEq, Repr

namespace Ending

/-- The name of an ending. -/
def name : Ending → String
  | completed => "completed"
  | canceled => "canceled"
  | timeout => "timeout"

/-- The ending of a name. -/
def ofName? : String → Option Ending
  | "completed" => some .completed
  | "canceled" => some .canceled
  | "timeout" => some .timeout
  | _ => none

/-- What a reader looks at. -/
def shape : Shape := .plainVariants ["completed", "canceled", "timeout"]

/-- Read the stored form. -/
def ofJson? : Json → Option Ending := Json.plainVariant? ofName?

end Ending

/-! ## §2. Causes. -/

/-- Why a step runs. -/
inductive Cause where
  /-- The dialog was begun. -/
  | begun
  /-- The user replied. -/
  | continued
  /-- The turn moved on to it. -/
  | advanced
  /-- Another dialog handed over. -/
  | replaced
  deriving DecidableEq, Repr

namespace Cause

/-- The name of a cause. -/
def name : Cause → String
  | begun => "begin_called"
  | continued => "continue_called"
  | advanced => "next_called"
  | replaced => "replace_called"

/-- The cause of a name. -/
def ofName? : String → Option Cause
  | "begin_called" => some .begun
  | "continue_called" => some .continued
  | "next_called" => some .advanced
  | "replace_called" => some .replaced
  | _ => none

/-- What a reader looks at. -/
def shape : Shape :=
  .plainVariants ["begin_called", "continue_called", "next_called", "replace_called"]

/-- Read the stored form. -/
def ofJson? : Json → Option Cause := Json.plainVariant? ofName?

end Cause

/-! ## §3. Reports. -/

/-- What a turn came to. -/
inductive Status where
  /-- The dialog waits for the next turn. -/
  | waiting
  /-- The dialog has ended. -/
  | complete
  /-- The dialog was handed over to another. -/
  | replaced
  deriving DecidableEq, Repr

namespace Status

/-- The name of a status. -/
def name : Status → String
  | waiting => "waiting"
  | complete => "complete"
  | replaced => "replaced"

/-- The status of a name. -/
def ofName? : String → Option Status
  | "waiting" => some .waiting
  | "complete" => some .complete
  | "replaced" => some .replaced
  | _ => none

/-- What a reader looks at. -/
def shape : Shape := .plainVariants ["waiting", "complete", "replaced"]

/-- Read the stored form. -/
def ofJson? : Json → Option Status := Json.plainVariant? ofName?

end Status

/-- What a turn hands back. -/
structure Report where
  /-- What the turn came to. -/
  status : Status
  /-- The final variables of a dialog that ended. -/
  values : Option Values

namespace Report

/-- The dialog waits. -/
def waiting : Report := ⟨.waiting, none⟩

/-- The dialog ended with these variables. -/
def complete (values : Values) : Report := ⟨.complete, some values⟩

/-- The dialog was handed over. -/
def replaced : Report := ⟨.replaced, none⟩

/-- Whether the dialog still runs. -/
def isWaiting (r : Report) : Bool := r.status == .waiting

/-- The stored form. -/
def toJson (r : Report) : Json :=
  .object [("status", .string r.status.name), ("values", Json.ofOption Json.ofTable r.values)]

/-- The members of the stored form. -/
def members : Members := [("status", .required), ("values", .optional)]

/-- What a reader looks at. -/
def shape : Shape := .record [("status", Status.shape), ("values", .table .any)]

/-- Read the stored form. -/
def ofJson? (j : Json) : Option Report := do
  let [status, values] ← j.record? members | none
  return { status := ← status.bind Status.ofJson?, values := ← Json.maybe Json.table? values }

end Report

end Parley
