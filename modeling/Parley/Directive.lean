/-
  Parley.Directive
  ────────────────
  **WHAT A LINE OR AN OPTION CAN ORDER.**

  A `Directive` steers the dialog.  It has a token (a word; any word that is no
  built-in one names a thread to jump to), a shown text, and a stored form.
-/
import Parley.Fault
import Parley.Json.Record

namespace Parley

/-- An order to the dialog. -/
inductive Directive where
  /-- Go on with the next line. -/
  | next
  /-- End the dialog as completed. -/
  | complete
  /-- End the dialog as canceled. -/
  | stop
  /-- End the dialog as timed out. -/
  | timeout
  /-- Run the line before again. -/
  | again
  /-- Stay and wait for another reply. -/
  | hold
  /-- Hand over to another dialog, perhaps in a given thread. -/
  | handOver (script : String) (thread : Option String)
  /-- Jump to the start of a thread. -/
  | jump (thread : String)
  deriving DecidableEq, Repr

namespace Directive

/-! ## §1. Tokens. -/

/-- The built-in directive that a token names. -/
def builtin? : String → Option Directive
  | "next" => some .next
  | "complete" => some .complete
  | "stop" => some .stop
  | "timeout" => some .timeout
  | "repeat" => some .again
  | "wait" => some .hold
  | _ => none

/-- The directive of a token: a built-in one or a jump.  The empty token names
nothing, and a hand-over needs more than a token. -/
def ofToken (token : String) : Except Fault Directive :=
  match builtin? token with
  | some directive => .ok directive
  | none =>
    if token = "execute_script" then
      .error (.invalidAction
        "execute_script needs a target script; use ControlAction::execute_script")
    else if token = "" then .error (.invalidAction "empty action token")
    else .ok (.jump token)

/-- The shown text. -/
def shown : Directive → String
  | next => "next"
  | complete => "complete"
  | stop => "stop"
  | timeout => "timeout"
  | again => "repeat"
  | hold => "wait"
  | handOver script _ => "execute_script:" ++ script
  | jump thread => thread

/-! ## §2. The stored form. -/

/-- The stored form. -/
def toJson : Directive → Json
  | handOver script thread =>
    .object [("execute_script",
      .object [("script", .string script), ("thread", Json.ofOption .string thread)])]
  | jump thread => .object [("goto", .string thread)]
  | directive => .string directive.shown

/-- The members of a stored hand-over. -/
def members : Members := [("script", .required), ("thread", .optional)]

/-- What a reader looks at. -/
def shape : Shape :=
  .choice [("next", .scalar), ("complete", .scalar), ("stop", .scalar), ("timeout", .scalar),
    ("repeat", .scalar), ("wait", .scalar),
    ("execute_script", .record [("script", .scalar), ("thread", .scalar)]), ("goto", .scalar)]

/-- Read a stored hand-over, which is always an object. -/
def handOver? : Json → Option Directive
  | .object found => do
    let [script, thread] ← (Json.object found).record? members | none
    return .handOver (← script.bind Json.string?) (← Json.maybe Json.string? thread)
  | _ => none

/-- Read the stored form. -/
def ofJson? (j : Json) : Option Directive :=
  match j.variant? with
  | some ("goto", some (.string thread)) => some (.jump thread)
  | some ("execute_script", some carried) => handOver? carried
  | some (name, none) => builtin? name
  | some (name, some .null) => builtin? name
  | _ => none

end Directive

end Parley
