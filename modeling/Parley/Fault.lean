/-
  Parley.Fault
  ────────────
  **WHAT CAN GO WRONG.**

  One constructor per cause, with what its message names.  The area of a fault
  (script, hook, host, …) is the second part of its message.
-/
namespace Parley

/-- Causes of failure. -/
inductive Fault where
  /-- A step asked twice for the position after it. -/
  | continuationReused (dialog thread : String) (index : Nat)
  /-- A position or a jump names no thread. -/
  | unknownThread (name : String)
  /-- A pattern of an option is malformed. -/
  | invalidPattern (pattern : String)
  /-- An action token is malformed. -/
  | invalidAction (reason : String)
  /-- A callback failed. -/
  | hookFailed (hook reason : String)
  /-- A message was not delivered. -/
  | sendFailed (reason : String)
  /-- A prompt did not start. -/
  | promptFailed (prompt reason : String)
  /-- No prompt is registered under the name. -/
  | promptUnknown (prompt : String)
  /-- No session was made for callbacks. -/
  | spawnFailed (reason : String)
  /-- The host refused to end or replace the dialog. -/
  | lifecycleFailed (reason : String)
  /-- Settings are malformed. -/
  | settings (reason : String)
  /-- A payload has not the expected form. -/
  | payload (reason : String)
  /-- A required field was not given. -/
  | missingField (field : String)
  /-- A value was rejected. -/
  | rejected (reason : String)
  deriving DecidableEq, Repr

namespace Fault

/-- The part of the system a fault belongs to. -/
def area : Fault → String
  | continuationReused .. | unknownThread _ | invalidPattern _ | invalidAction _ => "Script"
  | hookFailed .. => "Hook"
  | sendFailed _ | promptFailed .. | promptUnknown _ | spawnFailed _ | lifecycleFailed _ => "Host"
  | settings _ => "Configuration"
  | payload _ => "JSON"
  | missingField _ | rejected _ => "Builder"

/-- What happened, in words. -/
def detail : Fault → String
  | continuationReused dialog thread index =>
    "ScriptedStepContext.next(): method already called for dialog and step '" ++ dialog ++ "["
      ++ toString index ++ "]' in thread '" ++ thread ++ "'"
  | unknownThread name =>
    "Action '" ++ name ++ "' does not name a control action or an existing thread"
  | invalidPattern pattern => "Invalid pattern '" ++ pattern ++ "'"
  | invalidAction reason => "Invalid action: " ++ reason
  | hookFailed hook reason => "Hook '" ++ hook ++ "' failed: " ++ reason
  | sendFailed reason => "Failed to send message: " ++ reason
  | promptFailed prompt reason => "Failed to start prompt '" ++ prompt ++ "': " ++ reason
  | promptUnknown prompt => "Prompt '" ++ prompt ++ "' is not registered"
  | spawnFailed reason => "Failed to spawn session: " ++ reason
  | lifecycleFailed reason => "Dialog lifecycle call failed: " ++ reason
  | settings reason => reason
  | payload reason => reason
  | missingField field => "Missing required field: " ++ field
  | rejected reason => "Validation failed: " ++ reason

/-- The full message of a fault. -/
def message (fault : Fault) : String :=
  "Colloquy Error: " ++ fault.area ++ " Error: " ++ fault.detail

end Fault

end Parley
