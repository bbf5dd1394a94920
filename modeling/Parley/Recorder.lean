/-
  Parley.Recorder
  ───────────────
  **A HOST THAT WRITES DOWN WHAT IT IS GIVEN.**

  A `Recorder` delivers to a list.  Prompts have to be registered before they
  can start; ending and replacing a dialog is only noted.
-/
import Parley.Handle
import Parley.Message

namespace Parley

/-- One delivery. -/
inductive Delivery where
  /-- A message of the dialog. -/
  | sent (message : Message)
  /-- A question, asked through a prompt. -/
  | prompted (prompt : String) (message : Message)
  /-- A message of a callback. -/
  | side (message : Message)

namespace Delivery

/-- What was delivered. -/
def message : Delivery → Message
  | sent m => m
  | prompted _ m => m
  | side m => m

end Delivery

/-- A host that writes down what it is given. -/
structure Recorder where
  /-- The conversation. -/
  conversation : String
  /-- Deliveries, in order. -/
  log : List Delivery := []
  /-- Registered prompts. -/
  prompts : List String := []
  /-- What ended dialogs were ended with, in order. -/
  ended : List (Option String) := []
  /-- Requests for other dialogs, in order. -/
  replaced : List (String × Values) := []

namespace Recorder

/-- Register a prompt. -/
def register (r : Recorder) (prompt : String) : Recorder :=
  { r with prompts := prompt :: r.prompts }

/-- Deliver a message of the dialog. -/
def send (r : Recorder) (message : Message) : Recorder :=
  { r with log := r.log ++ [.sent message] }

/-- Start a prompt, if it is registered. -/
def prompt (r : Recorder) (prompt : String) (message : Message) : Except Fault Recorder :=
  if r.prompts.contains prompt then .ok { r with log := r.log ++ [.prompted prompt message] }
  else .error (.promptUnknown prompt)

/-- A session for callbacks. -/
def session (r : Recorder) : Session := ⟨r.conversation⟩

/-- Deliver a message of a callback. -/
def say (r : Recorder) (message : Message) : Recorder :=
  { r with log := r.log ++ [.side message] }

/-- Note the end of a dialog. -/
def finish (r : Recorder) (result : Option String) : Recorder :=
  { r with ended := r.ended ++ [result] }

/-- Note a request for another dialog. -/
def handOver (r : Recorder) (script : String) (options : Values) : Recorder :=
  { r with replaced := r.replaced ++ [(script, options)] }

/-- The texts delivered so far. -/
def texts (r : Recorder) : List String := r.log.map (·.message.text)

/-- The texts delivered so far, and the recorder without its deliveries. -/
def takeTexts (r : Recorder) : List String × Recorder := (r.texts, { r with log := [] })

end Recorder

end Parley
