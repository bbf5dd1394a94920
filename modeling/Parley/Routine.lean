/-
  Parley.Routine
  ──────────────
  **CALLBACKS WRITTEN AS LISTS OF COMMANDS.**

  A `Routine` is run on a handle, with the reply it is called about if there is
  one.  Besides the handle it works on a `Ledger`: a recorder for messages of
  its own, the records it leaves, and how often its failures were due.  What a
  routine did to the ledger before it failed stays.
-/
import Parley.Recorder

namespace Parley

/-- One command of a callback. -/
inductive Command where
  /-- Move to the start of a thread. -/
  | goto (thread : String)
  /-- Write a variable. -/
  | set (key : String) (value : Json)
  /-- Write the reply into a variable; nothing counts as the empty text. -/
  | setReply (key : String)
  /-- Write one variable into another, if it exists. -/
  | copy (source target : String)
  /-- Send a message. -/
  | say (text : String)
  /-- Fail. -/
  | fail (hook reason : String)
  /-- Fail the first times this failure is due. -/
  | failTimes (times : Nat) (hook reason : String)
  /-- Leave a record. -/
  | record (label : String)
  /-- Run commands if the reply is a given text. -/
  | ifReply (text : String) (body : List Command)
  /-- Run commands if a variable has a given value. -/
  | ifVar (key : String) (value : Json) (body : List Command)

/-- A callback as a list of commands. -/
abbrev Routine := List Command

/-- What a routine leaves on record. -/
structure Record where
  /-- Its label. -/
  label : String
  /-- The reply the routine was called about. -/
  reply : Option String
  /-- The handle at that time. -/
  handle : Handle
  /-- The conversation of the session. -/
  conversation : String

/-- What routines work on besides their handle. -/
structure Ledger where
  /-- Where messages go. -/
  recorder : Recorder
  /-- Records, in order. -/
  records : List Record := []
  /-- Failures that were due, by hook and reason, once for each time. -/
  due : List (String × String) := []

namespace Routine

/-- What surrounds a command. -/
structure Scene where
  /-- The reply. -/
  reply : Option String
  /-- The session. -/
  session : Session

mutual

/-- Run one command. -/
def runCommand (scene : Scene) : Command → Handle → Ledger → Except Fault Handle × Ledger
  | .goto thread, h, ledger => (.ok (h.goto thread), ledger)
  | .set key value, h, ledger => (.ok (h.set key value), ledger)
  | .setReply key, h, ledger => (.ok (h.set key (.string (scene.reply.getD ""))), ledger)
  | .copy source target, h, ledger =>
    match h.get? source with
    | some value => (.ok (h.set target value), ledger)
    | none => (.ok h, ledger)
  | .say text, h, ledger =>
    (.ok h, { ledger with recorder := ledger.recorder.say (.ofText text) })
  | .fail hook reason, _, ledger => (.error (.hookFailed hook reason), ledger)
  | .failTimes times hook reason, h, ledger =>
    let before := ledger.due.count (hook, reason)
    let ledger := { ledger with due := (hook, reason) :: ledger.due }
    if before < times then (.error (.hookFailed hook reason), ledger) else (.ok h, ledger)
  | .record label, h, ledger =>
    let record : Record := ⟨label, scene.reply, h, scene.session.conversation⟩
    (.ok h, { ledger with records := ledger.records ++ [record] })
  | .ifReply text body, h, ledger =>
    if scene.reply = some text then runCommands scene body h ledger else (.ok h, ledger)
  | .ifVar key value body, h, ledger =>
    match h.get? key with
    | some held =>
      if held.alike value then runCommands scene body h ledger else (.ok h, ledger)
    | none => (.ok h, ledger)

/-- Run commands in order, up to the first that fails. -/
def runCommands (scene : Scene) : List Command → Handle → Ledger → Except Fault Handle × Ledger
  | [], h, ledger => (.ok h, ledger)
  | command :: rest, h, ledger =>
    match runCommand scene command h ledger with
    | (.ok h, ledger) => runCommands scene rest h ledger
    | (.error fault, ledger) => (.error fault, ledger)

end

/-- Run a routine on a handle. -/
def run (routine : Routine) (reply : Option String) (handle : Handle) (session : Session)
    (ledger : Ledger) : Except Fault Handle × Ledger :=
  runCommands ⟨reply, session⟩ routine handle ledger

/-- A relation between handles that routines cannot leave: it holds between a handle and
itself, and is handed on, and moving a handle or writing a variable keeps to it. -/
structure Closed (R : Handle → Handle → Prop) : Prop where
  /-- Nothing need be done. -/
  refl : ∀ h, R h h
  /-- What is done in two steps is done. -/
  trans : ∀ {first second third}, R first second → R second third → R first third
  /-- A handle may be moved to the start of a thread. -/
  goto : ∀ h thread, R h (h.goto thread)
  /-- A variable may be written. -/
  set : ∀ h key value, R h (h.set key value)

section Closed

variable {R : Handle → Handle → Prop} (hR : Closed R) (scene : Scene)

include hR

mutual

/-- A command keeps to such a relation. -/
theorem runCommand_closed (command : Command) (h : Handle) (ledger : Ledger) {after : Handle}
    {ledger' : Ledger} (hrun : runCommand scene command h ledger = (.ok after, ledger')) :
    R h after := by
  cases command with
  | goto thread =>
    cases hrun
    exact hR.goto h thread
  | set | setReply =>
    cases hrun
    exact hR.set h _ _
  | say | record =>
    cases hrun
    exact hR.refl h
  | fail => cases hrun
  | copy source target =>
    unfold runCommand at hrun
    split at hrun
    · cases hrun
      exact hR.set h _ _
    · cases hrun
      exact hR.refl h
  | failTimes times hook reason =>
    simp only [runCommand] at hrun
    split at hrun
    · cases hrun
    · cases hrun
      exact hR.refl h
  | ifReply text body =>
    unfold runCommand at hrun
    split at hrun
    · exact runCommands_closed body h ledger hrun
    · cases hrun
      exact hR.refl h
  | ifVar key value body =>
    unfold runCommand at hrun
    split at hrun
    · split at hrun
      · exact runCommands_closed body h ledger hrun
      · cases hrun
        exact hR.refl h
    · cases hrun
      exact hR.refl h

/-- So do commands one after the other. -/
theorem runCommands_closed (commands : List Command) (h : Handle) (ledger : Ledger)
    {after : Handle} {ledger' : Ledger}
    (hrun : runCommands scene commands h ledger = (.ok after, ledger')) : R h after := by
  cases commands with
  | nil =>
    cases hrun
    exact hR.refl h
  | cons command rest =>
    unfold runCommands at hrun
    split at hrun
    · rename_i next ledger₁ hcommand
      exact hR.trans (runCommand_closed command h ledger hcommand)
        (runCommands_closed rest next ledger₁ hrun)
    · cases hrun

end

end Closed

end Routine

end Parley
