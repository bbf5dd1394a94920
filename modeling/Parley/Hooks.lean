/-
  Parley.Hooks
  ────────────
  **CALLBACKS AT THE TURNS OF A DIALOG.**

  Callbacks are registered for the entry of a thread, for a reply put into a
  variable, and for the end of the dialog.  Those of one kind are kept in the
  order of registration.
-/
import Parley.Table
import Parley.Text.Visible

namespace Parley

/-- Registered callbacks. -/
structure Hooks (H : Type) where
  /-- By the thread that is entered. -/
  entry : Table (List H) := .empty
  /-- By the variable that took a reply. -/
  change : Table (List H) := .empty
  /-- At the end. -/
  ending : List H := []

namespace Hooks

variable {H : Type}

/-- No callback. -/
def none : Hooks H := {}

/-- The callbacks for the entry of a thread. -/
def atEntry (hooks : Hooks H) (thread : String) : List H := (hooks.entry.get? thread).getD []

/-- The callbacks for a reply put into a variable. -/
def atChange (hooks : Hooks H) (key : String) : List H := (hooks.change.get? key).getD []

/-- Register a callback for the entry of a thread. -/
def onEntry (hooks : Hooks H) (thread : String) (h : H) : Hooks H :=
  { hooks with entry := hooks.entry.insert thread (hooks.atEntry thread ++ [h]) }

/-- Register a callback for a reply put into a variable. -/
def onChange (hooks : Hooks H) (key : String) (h : H) : Hooks H :=
  { hooks with change := hooks.change.insert key (hooks.atChange key ++ [h]) }

/-- Register a callback for the end. -/
def onEnd (hooks : Hooks H) (h : H) : Hooks H := { hooks with ending := hooks.ending ++ [h] }

/-- Whether a callback is registered for the entry of a thread. -/
def hasEntry (hooks : Hooks H) (thread : String) : Bool := !(hooks.atEntry thread).isEmpty

/-- A summary for people to read: the threads and variables with callbacks, and
how many there are for the end. -/
def summary (hooks : Hooks H) : String :=
  let names (t : Table (List H)) := "[" ++ String.intercalate ", " (t.keys.map visible) ++ "]"
  "HookRegistry \x7b before: " ++ names hooks.entry ++ ", after: " ++ toString hooks.ending.length
    ++ ", on_change: " ++ names hooks.change ++ " \x7d"

end Hooks

end Parley
