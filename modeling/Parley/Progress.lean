/-
  Parley.Progress
  ───────────────
  **WHERE A DIALOG STANDS.**

  The `Progress` of a dialog is all that is kept between turns: the thread and
  the line last reached, the variables, the options it was begun with, and
  whether that line is still to be run.  A dialog that has entered no thread
  has the empty name in its place.
-/
import Parley.Json.Record
import Parley.Values

namespace Parley

/-- What is kept of a dialog between turns. -/
structure Progress where
  /-- The current thread; empty before the first one is entered. -/
  thread : String := ""
  /-- The line last reached. -/
  index : Nat := 0
  /-- The variables. -/
  values : Values := .empty
  /-- The options the dialog was begun with. -/
  options : Values := .empty
  /-- Whether the next turn runs the line last reached, not the one after. -/
  replay : Bool := false

namespace Progress

/-- A dialog at the start of `thread`, its variables taken from `options`. -/
def start (thread : String) (options : Values) : Progress :=
  { thread, values := options, options }

/-- Whether a thread has been entered. -/
def isStarted (p : Progress) : Bool := p.thread != ""

/-- The line the next turn begins with. -/
def resumeIndex (p : Progress) : Nat := if p.replay then p.index else p.index + 1

/-! ## The stored form. -/

/-- The stored form; the replay mark is written only when set. -/
def toJson (p : Progress) : Json :=
  let replay := if p.replay then [("replay", Json.bool true)] else []
  .object
    (("options", Json.ofTable p.options) :: replay
      ++ [("stepIndex", .ofNat p.index), ("thread", .string p.thread),
          ("values", Json.ofTable p.values)])

/-- The members of the stored form. -/
def members : Members :=
  [("thread", .required), ("stepIndex", .required), ("values", .defaulted),
   ("options", .defaulted), ("replay", .defaulted)]

/-- What a reader looks at. -/
def shape : Shape :=
  .record [("thread", .scalar), ("stepIndex", .scalar), ("values", .table .any),
    ("options", .table .any), ("replay", .scalar)]

/-- Read the stored form. -/
def ofJson? (j : Json) : Option Progress := do
  let [thread, index, values, options, replay] ← j.record? members | none
  return {
    thread := ← thread.bind Json.string?
    index := ← index.bind Json.index?
    values := ← Json.orElse Json.table? .empty values
    options := ← Json.orElse Json.table? .empty options
    replay := ← Json.orElse Json.bool? false replay }

end Progress

end Parley
