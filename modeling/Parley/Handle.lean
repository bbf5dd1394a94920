/-
  Parley.Handle
  ─────────────
  **WHAT CALLBACKS HOLD.**

  A `Handle` is given to a callback and handed back.  It has a position and the
  variables; whether the callback moved it is told by comparing positions.
-/
import Parley.Position
import Parley.Values

namespace Parley

/-- What a callback may look at and change. -/
structure Handle where
  /-- The dialog. -/
  dialog : String
  /-- The position. -/
  position : Position
  /-- The variables. -/
  values : Values

namespace Handle

/-- Move to the start of a thread. -/
def goto (h : Handle) (thread : String) : Handle := { h with position := ⟨thread, 0⟩ }

/-- Write a variable. -/
def set (h : Handle) (key : String) (value : Json) : Handle :=
  { h with values := h.values.insert key value }

/-- A variable. -/
def get? (h : Handle) (key : String) : Option Json := h.values.get? key

/-- Whether the handle points to another position than `p`. -/
def movedFrom (h : Handle) (p : Position) : Bool := h.position != p

/-- Where the handle was moved to, if it is not at `p`. -/
def redirect? (h : Handle) (p : Position) : Option Position :=
  if h.movedFrom p then some h.position else none

/-- Equal handles; variables are compared as values. -/
def alike (a b : Handle) : Bool :=
  a.dialog == b.dialog && a.position == b.position
    && (Json.ofTable a.values).alike (Json.ofTable b.values)

end Handle

/-- What a callback reaches the host through. -/
structure Session where
  /-- The conversation it belongs to. -/
  conversation : String
  deriving DecidableEq, Repr

end Parley
