/-
  Parley.Values
  ─────────────
  **THE VARIABLES OF A DIALOG AND HOW THEY ARE SHOWN.**

  A message shows a text as it is, a list as its items with commas between
  them, nothing for null, and a group of members as compact text.
-/
import Parley.Json.Printer

namespace Parley

/-- Variables, or the options a dialog was begun with. -/
abbrev Values := Table Json

mutual

/-- A value as a message shows it. -/
def Json.shown : Json → String
  | .null => ""
  | .bool b => if b then "true" else "false"
  | .number n => n.text
  | .string s => s
  | .array items => Json.shownItems items
  | .object members => (Json.object members).compact

/-- Shown items with commas between them. -/
def Json.shownItems : List Json → String
  | [] => ""
  | [item] => item.shown
  | item :: rest => item.shown ++ "," ++ Json.shownItems rest

end

/-- The variable `key` as a message shows it. -/
def Values.shown? (values : Values) (key : String) : Option String :=
  (values.get? key).map Json.shown

end Parley
