/-
  Parley.Text.Visible
  ───────────────────
  **TEXTS MADE VISIBLE.**

  A text in quotes for people to read: quotes, backslashes and everything that
  does not show by itself are escaped.
-/
import Parley.Text.HiddenTable
import Parley.Text.WordChar

namespace Parley

/-- Whether a character does not show by itself. -/
def isHidden (c : Char) : Bool := inRuns hiddenRuns c.toNat 0 hiddenRuns.size

/-- A character made visible. -/
def visibleChar (c : Char) : List Char :=
  match c with
  | '\x00' => ['\\', '0']
  | '\t' => ['\\', 't']
  | '\n' => ['\\', 'n']
  | '\r' => ['\\', 'r']
  | '"' => ['\\', '"']
  | '\\' => ['\\', '\\']
  | c =>
    if isHidden c then '\\' :: 'u' :: '\x7b' :: Nat.toDigits 16 c.toNat ++ ['\x7d']
    else [c]

/-- A text made visible, in quotes. -/
def visible (s : String) : String :=
  String.ofList ('"' :: s.toList.flatMap visibleChar ++ ['"'])

end Parley
