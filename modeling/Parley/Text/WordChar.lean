/-
  Parley.Text.WordChar
  ────────────────────
  **IS IT A WORD CHARACTER, A DIGIT?**

  Look-up by halving in the tables of runs.
-/
import Parley.Text.WordTable

namespace Parley

/-- Whether `n` lies in one of the ordered runs numbered from `lo` up to below
`hi`. -/
def inRuns (runs : Array (Nat × Nat)) (n : Nat) (lo hi : Nat) : Bool :=
  if _h : lo < hi then
    let mid := (lo + hi) / 2
    match runs[mid]? with
    | none => false
    | some (first, last) =>
      if n < first then inRuns runs n lo mid
      else if last < n then inRuns runs n (mid + 1) hi
      else true
  else false
termination_by hi - lo

/-- Whether a character is part of words. -/
def isWordChar (c : Char) : Bool := inRuns wordRuns c.toNat 0 wordRuns.size

/-- Whether a character is a decimal digit of some script. -/
def isDigitChar (c : Char) : Bool := inRuns digitRuns c.toNat 0 digitRuns.size

end Parley
