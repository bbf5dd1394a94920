/-
  Parley.Text.CaseFold
  ────────────────────
  **CHARACTERS THAT DIFFER IN CASE ONLY.**

  `fold` takes a character to the representative of its case variants, and
  `variants` lists all characters with the same representative.
-/
import Parley.Text.FoldTable

namespace Parley

namespace FoldRun

/-- What a code point folds to, if the run holds it. -/
def image? (run : FoldRun) (n : Nat) : Option Nat :=
  if run.first ≤ n ∧ n ≤ run.last ∧ (n - run.first) % run.step = 0 then
    some (run.target + (n - run.first))
  else none

/-- The code point of the run that folds to `n`, if there is one. -/
def source? (run : FoldRun) (n : Nat) : Option Nat :=
  if run.target ≤ n ∧ n - run.target ≤ run.last - run.first
      ∧ (n - run.target) % run.step = 0 then
    some (run.first + (n - run.target))
  else none

end FoldRun

/-- The representative of the case variants of a character. -/
def foldChar (c : Char) : Char :=
  match foldRuns.findSome? (·.image? c.toNat) with
  | some n => Char.ofNat n
  | none => c

/-- All characters that fold to the same representative. -/
def caseVariants (c : Char) : List Char :=
  let representative := foldChar c
  representative ::
    foldRuns.filterMap fun run => (run.source? representative.toNat).map Char.ofNat

end Parley
