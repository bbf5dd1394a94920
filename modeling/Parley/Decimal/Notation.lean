/-
  Parley.Decimal.Notation
  ───────────────────────
  **HOW THE DIGITS OF A NUMBER ARE SET OUT.**

  `Layout` holds the choices of a number format: for which exponents the digits
  are written around a point, whether a whole number keeps `.0`, and how an
  exponent is written.  `Layout.text` applies them to shortest digits.
-/
import Parley.Decimal.Shortest

namespace Parley

/-- The choices of a number format. -/
structure Layout where
  /-- The least exponent of the first digit that is written around a point. -/
  leastPlain : Option Int
  /-- The greatest exponent of the first digit that is written around a
  point. -/
  greatestPlain : Option Int
  /-- Whether a whole number written plainly ends in `.0`. -/
  keepsPoint : Bool

namespace Layout

/-- Numbers inside structured text: plain from `0.00001` up to below ten to the
sixteenth, always with a point, else with a signed exponent. -/
def structured : Layout := ⟨some (-5), some 15, true⟩

/-- Numbers standing alone: always plain, and a whole number has no point. -/
def alone : Layout := ⟨none, none, false⟩

/-- Whether digits whose first has the power `e` are written plainly. -/
def isPlain (layout : Layout) (e : Int) : Bool :=
  layout.leastPlain.all (· ≤ e) && layout.greatestPlain.all (e ≤ ·)

/-- Digits around a point. -/
def plain (layout : Layout) (d : Digits) : List Char :=
  let cs := d.chars
  let e := d.firstPower
  let whole := if layout.keepsPoint then ['.', '0'] else []
  if 0 ≤ d.lastPower then
    cs ++ List.replicate d.lastPower.toNat '0' ++ whole
  else if 0 ≤ e then
    cs.take (e.toNat + 1) ++ '.' :: cs.drop (e.toNat + 1)
  else
    '0' :: '.' :: List.replicate (-e - 1).toNat '0' ++ cs

/-- One digit, a point if more follow, and the exponent with its sign. -/
def scientific (d : Digits) : List Char :=
  let e := d.firstPower
  let mantissa :=
    match d.chars with
    | [] => []
    | [c] => [c]
    | c :: rest => c :: '.' :: rest
  mantissa ++ 'e' :: (if e < 0 then '-' else '+') :: Nat.toDigits 10 e.natAbs

/-- The text of a number in this format. -/
def text (layout : Layout) (d : Binary64) : String :=
  let digits := d.shortest
  let body :=
    if layout.isPlain digits.firstPower then layout.plain digits else scientific digits
  String.ofList (if d.negative then '-' :: body else body)

end Layout

end Parley
