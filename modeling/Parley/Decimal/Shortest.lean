/-
  Parley.Decimal.Shortest
  ───────────────────────
  **THE FEWEST DIGITS THAT READ BACK.**

  A decimal reads back as a double when it lies in the interval of numbers that
  round to it (ends included exactly when the significand is even).  From one
  digit upwards, `shortest` tests the two neighbours of the value on the grid
  of decimals with that many digits.  The first grid with a hit wins; of two
  hits the nearer one, and of two equally near ones the even one.
-/
import Parley.Decimal.Binary64

namespace Parley

/-- The digits of a positive decimal `d₁.d₂…dₙ × 10 ^ power`. -/
structure Digits where
  /-- The digits read as one natural number, without trailing zeros. -/
  number : Nat
  /-- The power of ten of the last digit. -/
  lastPower : Int
  deriving DecidableEq, Repr

namespace Digits

/-- The digits as characters, most significant first. -/
def chars (d : Digits) : List Char := Nat.toDigits 10 d.number

/-- The power of ten of the first digit. -/
def firstPower (d : Digits) : Int := d.lastPower + ((d.chars.length : Int) - 1)

/-- Drop trailing zeros, at most `fuel` of them. -/
def trim (d : Digits) : Nat → Digits
  | 0 => d
  | fuel + 1 =>
    if d.number ≠ 0 ∧ d.number % 10 = 0 then
      trim ⟨d.number / 10, d.lastPower + 1⟩ fuel
    else d

end Digits

namespace Binary64

/-- Four times the significand: the unit in which the interval below has whole
ends. -/
def center (d : Binary64) : Nat := 4 * d.significand

/-- The lower end of the interval of numbers that round to `d`: half a step
down, or a quarter where the steps below are half as wide. -/
def lower (d : Binary64) : Nat :=
  if d.significand = leadBit ∧ 0 < d.scale then d.center - 1 else d.center - 2

/-- The upper end of the interval of numbers that round to `d`. -/
def upper (d : Binary64) : Nat := d.center + 2

/-- Whether `num / den`, in units of a quarter of the last place, rounds to
`d`. -/
def roundsHere (d : Binary64) (num den : Nat) : Bool :=
  if d.significand % 2 == 0 then d.lower * den ≤ num && num ≤ d.upper * den
  else d.lower * den < num && num < d.upper * den

/-- Ten to the `power` in units of a quarter of the last place, as a quotient. -/
def tenPower (d : Binary64) (power : Int) : Nat × Nat :=
  -- one unit is 2 ^ (scale - 1076)
  let up := if 0 ≤ power then Nat.pow 10 power.toNat else 1
  let down := if 0 ≤ power then 1 else Nat.pow 10 (-power).toNat
  (up * Nat.pow 2 1076, down * Nat.pow 2 d.scale)

/-- The multiple of ten to the `power` that is nearest to `d` among the two
neighbours of `d` that round to it. -/
def onGrid? (d : Binary64) (power : Int) : Option Nat :=
  let (up, down) := d.tenPower power
  let below := d.center * down / up
  let hitBelow := below ≠ 0 && d.roundsHere (below * up) down
  let hitAbove := d.roundsHere ((below + 1) * up) down
  if hitBelow && hitAbove then
    let toBelow := d.center * down - below * up
    let toAbove := (below + 1) * up - d.center * down
    if toBelow < toAbove || (toBelow == toAbove && below % 2 == 0) then some below
    else some (below + 1)
  else if hitBelow then some below
  else if hitAbove then some (below + 1)
  else none

/-- The decimal exponent of the value: the power of ten of its first digit. -/
def decimalExponent (d : Binary64) : Int :=
  let (num, den) := d.ratio
  ((Nat.toDigits 10 (num * Nat.pow 10 330 / den)).length : Int) - 331

/-- Try one grid after the other, each ten times as fine. -/
def searchGrids (d : Binary64) : (power : Int) → (fuel : Nat) → Digits
  | power, 0 => ⟨d.center / 4, power⟩
  | power, fuel + 1 =>
    match d.onGrid? power with
    | some n => (Digits.mk n power).trim 20
    | none => searchGrids d (power - 1) fuel

/-- The fewest digits that read back as the absolute value of `d`; zero has the
digit zero. -/
def shortest (d : Binary64) : Digits :=
  if d.isZero then ⟨0, 0⟩ else d.searchGrids d.decimalExponent 18

end Binary64

end Parley
