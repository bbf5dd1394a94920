/-
  Parley.Json.Numeral
  ───────────────────
  **WRITTEN NUMBERS AND WHAT THEY DENOTE.**

  A `Numeral` keeps the digits of a number as they were written.  `value?`
  gives it its meaning:

      whole   — no point and no exponent, and the value fits in 64 bits with
                or without sign; a negative zero is a double
      double  — everything else

  A double is read from the digits that fit in 64 bits; digits after those only
  count as places before the point and are dropped after it.  The kept digits
  are rounded to a double and scaled by one power of ten in double arithmetic.
-/
import Parley.Json.Basic

namespace Parley

/-- A number as written. -/
structure Numeral where
  /-- Whether a minus sign stands in front. -/
  negative : Bool
  /-- The digits before the point. -/
  whole : List Nat
  /-- The digits after the point, if there is one. -/
  fraction : Option (List Nat)
  /-- The exponent, if there is one. -/
  exponent : Option Int

namespace Numeral

/-- The largest number of kept digits' value. -/
def keptBound : Nat := Nat.pow 2 64

/-- Read digits on to `kept` as long as the value stays within 64 bits; also the
digits that are left. -/
def keep (kept : Nat) : List Nat → Nat × List Nat
  | [] => (kept, [])
  | d :: rest =>
    if kept * 10 + d < keptBound then keep (kept * 10 + d) rest else (kept, d :: rest)

/-- The double of kept digits and a power of ten; `none` on overflow. -/
def scaled? (kept : Nat) (power : Int) : Option Binary64 := do
  let base ← Binary64.ofNat? kept
  if 0 ≤ power then base.growByTens power.toNat else base.shrinkByTens (-power).toNat

/-- The double the numeral denotes; `none` on overflow. -/
def double? (n : Numeral) : Option Binary64 :=
  let (kept, left) := keep 0 n.whole
  let digits := n.fraction.getD []
  let (kept, dropped) := keep kept digits
  let places : Int := left.length - (digits.length - dropped.length)
  (scaled? kept (places + n.exponent.getD 0)).map (·.withSign n.negative)

/-- Whether the numeral has neither point nor exponent. -/
def isPlain (n : Numeral) : Bool := n.fraction.isNone && n.exponent.isNone

/-- The number a numeral denotes; `none` when it is too large for a double. -/
def value? (n : Numeral) : Option Number :=
  let (kept, left) := keep 0 n.whole
  if n.isPlain && left.isEmpty && !n.negative then some (.whole kept)
  else if n.isPlain && left.isEmpty && 0 < kept && kept ≤ Nat.pow 2 63 then some (.whole (-kept))
  else n.double?.map .double

end Numeral

end Parley
