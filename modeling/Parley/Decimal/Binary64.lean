/-
  Parley.Decimal.Binary64
  ───────────────────────
  **FINITE DOUBLE PRECISION NUMBERS, EXACTLY.**

  A `Binary64` is a sign and a magnitude.  Magnitudes count the finite values
  upwards from zero, so they are the numbers below `2047 · 2 ^ 52`; the upper
  part of a magnitude is the biased exponent and the lower 52 bits are the
  fraction.  Everything here is exact arithmetic on natural numbers:

      significand · 2 ^ power     — the absolute value
      ofRatio?                    — the nearest double of a quotient, ties to even
      times?, over?               — product and quotient, rounded once
-/

namespace Parley

/-- The leading bit of a significand of full width. -/
def Binary64.leadBit : Nat := Nat.pow 2 52

/-- The number of finite magnitudes. -/
def Binary64.bound : Nat := 2047 * Binary64.leadBit

/-- A finite double precision number. -/
structure Binary64 where
  /-- The sign; zero has one too. -/
  negative : Bool
  /-- How many finite absolute values lie below this one. -/
  magnitude : Nat
  /-- Infinities and not-a-number are left out. -/
  finite : magnitude < Binary64.bound
  deriving DecidableEq

namespace Binary64

/-! ## §1. Reading a magnitude. -/

/-- The fraction with its leading bit, if it has one. -/
def significand (d : Binary64) : Nat :=
  if d.magnitude < leadBit then d.magnitude else leadBit + d.magnitude % leadBit

/-- The power of two that the significand counts, plus 1074. -/
def scale (d : Binary64) : Nat := d.magnitude / leadBit - 1

/-- Whether the absolute value is zero. -/
def isZero (d : Binary64) : Bool := d.magnitude == 0

/-- The absolute value as a quotient of natural numbers. -/
def ratio (d : Binary64) : Nat × Nat :=
  if d.scale < 1074 then (d.significand, Nat.pow 2 (1074 - d.scale))
  else (d.significand * Nat.pow 2 (d.scale - 1074), 1)

/-- Positive zero. -/
def zero : Binary64 := ⟨false, 0, by decide⟩

instance : Inhabited Binary64 := ⟨zero⟩

/-- The same absolute value with the sign given. -/
def withSign (negative : Bool) (d : Binary64) : Binary64 := { d with negative }

/-- Equal as numbers: the two zeros are equal. -/
def sameNumber (a b : Binary64) : Bool :=
  a.magnitude == b.magnitude && (a.negative == b.negative || a.isZero)

/-! ## §2. Rounding. -/

/-- The natural number nearest to `num / den`; a half goes to the even one. -/
def roundHalfEven (num den : Nat) : Nat :=
  let q := num / den
  let r := 2 * (num % den)
  if r < den || (r == den && q % 2 == 0) then q else q + 1

/-- The power of two of the leading bit of `num / den`, plus 1074, and at least
52: below that, the last place no longer moves. -/
def leadingPlace (num den : Nat) : Nat :=
  let guess := num.log2 + 1074 - den.log2
  max (if num * Nat.pow 2 1074 < den * Nat.pow 2 guess then guess - 1 else guess) 52

/-- The double nearest to `num / den`, ties to the even significand; `none` when
that lies past the largest finite number. -/
def ofRatio? (negative : Bool) (num den : Nat) : Option Binary64 :=
  if num = 0 then some ⟨negative, 0, by decide⟩
  else
    let scale := leadingPlace num den - 52
    let magnitude := scale * leadBit + roundHalfEven (num * Nat.pow 2 1074) (den * Nat.pow 2 scale)
    if finite : magnitude < bound then some ⟨negative, magnitude, finite⟩ else none

/-- The double nearest to a natural number. -/
def ofNat? (n : Nat) : Option Binary64 := ofRatio? false n 1

/-- The product, rounded; `none` on overflow. -/
def times? (a b : Binary64) : Option Binary64 :=
  ofRatio? (a.negative != b.negative) (a.ratio.1 * b.ratio.1) (a.ratio.2 * b.ratio.2)

/-- The quotient by a number that is not zero, rounded; `none` on overflow. -/
def over? (a b : Binary64) : Option Binary64 :=
  ofRatio? (a.negative != b.negative) (a.ratio.1 * b.ratio.2) (a.ratio.2 * b.ratio.1)

/-! ## §3. Scaling by powers of ten. -/

/-- Divide by ten to the `k` in double arithmetic: first by the largest power
that a double can hold as long as more is left, then by the rest. -/
def shrinkByTens (d : Binary64) (k : Nat) : Option Binary64 :=
  if k ≤ 308 then do d.over? (← ofNat? (Nat.pow 10 k))
  else if d.isZero then some d
  else do
    let quotient ← d.over? (← ofNat? (Nat.pow 10 308))
    shrinkByTens quotient (k - 308)
termination_by k

/-- Multiply by ten to the `k` in double arithmetic; `none` on overflow. -/
def growByTens (d : Binary64) (k : Nat) : Option Binary64 :=
  if k ≤ 308 then do d.times? (← ofNat? (Nat.pow 10 k))
  else if d.isZero then some d
  else none

end Binary64

end Parley
