/-
  Parley.Toml.Scalar
  ──────────────────
  **NUMBERS, WORDS AND DATES.**

  Scalars without quotes are runs of letters, digits and a few marks; what a
  run means is decided by its whole spelling.
-/
import Parley.Toml.Value

namespace Parley.Toml

/-! ## §1. Numbers. -/

/-- The value of a digit in bases up to sixteen. -/
def digitValue? (base : Nat) (c : Char) : Option Nat :=
  let value :=
    if '0' ≤ c ∧ c ≤ '9' then some (c.toNat - 48)
    else if 'a' ≤ c ∧ c ≤ 'f' then some (c.toNat - 87)
    else if 'A' ≤ c ∧ c ≤ 'F' then some (c.toNat - 55)
    else none
  value.filter (· < base)

/-- Digits with single underscores between them; at least one. -/
def digitRun? (base : Nat) : List Char → Option (List Nat)
  | [] => none
  | [c] => (digitValue? base c).map ([·])
  | c :: '_' :: rest => do
    let d ← digitValue? base c
    return d :: (← digitRun? base rest)
  | c :: rest => do
    let d ← digitValue? base c
    return d :: (← digitRun? base rest)

/-- The number of digits in a base. -/
def ofDigits (base : Nat) (digits : List Nat) : Nat := digits.foldl (fun n d => n * base + d) 0

/-- The sign at the front. -/
def sign : List Char → Option Bool × List Char
  | '+' :: rest => (some false, rest)
  | '-' :: rest => (some true, rest)
  | cs => (none, cs)

/-- Decimal digits without a leading zero, unless that is all. -/
def wholeDigits? (cs : List Char) : Option (List Nat) :=
  match digitRun? 10 cs with
  | some (0 :: _ :: _) => none
  | found => found

/-- A whole number. -/
def integer? (cs : List Char) : Option Int :=
  match cs with
  | '0' :: 'x' :: rest => (digitRun? 16 rest).map fun ds => (ofDigits 16 ds : Int)
  | '0' :: 'o' :: rest => (digitRun? 8 rest).map fun ds => (ofDigits 8 ds : Int)
  | '0' :: 'b' :: rest => (digitRun? 2 rest).map fun ds => (ofDigits 2 ds : Int)
  | cs =>
    let (negative, cs) := sign cs
    (wholeDigits? cs).map fun ds =>
      if negative = some true then -(ofDigits 10 ds : Int) else (ofDigits 10 ds : Int)

/-- The exponent after its mark; leading zeros are fine. -/
def exponent? (cs : List Char) : Option Int :=
  let (negative, cs) := sign cs
  (digitRun? 10 cs).map fun ds =>
    if negative = some true then -(ofDigits 10 ds : Int) else (ofDigits 10 ds : Int)

/-- The finite double nearest to a decimal; `none` on overflow.  Exponents far
below the least double give zero at once. -/
def nearest? (negative : Bool) (digits : List Nat) (power : Int) : Option Binary64 :=
  let n := ofDigits 10 digits
  if 0 ≤ power then
    if n = 0 then Binary64.ofRatio? negative 0 1
    else if 400 < power then none
    else Binary64.ofRatio? negative (n * Nat.pow 10 power.toNat) 1
  else if 400 + (digits.length : Int) < -power then Binary64.ofRatio? negative 0 1
  else Binary64.ofRatio? negative n (Nat.pow 10 (-power).toNat)

/-- A number with a point, an exponent or both, or a word for no number. -/
def real? (cs : List Char) : Option Real := do
  let (negative, body) := sign cs
  let negative := negative = some true
  if body = "inf".toList then return .infinite negative
  if body = "nan".toList then return .nan
  let isMark (c : Char) := c == 'e' || c == 'E'
  let mantissa := body.takeWhile (!isMark ·)
  let exponent ← match body.dropWhile (!isMark ·) with
    | [] => some 0
    | _ :: rest => exponent? rest
  let whole ← wholeDigits? (mantissa.takeWhile (· != '.'))
  let fraction ← match mantissa.dropWhile (· != '.') with
    | [] => if mantissa.length = body.length then none else some []
    | _ :: rest => digitRun? 10 rest
  return .finite (← nearest? negative (whole ++ fraction) (exponent - fraction.length))

/-! ## §2. Dates and times. -/

/-- A number of exactly `n` digits at the front. -/
def fixed? : (n : Nat) → (value : Nat) → List Char → Option (Nat × List Char)
  | 0, value, cs => some (value, cs)
  | _ + 1, _, [] => none
  | n + 1, value, c :: rest => do
    let d ← digitValue? 10 c
    fixed? n (value * 10 + d) rest

/-- A number in decimal, filled up with zeros. -/
def padded (width n : Nat) : List Char :=
  let ds := Nat.toDigits 10 n
  List.replicate (width - ds.length) '0' ++ ds

/-- How many days a month has. -/
def daysIn (year month : Nat) : Nat :=
  if month = 2 then
    if (year % 4 = 0 ∧ year % 100 ≠ 0) ∨ year % 400 = 0 then 29 else 28
  else if month = 4 ∨ month = 6 ∨ month = 9 ∨ month = 11 then 30
  else 31

/-- A date at the front. -/
def date? (cs : List Char) : Option (List Char × List Char) := do
  let (year, cs) ← fixed? 4 0 cs
  let '-' :: cs := cs | none
  let (month, cs) ← fixed? 2 0 cs
  let '-' :: cs := cs | none
  let (day, cs) ← fixed? 2 0 cs
  if 1 ≤ month ∧ month ≤ 12 ∧ 1 ≤ day ∧ day ≤ daysIn year month then
    return (padded 4 year ++ '-' :: padded 2 month ++ '-' :: padded 2 day, cs)
  else none

/-- The fraction of a second: nine digits at most, trailing zeros dropped. -/
def fractionText (digits : List Char) : List Char :=
  let kept := ((digits.take 9).reverse.dropWhile (· == '0')).reverse
  if kept.isEmpty then [] else '.' :: kept

/-- A time at the front; seconds may be missing. -/
def time? (cs : List Char) : Option (List Char × List Char) := do
  let (hour, cs) ← fixed? 2 0 cs
  let ':' :: cs := cs | none
  let (minute, cs) ← fixed? 2 0 cs
  if 23 < hour ∨ 59 < minute then none
  let clock := padded 2 hour ++ ':' :: padded 2 minute
  match cs with
  | ':' :: cs => do
    let (second, cs) ← fixed? 2 0 cs
    if 60 < second then none
    let clock := clock ++ ':' :: padded 2 second
    match cs with
    | '.' :: cs =>
      let digits := cs.takeWhile Char.isDigit
      if digits.isEmpty then none
      else return (clock ++ fractionText digits, cs.dropWhile Char.isDigit)
    | _ => return (clock, cs)
  | _ => return (clock, cs)

/-- The distance from universal time, or nothing. -/
def offset? : List Char → Option (List Char)
  | [] => some []
  | ['Z'] => some ['Z']
  | ['z'] => some ['Z']
  | c :: cs => do
    if c ≠ '+' ∧ c ≠ '-' then none
    let (hour, cs) ← fixed? 2 0 cs
    let ':' :: cs := cs | none
    let (minute, cs) ← fixed? 2 0 cs
    if 23 < hour ∨ 59 < minute ∨ !cs.isEmpty then none
    return c :: padded 2 hour ++ ':' :: padded 2 minute

/-- A date, a time, or both, as a whole run. -/
def moment? (cs : List Char) : Option String :=
  match date? cs with
  | some (date, []) => some (String.ofList date)
  | some (date, c :: rest) => do
    if c ≠ 'T' ∧ c ≠ 't' ∧ c ≠ ' ' then none
    let (time, rest) ← time? rest
    let offset ← offset? rest
    return String.ofList (date ++ 'T' :: time ++ offset)
  | none =>
    match time? cs with
    | some (time, []) => some (String.ofList time)
    | _ => none

/-! ## §3. Runs. -/

/-- Whether a character can stand in a scalar without quotes. -/
def isScalarChar (c : Char) : Bool :=
  c.isAlphanum || c == '+' || c == '-' || c == '_' || c == '.' || c == ':'

/-- What a run means. -/
def ofRun? (run : List Char) : Option Value :=
  if run = "true".toList then some (.bool true)
  else if run = "false".toList then some (.bool false)
  else
    match integer? run with
    | some n => some (.integer n)
    | none =>
      match moment? run with
      | some text => some (.moment text)
      | none => (real? run).map .real

/-- A scalar without quotes at the front.  A date and a time may have one space
between them. -/
def scalar? (cs : List Char) : Option (Value × List Char) :=
  let run := cs.takeWhile isScalarChar
  let left := cs.dropWhile isScalarChar
  match date? run, left with
  | some (_, []), ' ' :: c :: more =>
    if c.isDigit then
      let time := (c :: more).takeWhile isScalarChar
      (ofRun? (run ++ ' ' :: time)).map (·, (c :: more).dropWhile isScalarChar)
    else (ofRun? run).map (·, left)
  | _, _ => (ofRun? run).map (·, left)

end Parley.Toml
