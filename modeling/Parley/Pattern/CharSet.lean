/-
  Parley.Pattern.CharSet
  ──────────────────────
  **SETS OF CHARACTERS IN PATTERNS.**

  A set is an expression over ranges and properties.  Membership is asked for a
  character together with its case variants, so that a set closed under case is
  an expression too and needs no table of its own.
-/
import Parley.Text.Blank
import Parley.Text.WordChar

namespace Parley

/-- A set of characters. -/
inductive CharSet where
  /-- No character. -/
  | none
  /-- The code points from first to last. -/
  | range (first last : Nat)
  /-- Decimal digits. -/
  | digit
  /-- White space. -/
  | blank
  /-- Word characters. -/
  | word
  /-- Characters in one set or the other. -/
  | union (a b : CharSet)
  /-- Characters in both sets. -/
  | inter (a b : CharSet)
  /-- All other characters. -/
  | compl (a : CharSet)
  /-- Characters with a case variant in the set. -/
  | folded (a : CharSet)
  /-- Characters that are in the set in upper or lower case, for the letters
  from a to z alone. -/
  | foldedLatin (a : CharSet)
  deriving Repr

namespace CharSet

/-- A single character. -/
def single (c : Char) : CharSet := range c.toNat c.toNat

/-- Characters of `a` that are not in `b`. -/
def diff (a b : CharSet) : CharSet := inter a (compl b)

/-- Characters in exactly one of the sets. -/
def symmDiff (a b : CharSet) : CharSet := union (diff a b) (diff b a)

/-- The union of ranges. -/
def ofRanges : List (Char × Char) → CharSet
  | [] => none
  | (first, last) :: rest => union (range first.toNat last.toNat) (ofRanges rest)

/-- The other case of a letter from a to z. -/
def otherCase (c : Char) : Char :=
  if 'a' ≤ c ∧ c ≤ 'z' then Char.ofNat (c.toNat - 32)
  else if 'A' ≤ c ∧ c ≤ 'Z' then Char.ofNat (c.toNat + 32)
  else c

/-- Whether `c` is in the set; `variants` are the case variants of `c`. -/
def mem (variants : List Char) : CharSet → Char → Bool
  | none, _ => false
  | range first last, c => first ≤ c.toNat && c.toNat ≤ last
  | digit, c => isDigitChar c
  | blank, c => isBlank c
  | word, c => isWordChar c
  | union a b, c => a.mem variants c || b.mem variants c
  | inter a b, c => a.mem variants c && b.mem variants c
  | compl a, c => !a.mem variants c
  | folded a, c => a.mem variants c || variants.any (a.mem variants ·)
  | foldedLatin a, c => a.mem variants c || a.mem variants (otherCase c)

/-- An estimate of how much room the set takes in a compiled pattern. -/
def weight : CharSet → Nat
  | none => 40
  | range _ _ => 40
  | digit => 6000
  | blank => 1200
  | word => 55000
  | union a b => a.weight + b.weight
  | inter a b => max a.weight b.weight
  | compl a => a.weight + 600
  | folded a => 2 * a.weight
  | foldedLatin a => 2 * a.weight

end CharSet

end Parley
