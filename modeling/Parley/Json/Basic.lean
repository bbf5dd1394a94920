/-
  Parley.Json.Basic
  ─────────────────
  **STRUCTURED VALUES.**

  The value a variable holds: null, a truth value, a number, a text, a list, or
  a group of named members.  A number is either whole or a double, and the two
  are never equal.  Members are kept in key order by everything that builds
  them; look-up takes the first entry of a name.
-/
import Parley.Decimal.Binary64
import Parley.Table

namespace Parley

/-- A number, whole or with double precision. -/
inductive Number where
  /-- A whole number. -/
  | whole (n : Int)
  /-- A finite double. -/
  | double (d : Binary64)
  deriving DecidableEq

/-- A structured value. -/
inductive Json where
  /-- Nothing. -/
  | null
  /-- A truth value. -/
  | bool (b : Bool)
  /-- A number. -/
  | number (n : Number)
  /-- A text. -/
  | string (s : String)
  /-- A list of values. -/
  | array (items : List Json)
  /-- Named members. -/
  | object (members : List (String × Json))

namespace Json

instance : Inhabited Json := ⟨null⟩

/-! ## §1. Views. -/

/-- The member `key` of an object; nothing else has members. -/
def member? (key : String) : Json → Option Json
  | object members => members.lookup key
  | _ => none

/-- The text of a string. -/
def string? : Json → Option String
  | string s => some s
  | _ => none

/-- The truth value of a boolean. -/
def bool? : Json → Option Bool
  | bool b => some b
  | _ => none

/-- The items of an array. -/
def array? : Json → Option (List Json)
  | array items => some items
  | _ => none

/-- The members of an object, as a table. -/
def table? : Json → Option (Table Json)
  | object members => some (.ofList members)
  | _ => none

/-- How many positions an index can name: indices fit in 64 bits. -/
def indexBound : Nat := Nat.pow 2 64

/-- A whole number that is an index; a double never is. -/
def index? : Json → Option Nat
  | number (.whole n) => if 0 ≤ n ∧ n < indexBound then some n.toNat else none
  | _ => none

/-- The value, or nothing for null. -/
def nonNull? : Json → Option Json
  | null => none
  | j => some j

/-- The object of a table. -/
def ofTable (t : Table Json) : Json := object t.entries

/-- The whole number `n`. -/
def ofNat (n : Nat) : Json := number (.whole n)

/-- A value that may be missing; null when it is. -/
def ofOption (encode : α → Json) : Option α → Json
  | none => null
  | some a => encode a

/-! ## §2. Comparison. -/

end Json

/-- Equal numbers: of one kind, and doubles as numbers, so that the two zeros
agree. -/
def Number.alike : Number → Number → Bool
  | .whole a, .whole b => a == b
  | .double a, .double b => a.sameNumber b
  | _, _ => false

namespace Json

mutual

/-- Equal values; doubles are compared as numbers. -/
def alike : Json → Json → Bool
  | null, null => true
  | bool a, bool b => a == b
  | number a, number b => a.alike b
  | string a, string b => a == b
  | array a, array b => alikeItems a b
  | object a, object b => alikeMembers a b
  | _, _ => false

/-- Equal lists of values. -/
def alikeItems : List Json → List Json → Bool
  | [], [] => true
  | a :: as, b :: bs => alike a b && alikeItems as bs
  | _, _ => false

/-- Equal members, names and values. -/
def alikeMembers : List (String × Json) → List (String × Json) → Bool
  | [], [] => true
  | (k, a) :: as, (l, b) :: bs => k == l && alike a b && alikeMembers as bs
  | _, _ => false

end

end Json

end Parley
