/-
  Parley.Toml.Value
  ─────────────────
  **THE VALUES OF A TOML TEXT, AND TABLES UNDER CONSTRUCTION.**

  A text defines its tables piecemeal: by headers, by dotted keys, and in one
  piece by inline tables.  A `Node` remembers how a table came about, because
  that decides who may still add to it:

      header — by its own header; closed to dotted keys and a second header
      passed — on the way to a header below it; may still get its own header
      dotted — by a dotted key; open to further dotted keys of that table
-/
import Parley.Decimal.Binary64

namespace Parley.Toml

/-! ## §1. Values. -/

/-- A number with a point or an exponent, or one of the words for no number. -/
inductive Real where
  /-- A finite number. -/
  | finite (d : Binary64)
  /-- Beyond all numbers. -/
  | infinite (negative : Bool)
  /-- No number. -/
  | nan

/-- A value. -/
inductive Value where
  /-- A text. -/
  | string (s : String)
  /-- A whole number. -/
  | integer (n : Int)
  /-- A number with a point. -/
  | real (r : Real)
  /-- A truth value. -/
  | bool (b : Bool)
  /-- A date, a time or both, in its shortest spelling. -/
  | moment (text : String)
  /-- A list. -/
  | array (items : List Value)
  /-- A table. -/
  | table (entries : List (String × Value))

/-! ## §2. Tables under construction. -/

/-- How a table came about. -/
inductive Origin where
  /-- By its own header. -/
  | header
  /-- On the way to a header. -/
  | passed
  /-- By a dotted key. -/
  | dotted
  deriving DecidableEq

/-- An entry of a table under construction. -/
inductive Node where
  /-- A value; nothing can be added to it. -/
  | value (v : Value)
  /-- A table. -/
  | table (origin : Origin) (entries : List (String × Node))
  /-- A list of tables made by headers, the last one first. -/
  | tables (items : List (List (String × Node)))

/-- The entries of a table under construction. -/
abbrev Entries := List (String × Node)

namespace Node

mutual

/-- The finished value of an entry. -/
def finish : Node → Value
  | value v => v
  | table _ entries => .table (finishEntries entries)
  | tables items => .array (finishTables items).reverse

/-- Finished entries. -/
def finishEntries : List (String × Node) → List (String × Value)
  | [] => []
  | (key, node) :: rest => (key, node.finish) :: finishEntries rest

/-- Finished tables. -/
def finishTables : List (List (String × Node)) → List Value
  | [] => []
  | entries :: rest => .table (finishEntries entries) :: finishTables rest

end

end Node

namespace Entries

/-- Put `node` in the place of the entry of a key, or at the end. -/
def put (key : String) (node : Node) : Entries → Entries
  | [] => [(key, node)]
  | (k, old) :: rest => if k = key then (k, node) :: rest else (k, old) :: put key node rest

/-- Change the table at the end of a path, making tables on the way.  A list of
tables stands for its last one; a dotted path may not pass through a table that
has a header. -/
def change (dotted : Bool) : (path : List String) →
    (edit : Origin → Entries → Option Entries) → Origin → Entries → Option Entries
  | [], edit, origin, entries => edit origin entries
  | key :: path, edit, _, entries =>
    match entries.lookup key with
    | none => do
      let origin := if dotted then Origin.dotted else Origin.passed
      let inner ← change dotted path edit origin []
      return entries.put key (.table origin inner)
    | some (.value _) => none
    | some (.table origin inner) =>
      if dotted ∧ origin = .header then none
      else do
        let inner ← change dotted path edit origin inner
        return entries.put key (.table origin inner)
    | some (.tables []) => none
    | some (.tables (last :: before)) => do
      let inner ← change dotted path edit .header last
      return entries.put key (.tables (inner :: before))

/-- Define a key, perhaps dotted, in a table.  The key must be new, and a dotted
key may only extend a table that dotted keys made. -/
def define (path : List String) (key : String) (value : Value) :
    Origin → Entries → Option Entries :=
  change true path fun origin entries =>
    if (origin = .dotted) = (path = []) then none
    else if (entries.lookup key).isSome then none
    else some (entries.put key (.value value))

/-- Open a table by its header. -/
def openTable (path : List String) (key : String) (root : Entries) : Option Entries :=
  change false path
    (fun _ entries =>
      match entries.lookup key with
      | none => some (entries.put key (.table .header []))
      | some (.table .passed inner) => some (entries.put key (.table .header inner))
      | _ => none)
    .header root

/-- Open a further table of a list of tables by its header. -/
def openItem (path : List String) (key : String) (root : Entries) : Option Entries :=
  change false path
    (fun _ entries =>
      match entries.lookup key with
      | none => some (entries.put key (.tables [[]]))
      | some (.tables items) => some (entries.put key (.tables ([] :: items)))
      | _ => none)
    .header root

end Entries

end Parley.Toml
