/-
  Parley.Json.Shape
  ─────────────────
  **WHAT A READER TAKES FROM A DOCUMENT.**

  A `Shape` says which parts of a document a reader looks at.  `select?` keeps
  those parts as a value and drops members that a record does not know.  It
  refuses

      a number out of range or a broken text in a part that is kept,
      a known member of a record given twice,
      a choice with other than one member,
      more than `depthLimit` levels of kept lists and objects.

  In lists of members without fixed names the last entry of a name wins.
-/
import Parley.Json.Document

namespace Parley

/-- The parts of a document that a reader looks at. -/
inductive Shape where
  /-- Everything. -/
  | any
  /-- A value without parts. -/
  | scalar
  /-- A list. -/
  | list (item : Shape)
  /-- Members under names that are not fixed. -/
  | table (value : Shape)
  /-- Members under fixed names, in the order of the positional form. -/
  | record (members : List (String × Shape))
  /-- One of several variants: its name, or one member of that name. -/
  | choice (variants : List (String × Shape))

namespace Shape

/-- The shape of the item at an index of a list. -/
def item? : Shape → Nat → Option Shape
  | any, _ => some any
  | list item, _ => some item
  | record members, i => members[i]?.map (·.2)
  | _, _ => none

/-- The shape of the member of a name. -/
def member? : Shape → String → Option Shape
  | any, _ => some any
  | table value, _ => some value
  | record members, key => members.lookup key
  | choice variants, key => variants.lookup key
  | _, _ => none

/-- Whether a name may be given only once. -/
def isFixed : Shape → Bool
  | record _ => true
  | choice _ => true
  | _ => false

/-- Whether the shape has items, so that a list can be read. -/
def hasItems : Shape → Bool
  | scalar => false
  | choice _ => false
  | _ => true

/-- Whether the shape has members, so that an object can be read. -/
def hasMembers : Shape → Bool
  | scalar => false
  | list _ => false
  | _ => true

/-- Whether this many members may be given. -/
def admitsCount : Shape → Nat → Bool
  | choice _, n => n == 1
  | _, _ => true

end Shape

namespace Document

/-- Kept lists and objects nest at most this deep. -/
def depthLimit : Nat := 127

mutual

/-- The parts of a document that a shape looks at, as a value. -/
def select? (room : Nat) (shape : Shape) : Document → Option Json
  | null => some .null
  | bool b => some (.bool b)
  | number n => n.map .number
  | string s => s.map .string
  | array items =>
    if room = 0 ∨ !shape.hasItems then none
    else (selectItems? (room - 1) shape 0 items).map .array
  | object members =>
    if room = 0 ∨ !shape.hasMembers ∨ !shape.admitsCount members.length then none
    else (selectMembers? (room - 1) shape [] members).map fun ms =>
      .object (Table.ofList ms).entries

/-- The kept form of items from an index on; items past the end of a record stay
as null, so that their number can be told. -/
def selectItems? (room : Nat) (shape : Shape) (index : Nat) :
    List Document → Option (List Json)
  | [] => some []
  | item :: rest => do
    let kept ← match shape.item? index with
      | some part => select? room part item
      | none => some .null
    let more ← selectItems? room shape (index + 1) rest
    return kept :: more

/-- The kept form of members; `seen` holds the fixed names met so far. -/
def selectMembers? (room : Nat) (shape : Shape) (seen : List String) :
    List (Option String × Document) → Option (List (String × Json))
  | [] => some []
  | (key, value) :: rest =>
    match key with
    | none => none
    | some key =>
      match shape.member? key with
      | none => selectMembers? room shape seen rest
      | some part =>
        if shape.isFixed && seen.contains key then none
        else do
          let kept ← select? room part value
          let more ← selectMembers? room shape (key :: seen) rest
          return (key, kept) :: more

end

/-- The value of a document that is kept whole. -/
def toJson? (doc : Document) : Option Json := doc.select? depthLimit .any

end Document

/-- The value that a text denotes. -/
def Json.read? (text : String) : Option Json := (Document.read? text).bind (·.toJson?)

end Parley
