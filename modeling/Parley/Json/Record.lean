/-
  Parley.Json.Record
  ──────────────────
  **RECORDS AND VARIANTS AS VALUES.**

  A record is written as an object, or as a list of its members in order.  What
  happens when a member is missing depends on its `Presence`.  A variant is
  written as its name, or as an object with that one member.
-/
import Parley.Json.Shape

namespace Parley

/-- When a member of a record may be missing. -/
inductive Presence where
  /-- Never. -/
  | required
  /-- In an object, and at the end of a list. -/
  | defaulted
  /-- In an object only. -/
  | optional
  deriving DecidableEq

/-- The members of a record type, in order. -/
abbrev Members := List (String × Presence)

namespace Json

/-- Members of a record found in an object. -/
def membersByName? (members : List (String × Json)) : Members → Option (List (Option Json))
  | [] => some []
  | (name, presence) :: rest => do
    let found := members.lookup name
    if found.isNone && presence == .required then none
    else do
      let more ← membersByName? members rest
      return found :: more

/-- Members of a record found in a list; what is left over is refused. -/
def membersByPlace? : Members → List Json → Option (List (Option Json))
  | [], [] => some []
  | [], _ :: _ => none
  | (_, presence) :: rest, [] =>
    if presence == .defaulted then (membersByPlace? rest []).map (none :: ·) else none
  | _ :: rest, item :: items => (membersByPlace? rest items).map (some item :: ·)

/-- The members of a record, one entry for each declared one. -/
def record? (members : Members) : Json → Option (List (Option Json))
  | object found => membersByName? found members
  | array items => membersByPlace? members items
  | _ => none

/-- Every item of a list read in one way. -/
def listOf? (read? : Json → Option α) : Json → Option (List α)
  | array items => items.mapM read?
  | _ => none

/-- A member that must be there. -/
def need (read? : Json → Option α) (found : Option Json) : Option α := found.bind read?

/-- A member with a value for when it is missing. -/
def orElse (read? : Json → Option α) (default : α) : Option Json → Option α
  | none => some default
  | some j => read? j

/-- A member that may be missing or null. -/
def maybe (read? : Json → Option α) : Option Json → Option (Option α)
  | none => some none
  | some null => some none
  | some j => (read? j).map some

/-- The name of a variant and what it carries. -/
def variant? : Json → Option (String × Option Json)
  | string name => some (name, none)
  | object [(name, carried)] => some (name, some carried)
  | _ => none

/-- A variant that carries nothing. -/
def plainVariant? (read? : String → Option α) (j : Json) : Option α :=
  match j.variant? with
  | some (name, none) => read? name
  | some (name, some null) => read? name
  | _ => none

end Json

namespace Shape

/-- The shape of a type whose variants carry nothing. -/
def plainVariants (names : List String) : Shape := choice (names.map (·, scalar))

end Shape

end Parley
