/-
  Parley.Intake
  ─────────────
  **WHAT A QUESTION DOES WITH ITS REPLY.**

  An `Intake` may name a variable for the reply and may have branches.  A
  branch either tests the reply with a pattern or is a fallback.  The first
  branch whose pattern occurs in the reply is chosen; if there is none, the
  first fallback.

  Callbacks are known by values of a type `H`; what they do is not the script's
  business.
-/
import Parley.Directive
import Parley.Pattern.Reader

namespace Parley

/-- How a pattern was declared; both kinds are read alike. -/
inductive PatternKind where
  /-- As a text. -/
  | string
  /-- As an expression. -/
  | regex
  deriving DecidableEq, Repr

namespace PatternKind

/-- The name of a kind. -/
def name : PatternKind → String
  | string => "string"
  | regex => "regex"

/-- The kind of a name. -/
def ofName? : String → Option PatternKind
  | "string" => some .string
  | "regex" => some .regex
  | _ => none

/-- What a reader looks at. -/
def shape : Shape := .plainVariants ["string", "regex"]

/-- Read the stored form. -/
def ofJson? : Json → Option PatternKind := Json.plainVariant? ofName?

end PatternKind

/-- What follows from choosing a branch. -/
inductive Consequence (H : Type) where
  /-- A directive is obeyed. -/
  | directive (directive : Directive)
  /-- A callback decides. -/
  | handler (handler : H)
  deriving DecidableEq, Repr

/-- One branch of a question. -/
inductive Branch (H : Type) where
  /-- Chosen for replies that pass the test of its pattern. -/
  | matching (kind : PatternKind) (pattern : String) (test : String → Bool)
      (consequence : Consequence H)
  /-- Chosen when no pattern fits. -/
  | fallback (consequence : Consequence H)

namespace Branch

variable {H : Type}

/-- A branch for replies in which a pattern occurs. -/
def ofPattern (kind : PatternKind) (pattern : String) (consequence : Consequence H) :
    Except Fault (Branch H) :=
  match Pattern.read? pattern with
  | some e => .ok (.matching kind pattern e.occursIn consequence)
  | none => .error (.invalidPattern pattern)

/-- Whether this is a fallback. -/
def isFallback : Branch H → Bool
  | matching .. => false
  | fallback _ => true

/-- What follows from choosing it. -/
def consequence : Branch H → Consequence H
  | matching _ _ _ c => c
  | fallback c => c

/-- The pattern, of a branch that has one. -/
def pattern? : Branch H → Option String
  | matching _ pattern _ _ => some pattern
  | fallback _ => none

/-- How the pattern was declared; a fallback counts as a text. -/
def kind : Branch H → PatternKind
  | matching kind _ _ _ => kind
  | fallback _ => .string

/-- Whether the pattern of the branch fits a reply; a fallback has none. -/
def fits (reply : String) : Branch H → Bool
  | matching _ _ test _ => test reply
  | fallback _ => false

end Branch

/-- What a question does with its reply. -/
structure Intake (H : Type) where
  /-- The variable that takes the reply. -/
  key : Option String := none
  /-- Whether replies are joined to what the variable holds. -/
  multiple : Bool := false
  /-- The branches, in order. -/
  branches : List (Branch H) := []

namespace Intake

variable {H : Type}

/-- Put the reply into a variable. -/
def capture (key : String) : Intake H := { key := some key }

/-- Put the reply into a variable and let a callback decide. -/
def handled (key : String) (handler : H) : Intake H :=
  { key := some key, branches := [.fallback (.handler handler)] }

/-- Which branch is chosen for a reply. -/
def choice? (intake : Intake H) (reply : String) : Option Nat :=
  match intake.branches.findIdx? (·.fits reply) with
  | some i => some i
  | none => intake.branches.findIdx? (·.isFallback)

/-- The branch chosen for a reply. -/
def select? (intake : Intake H) (reply : String) : Option (Branch H) :=
  (intake.choice? reply).bind (intake.branches[·]?)

/-- The directives that branches may lead to, in order. -/
def directives (intake : Intake H) : List Directive :=
  intake.branches.filterMap fun branch =>
    match branch.consequence with
    | .directive d => some d
    | .handler _ => none

end Intake

end Parley
