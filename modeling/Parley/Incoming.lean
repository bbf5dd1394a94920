/-
  Parley.Incoming
  ───────────────
  **WHAT ARRIVES FROM A CHANNEL.**

  Only messages move a dialog; everything else is noted and ignored.
-/
import Parley.Json.Record

namespace Parley

/-- The kind of an arrival. -/
inductive IncomingKind where
  /-- A message of the user. -/
  | message
  /-- A change of the conversation's members or data. -/
  | conversationUpdate
  /-- The user is typing. -/
  | typing
  /-- An event of the platform. -/
  | event
  deriving DecidableEq, Repr

namespace IncomingKind

/-- The name of a kind. -/
def name : IncomingKind → String
  | message => "message"
  | conversationUpdate => "conversation_update"
  | typing => "typing"
  | event => "event"

/-- The kind of a name. -/
def ofName? : String → Option IncomingKind
  | "message" => some .message
  | "conversation_update" => some .conversationUpdate
  | "typing" => some .typing
  | "event" => some .event
  | _ => none

/-- The stored form. -/
def toJson (k : IncomingKind) : Json := .string k.name

/-- What a reader looks at. -/
def shape : Shape := .plainVariants ["message", "conversation_update", "typing", "event"]

/-- Read the stored form. -/
def ofJson? : Json → Option IncomingKind := Json.plainVariant? ofName?

end IncomingKind

/-- An arrival. -/
structure Incoming where
  /-- Its kind. -/
  kind : IncomingKind
  /-- Its text, if any. -/
  text : Option String
  deriving DecidableEq, Repr

namespace Incoming

/-- A message of the user. -/
def ofText (text : String) : Incoming := ⟨.message, some text⟩

/-- An arrival without text. -/
def ofKind (kind : IncomingKind) : Incoming := ⟨kind, none⟩

/-- Whether this is a message of the user. -/
def isMessage (a : Incoming) : Bool := a.kind == .message

/-- The stored form. -/
def toJson (a : Incoming) : Json :=
  .object [("kind", a.kind.toJson), ("text", Json.ofOption .string a.text)]

/-- The members of the stored form. -/
def members : Members := [("kind", .required), ("text", .defaulted)]

/-- What a reader looks at. -/
def shape : Shape := .record [("kind", IncomingKind.shape), ("text", .scalar)]

/-- Read the stored form. -/
def ofJson? (j : Json) : Option Incoming := do
  let [kind, text] ← j.record? members | none
  return { kind := ← kind.bind IncomingKind.ofJson?, text := ← Json.maybe Json.string? text }

end Incoming

end Parley
