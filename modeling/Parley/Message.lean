/-
  Parley.Message
  ──────────────
  **MESSAGES AND THEIR DRAFTS.**

  A `Draft` is what the author of a script writes: text variants, suggested
  replies, attachments and data for the channel, with placeholders inside.  A
  `Message` is a draft made ready for delivery.  Both have a stored form.
-/
import Parley.Json.Record
import Parley.Values

namespace Parley

/-! ## §1. Suggested replies. -/

/-- A suggested reply. -/
structure Suggestion where
  /-- The label. -/
  title : String
  /-- The text posted when it is chosen. -/
  payload : String
  deriving DecidableEq, Repr

namespace Suggestion

/-- The stored form. -/
def toJson (s : Suggestion) : Json :=
  .object [("payload", .string s.payload), ("title", .string s.title)]

/-- The members of the stored form. -/
def members : Members := [("title", .required), ("payload", .required)]

/-- What a reader looks at. -/
def shape : Shape := .record [("title", .scalar), ("payload", .scalar)]

/-- Read the stored form. -/
def ofJson? (j : Json) : Option Suggestion := do
  let [title, payload] ← j.record? members | none
  return { title := ← title.bind Json.string?, payload := ← payload.bind Json.string? }

end Suggestion

/-! ## §2. Messages. -/

/-- A message ready for delivery. -/
structure Message where
  /-- The text. -/
  text : String := ""
  /-- Suggested replies. -/
  suggestions : List Suggestion := []
  /-- Attachments, if any. -/
  attachments : Option Json := none
  /-- Data for the channel. -/
  channel : Table Json := .empty

namespace Message

/-- A message that is only text. -/
def ofText (text : String) : Message := { text }

/-- The stored form: what is empty is left out, the text always stays. -/
def toJson (m : Message) : Json :=
  let attachments := match m.attachments with
    | none => []
    | some a => [("attachments", a)]
  let channel := if m.channel.isEmpty then [] else [("channel_data", Json.ofTable m.channel)]
  let suggestions :=
    if m.suggestions.isEmpty then []
    else [("suggested_actions", Json.array (m.suggestions.map Suggestion.toJson))]
  .object (attachments ++ channel ++ suggestions ++ [("text", .string m.text)])

/-- The members of the stored form. -/
def members : Members :=
  [("text", .required), ("suggested_actions", .defaulted), ("attachments", .defaulted),
   ("channel_data", .defaulted)]

/-- What a reader looks at. -/
def shape : Shape :=
  .record [("text", .scalar), ("suggested_actions", .list Suggestion.shape),
    ("attachments", .any), ("channel_data", .table .any)]

/-- Read the stored form; null attachments are none. -/
def ofJson? (j : Json) : Option Message := do
  let [text, suggestions, attachments, channel] ← j.record? members | none
  return {
    text := ← text.bind Json.string?
    suggestions := ← Json.orElse (Json.listOf? Suggestion.ofJson?) [] suggestions
    attachments := attachments.bind Json.nonNull?
    channel := ← Json.orElse Json.table? .empty channel }

end Message

/-! ## §3. Drafts. -/

/-- The part of a line that is sent; texts inside are templates. -/
structure Draft where
  /-- Text variants; one is used each time. -/
  texts : List String := []
  /-- Suggested replies. -/
  suggestions : List Suggestion := []
  /-- Attachments, if any. -/
  attachments : Option Json := none
  /-- Data for the channel. -/
  channel : Table Json := .empty

namespace Draft

/-- A draft with one text. -/
def ofText (text : String) : Draft := { texts := [text] }

/-- Whether there is anything to send. -/
def hasContent (d : Draft) : Bool :=
  !d.texts.isEmpty || !d.suggestions.isEmpty || d.attachments.isSome || !d.channel.isEmpty

/-- The stored form. -/
def toJson (d : Draft) : Json :=
  .object
    [("attachments", d.attachments.getD .null),
     ("channel_data", Json.ofTable d.channel),
     ("quick_replies", .array (d.suggestions.map Suggestion.toJson)),
     ("text", .array (d.texts.map .string))]

/-- The members of the stored form. -/
def members : Members :=
  [("text", .defaulted), ("quick_replies", .defaulted), ("attachments", .defaulted),
   ("channel_data", .defaulted)]

/-- What a reader looks at. -/
def shape : Shape :=
  .record [("text", .list .scalar), ("quick_replies", .list Suggestion.shape),
    ("attachments", .any), ("channel_data", .table .any)]

/-- Read the stored form; null attachments are none. -/
def ofJson? (j : Json) : Option Draft := do
  let [texts, suggestions, attachments, channel] ← j.record? members | none
  return {
    texts := ← Json.orElse (Json.listOf? Json.string?) [] texts
    suggestions := ← Json.orElse (Json.listOf? Suggestion.ofJson?) [] suggestions
    attachments := attachments.bind Json.nonNull?
    channel := ← Json.orElse Json.table? .empty channel }

end Draft

end Parley
