/-
  Parley.Variants
  ───────────────
  **CHOOSING ONE OF SEVERAL TEXTS.**

  Choices draw on a supply of 32-bit words: a finite list, and zeros after it.
  Of `n` variants a word `w` picks the one numbered by the upper half of the
  64-bit product `w · n`, provided that the lower half does not exceed the zone
  `n · 2 ^ k - 1`, where `k` is the number of leading zero bits of `n`; words
  outside the zone are passed over.  That gives every variant the same number
  of words.  A draft with suggested replies always uses its first text.
-/
import Parley.Template

namespace Parley

/-- A supply of random words; zeros follow the list. -/
structure Words where
  /-- The words to come. -/
  ahead : List UInt32
  /-- How many words were drawn so far. -/
  drawn : Nat := 0
  deriving DecidableEq, Repr

namespace Words

/-- Leading zero bits of `n` as a 32-bit word. -/
def leadingZeros (n : Nat) : Nat := 31 - n.log2

/-- The largest lower half that is accepted for `n` variants. -/
def zone (n : Nat) : Nat := n * Nat.pow 2 (leadingZeros n) - 1

/-- The variant that a word picks among `n`, unless it is passed over. -/
def accept? (n : Nat) (word : UInt32) : Option Nat :=
  let product := word.toNat * n
  if product % Nat.pow 2 32 ≤ zone n then some (product / Nat.pow 2 32) else none

/-- Draw words until one picks a variant among `n`. -/
def choose (n : Nat) (words : Words) : Nat × Words :=
  go words.ahead words.drawn
where
  /-- Draw from a list; past its end a zero picks the first variant. -/
  go : List UInt32 → Nat → Nat × Words
    | [], drawn => (0, ⟨[], drawn + 1⟩)
    | word :: rest, drawn =>
      match accept? n word with
      | some i => (i, ⟨rest, drawn + 1⟩)
      | none => go rest (drawn + 1)

end Words

namespace Draft

/-- The text variant to use, and the words left. -/
def variant (draft : Draft) (words : Words) : Option String × Words :=
  match draft.texts with
  | [] => (none, words)
  | first :: _ =>
    if draft.suggestions.isEmpty then
      let (i, words) := words.choose draft.texts.length
      (draft.texts[i]?, words)
    else (some first, words)

/-- The names of the channel data that hold templates. -/
def renderedChannel : List String := ["attachments", "attachment"]

/-- The message of a draft for a choice of text. -/
def message (draft : Draft) (values : Values) (text : Option String) : Message where
  text := (text.map (Template.render · values)).getD ""
  suggestions := draft.suggestions
  attachments := draft.attachments.map (Template.renderTree values)
  channel := draft.channel.mapAt renderedChannel (Template.renderTree values)

/-- The message of a draft, and the words left. -/
def render (draft : Draft) (values : Values) (words : Words) : Message × Words :=
  let (text, words) := draft.variant words
  (draft.message values text, words)

end Draft

end Parley
