/-
  Parley.Text.Markup
  ──────────────────
  **ESCAPING FOR MARKUP.**

  Eight characters have an entity.  `escape` substitutes them one after the
  other over the whole text, the ampersand first, so that no later substitution
  touches what an earlier one wrote.
-/
namespace Parley.Markup

/-- The characters that are escaped and their entities, in the order of
substitution. -/
def entities : List (Char × String) :=
  [('&', "&amp;"), ('<', "&lt;"), ('>', "&gt;"), ('"', "&quot;"),
   ('\'', "&#39;"), ('/', "&#x2F;"), ('\x60', "&#x60;"), ('=', "&#x3D;")]

/-- Write `entity` for every occurrence of `c`. -/
def substitute (c : Char) (entity : List Char) (text : List Char) : List Char :=
  text.flatMap fun x => if x = c then entity else [x]

/-- Apply substitutions in turn. -/
def substituteAll : List (Char × String) → List Char → List Char
  | [], text => text
  | (c, entity) :: rest, text => substituteAll rest (substitute c entity.toList text)

/-- The text with all eight characters replaced by their entities. -/
def escape (text : List Char) : List Char := substituteAll entities text

end Parley.Markup
