/-
  Parley.Template
  ───────────────
  **TEXTS WITH PLACEHOLDERS.**

  A template is read as a list of pieces.  A placeholder is a reference between
  two braces on each side, whose value is escaped for markup, or between three,
  whose value stands as it is; blanks may surround the reference.  Three braces
  are tried before two, and what is no placeholder stands for itself.  Values
  are never read as templates again.

  A reference `vars.a.b` walks from the variable `a` to its member `b`; any
  other reference, and a walk that finds nothing, shows nothing.
-/
import Parley.Message
import Parley.Text.Blank
import Parley.Text.Markup

namespace Parley.Template

/-! ## §1. Pieces. -/

/-- A piece of a template. -/
inductive Piece where
  /-- A character that stands for itself. -/
  | char (c : Char)
  /-- A reference between two braces. -/
  | escaped (reference : List Char)
  /-- A reference between three braces. -/
  | verbatim (reference : List Char)
  deriving DecidableEq, Repr

/-- Whether a character can stand in a reference. -/
def isReferenceChar (c : Char) : Bool := c != '\x7b' && c != '\x7d' && !isBlank c

/-- A reference with blanks around it, up to the closing braces. -/
def reference? (close : List Char) (cs : List Char) : Option (List Char × List Char) :=
  let body := cs.dropWhile isBlank
  let reference := body.takeWhile isReferenceChar
  let tail := (body.dropWhile isReferenceChar).dropWhile isBlank
  if reference.isEmpty then none
  else if close.isPrefixOf tail then some (reference, tail.drop close.length)
  else none

/-- A placeholder with three braces at the front. -/
def verbatim? : List Char → Option (Piece × List Char)
  | '\x7b' :: '\x7b' :: '\x7b' :: rest =>
    (reference? ['\x7d', '\x7d', '\x7d'] rest).map fun (r, left) => (.verbatim r, left)
  | _ => none

/-- A placeholder with two braces at the front. -/
def escaped? : List Char → Option (Piece × List Char)
  | '\x7b' :: '\x7b' :: rest =>
    (reference? ['\x7d', '\x7d'] rest).map fun (r, left) => (.escaped r, left)
  | _ => none

/-- A placeholder at the front, three braces before two. -/
def placeholder? (cs : List Char) : Option (Piece × List Char) :=
  match verbatim? cs with
  | some found => some found
  | none => escaped? cs

/-- Skipping characters leaves no more of them. -/
theorem length_dropWhile_le (p : Char → Bool) (cs : List Char) :
    (cs.dropWhile p).length ≤ cs.length :=
  (List.dropWhile_suffix p).length_le

/-- Reading a reference leaves no more characters than there were. -/
theorem length_le_of_reference? {close cs reference left : List Char}
    (h : reference? close cs = some (reference, left)) : left.length ≤ cs.length := by
  unfold reference? at h
  simp only at h
  split at h
  · cases h
  · split at h
    · cases h
      have h1 := length_dropWhile_le isBlank cs
      have h2 := length_dropWhile_le isReferenceChar (cs.dropWhile isBlank)
      have h3 := length_dropWhile_le isBlank ((cs.dropWhile isBlank).dropWhile isReferenceChar)
      simp only [List.length_drop]
      omega
    · cases h

/-- A placeholder between three braces uses up characters. -/
theorem length_lt_of_verbatim? {cs left : List Char} {piece : Piece}
    (h : verbatim? cs = some (piece, left)) : left.length < cs.length := by
  unfold verbatim? at h
  split at h
  · obtain ⟨⟨r, l⟩, hr, heq⟩ := Option.map_eq_some_iff.mp h
    cases heq
    have := length_le_of_reference? hr
    simp only [List.length_cons]
    omega
  · cases h

/-- So does one between two. -/
theorem length_lt_of_escaped? {cs left : List Char} {piece : Piece}
    (h : escaped? cs = some (piece, left)) : left.length < cs.length := by
  unfold escaped? at h
  split at h
  · obtain ⟨⟨r, l⟩, hr, heq⟩ := Option.map_eq_some_iff.mp h
    cases heq
    have := length_le_of_reference? hr
    simp only [List.length_cons]
    omega
  · cases h

/-- A placeholder uses up characters. -/
theorem length_lt_of_placeholder? {cs left : List Char} {piece : Piece}
    (h : placeholder? cs = some (piece, left)) : left.length < cs.length := by
  unfold placeholder? at h
  split at h
  · rename_i found hv
    cases h
    exact length_lt_of_verbatim? hv
  · exact length_lt_of_escaped? h

/-- The pieces of a template, placeholders taken from the left. -/
def pieces (cs : List Char) : List Piece :=
  match _h : placeholder? cs with
  | some (piece, left) => piece :: pieces left
  | none =>
    match cs with
    | [] => []
    | c :: rest => .char c :: pieces rest
termination_by cs.length
decreasing_by
  · exact length_lt_of_placeholder? _h
  · simp

/-! ## §2. References. -/

/-- The parts of a path between its dots. -/
def segments : List Char → List (List Char)
  | [] => [[]]
  | c :: rest =>
    if c = '.' then [] :: segments rest
    else
      match segments rest with
      | [] => [[c]]
      | first :: more => (c :: first) :: more

/-- Walk from a value through the members that a path names. -/
def walk (path : List String) (value : Json) : Option Json :=
  path.foldlM (fun value name => value.member? name) value

/-- The path of a reference, if it is one to a variable. -/
def path? (reference : List Char) : Option (List String) :=
  if "vars.".toList.isPrefixOf reference then
    some ((segments (reference.drop 5)).map String.ofList)
  else none

/-- The value that a reference leads to. -/
def target? (reference : List Char) (values : Values) : Option Json :=
  match path? reference with
  | some (first :: path) => (values.get? first).bind (walk path)
  | _ => none

/-- What a reference shows. -/
def shown (reference : List Char) (values : Values) : List Char :=
  match target? reference values with
  | some value => value.shown.toList
  | none => []

/-! ## §3. Rendering. -/

/-- What a piece shows. -/
def Piece.render (values : Values) : Piece → List Char
  | .char c => [c]
  | .escaped reference => Markup.escape (shown reference values)
  | .verbatim reference => shown reference values

/-- What pieces show, one after the other. -/
def renderPieces (values : Values) (ps : List Piece) : List Char :=
  ps.flatMap (·.render values)

/-- A template with its placeholders filled. -/
def render (template : String) (values : Values) : String :=
  String.ofList (renderPieces values (pieces template.toList))

mutual

/-- A value with every text in it rendered; names of members are left alone. -/
def renderTree (values : Values) : Json → Json
  | .string s => .string (render s values)
  | .array items => .array (renderItems values items)
  | .object members => .object (renderMembers values members)
  | .null => .null
  | .bool b => .bool b
  | .number n => .number n

/-- Every item rendered. -/
def renderItems (values : Values) : List Json → List Json
  | [] => []
  | item :: rest => renderTree values item :: renderItems values rest

/-- Every member rendered. -/
def renderMembers (values : Values) : List (String × Json) → List (String × Json)
  | [] => []
  | (key, value) :: rest => (key, renderTree values value) :: renderMembers values rest

end

end Parley.Template
