/-
  Parley.Toml.Reader
  ──────────────────
  **READING TOML.**

  A text is a sequence of lines: definitions of keys and headers of tables.
  Escapes with `\e` and `\x`, times without seconds, and inline tables over
  several lines are accepted.  A byte order mark at the start is skipped.
-/
import Parley.Toml.Scalar

namespace Parley.Toml

/-! ## §1. Blanks and comments. -/

/-- Drop spaces and tabs. -/
def skipBlanks : List Char → List Char
  | ' ' :: rest => skipBlanks rest
  | '\t' :: rest => skipBlanks rest
  | cs => cs

/-- What follows a line end at the front. -/
def lineEnd? : List Char → Option (List Char)
  | '\n' :: rest => some rest
  | '\r' :: '\n' :: rest => some rest
  | _ => none

/-- Whether a character may stand in comments and in texts. -/
def isPlain (c : Char) : Bool := c == '\t' || (32 ≤ c.toNat && c.toNat != 127)

/-- What follows a comment, if there is one at the front. -/
def skipComment : List Char → List Char
  | '#' :: rest => rest.dropWhile isPlain
  | cs => cs

/-- Drop blanks, comments and line ends. -/
def skipLines : (fuel : Nat) → List Char → List Char
  | 0, cs => cs
  | fuel + 1, cs =>
    let cs := skipComment (skipBlanks cs)
    match lineEnd? cs with
    | some rest => skipLines fuel rest
    | none => cs

/-! ## §2. Texts. -/

/-- The value of a fixed number of hexadecimal digits. -/
def hex? : (digits : Nat) → (value : Nat) → List Char → Option (Nat × List Char)
  | 0, value, cs => some (value, cs)
  | _ + 1, _, [] => none
  | digits + 1, value, c :: rest => do
    let d ← digitValue? 16 c
    hex? digits (value * 16 + d) rest

/-- A character escaped by number. -/
def numbered? (digits : Nat) (cs : List Char) : Option (Char × List Char) := do
  let (n, left) ← hex? digits 0 cs
  if n < 0xD800 ∨ (0xE000 ≤ n ∧ n < 0x110000) then return (Char.ofNat n, left) else none

/-- The character an escape stands for, after its backslash. -/
def escape? : List Char → Option (Char × List Char)
  | [] => none
  | c :: rest =>
    match c with
    | 'b' => some ('\x08', rest)
    | 't' => some ('\t', rest)
    | 'n' => some ('\n', rest)
    | 'f' => some ('\x0c', rest)
    | 'r' => some ('\r', rest)
    | 'e' => some ('\x1b', rest)
    | '"' => some ('"', rest)
    | '\\' => some ('\\', rest)
    | 'x' => numbered? 2 rest
    | 'u' => numbered? 4 rest
    | 'U' => numbered? 8 rest
    | _ => none

/-- A text after its opening double quote. -/
def basic? : (fuel : Nat) → List Char → Option (List Char × List Char)
  | 0, _ => none
  | _ + 1, [] => none
  | fuel + 1, c :: rest =>
    if c = '"' then some ([], rest)
    else if c = '\\' then do
      let (c, rest) ← escape? rest
      let (cs, left) ← basic? fuel rest
      return (c :: cs, left)
    else if isPlain c then do
      let (cs, left) ← basic? fuel rest
      return (c :: cs, left)
    else none

/-- A text after its opening single quote. -/
def literal? : List Char → Option (List Char × List Char)
  | [] => none
  | c :: rest =>
    if c = '\'' then some ([], rest)
    else if isPlain c then (literal? rest).map fun (cs, left) => (c :: cs, left)
    else none

/-- The end of a text over several lines: three quotes close it, and up to two
more before them belong to it. -/
def closing? (quote : Char) (cs : List Char) : Option (List Char × List Char) :=
  let run := cs.takeWhile (· == quote)
  if 3 ≤ run.length ∧ run.length ≤ 5 then
    some (List.replicate (run.length - 3) quote, cs.drop run.length)
  else if 5 < run.length then some (List.replicate 2 quote, cs.drop 5)
  else none

/-- Drop a line end that directly follows the opening quotes. -/
def dropFirstEnd (cs : List Char) : List Char := (lineEnd? cs).getD cs

/-- The rest of a line after a backslash at its end: blanks, then a line end,
then all blanks and line ends. -/
def foldedLines? (cs : List Char) : Option (List Char) :=
  (lineEnd? (skipBlanks cs)).map dropAll
where
  /-- Drop blanks and line ends. -/
  dropAll : List Char → List Char
    | ' ' :: rest => dropAll rest
    | '\t' :: rest => dropAll rest
    | '\n' :: rest => dropAll rest
    | '\r' :: '\n' :: rest => dropAll rest
    | cs => cs

/-- A text over several lines after its opening double quotes. -/
def basicLines? : (fuel : Nat) → List Char → Option (List Char × List Char)
  | 0, _ => none
  | _ + 1, [] => none
  | fuel + 1, c :: rest =>
    if c = '"' then
      match closing? '"' (c :: rest) with
      | some (quotes, left) => some (quotes, left)
      | none => do
        let (cs, left) ← basicLines? fuel rest
        return (c :: cs, left)
    else if c = '\\' then
      match foldedLines? rest with
      | some rest => basicLines? fuel rest
      | none => do
        let (c, rest) ← escape? rest
        let (cs, left) ← basicLines? fuel rest
        return (c :: cs, left)
    else if isPlain c then do
      let (cs, left) ← basicLines? fuel rest
      return (c :: cs, left)
    else
      match c, rest with
      | '\n', rest => do
        let (cs, left) ← basicLines? fuel rest
        return ('\n' :: cs, left)
      | '\r', '\n' :: rest => do
        let (cs, left) ← basicLines? fuel rest
        return ('\r' :: '\n' :: cs, left)
      | _, _ => none

/-- A text over several lines after its opening single quotes. -/
def literalLines? : (fuel : Nat) → List Char → Option (List Char × List Char)
  | 0, _ => none
  | _ + 1, [] => none
  | fuel + 1, c :: rest =>
    if c = '\'' then
      match closing? '\'' (c :: rest) with
      | some (quotes, left) => some (quotes, left)
      | none => do
        let (cs, left) ← literalLines? fuel rest
        return (c :: cs, left)
    else if isPlain c then do
      let (cs, left) ← literalLines? fuel rest
      return (c :: cs, left)
    else
      match c, rest with
      | '\n', rest => do
        let (cs, left) ← literalLines? fuel rest
        return ('\n' :: cs, left)
      | '\r', '\n' :: rest => do
        let (cs, left) ← literalLines? fuel rest
        return ('\r' :: '\n' :: cs, left)
      | _, _ => none

/-! ## §3. Keys. -/

/-- Whether a character can stand in a key without quotes. -/
def isKeyChar (c : Char) : Bool := c.isAlphanum || c == '-' || c == '_'

/-- One part of a key. -/
def keyPart? (cs : List Char) : Option (String × List Char) :=
  match cs with
  | '"' :: rest => (basic? cs.length rest).map fun (s, left) => (String.ofList s, left)
  | '\'' :: rest => (literal? rest).map fun (s, left) => (String.ofList s, left)
  | cs =>
    let name := cs.takeWhile isKeyChar
    if name.isEmpty then none else some (String.ofList name, cs.dropWhile isKeyChar)

/-- A key with its parts between dots: the parts before the last, and the
last. -/
def key? : (fuel : Nat) → List Char → Option (List String × String × List Char)
  | 0, _ => none
  | fuel + 1, cs => do
    let (part, left) ← keyPart? cs
    match skipBlanks left with
    | '.' :: rest => do
      let (path, last, left) ← key? fuel (skipBlanks rest)
      return (part :: path, last, left)
    | left => return ([], part, left)

/-! ## §4. Values. -/

/-- Lists and inline tables nest at most this deep. -/
def depthLimit : Nat := 80

mutual

/-- A value at the front. -/
def value? : (fuel : Nat) → (room : Nat) → List Char → Option (Value × List Char)
  | 0, _, _ => none
  | fuel + 1, room, cs =>
    match cs with
    | '"' :: '"' :: '"' :: rest =>
      (basicLines? cs.length (dropFirstEnd rest)).map fun (s, left) =>
        (.string (String.ofList s), left)
    | '"' :: rest =>
      (basic? cs.length rest).map fun (s, left) => (.string (String.ofList s), left)
    | '\'' :: '\'' :: '\'' :: rest =>
      (literalLines? cs.length (dropFirstEnd rest)).map fun (s, left) =>
        (.string (String.ofList s), left)
    | '\'' :: rest => (literal? rest).map fun (s, left) => (.string (String.ofList s), left)
    | '[' :: rest =>
      if room = 0 then none
      else (items? fuel (room - 1) rest).map fun (items, left) => (.array items, left)
    | '\x7b' :: rest =>
      if room = 0 then none
      else (inline? fuel (room - 1) [] rest).map fun (entries, left) =>
        (.table (Node.finishEntries entries), left)
    | cs => scalar? cs

/-- The rest of a list. -/
def items? : (fuel : Nat) → (room : Nat) → List Char → Option (List Value × List Char)
  | 0, _, _ => none
  | fuel + 1, room, cs =>
    match skipLines cs.length cs with
    | ']' :: left => some ([], left)
    | cs => do
      let (item, left) ← value? fuel room cs
      match skipLines left.length left with
      | ']' :: left => return ([item], left)
      | ',' :: rest => do
        let (more, left) ← items? fuel room rest
        return (item :: more, left)
      | _ => none

/-- The rest of an inline table. -/
def inline? : (fuel : Nat) → (room : Nat) → Entries → List Char → Option (Entries × List Char)
  | 0, _, _, _ => none
  | fuel + 1, room, entries, cs =>
    match skipLines cs.length cs with
    | '\x7d' :: left => some (entries, left)
    | cs => do
      let (path, key, left) ← key? cs.length cs
      let '=' :: rest := skipBlanks left | none
      let (value, left) ← value? fuel room (skipBlanks rest)
      let entries ← Entries.define path key value .header entries
      match skipLines left.length left with
      | '\x7d' :: left => return (entries, left)
      | ',' :: rest => inline? fuel room entries rest
      | _ => none

end

/-! ## §5. Texts as a whole. -/

/-- The table that definitions go to: the entries of all, and the path to the
current one. -/
structure Building where
  /-- All entries. -/
  root : Entries := []
  /-- The path of the current table. -/
  current : List String := []

/-- Define a key in the current table. -/
def Building.define? (b : Building) (path : List String) (key : String) (value : Value) :
    Option Building := do
  let root ← Entries.change false b.current (Entries.define path key value) .header b.root
  return { b with root }

/-- A header after its first bracket. -/
def header? (b : Building) (cs : List Char) : Option (Building × List Char) :=
  match cs with
  | '[' :: rest => do
    let (path, key, left) ← key? cs.length (skipBlanks rest)
    let ']' :: ']' :: left := left | none
    return (⟨← Entries.openItem path key b.root, path ++ [key]⟩, left)
  | cs => do
    let (path, key, left) ← key? (cs.length + 1) (skipBlanks cs)
    let ']' :: left := left | none
    return (⟨← Entries.openTable path key b.root, path ++ [key]⟩, left)

/-- The definition of a key. -/
def definition? (b : Building) (cs : List Char) : Option (Building × List Char) := do
  let (path, key, left) ← key? cs.length cs
  let '=' :: rest := skipBlanks left | none
  let (value, left) ← value? (cs.length + 1) depthLimit (skipBlanks rest)
  return (← b.define? path key value, left)

/-- All lines of a text. -/
def lines? : (fuel : Nat) → Building → List Char → Option Building
  | 0, _, _ => none
  | fuel + 1, b, cs => do
    let cs := skipBlanks cs
    let (b, left) ← match cs with
      | [] => some (b, [])
      | '[' :: rest => header? b rest
      | '#' :: _ => some (b, cs)
      | c :: _ => if c = '\n' ∨ c = '\r' then some (b, cs) else definition? b cs
    match skipComment (skipBlanks left) with
    | [] => return b
    | left => do
      let rest ← lineEnd? left
      lines? fuel b rest

/-- The top table of a text. -/
def read? (text : String) : Option (List (String × Value)) :=
  let cs := match text.toList with
    | '\ufeff' :: rest => rest
    | cs => cs
  (lines? (cs.length + 1) {} cs).map fun b => Node.finishEntries b.root

end Parley.Toml
