/-
  Parley.Json.Document
  ────────────────────
  **VALUES AS WRITTEN, AND THE READER.**

  A `Document` is the tree of a text before its meaning is fixed: members keep
  their order and may repeat, a number may be out of range and a text may hold
  half a surrogate pair.  Whether those matter is for the one who takes values
  from the document (`Parley.Json.Shape`).

  `Document.read?` accepts the strict grammar: no comments, no trailing comma,
  no leading zero, no bare control character, nothing after the value.
-/
import Parley.Json.Numeral

namespace Parley

/-- A value as written. -/
inductive Document where
  /-- The word null. -/
  | null
  /-- The words true and false. -/
  | bool (b : Bool)
  /-- A number, unless it is out of range. -/
  | number (n : Option Number)
  /-- A text, unless half a surrogate pair stands in it. -/
  | string (s : Option String)
  /-- Items in brackets. -/
  | array (items : List Document)
  /-- Members in braces, in the order written. -/
  | object (members : List (Option String × Document))

namespace Document

/-! ## §1. Tokens. -/

/-- Drop blanks: space, tab, line feed, carriage return. -/
def skipBlanks : List Char → List Char
  | [] => []
  | c :: rest =>
    if c = ' ' ∨ c = '\t' ∨ c = '\n' ∨ c = '\r' then skipBlanks rest else c :: rest

/-- The value of a decimal digit. -/
def decimalDigit? (c : Char) : Option Nat :=
  if '0' ≤ c ∧ c ≤ '9' then some (c.toNat - 48) else none

/-- The value of a hexadecimal digit. -/
def hexValue? (c : Char) : Option Nat :=
  if '0' ≤ c ∧ c ≤ '9' then some (c.toNat - 48)
  else if 'a' ≤ c ∧ c ≤ 'f' then some (c.toNat - 87)
  else if 'A' ≤ c ∧ c ≤ 'F' then some (c.toNat - 55)
  else none

/-- The digits at the front and what follows them. -/
def digits : List Char → List Nat × List Char
  | [] => ([], [])
  | c :: rest =>
    match decimalDigit? c with
    | some d => let (ds, left) := digits rest; (d :: ds, left)
    | none => ([], c :: rest)

/-- At least one digit at the front. -/
def digits1? (cs : List Char) : Option (List Nat × List Char) :=
  match digits cs with
  | ([], _) => none
  | found => some found

/-- The whole part: a lone zero, or digits that do not start with zero. -/
def wholePart? (cs : List Char) : Option (List Nat × List Char) :=
  match digits cs with
  | ([], _) => none
  | (0 :: _ :: _, _) => none
  | found => some found

/-- The fraction, if a point follows. -/
def fractionPart? : List Char → Option (Option (List Nat) × List Char)
  | '.' :: rest => (digits1? rest).map fun (ds, left) => (some ds, left)
  | cs => some (none, cs)

/-- The exponent, if its mark follows. -/
def exponentPart? : List Char → Option (Option Int × List Char)
  | 'e' :: rest => marked rest
  | 'E' :: rest => marked rest
  | cs => some (none, cs)
where
  /-- The natural number of some digits. -/
  value (ds : List Nat) : Nat := ds.foldl (fun n d => n * 10 + d) 0
  /-- Sign and digits after the mark. -/
  marked : List Char → Option (Option Int × List Char)
    | '+' :: rest => (digits1? rest).map fun (ds, left) => (some (value ds : Int), left)
    | '-' :: rest => (digits1? rest).map fun (ds, left) => (some (-(value ds : Int)), left)
    | rest => (digits1? rest).map fun (ds, left) => (some (value ds : Int), left)

/-- A number at the front. -/
def numeral? (cs : List Char) : Option (Numeral × List Char) := do
  let (negative, cs) := match cs with
    | '-' :: rest => (true, rest)
    | _ => (false, cs)
  let (whole, cs) ← wholePart? cs
  let (fraction, cs) ← fractionPart? cs
  let (exponent, cs) ← exponentPart? cs
  return (⟨negative, whole, fraction, exponent⟩, cs)

/-- The unit that four hexadecimal digits at the front name. -/
def unit? : List Char → Option (Nat × List Char)
  | a :: b :: c :: d :: rest => do
    let a ← hexValue? a
    let b ← hexValue? b
    let c ← hexValue? c
    let d ← hexValue? d
    return (((a * 16 + b) * 16 + c) * 16 + d, rest)
  | _ => none

/-- One piece of a quoted text. -/
inductive Piece where
  /-- A character, as itself or escaped. -/
  | char (c : Char)
  /-- A 16-bit unit escaped by number. -/
  | unit (n : Nat)

/-- The pieces of a quoted text up to the closing quote. -/
def pieces? : (fuel : Nat) → List Char → Option (List Piece × List Char)
  | 0, _ => none
  | fuel + 1, cs =>
    match cs with
    | [] => none
    | '"' :: rest => some ([], rest)
    | '\\' :: 'u' :: rest => do
      let (n, rest) ← unit? rest
      let (ps, left) ← pieces? fuel rest
      return (.unit n :: ps, left)
    | '\\' :: e :: rest => do
      let c ← named? e
      let (ps, left) ← pieces? fuel rest
      return (.char c :: ps, left)
    | c :: rest =>
      if c = '\\' ∨ c.toNat < 32 then none
      else do
        let (ps, left) ← pieces? fuel rest
        return (.char c :: ps, left)
where
  /-- The character a short escape stands for. -/
  named? : Char → Option Char
    | '"' => some '"'
    | '\\' => some '\\'
    | '/' => some '/'
    | 'b' => some '\x08'
    | 'f' => some '\x0c'
    | 'n' => some '\n'
    | 'r' => some '\r'
    | 't' => some '\t'
    | _ => none

/-- The text of pieces: two units that form a surrogate pair make one character,
and a unit of a pair without its partner makes the text meaningless. -/
def join? : List Piece → Option (List Char)
  | [] => some []
  | .char c :: rest => (join? rest).map (c :: ·)
  | .unit high :: .unit low :: rest =>
    if 0xD800 ≤ high ∧ high < 0xDC00 then
      if 0xDC00 ≤ low ∧ low < 0xE000 then
        (join? rest).map (Char.ofNat (0x10000 + (high - 0xD800) * 0x400 + (low - 0xDC00)) :: ·)
      else none
    else if 0xDC00 ≤ high ∧ high < 0xE000 then none
    else (join? (.unit low :: rest)).map (Char.ofNat high :: ·)
  | .unit n :: rest =>
    if 0xD800 ≤ n ∧ n < 0xE000 then none else (join? rest).map (Char.ofNat n :: ·)

/-- A text after its opening quote. -/
def quoted? (cs : List Char) : Option (Option String × List Char) :=
  (pieces? (cs.length + 1) cs).map fun (ps, left) => ((join? ps).map String.ofList, left)

/-- What follows `word` at the front. -/
def after? (word : String) (cs : List Char) : Option (List Char) :=
  if word.toList.isPrefixOf cs then some (cs.drop word.length) else none

/-! ## §2. Values. -/

mutual

/-- A value at the front, and what follows it. -/
def value? : (fuel : Nat) → List Char → Option (Document × List Char)
  | 0, _ => none
  | fuel + 1, cs =>
    match skipBlanks cs with
    | [] => none
    | 'n' :: rest => (after? "ull" rest).map (null, ·)
    | 't' :: rest => (after? "rue" rest).map (bool true, ·)
    | 'f' :: rest => (after? "alse" rest).map (bool false, ·)
    | '"' :: rest => (quoted? rest).map fun (s, left) => (string s, left)
    | '[' :: rest =>
      match skipBlanks rest with
      | ']' :: left => some (array [], left)
      | rest => (items? fuel rest).map fun (items, left) => (array items, left)
    | '{' :: rest =>
      match skipBlanks rest with
      | '}' :: left => some (object [], left)
      | rest => (members? fuel rest).map fun (members, left) => (object members, left)
    | c :: rest => (numeral? (c :: rest)).map fun (n, left) => (number n.value?, left)

/-- One item and the rest of the list. -/
def items? : (fuel : Nat) → List Char → Option (List Document × List Char)
  | 0, _ => none
  | fuel + 1, cs => do
    let (item, cs) ← value? fuel cs
    match skipBlanks cs with
    | ']' :: left => return ([item], left)
    | ',' :: rest => do
      let (more, left) ← items? fuel rest
      return (item :: more, left)
    | _ => none

/-- One member and the rest of the object. -/
def members? : (fuel : Nat) → List Char → Option (List (Option String × Document) × List Char)
  | 0, _ => none
  | fuel + 1, cs =>
    match skipBlanks cs with
    | '"' :: rest => do
      let (key, cs) ← quoted? rest
      match skipBlanks cs with
      | ':' :: cs => do
        let (value, cs) ← value? fuel cs
        match skipBlanks cs with
        | '}' :: left => return ([(key, value)], left)
        | ',' :: rest => do
          let (more, left) ← members? fuel rest
          return ((key, value) :: more, left)
        | _ => none
      | _ => none
    | _ => none

end

/-- The document of a whole text. -/
def read? (text : String) : Option Document :=
  let cs := text.toList
  match value? (cs.length + 1) cs with
  | some (doc, left) => if (skipBlanks left).isEmpty then some doc else none
  | none => none

end Document

end Parley
