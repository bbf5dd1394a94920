/-
  Parley.Pattern.Reader
  ─────────────────────
  **READING PATTERNS.**

  Patterns are regular expressions with Unicode classes: alternation, groups
  (plain, named, or with switches), repetition (greedy or not makes no
  difference to whether a pattern occurs), bracketed sets with nesting and set
  operations, and conditions on places.  There is neither look-around nor
  back-reference.  Case is ignored from the start; the switch `i` can turn that
  off.

  A pattern is refused when it is malformed, nests too deep, or unfolds to
  something too large.
-/
import Parley.Pattern.Expr

namespace Parley.Pattern

/-! ## §1. Switches and parts. -/

/-- Switches in force. -/
structure Switches where
  /-- Ignore case (`i`). -/
  ignoreCase : Bool := true
  /-- Lines have starts and ends (`m`). -/
  multiLine : Bool := false
  /-- The point takes line ends too (`s`). -/
  dotAll : Bool := false
  /-- Classes, case and words go by Unicode (`u`). -/
  unicode : Bool := true
  /-- A carriage return ends lines too (`R`). -/
  crlf : Bool := false
  /-- Blanks and comments are skipped (`x`). -/
  spaced : Bool := false

/-- A part of a pattern. -/
structure Part where
  /-- What it matches. -/
  expr : Expr
  /-- How deep it nests. -/
  depth : Nat := 0
  /-- An estimate of its size. -/
  weight : Nat := 40
  /-- Whether it may be repeated; a setting of switches may not. -/
  repeats : Bool := true

/-- Patterns nest at most this deep. -/
def depthLimit : Nat := 250

/-- The estimated size of a pattern is at most this. -/
def weightLimit : Nat := 10 * Nat.pow 2 20

/-- Where a reader stands. -/
structure Reading where
  /-- What is left of the pattern. -/
  rest : List Char
  /-- The switches in force. -/
  switches : Switches
  /-- The names of groups met so far. -/
  names : List String

/-- A part that keeps within the limits. -/
def Part.checked? (part : Part) : Option Part :=
  if part.depth ≤ depthLimit ∧ part.weight ≤ weightLimit then some part else none

/-- Parts in a row. -/
def Part.row : List Part → Part
  | [] => ⟨.empty, 0, 0, true⟩
  | [part] => part
  | parts =>
    { expr := .seqs (parts.map (·.expr))
      depth := 1 + (parts.map (·.depth)).foldl max 0
      weight := (parts.map (·.weight)).foldl (· + ·) 0 }

/-- Parts of which any may match. -/
def Part.choice : List Part → Part
  | [part] => part
  | parts =>
    { expr := .alts (parts.map (·.expr))
      depth := 1 + (parts.map (·.depth)).foldl max 0
      weight := (parts.map (·.weight)).foldl (· + ·) 80 }

/-! ## §2. Small tokens. -/

/-- The rest of a comment's line. -/
def dropLine : List Char → List Char
  | [] => []
  | '\n' :: rest => rest
  | _ :: rest => dropLine rest

theorem length_dropLine_le (cs : List Char) : (dropLine cs).length ≤ cs.length := by
  induction cs with
  | nil => simp [dropLine]
  | cons c rest ih =>
    unfold dropLine
    split <;> simp_all
    omega

/-- Skip blanks and comments. -/
def skipComments (cs : List Char) : List Char :=
  match cs with
  | [] => []
  | c :: rest =>
    if isBlank c then skipComments rest
    else if c = '#' then skipComments (dropLine rest)
    else c :: rest
termination_by cs.length
decreasing_by
  · simp
  · have := length_dropLine_le rest
    simp
    omega

/-- Skip blanks and comments if the switches say so. -/
def skip (s : Switches) (cs : List Char) : List Char :=
  if s.spaced then skipComments cs else cs

/-- The digits at the front, blanks between them skipped if the switches say
so. -/
def decimals (s : Switches) : (fuel : Nat) → List Char → List Nat × List Char
  | 0, cs => ([], cs)
  | _ + 1, [] => ([], [])
  | fuel + 1, c :: rest =>
    if '0' ≤ c ∧ c ≤ '9' then
      let (ds, left) := decimals s fuel (skip s rest)
      ((c.toNat - 48) :: ds, left)
    else ([], c :: rest)

/-- A count, with blanks around it; counts have 32 bits. -/
def count? (s : Switches) (cs : List Char) : Option (Nat × List Char) :=
  let cs := cs.dropWhile isBlank
  let (ds, left) := decimals s cs.length cs
  let n := ds.foldl (fun n d => n * 10 + d) 0
  if ds.isEmpty ∨ Nat.pow 2 32 ≤ n then none
  else some (n, skip s (left.dropWhile isBlank))

/-- The value of a hexadecimal digit. -/
def hexDigit? (c : Char) : Option Nat :=
  if '0' ≤ c ∧ c ≤ '9' then some (c.toNat - 48)
  else if 'a' ≤ c ∧ c ≤ 'f' then some (c.toNat - 87)
  else if 'A' ≤ c ∧ c ≤ 'F' then some (c.toNat - 55)
  else none

/-- The character of a code point; surrogates have none. -/
def charOf? (n : Nat) : Option Char :=
  if n < 0xD800 ∨ (0xE000 ≤ n ∧ n < 0x110000) then some (Char.ofNat n) else none

/-- A fixed number of hexadecimal digits. -/
def hexFixed? (s : Switches) : (digits : Nat) → (value : Nat) → List Char → Option (Nat × List Char)
  | 0, value, cs => some (value, cs)
  | digits + 1, value, cs =>
    match cs with
    | [] => none
    | c :: rest =>
      match hexDigit? c with
      | none => none
      | some d => hexFixed? s digits (value * 16 + d) (skip s rest)

/-- Hexadecimal digits up to a closing brace; at least one. -/
def hexBraced? (s : Switches) (met : Bool) (value : Nat) :
    (fuel : Nat) → List Char → Option (Nat × List Char)
  | 0, _ => none
  | _ + 1, [] => none
  | fuel + 1, c :: rest =>
    if c = '\x7d' then if met then some (value, skip s rest) else none
    else
      match hexDigit? c with
      | none => none
      | some d => hexBraced? s true (value * 16 + d) fuel (skip s rest)

/-- The code point after the letter of a hexadecimal escape. -/
def hex? (s : Switches) (digits : Nat) (cs : List Char) : Option (Nat × List Char) :=
  match skip s cs with
  | '\x7b' :: rest => hexBraced? s false 0 (rest.length + 1) (skip s rest)
  | cs => hexFixed? s digits 0 cs

/-- Characters that have a meaning in patterns, so that a backslash takes it
away. -/
def isMeta (c : Char) : Bool := "\\.+*?()|[]\x7b\x7d^$#&-~".toList.contains c

/-- Other characters that a backslash may precede to no effect: every ASCII
character but letters, digits and angle brackets. -/
def isEscapable (c : Char) : Bool :=
  isMeta c || (c.toNat < 128 && !c.isAlphanum && c != '<' && c != '>')

/-! ## §3. Escapes. -/

/-- What one item outside brackets, or one item inside, denotes. -/
inductive Atom where
  /-- A character. -/
  | char (c : Char)
  /-- A set of characters. -/
  | among (set : CharSet)
  /-- A condition. -/
  | look (assertion : Assertion)

/-- ASCII digits, blanks and word characters, for patterns without Unicode. -/
def latinClass : Char → CharSet
  | 'd' => .ofRanges [('0', '9')]
  | 's' => .ofRanges [('\t', '\r'), (' ', ' ')]
  | _ => .ofRanges [('0', '9'), ('A', 'Z'), ('_', '_'), ('a', 'z')]

/-- The set of a class letter.  Without Unicode there is no negated one, as it
would reach into the middle of characters. -/
def letterClass? (s : Switches) (letter : Char) : Option CharSet :=
  if s.unicode then
    match letter with
    | 'd' => some .digit
    | 'D' => some (.compl .digit)
    | 's' => some .blank
    | 'S' => some (.compl .blank)
    | 'w' => some .word
    | 'W' => some (.compl .word)
    | _ => none
  else if letter = 'd' ∨ letter = 's' ∨ letter = 'w' then some (latinClass letter)
  else none

/-- The condition named in braces after `\b`. -/
def namedEdge? (u : Bool) : String → Option Assertion
  | "start" => some (.wordStart u)
  | "end" => some (.wordEnd u)
  | "start-half" => some (.wordStartHalf u)
  | "end-half" => some (.wordEndHalf u)
  | _ => none

/-- The letters of a name in braces. -/
def edgeName (s : Switches) : (fuel : Nat) → List Char → List Char × List Char
  | 0, cs => ([], cs)
  | _ + 1, [] => ([], [])
  | fuel + 1, c :: rest =>
    if c.isAlpha ∨ c = '-' then
      let (name, left) := edgeName s fuel (skip s rest)
      (c :: name, left)
    else ([], c :: rest)

/-- What follows `\b`: a name in braces, or nothing that belongs to it. -/
def edge? (s : Switches) (cs : List Char) : Option (Assertion × List Char) :=
  match cs with
  | '\x7b' :: rest =>
    match skip s rest with
    | [] => none
    | c :: more =>
      if c.isAlpha ∨ c = '-' then
        let (name, left) := edgeName s (more.length + 1) (c :: more)
        match left with
        | '\x7d' :: left => (namedEdge? s.unicode (String.ofList name)).map (·, left)
        | _ => none
      else some (.wordEdge s.unicode, cs)
  | _ => some (.wordEdge s.unicode, cs)

/-- A code point escaped by number.  Without Unicode, two digits name a byte,
and only ASCII bytes are characters. -/
def numbered? (s : Switches) (fixed : Bool) (found : Nat × List Char) :
    Option (Atom × List Char) := do
  let c ← charOf? found.1
  if !s.unicode ∧ fixed ∧ 128 ≤ found.1 then none else some (.char c, found.2)

/-- What an escape after its backslash denotes. -/
def escape? (s : Switches) (cs : List Char) : Option (Atom × List Char) :=
  match cs with
  | [] => none
  | c :: rest =>
    match c with
    | 'x' => (hex? s 2 rest).bind (numbered? s ((skip s rest).head? != some '\x7b'))
    | 'u' => (hex? s 4 rest).bind (numbered? s false)
    | 'U' => (hex? s 8 rest).bind (numbered? s false)
    | 'd' | 'D' | 's' | 'S' | 'w' | 'W' => (letterClass? s c).map (.among ·, rest)
    | 'a' => some (.char '\x07', rest)
    | 'f' => some (.char '\x0c', rest)
    | 't' => some (.char '\t', rest)
    | 'n' => some (.char '\n', rest)
    | 'r' => some (.char '\r', rest)
    | 'v' => some (.char '\x0b', rest)
    | 'A' => some (.look .textStart, rest)
    | 'z' => some (.look .textEnd, rest)
    | 'b' => (edge? s rest).map fun (a, left) => (.look a, left)
    | 'B' => some (.look (.notWordEdge s.unicode), rest)
    | '<' => some (.look (.wordStart s.unicode), rest)
    | '>' => some (.look (.wordEnd s.unicode), rest)
    | _ => if isEscapable c then some (.char c, rest) else none

/-- A set closed under case if the switches say so. -/
def cased (s : Switches) (set : CharSet) : CharSet :=
  if !s.ignoreCase then set
  else if s.unicode then .folded set
  else .foldedLatin set

/-- The part of an atom outside brackets. -/
def Atom.part (s : Switches) : Atom → Part
  | char c =>
    let set :=
      if (if s.unicode then (caseVariants c).length == 1 else CharSet.otherCase c == c) then
        CharSet.single c
      else cased s (.single c)
    { expr := .char set false, weight := set.weight }
  | among set => { expr := .char set false, weight := set.weight }
  | look a => { expr := .look a }

/-! ## §4. Bracketed sets. -/

/-- The sets with names in brackets and colons. -/
def posixClass? : String → Option CharSet
  | "alnum" => some (.ofRanges [('0', '9'), ('A', 'Z'), ('a', 'z')])
  | "alpha" => some (.ofRanges [('A', 'Z'), ('a', 'z')])
  | "ascii" => some (.ofRanges [('\x00', '\x7f')])
  | "blank" => some (.ofRanges [('\t', '\t'), (' ', ' ')])
  | "cntrl" => some (.ofRanges [('\x00', '\x1f'), ('\x7f', '\x7f')])
  | "digit" => some (.ofRanges [('0', '9')])
  | "graph" => some (.ofRanges [('!', '~')])
  | "lower" => some (.ofRanges [('a', 'z')])
  | "print" => some (.ofRanges [(' ', '~')])
  | "punct" => some (.ofRanges [('!', '/'), (':', '@'), ('[', '\x60'), ('\x7b', '~')])
  | "space" => some (.ofRanges [('\t', '\r'), (' ', ' ')])
  | "upper" => some (.ofRanges [('A', 'Z')])
  | "word" => some (.ofRanges [('0', '9'), ('A', 'Z'), ('_', '_'), ('a', 'z')])
  | "xdigit" => some (.ofRanges [('0', '9'), ('A', 'F'), ('a', 'f')])
  | _ => none

/-- A set as it stands once its bracket closes: closed under case, then perhaps
negated.  Without Unicode it must not reach beyond ASCII. -/
def closeSet? (s : Switches) (negated : Bool) (set : CharSet) : Option CharSet :=
  let set := cased s set
  let set := if negated then .compl set else set
  if !s.unicode ∧ set.mem [] '\x80' then none else some set

/-- A set with a name, after its opening bracket. -/
def posix? (s : Switches) (cs : List Char) : Option (CharSet × List Char) := do
  let ':' :: rest := cs | none
  let (negated, rest) := match rest with
    | '^' :: rest => (true, rest)
    | _ => (false, rest)
  let name := rest.takeWhile (· != ':')
  let ':' :: ']' :: left := rest.dropWhile (· != ':') | none
  let set ← posixClass? (String.ofList name)
  let set ← closeSet? s negated set
  return (set, left)

/-- Operations on sets. -/
inductive SetOp where
  /-- In both. -/
  | inter
  /-- In the first only. -/
  | diff
  /-- In exactly one. -/
  | symmDiff

/-- A set and how deep it nests. -/
structure Members where
  /-- The set so far. -/
  set : CharSet
  /-- How many items it has. -/
  items : Nat
  /-- How deep they nest. -/
  depth : Nat

/-- The part to the left of an operation. -/
abbrev Pending := Option (SetOp × CharSet × Nat)

/-- Join what stands to the left of an operation with what stands to its
right. -/
def join (s : Switches) (pending : Pending) (right : Members) : CharSet × Nat :=
  let depth := if right.items ≤ 1 then right.depth else 1 + right.depth
  match pending with
  | none => (right.set, depth)
  | some (op, left, leftDepth) =>
    let a := cased s left
    let b := cased s right.set
    let set := match op with
      | .inter => CharSet.inter a b
      | .diff => a.diff b
      | .symmDiff => a.symmDiff b
    (set, 1 + max leftDepth depth)

/-- Add an item. -/
def Members.add (m : Members) (set : CharSet) (depth : Nat) : Members :=
  ⟨if m.items = 0 then set else .union m.set set, m.items + 1, max m.depth depth⟩

/-- One item of a set: a character, or a class; conditions have no place
there. -/
def setItem? (s : Switches) : List Char → Option (Atom × List Char)
  | [] => none
  | '\\' :: rest => escape? s rest
  | c :: rest => some (.char c, rest)

/-- A character as an end of a range or as an item; without Unicode it must be
ASCII. -/
def memberChar? (s : Switches) (c : Char) : Option Char :=
  if !s.unicode ∧ 128 ≤ c.toNat then none else some c

/-- An item or a range of a set. -/
def setRange? (s : Switches) (cs : List Char) : Option (CharSet × List Char) := do
  let (first, left) ← setItem? s cs
  let left := skip s left
  let ends := match left with
    | '-' :: more =>
      match skip s more with
      | ']' :: _ => true
      | '-' :: _ => true
      | _ => false
    | _ => true
  match left with
  | [] => none
  | _ :: more =>
    if ends then
      match first with
      | .char c => return (.single (← memberChar? s c), left)
      | .among set => return (set, left)
      | .look _ => none
    else
      let (last, left) ← setItem? s (skip s more)
      match first, last with
      | .char a, .char b =>
        let a ← memberChar? s a
        let b ← memberChar? s b
        if a ≤ b then return (.range a.toNat b.toNat, left) else none
      | _, _ => none

/-- Literal hyphens at the start of a set. -/
def hyphens (s : Switches) : (fuel : Nat) → Members → List Char → Members × List Char
  | 0, m, cs => (m, cs)
  | fuel + 1, m, '-' :: rest => hyphens s fuel (m.add (.single '-') 0) (skip s rest)
  | _ + 1, m, cs => (m, cs)

/-- The start of a set after its bracket: negation, then hyphens, or else a
closing bracket that stands for itself. -/
def openSet (s : Switches) (cs : List Char) : Bool × Members × List Char :=
  let cs := skip s cs
  let (negated, cs) := match cs with
    | '^' :: rest => (true, skip s rest)
    | _ => (false, cs)
  let (m, cs) := hyphens s cs.length ⟨.none, 0, 0⟩ cs
  match m.items, cs with
  | 0, ']' :: rest => (negated, m.add (.single ']') 0, skip s rest)
  | _, _ => (negated, m, cs)

/-- The rest of a bracketed set: the set itself, and how deep it nests. -/
def setBody? (s : Switches) : (fuel : Nat) → (negated : Bool) → Pending → Members → List Char →
    Option (CharSet × Nat × List Char)
  | 0, _, _, _, _ => none
  | fuel + 1, negated, pending, m, cs =>
    match skip s cs with
    | [] => none
    | '[' :: rest =>
      match posix? s rest with
      | some (set, left) => setBody? s fuel negated pending (m.add set 0) left
      | none => do
        let (inner, members, left) := openSet s rest
        let (set, depth, left) ← setBody? s fuel inner none members left
        setBody? s fuel negated pending (m.add set depth) left
    | ']' :: rest => do
      let (set, depth) := join s pending m
      let set ← closeSet? s negated set
      return (set, 1 + depth, rest)
    | '&' :: '&' :: rest => operation fuel negated pending m .inter rest
    | '-' :: '-' :: rest => operation fuel negated pending m .diff rest
    | '~' :: '~' :: rest => operation fuel negated pending m .symmDiff rest
    | cs => do
      let (set, left) ← setRange? s cs
      setBody? s fuel negated pending (m.add set 0) left
where
  /-- Go on after an operator. -/
  operation (fuel : Nat) (negated : Bool) (pending : Pending) (m : Members) (op : SetOp)
      (rest : List Char) : Option (CharSet × Nat × List Char) :=
    let (left, depth) := join s pending m
    setBody? s fuel negated (some (op, left, depth)) ⟨.none, 0, 0⟩ rest

/-- A bracketed set after its bracket. -/
def bracketed? (s : Switches) (cs : List Char) : Option (Part × List Char) := do
  let (negated, members, left) := openSet s cs
  let (set, depth, left) ← setBody? s (cs.length + 1) negated none members left
  return ({ expr := .char set false, depth, weight := set.weight }, left)

/-! ## §5. Groups. -/

/-- Set one switch. -/
def Switches.set? (s : Switches) (letter : Char) (on : Bool) : Option Switches :=
  match letter with
  | 'i' => some { s with ignoreCase := on }
  | 'm' => some { s with multiLine := on }
  | 's' => some { s with dotAll := on }
  | 'U' => some s
  | 'u' => some { s with unicode := on }
  | 'R' => some { s with crlf := on }
  | 'x' => some { s with spaced := on }
  | _ => none

/-- Switches in a group, up to the colon or bracket after them; also whether
there was any, and what ended them. -/
def switchList? (s : Switches) (met : List Char) (on : Bool) :
    List Char → Option (Switches × Bool × Char × List Char)
  | [] => none
  | c :: rest =>
    if c = ':' ∨ c = ')' then
      if met.head? = some '-' then none else some (s, !met.isEmpty, c, rest)
    else if met.contains c then none
    else if c = '-' then switchList? s (c :: met) false rest
    else
      match s.set? c on with
      | none => none
      | some s => switchList? s (c :: met) on rest

/-- Whether a character can stand in the name of a group. -/
def isNameChar (first : Bool) (c : Char) : Bool :=
  if first then c == '_' || (isWordChar c && !isDigitChar c)
  else c == '_' || c == '.' || c == '[' || c == ']' || isWordChar c

/-- The name of a group, up to the angle bracket after it. -/
def groupName? (cs : List Char) : Option (String × List Char) := do
  let name := cs.takeWhile (· != '>')
  let '>' :: left := cs.dropWhile (· != '>') | none
  match name with
  | [] => none
  | c :: more =>
    if isNameChar true c ∧ more.all (isNameChar false) then
      return (String.ofList name, left)
    else none

/-- How a group begins. -/
inductive Opening where
  /-- Switches for the rest of the group around. -/
  | switches (s : Switches)
  /-- A group, with the switches in force inside it and its name if it has
  one. -/
  | group (s : Switches) (name : Option String)

/-- What follows an opening bracket. -/
def opening? (s : Switches) (cs : List Char) : Option (Opening × List Char) :=
  match skip s cs with
  | '?' :: '=' :: _ => none
  | '?' :: '!' :: _ => none
  | '?' :: '<' :: '=' :: _ => none
  | '?' :: '<' :: '!' :: _ => none
  | '?' :: 'P' :: '<' :: rest => named rest
  | '?' :: '<' :: rest => named rest
  | '?' :: rest =>
    match switchList? s [] true rest with
    | some (inner, met, ')', left) => if met then some (.switches inner, left) else none
    | some (inner, _, _, left) => some (.group inner none, left)
    | none => none
  | cs => some (.group s none, cs)
where
  /-- A group with a name. -/
  named (rest : List Char) : Option (Opening × List Char) :=
    (groupName? rest).map fun (name, left) => (.group s (some name), left)

/-! ## §6. Patterns. -/

/-- Drop a mark of reluctance. -/
def reluctant : List Char → List Char
  | '?' :: rest => rest
  | cs => cs

/-- The bounds of a counted repetition after its brace, up to the closing
one. -/
def bounds? (s : Switches) (cs : List Char) : Option (Nat × Option Nat × List Char) := do
  let (least, left) ← count? s (skip s cs)
  match left with
  | ',' :: rest =>
    match skip s rest with
    | '\x7d' :: left => return (least, none, left)
    | rest => do
      let (greatest, left) ← count? s rest
      let '\x7d' :: left := left | none
      if least ≤ greatest then return (least, some greatest, left) else none
  | '\x7d' :: left => return (least, some least, left)
  | _ => none

/-- A part repeated. -/
def Part.repeated? (part : Part) (least : Nat) (greatest : Option Nat) : Option Part := do
  if !part.repeats then none
  else
    let copies := greatest.getD (least + 1)
    let sized : Part :=
      { expr := .empty, depth := part.depth + 1, weight := part.weight * copies + 40 }
    let _ ← sized.checked?
    let expr := match least, greatest with
      | 0, none => .star part.expr
      | 1, none => .plus part.expr
      | 0, some 1 => .opt part.expr
      | _, _ => part.expr.times least greatest
    return { sized with expr }

/-- Repeat the last of the parts met so far. -/
def repeatLast? (met : List Part) (least : Nat) (greatest : Option Nat) :
    Option (List Part) :=
  match met with
  | [] => none
  | last :: rest => (last.repeated? least greatest).map (· :: rest)

/-- A point: any character but a line end. -/
def anyChar? (s : Switches) : Option Part :=
  if !s.unicode then none
  else
    let ends :=
      if s.dotAll then CharSet.none
      else if s.crlf then .union (.single '\n') (.single '\r')
      else .single '\n'
    some { expr := .char (.compl ends) false, weight := 640 }

/-- The start mark. -/
def startMark (s : Switches) : Part :=
  { expr := .look (if s.multiLine then .lineStart s.crlf else .textStart) }

/-- The end mark. -/
def endMark (s : Switches) : Part :=
  { expr := .look (if s.multiLine then .lineEnd s.crlf else .textEnd) }

/-- Read alternatives up to a closing bracket or the end.  `done` holds the
alternatives before, `met` the parts of the current one, last first. -/
def alternatives? : (fuel : Nat) → (done : List Part) → (met : List Part) → Reading →
    Option (Part × Reading)
  | 0, _, _, _ => none
  | fuel + 1, done, met, r =>
    let s := r.switches
    let move (rest : List Char) : Reading := { r with rest }
    match skip s r.rest with
    | [] => finish done met (move [])
    | ')' :: rest => finish done met (move (')' :: rest))
    | '|' :: rest => do
      let branch ← (Part.row met.reverse).checked?
      alternatives? fuel (branch :: done) [] (move rest)
    | '(' :: rest => do
      let (opening, left) ← opening? s rest
      match opening with
      | .switches inner =>
        let part : Part := { expr := .empty, weight := 0, repeats := false }
        alternatives? fuel done (part :: met) { r with rest := left, switches := inner }
      | .group inner name =>
        if name.any (r.names.contains ·) then none
        else do
          let names := name.toList ++ r.names
          let (part, after) ← alternatives? fuel [] [] ⟨left, inner, names⟩
          let ')' :: left := after.rest | none
          let part : Part := { part with depth := part.depth + 1, repeats := true }
          alternatives? fuel done (part :: met) ⟨left, s, after.names⟩
    | '[' :: rest => do
      let (part, left) ← bracketed? s rest
      alternatives? fuel done (part :: met) (move left)
    | '?' :: rest => do
      alternatives? fuel done (← repeatLast? met 0 (some 1)) (move (reluctant rest))
    | '*' :: rest => do
      alternatives? fuel done (← repeatLast? met 0 none) (move (reluctant rest))
    | '+' :: rest => do
      alternatives? fuel done (← repeatLast? met 1 none) (move (reluctant rest))
    | '\x7b' :: rest => do
      let (least, greatest, left) ← bounds? s rest
      alternatives? fuel done (← repeatLast? met least greatest) (move (reluctant (skip s left)))
    | '\\' :: rest => do
      let (atom, left) ← escape? s rest
      alternatives? fuel done (atom.part s :: met) (move left)
    | '.' :: rest => do
      let part ← anyChar? s
      alternatives? fuel done (part :: met) (move rest)
    | '^' :: rest => alternatives? fuel done (startMark s :: met) (move rest)
    | '$' :: rest => alternatives? fuel done (endMark s :: met) (move rest)
    | c :: rest => alternatives? fuel done ((Atom.char c).part s :: met) (move rest)
where
  /-- The part of all alternatives. -/
  finish (done met : List Part) (r : Reading) : Option (Part × Reading) := do
    let branch ← (Part.row met.reverse).checked?
    let part ← (Part.choice (branch :: done).reverse).checked?
    return (part, r)

/-- The expression of a pattern, unless it is refused. -/
def read? (pattern : String) : Option Expr := do
  let cs := pattern.toList
  let (part, after) ← alternatives? (cs.length + 1) [] [] ⟨cs, {}, []⟩
  if after.rest.isEmpty then return part.expr else none

end Parley.Pattern
