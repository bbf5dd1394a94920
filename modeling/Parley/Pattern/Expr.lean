/-
  Parley.Pattern.Expr
  ───────────────────
  **PATTERN EXPRESSIONS AND SEARCH.**

  An expression carries a mark on every set of characters: the set is marked
  when it has just taken a character on some way through the expression.  A
  search steps the marks over the text, one character at a time, and succeeds
  as soon as some way is complete.  Its time is bounded by the size of the
  expression times the length of the text, whatever the expression is.

      nullable — some way through takes no character here
      final    — some way that has taken characters is complete here
      step     — the marks after one more character
-/
import Parley.Pattern.CharSet
import Parley.Text.CaseFold

namespace Parley.Pattern

/-! ## §1. Places. -/

/-- A place between two characters of a text, or at one of its ends. -/
structure Place where
  /-- The character before. -/
  before : Option Char
  /-- The character after. -/
  after : Option Char

/-- A condition on a place. -/
inductive Assertion where
  /-- The start of the text. -/
  | textStart
  /-- The end of the text. -/
  | textEnd
  /-- The start of a line; a carriage return ends lines too if `crlf`. -/
  | lineStart (crlf : Bool)
  /-- The end of a line; a carriage return ends lines too if `crlf`. -/
  | lineEnd (crlf : Bool)
  /-- The edge of a word. -/
  | wordEdge (unicode : Bool)
  /-- Not the edge of a word. -/
  | notWordEdge (unicode : Bool)
  /-- The start of a word. -/
  | wordStart (unicode : Bool)
  /-- The end of a word. -/
  | wordEnd (unicode : Bool)
  /-- No word before. -/
  | wordStartHalf (unicode : Bool)
  /-- No word after. -/
  | wordEndHalf (unicode : Bool)
  deriving Repr

/-- Whether a neighbour is part of a word. -/
def inWord (unicode : Bool) : Option Char → Bool
  | none => false
  | some c =>
    if unicode then isWordChar c
    else c.isAlphanum || c == '_'

/-- Whether a condition holds at a place. -/
def Assertion.holds (p : Place) : Assertion → Bool
  | textStart => p.before.isNone
  | textEnd => p.after.isNone
  | lineStart false => p.before.isNone || p.before == some '\n'
  | lineStart true =>
    p.before.isNone || p.before == some '\n'
      || (p.before == some '\r' && p.after != some '\n')
  | lineEnd false => p.after.isNone || p.after == some '\n'
  | lineEnd true =>
    p.after.isNone || p.after == some '\r'
      || (p.after == some '\n' && p.before != some '\r')
  | wordEdge u => inWord u p.before != inWord u p.after
  | notWordEdge u => inWord u p.before == inWord u p.after
  | wordStart u => !inWord u p.before && inWord u p.after
  | wordEnd u => inWord u p.before && !inWord u p.after
  | wordStartHalf u => !inWord u p.before
  | wordEndHalf u => !inWord u p.after

/-! ## §2. Expressions. -/

/-- A pattern with its marks. -/
inductive Expr where
  /-- The empty text. -/
  | empty
  /-- One character of a set. -/
  | char (set : CharSet) (marked : Bool)
  /-- The empty text where a condition holds. -/
  | look (assertion : Assertion)
  /-- One after the other. -/
  | seq (p q : Expr)
  /-- One or the other. -/
  | alt (p q : Expr)
  /-- Any number of times. -/
  | star (p : Expr)
  /-- At least once. -/
  | plus (p : Expr)
  /-- At most once. -/
  | opt (p : Expr)
  deriving Repr

namespace Expr

/-- All in a row. -/
def seqs : List Expr → Expr
  | [] => empty
  | [p] => p
  | p :: rest => seq p (seqs rest)

/-- Any of them. -/
def alts : List Expr → Expr
  | [] => empty
  | [p] => p
  | p :: rest => alt p (alts rest)

/-- At most `n` times in a row. -/
def upTo (p : Expr) : Nat → Expr
  | 0 => empty
  | n + 1 => opt (seq p (upTo p n))

/-- Between `least` and `greatest` times, or at least `least` times. -/
def times (p : Expr) (least : Nat) : Option Nat → Expr
  | none => seqs (List.replicate least p ++ [star p])
  | some greatest => seqs (List.replicate least p ++ [p.upTo (greatest - least)])

/-! ## §3. Search. -/

/-- Whether some way through takes no character at this place. -/
def nullable (here : Place) : Expr → Bool
  | empty => true
  | char _ _ => false
  | look assertion => assertion.holds here
  | seq p q => p.nullable here && q.nullable here
  | alt p q => p.nullable here || q.nullable here
  | star _ => true
  | plus p => p.nullable here
  | opt _ => true

/-- Whether some way that has taken characters is complete at this place. -/
def final (here : Place) : Expr → Bool
  | empty => false
  | char _ marked => marked
  | look _ => false
  | seq p q => (p.final here && q.nullable here) || q.final here
  | alt p q => p.final here || q.final here
  | star p => p.final here
  | plus p => p.final here
  | opt p => p.final here

/-- The marks after the character `c`; `enter` tells whether a way may begin
here. -/
def step (here : Place) (variants : List Char) (c : Char) (enter : Bool) : Expr → Expr
  | empty => empty
  | char set _ => char set (enter && set.mem variants c)
  | look assertion => look assertion
  | seq p q =>
    seq (p.step here variants c enter)
      (q.step here variants c ((enter && p.nullable here) || p.final here))
  | alt p q => alt (p.step here variants c enter) (q.step here variants c enter)
  | star p => star (p.step here variants c (enter || p.final here))
  | plus p => plus (p.step here variants c (enter || p.final here))
  | opt p => opt (p.step here variants c enter)

/-- Whether some way through the expression is complete at some place of the
rest of a text; ways may begin anywhere. -/
def search (e : Expr) (before : Option Char) : List Char → Bool
  | [] =>
    let here : Place := ⟨before, none⟩
    e.nullable here || e.final here
  | c :: rest =>
    let here : Place := ⟨before, some c⟩
    if e.nullable here || e.final here then true
    else search (e.step here (caseVariants c) c true) (some c) rest

/-- Whether the expression occurs in a text. -/
def occursIn (e : Expr) (text : String) : Bool := e.search none text.toList

end Expr

end Parley.Pattern
