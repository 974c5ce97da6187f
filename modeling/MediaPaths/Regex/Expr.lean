import MediaPaths.Unicode.Property

/-!
# Regular expressions

The expressions a pattern denotes: character sets, assertions about a position, concatenation,
preferring alternation, repetition and numbered groups. Alternation prefers its left side, and a
repetition prefers more rounds if it is greedy and fewer if it is not.
-/

namespace MediaPaths.Regex

open Unicode

/-- Assertions about a position in a text. -/
inductive Look where
  /-- The beginning of the text. -/
  | textStart
  /-- The end of the text. -/
  | textEnd
  /-- The beginning of a line; lines end in a line feed. -/
  | lineStart
  /-- The end of a line; lines end in a line feed. -/
  | lineEnd
  /-- The beginning of a line; lines end in a carriage return, a line feed or both. -/
  | anyLineStart
  /-- The end of a line; lines end in a carriage return, a line feed or both. -/
  | anyLineEnd
  /-- A word begins or ends here; words are of ASCII characters only unless `unicode`. -/
  | boundary (unicode : Bool)
  /-- No word begins or ends here. -/
  | noBoundary (unicode : Bool)
  /-- A word begins here. -/
  | wordStart (unicode : Bool)
  /-- A word ends here. -/
  | wordEnd (unicode : Bool)
  /-- No word character stands before. -/
  | wordStartHalf (unicode : Bool)
  /-- No word character stands after. -/
  | wordEndHalf (unicode : Bool)
  deriving DecidableEq, Repr

/-- Whether there is a character and it belongs to words. -/
def isWord (unicode : Bool) : Option Char → Bool
  | none => false
  | some c =>
    if c.toNat < 0x80 then c.isAlphanum || c == '_' else unicode && wordChars.contains c

/-- Whether an assertion holds between two neighbouring characters. -/
def Look.holds (before after : Option Char) : Look → Bool
  | textStart => before.isNone
  | textEnd => after.isNone
  | lineStart => before.isNone || before == some '\n'
  | lineEnd => after.isNone || after == some '\n'
  | anyLineStart =>
    before.isNone || before == some '\n' || (before == some '\r' && after != some '\n')
  | anyLineEnd =>
    after.isNone || after == some '\r' || (after == some '\n' && before != some '\r')
  | boundary u => isWord u before != isWord u after
  | noBoundary u => isWord u before == isWord u after
  | wordStart u => !isWord u before && isWord u after
  | wordEnd u => isWord u before && !isWord u after
  | wordStartHalf u => !isWord u before
  | wordEndHalf u => !isWord u after

/-- Regular expressions. -/
inductive Expr where
  /-- The empty text. -/
  | empty
  /-- One character of a set. -/
  | chars (s : CodeSet)
  /-- The empty text where an assertion holds. -/
  | look (l : Look)
  /-- One expression after the other. -/
  | cat (a b : Expr)
  /-- Either expression, the left one by preference. -/
  | alt (a b : Expr)
  /-- An expression so many times; without `max` any number of times. -/
  | rep (e : Expr) (min : Nat) (max : Option Nat) (greedy : Bool)
  /-- An expression whose text is remembered under a number. -/
  | group (index : Nat) (e : Expr)
  deriving DecidableEq, Repr, Inhabited

namespace Expr

/-- Whether an expression matches empty texts only. -/
def onlyEmpty : Expr → Bool
  | empty => true
  | chars _ => false
  | look _ => true
  | cat a b => a.onlyEmpty && b.onlyEmpty
  | alt a b => a.onlyEmpty && b.onlyEmpty
  | rep e _ _ _ => e.onlyEmpty
  | group _ e => e.onlyEmpty

/-- Whether an expression may match the empty text. -/
def nullable : Expr → Bool
  | empty => true
  | chars _ => false
  | look _ => true
  | cat a b => a.nullable && b.nullable
  | alt a b => a.nullable || b.nullable
  | rep e min _ _ => min == 0 || e.nullable
  | group _ e => e.nullable

/-- The highest group number of an expression, `0` if it has no groups. -/
def maxGroup : Expr → Nat
  | empty | chars _ | look _ => 0
  | cat a b => max a.maxGroup b.maxGroup
  | alt a b => max a.maxGroup b.maxGroup
  | rep e _ _ _ => e.maxGroup
  | group i e => max i e.maxGroup

/-- A repetition in its simplest form: what matches empty texts only is tried once at most, no round
at all is the empty text, and one round is the expression itself. A group that is repeated no times
is gone. -/
def times (e : Expr) (min : Nat) (max : Option Nat) (greedy : Bool) : Expr :=
  let lo := if e.onlyEmpty then Nat.min min 1 else min
  let hi := if e.onlyEmpty then some (Nat.min (max.getD 1) 1) else max
  if hi == some 0 && lo == 0 then empty
  else if hi == some 1 && lo == 1 then e
  else rep e lo hi greedy

/-- Expressions one after the other. -/
def cats : List Expr → Expr
  | [] => empty
  | [e] => e
  | e :: es => cat e (cats es)

/-- The preferring choice between expressions. -/
def alts : List Expr → Expr
  | [] => empty
  | [e] => e
  | e :: es => alt e (alts es)

end Expr

end MediaPaths.Regex
