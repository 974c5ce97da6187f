import MediaPaths.Regex.Expr
import MediaPaths.Text.Utf8

/-!
# How large a pattern grows

Bounded repetition copies what it repeats, so a short pattern may denote a huge automaton. Patterns
whose automaton over the bytes of UTF-8 takes more than ten mebibytes are refused. `Expr.bytes` counts
32 bytes for every state and the transitions of states that have several.
-/

namespace MediaPaths.Regex

open Unicode

/-! ## Characters as byte ranges -/

/-- How many code points `i` bytes after the first one tell apart. -/
def blockSize (i : Nat) : Nat := Nat.pow 64 i

/-- The last code point of the block of that size that a code point lies in. -/
def blockEnd (i n : Nat) : Nat := n / blockSize i * blockSize i + (blockSize i - 1)

/-- Where a range of code points has to be cut first, so that the two parts come closer to being
sequences of byte ranges; `none` if it is such a sequence. -/
def cut? (lo hi : Nat) : Option Nat :=
  let lengths := [0x7F, 0x7FF, 0xFFFF].find? fun n => lo ≤ n && n < hi
  lengths.orElse fun _ =>
    [1, 2, 3].findSome? fun i =>
      if blockEnd i lo == blockEnd i hi then none
      else if lo % blockSize i != 0 then some (blockEnd i lo)
      else if hi % blockSize i != blockSize i - 1 then some (hi / blockSize i * blockSize i - 1)
      else none

/-- The sequences of byte ranges that a range of code points consists of. -/
def byteSequences : (fuel : Nat) → Nat → Nat → List (List (Nat × Nat))
  | 0, _, _ => []
  | fuel + 1, lo, hi =>
    match cut? lo hi with
    | some n => byteSequences fuel lo n ++ byteSequences fuel (n + 1) hi
    | none => [(Utf8.codeBytes lo).zip (Utf8.codeBytes hi)]

/-- How many leading elements two lists have in common. -/
def commonLength {α : Type} [BEq α] : List α → List α → Nat
  | a :: as, b :: bs => if a == b then commonLength as bs + 1 else 0
  | _, _ => 0

/-- The number of states for a list of sequences in increasing order that share what they have in
common at the front. -/
def sharedStates : List (Nat × Nat) → List (List (Nat × Nat)) → Nat
  | _, [] => 0
  | last, s :: rest => (s.length - commonLength last s) + sharedStates s rest

/-- The size of one state in bytes. -/
def stateBytes : Nat := 32

/-- The size of a set of characters. -/
def setBytes (s : CodeSet) : Nat :=
  match s.ranges with
  | [(lo, hi)] => if lo == hi then (Utf8.codeBytes lo).length * stateBytes else rangesBytes s
  | _ => rangesBytes s
where
  /-- The size of a set of several characters: a state with one transition for every ASCII range, or
  a choice between byte sequences. -/
  rangesBytes (s : CodeSet) : Nat :=
    if s.isAscii then 2 * stateBytes + 8 * s.ranges.length
    else
      let sequences := (s.ranges.flatMap CodeSet.withoutSurrogates).flatMap fun r =>
        byteSequences 64 r.1 r.2
      (2 + sharedStates [] sequences) * stateBytes + 4 * sequences.length

namespace Expr

/-- The size of the automaton of an expression in bytes. -/
def bytes : Expr → Nat
  | empty => stateBytes
  | chars s => setBytes s
  | look _ => stateBytes
  | cat a b => a.bytes + b.bytes
  | alt a b =>
    let choice := match b with
      | alt _ _ => 4
      | _ => 2 * stateBytes + 8
    a.bytes + b.bytes + choice
  | group _ e => e.bytes + 2 * stateBytes
  | rep e min none _ =>
    let loop := if min == 0 && e.nullable then 3 * stateBytes + 16 else stateBytes + 8
    e.bytes * Nat.max min 1 + loop
  | rep e min (some max) _ =>
    let choices := if min < max then (max - min) * (stateBytes + 8) + stateBytes else 0
    e.bytes * max + choices

end Expr

/-- The most bytes an automaton may take. -/
def sizeLimit : Nat := 10 * 1024 * 1024

/-- Whether the automaton of a pattern, with a loop in front and a group around it, is small enough. -/
def fits (e : Expr) : Bool := e.bytes + 6 * stateBytes ≤ sizeLimit

end MediaPaths.Regex
