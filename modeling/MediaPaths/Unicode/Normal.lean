import MediaPaths.Unicode.CodeSet
import MediaPaths.Unicode.Decomposition

/-!
# Canonical composition

The composed normal form of a text: every character is replaced by what it stands for, marks are put
in the order of their classes, and then characters are put together again where there is one for
both. Code points are numbers here.
-/

namespace MediaPaths.Unicode

open CodeSet

/-- Rows such as `c0=41-300` as pairs of a code point and a list of them. -/
def decodeRows (table : List String) : List (Nat × List Nat) :=
  (words table).map fun row =>
    match row.splitOn "=" with
    | [c, ds] => (hexNumber c, (ds.splitOn "-").map hexNumber)
    | _ => (0, [])

/-- The characters that have a composed form. -/
def compositeRows : List (Nat × List Nat) := decodeRows composites

/-- What a character stands for, one level deep. -/
def decomposition? (n : Nat) : Option (List Nat) :=
  ((compositeRows ++ decodeRows otherDecompositions).find? (·.1 == n)).map (·.2)

/-- The first syllable of Hangul. -/
def hangulBase : Nat := 0xAC00

/-- The parts of a Hangul syllable: an initial, a vowel and perhaps a final. -/
def hangulParts (n : Nat) : List Nat :=
  let i := n - hangulBase
  let first := [0x1100 + i / 588, 0x1161 + i % 588 / 28]
  if i % 28 = 0 then first else first ++ [0x11A7 + i % 28]

/-- What a character stands for in the end; no character stands for others more than a few levels
deep. -/
def decompose : (levels : Nat) → Nat → List Nat
  | 0, n => [n]
  | levels + 1, n =>
    if hangulBase ≤ n ∧ n < hangulBase + 11172 then hangulParts n
    else
      match decomposition? n with
      | some ns => ns.flatMap (decompose levels)
      | none => [n]

/-- The combining class of a code point; 0 for what is no mark. -/
def combiningClass (n : Nat) : Nat :=
  ((combiningClasses.find? fun row => inRanges n (decode row.2).ranges).map (·.1)).getD 0

/-- Puts a mark before the marks of a higher class at the end of a text; the text is given from its
end. -/
def putMark (m : Nat × Nat) : List (Nat × Nat) → List (Nat × Nat)
  | [] => [m]
  | l :: ls => if m.2 < l.2 then l :: putMark m ls else m :: l :: ls

/-- The characters with their classes, marks in the order of their classes. -/
def ordered (ns : List Nat) : List (Nat × Nat) :=
  (ns.foldl (fun done n =>
    let k := combiningClass n
    if k = 0 then (n, 0) :: done else putMark (n, k) done) []).reverse

/-- The one character for two neighbours. -/
def compose? (a b : Nat) : Option Nat :=
  if 0x1100 ≤ a ∧ a < 0x1113 ∧ 0x1161 ≤ b ∧ b < 0x1176 then
    some (hangulBase + ((a - 0x1100) * 21 + (b - 0x1161)) * 28)
  else if hangulBase ≤ a ∧ a < hangulBase + 11172 ∧ (a - hangulBase) % 28 = 0 ∧
      0x11A8 ≤ b ∧ b < 0x11C3 then
    some (a + (b - 0x11A7))
  else (compositeRows.find? (·.2 == [a, b])).map (·.1)

/-- Text on its way to its composed form: what is finished, from its end, the latest character that
is no mark, and the marks after it that did not merge into it, from the last. -/
structure Composing where
  /-- Finished characters, the latest first. -/
  done : List Nat := []
  /-- The character that marks may merge into. -/
  starter : Option Nat := none
  /-- The marks after it with their classes, the latest first. -/
  marks : List (Nat × Nat) := []

/-- All characters so far, the latest first. -/
def Composing.all (s : Composing) : List Nat := s.marks.map (·.1) ++ s.starter.toList ++ s.done

/-- One more character. It merges unless a mark of its class or a higher one stands between. -/
def Composing.push (s : Composing) (m : Nat × Nat) : Composing :=
  let free := match s.marks with
    | [] => true
    | l :: _ => l.2 < m.2
  match s.starter.bind fun a => if free then compose? a m.1 else none with
  | some c => { s with starter := some c }
  | none =>
    if m.2 = 0 then ⟨s.all, some m.1, []⟩ else { s with marks := m :: s.marks }

/-- The composed normal form. -/
def normalize (ns : List Nat) : List Nat :=
  ((ordered (ns.flatMap (decompose 8))).foldl Composing.push {}).all.reverse

end MediaPaths.Unicode
