/-!
# Sets of characters

A set of characters is a list of inclusive ranges of code points in increasing order, with a gap
between any two. Surrogates are no characters: complements leave them out, and a range across them
stands for the characters on either side.
-/

namespace MediaPaths.Unicode

/-- A set of code points, as increasing inclusive ranges. -/
structure CodeSet where
  /-- The ranges, each with its first and its last code point. -/
  ranges : List (Nat × Nat)
  deriving DecidableEq, Repr, Inhabited

namespace CodeSet

/-- The set without members. -/
def empty : CodeSet := ⟨[]⟩

/-- The characters from `lo` to `hi`. -/
def range (lo hi : Nat) : CodeSet := ⟨[(lo, hi)]⟩

/-- The set of one character. -/
def single (c : Char) : CodeSet := range c.toNat c.toNat

/-- Membership in increasing ranges; a range that begins too late ends the search. -/
def inRanges (n : Nat) : List (Nat × Nat) → Bool
  | [] => false
  | (lo, hi) :: rest => if n < lo then false else if n ≤ hi then true else inRanges n rest

/-- Whether a character belongs to the set. -/
def contains (s : CodeSet) (c : Char) : Bool := inRanges c.toNat s.ranges

/-- Joins ranges that overlap or touch; they come ordered by their first code point. -/
def join : Nat → Nat → List (Nat × Nat) → List (Nat × Nat)
  | lo, hi, [] => [(lo, hi)]
  | lo, hi, (a, b) :: rest =>
    if a ≤ hi + 1 then join lo (max hi b) rest else (lo, hi) :: join a b rest

/-- The set of the characters in any of the given ranges. -/
def ofRanges (rs : List (Nat × Nat)) : CodeSet :=
  match rs.mergeSort (fun a b => a.1 ≤ b.1) with
  | [] => empty
  | (lo, hi) :: rest => ⟨join lo hi rest⟩

/-- The characters in either set. -/
def union (s t : CodeSet) : CodeSet := ofRanges (s.ranges ++ t.ranges)

/-- The part of a range that lies outside the surrogates. -/
def withoutSurrogates (r : Nat × Nat) : List (Nat × Nat) :=
  if r.2 < 0xD800 || 0xDFFF < r.1 then [r]
  else
    (if r.1 < 0xD800 then [(r.1, 0xD7FF)] else []) ++
      (if 0xDFFF < r.2 then [(0xE000, r.2)] else [])

/-- The gaps from the code point `lo` on between increasing ranges. -/
def gaps : Nat → List (Nat × Nat) → List (Nat × Nat)
  | lo, [] => if lo ≤ 0x10FFFF then [(lo, 0x10FFFF)] else []
  | lo, (a, b) :: rest => if lo < a then (lo, a - 1) :: gaps (b + 1) rest else gaps (b + 1) rest

/-- The characters outside the set. -/
def compl (s : CodeSet) : CodeSet := ⟨(gaps 0 s.ranges).flatMap withoutSurrogates⟩

/-- The characters in both sets. -/
def inter (s t : CodeSet) : CodeSet := (s.compl.union t.compl).compl

/-- The characters in the first set only. -/
def diff (s t : CodeSet) : CodeSet := s.inter t.compl

/-- The characters in exactly one of the sets. -/
def symmDiff (s t : CodeSet) : CodeSet := (s.diff t).union (t.diff s)

/-- Whether the set has no members. -/
def isEmpty (s : CodeSet) : Bool := s.ranges.isEmpty

/-- Whether all members are ASCII characters. -/
def isAscii (s : CodeSet) : Bool := s.ranges.all (·.2 ≤ 0x7F)

/-- The value of a hexadecimal digit written in lower case. -/
def hexDigit (c : Char) : Nat :=
  if c.isDigit then c.toNat - '0'.toNat else c.toNat - 'a'.toNat + 10

/-- Reads a hexadecimal number. -/
def hexNumber (s : String) : Nat := s.toList.foldl (fun n c => n * 16 + hexDigit c) 0

/-- The words in some lines. -/
def words (lines : List String) : List String := lines.flatMap (·.splitOn " ")

/-- The set written by its gaps: `41+19` leaves out `0x41` code points after the range before and
takes the next one and `0x19` more. -/
def decode (lines : List String) : CodeSet :=
  let step (acc : Nat × List (Nat × Nat)) (word : String) : Nat × List (Nat × Nat) :=
    match word.splitOn "+" with
    | [gap] =>
      let lo := acc.1 + hexNumber gap
      (lo + 1, (lo, lo) :: acc.2)
    | [gap, more] =>
      let lo := acc.1 + hexNumber gap
      let hi := lo + hexNumber more
      (hi + 1, (lo, hi) :: acc.2)
    | _ => acc
  ⟨(((words lines).foldl step (0, [])).2).reverse⟩

@[simp] theorem contains_empty (c : Char) : empty.contains c = false := rfl

theorem contains_range {lo hi : Nat} {c : Char} :
    (range lo hi).contains c = true ↔ lo ≤ c.toNat ∧ c.toNat ≤ hi := by
  simp only [contains, range, inRanges]
  split <;> (try split) <;> simp <;> omega

theorem contains_single {c d : Char} : (single c).contains d = true ↔ d = c := by
  unfold single
  rw [contains_range]
  constructor
  · rintro ⟨h₁, h₂⟩
    exact Char.toNat_inj.1 (Nat.le_antisymm h₂ h₁)
  · rintro rfl
    simp

end CodeSet

end MediaPaths.Unicode
