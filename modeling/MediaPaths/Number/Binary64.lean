import MediaPaths.Number.Rounding

/-!
# Non-negative numbers of the binary64 format

Every finite number of the format is a whole multiple of `2 ^ (-1074)`, the least positive one, so
it is held as that multiple. A result that is not a number of the format is rounded to the nearest
one, ties going to the one with the even significand, and a result too large becomes infinity. All
arithmetic is exact arithmetic on whole numbers followed by one rounding.
-/

namespace MediaPaths.Number

/-- A non-negative binary64 number. -/
inductive Binary64 where
  /-- The number `units * 2 ^ (-1074)`. -/
  | finite (units : Nat)
  /-- Larger than every finite number. -/
  | infinity
  deriving DecidableEq, Repr, Inhabited

namespace Binary64

/-- How many units make one: `2 ^ 1074`. -/
def one : Nat := Nat.pow 2 1074

/-- The least number of units that is out of range: `2 ^ 1024` in units. -/
def limit : Nat := Nat.pow 2 2098

/-- The spacing of the format, in units, at a magnitude of `u` units: a significand has 53 bits. -/
def spacing (u : Nat) : Nat := Nat.pow 2 (u.log2 - 52)

/-- The number nearest to `n / d`. -/
def ofRatio (n d : Nat) : Binary64 :=
  let gap := spacing (n * one / d)
  let units := roundDiv (n * one) (d * gap) * gap
  if units < limit then .finite units else .infinity

/-- The number nearest to a whole number. -/
def ofNat (n : Nat) : Binary64 := ofRatio n 1

/-- The rounded product. -/
def mul : Binary64 → Binary64 → Binary64
  | .finite a, .finite b => ofRatio (a * b) (one * one)
  | _, _ => .infinity

/-- The rounded quotient by a positive number. -/
def div : Binary64 → Binary64 → Binary64
  | .finite a, .finite b => ofRatio a b
  | .finite _, .infinity => .finite 0
  | .infinity, _ => .infinity

end Binary64

end MediaPaths.Number
