import MediaPaths.Number.Binary64

/-!
# The shortest decimal text of a binary64 number

The digits written are the fewest that read back as the same number, and among those the ones
nearest to it. The value's two neighbours on the grid of one digit, of two digits, and so on are
tried in exact arithmetic; the first grid with a neighbour that reads back wins.
-/

namespace MediaPaths.Number.Binary64

/-- Decimal digits `d₁d₂…` with the exponent of the first: the number `d₁.d₂… * 10 ^ exponent`. -/
structure Digits where
  /-- The digits as one whole number. -/
  digits : Nat
  /-- The power of ten of the leading digit. -/
  exponent : Int
  deriving DecidableEq, Repr

/-- How many decimal digits a whole number has; zero has none. -/
def digitCount (n : Nat) : Nat :=
  if n = 0 then 0 else (Nat.toDigits 10 n).length

/-- The `e` with `10 ^ e ≤ n / d < 10 ^ (e + 1)`, for a positive quotient. -/
def decimalExponent (n d : Nat) : Int :=
  if d ≤ n then (digitCount (n / d) : Int) - 1
  else -(digitCount ((d + n - 1) / n - 1) : Int)

/-- Whether `k * 10 ^ e` reads as the number of `units` units. -/
def readsBack (units k : Nat) (e : Int) : Bool :=
  if 0 ≤ e then ofRatio (k * Nat.pow 10 e.toNat) 1 == .finite units
  else ofRatio k (Nat.pow 10 (-e).toNat) == .finite units

/-- The number of decimal grid steps `10 ^ e` below `units` units, as a fraction. -/
def gridRatio (units : Nat) (e : Int) : Nat × Nat :=
  if 0 ≤ e then (units, one * Nat.pow 10 e.toNat) else (units * Nat.pow 10 (-e).toNat, one)

/-- The neighbour on the grid `10 ^ e` that reads back, the nearer one if both do. -/
def onGrid? (units : Nat) (e : Int) : Option Nat :=
  let (n, d) := gridRatio units e
  let below := n / d
  let nearest := roundDiv n d
  let other := if nearest = below then below + 1 else below
  if readsBack units nearest e then some nearest
  else if readsBack units other e then some other
  else none

/-- The first grid that has a number reading back, from `count` digits on. -/
def firstGrid (units : Nat) (top : Int) : (tries count : Nat) → Digits
  | 0, _ => ⟨units, top⟩
  | tries + 1, count =>
    match onGrid? units (top - count) with
    | some k => ⟨k, top - count + ((digitCount k : Int) - 1)⟩
    | none => firstGrid units top tries (count + 1)

/-- The shortest digits of a positive number. -/
def shortest (units : Nat) : Digits :=
  firstGrid units (decimalExponent units one) 18 0

/-- The digits without the zeros at their end. -/
def significant (n : Nat) : List Char :=
  ((Nat.toDigits 10 n).reverse.dropWhile (· == '0')).reverse

/-- Numbers with a leading digit between `10 ^ (-5)` and `10 ^ 15` are written positionally, with at
least one digit on either side of the point. Others have one digit before the point, no point when
that is the only digit, and an exponent that always shows its sign. -/
def write (ds : List Char) (e : Int) : List Char :=
  if -5 ≤ e ∧ e ≤ 15 then
    if e < 0 then '0' :: '.' :: List.replicate (-e - 1).toNat '0' ++ ds
    else
      let whole := e.toNat + 1
      if ds.length ≤ whole then ds ++ List.replicate (whole - ds.length) '0' ++ ['.', '0']
      else ds.take whole ++ '.' :: ds.drop whole
  else
    let tail := ds.drop 1
    let mantissa := if tail.isEmpty then ds else ds.take 1 ++ '.' :: tail
    let sign := if e < 0 then '-' else '+'
    mantissa ++ 'e' :: sign :: Nat.toDigits 10 e.natAbs

/-- The text of the finite number of `units` units. -/
def text (units : Nat) : List Char :=
  if units = 0 then ['0', '.', '0']
  else
    let d := shortest units
    write (significant d.digits) d.exponent

end MediaPaths.Number.Binary64
