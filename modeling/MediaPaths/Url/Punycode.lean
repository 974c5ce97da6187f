import MediaPaths.Url.Ip

/-!
# Punycode

Labels of domain names with characters beyond ASCII are written in ASCII: first the ASCII characters
and a hyphen, then where the others go, as numbers of variable length in base 36. Code points are
numbers here.
-/

namespace MediaPaths.Url.Punycode

/-- The digit of a value below 36. -/
def digit (n : Nat) : Char :=
  if n < 26 then Char.ofNat ('a'.toNat + n) else Char.ofNat ('0'.toNat + n - 26)

/-- The value of a digit. -/
def value? (c : Char) : Option Nat :=
  if c.isDigit then some (c.toNat - '0'.toNat + 26)
  else if c.isLower then some (c.toNat - 'a'.toNat)
  else if c.isUpper then some (c.toNat - 'A'.toNat)
  else none

/-- The new bias after a number was written. -/
def adapt (delta count : Nat) (first : Bool) : Nat :=
  let delta := if first then delta / 700 else delta / 2
  divide (delta + delta / count) 0 64
where
  /-- Divides until the number is small. -/
  divide (delta k : Nat) : (fuel : Nat) → Nat
    | 0 => k
    | fuel + 1 =>
      if 455 < delta then divide (delta / 35) (k + 36) fuel else k + 36 * delta / (delta + 38)

/-- The threshold of the digit at a place. -/
def threshold (k bias : Nat) : Nat := if k ≤ bias then 1 else if bias + 26 ≤ k then 26 else k - bias

/-- Writes a number from the digit at place `k` on. -/
def writeNumber (bias : Nat) : (fuel : Nat) → (k q : Nat) → List Char
  | 0, _, _ => []
  | fuel + 1, k, q =>
    let t := threshold k bias
    if q < t then [digit q]
    else digit (t + (q - t) % (36 - t)) :: writeNumber bias fuel (k + 36) ((q - t) / (36 - t))

/-- The state of writing. -/
structure Encoder where
  /-- What has been written. -/
  out : List Char
  /-- The code point to be inserted next. -/
  n : Nat := 0x80
  /-- The distance from the latest insertion. -/
  delta : Nat := 0
  /-- The bias. -/
  bias : Nat := 72
  /-- How many characters have been handled. -/
  handled : Nat
  /-- How many of them were ASCII. -/
  basic : Nat

/-- Goes over one character of the label while code point `e.n` is inserted. -/
def Encoder.visit (e : Encoder) (c : Nat) : Encoder :=
  if c < e.n then { e with delta := e.delta + 1 }
  else if c = e.n then
    { e with
      out := e.out ++ writeNumber e.bias 32 36 e.delta
      bias := adapt e.delta (e.handled + 1) (e.handled == e.basic)
      delta := 0
      handled := e.handled + 1 }
  else e

/-- Inserts all characters beyond ASCII, the least first. -/
def encodeFrom (label : List Nat) : (fuel : Nat) → Encoder → List Char
  | 0, e => e.out
  | fuel + 1, e =>
    match (label.filter (e.n ≤ ·)).min? with
    | none => e.out
    | some m =>
      let e := { e with delta := e.delta + (m - e.n) * (e.handled + 1), n := m }
      let e := label.foldl Encoder.visit e
      encodeFrom label fuel { e with delta := e.delta + 1, n := e.n + 1 }

/-- A label in ASCII. -/
def encode (label : List Nat) : List Char :=
  let basic := (label.filter (· < 0x80)).map Char.ofNat
  let out := if basic.isEmpty then [] else basic ++ ['-']
  encodeFrom label (label.length + 1) ⟨out, 0x80, 0, 72, basic.length, basic.length⟩

/-- Reads a number from the digit at place `k` on: the number and the rest. -/
def readNumber? (bias : Nat) : (k weight sum : Nat) → List Char → Option (Nat × List Char)
  | _, _, _, [] => none
  | k, w, sum, c :: s =>
    match value? c with
    | none => none
    | some d =>
      let t := threshold k bias
      let sum := sum + d * w
      if UInt32.size ≤ sum then none
      else if d < t then some (sum, s)
      else readNumber? bias (k + 36) (w * (36 - t)) sum s

/-- Inserts characters as the numbers say. -/
def decodeFrom? : (fuel : Nat) → (n i bias : Nat) → List Nat → List Char → Option (List Nat)
  | _, _, _, _, out, [] => some out
  | 0, _, _, _, _, _ => none
  | fuel + 1, n, i, bias, out, s =>
    match readNumber? bias 36 1 0 s with
    | none => none
    | some (delta, rest) =>
      let count := out.length + 1
      let j := i + delta
      let n := n + j / count
      if n.isValidChar then
        let bias := adapt delta count (i == 0)
        decodeFrom? fuel n (j % count + 1) bias (out.take (j % count) ++ n :: out.drop (j % count))
          rest
      else none

/-- The label that ASCII text stands for. -/
def decode? (s : List Char) : Option (List Nat) :=
  let parts := splitOn '-' s
  let (basic, rest) := match parts.reverse with
    | last :: first :: more => (['-'].intercalate (first :: more).reverse, last)
    | _ => ([], s)
  if basic.all (·.toNat < 0x80) then decodeFrom? (s.length + 1) 0x80 0 72 (basic.map Char.toNat) rest
  else none

end MediaPaths.Url.Punycode
