import MediaPaths.Json.Error

/-!
# Strings, numbers and words of JSON text

The parts of JSON text that are not nested. Every reader takes the text after the character that
begins the part, if that character is fixed, and gives what it read together with the rest.
-/

namespace MediaPaths.Json

open MediaPaths.Number

/-- What a reader gives: a value and the rest of the text, or what is wrong. -/
abbrev Result (α : Type) := Except Error (α × List Char)

/-- White space of JSON. -/
def isBlank (c : Char) : Bool := c == ' ' || c == '\n' || c == '\t' || c == '\r'

/-- The text after white space. -/
def skipBlank (cs : List Char) : List Char := cs.dropWhile isBlank

/-- Reads the rest of a word. -/
def readWord (word : List Char) (cs : List Char) : Except Error (List Char) :=
  match word, cs with
  | [], cs => .ok cs
  | _ :: _, [] => .error .endInValue
  | w :: ws, c :: cs => if w == c then readWord ws cs else .error .expectedWord

/-! ## Strings -/

/-- The value of a hexadecimal digit in either case. -/
def hexValue? (c : Char) : Option Nat :=
  if c.isDigit then some (c.toNat - '0'.toNat)
  else if 'a' ≤ c ∧ c ≤ 'f' then some (c.toNat - 'a'.toNat + 10)
  else if 'A' ≤ c ∧ c ≤ 'F' then some (c.toNat - 'A'.toNat + 10)
  else none

/-- Four hexadecimal digits. Fewer than four bytes of text are too few for them. -/
def readHex (cs : List Char) : Result Nat :=
  if (cs.take 4).foldl (fun n c => n + c.utf8Size) 0 < 4 then .error .endInString
  else
    match cs with
    | a :: b :: c :: d :: rest =>
      match [a, b, c, d].mapM hexValue? with
      | some digits => .ok (digits.foldl (fun n d => n * 16 + d) 0, rest)
      | none => .error .invalidEscape
    | _ => .error .invalidEscape

/-- A character written by its code; characters beyond 16 bits are written as a pair of surrogates. -/
def readCode (cs : List Char) : Result Char :=
  match readHex cs with
  | .error e => .error e
  | .ok (n, rest) =>
    if 0xDC00 ≤ n ∧ n ≤ 0xDFFF then .error .loneSurrogate
    else if n < 0xD800 ∨ 0xDBFF < n then .ok (Char.ofNat n, rest)
    else
      match rest with
      | [] => .error .endInString
      | ['\\'] => .error .endInString
      | '\\' :: 'u' :: rest =>
        match readHex rest with
        | .error e => .error e
        | .ok (m, rest) =>
          if m < 0xDC00 ∨ 0xDFFF < m then .error .loneSurrogate
          else .ok (Char.ofNat ((n - 0xD800) * 0x400 + (m - 0xDC00) + 0x10000), rest)
      | _ => .error .endOfHexEscape

/-- The character behind a backslash. -/
def readEscape : List Char → Result Char
  | [] => .error .endInString
  | c :: cs =>
    match c with
    | '"' | '\\' | '/' => .ok (c, cs)
    | 'b' => .ok ('\x08', cs)
    | 'f' => .ok ('\x0c', cs)
    | 'n' => .ok ('\n', cs)
    | 'r' => .ok ('\r', cs)
    | 't' => .ok ('\t', cs)
    | 'u' => readCode cs
    | _ => .error .invalidEscape

/-- Reads a string up to its closing quote; `taken` is what has been read, the latest first. Every
round takes at least one character. -/
def readStringFrom : (fuel : Nat) → (taken : List Char) → List Char → Result String
  | 0, _, _ => .error .endInString
  | _ + 1, _, [] => .error .endInString
  | _ + 1, taken, '"' :: cs => .ok (String.ofList taken.reverse, cs)
  | fuel + 1, taken, '\\' :: cs =>
    match readEscape cs with
    | .ok (c, rest) => readStringFrom fuel (c :: taken) rest
    | .error e => .error e
  | fuel + 1, taken, c :: cs =>
    if c.toNat < 0x20 then .error .controlCharacter else readStringFrom fuel (c :: taken) cs

/-- Reads a string after its opening quote. -/
def readString (cs : List Char) : Result String := readStringFrom (cs.length + 1) [] cs

/-! ## Numbers -/

/-- Appends digits to a number as long as it stays below `2 ^ 64`: the number and how many digits
were left out. -/
def absorb : Nat → List Char → Nat × Nat
  | n, [] => (n, 0)
  | n, d :: ds =>
    let m := n * 10 + (d.toNat - '0'.toNat)
    if m < UInt64.size then absorb m ds else (n, ds.length + 1)

/-- The number `n * 10 ^ e` for any exponent. Powers beyond 308 are divided off in steps of 308. -/
def scaleFrom : (fuel : Nat) → Binary64 → Int → Except Error Binary64
  | 0, f, _ => .ok f
  | fuel + 1, f, e =>
    if e.natAbs ≤ 308 then
      let power := Binary64.ofNat (Nat.pow 10 e.natAbs)
      if 0 ≤ e then
        match f.mul power with
        | .infinity => .error .numberOutOfRange
        | g => .ok g
      else .ok (f.div power)
    else if f == .finite 0 then .ok f
    else if 0 ≤ e then .error .numberOutOfRange
    else scaleFrom fuel (f.div (.ofNat (Nat.pow 10 308))) (e + 308)

/-- The binary64 number for digits and an exponent, with its sign. -/
def float (negative : Bool) (n : Nat) (e : Int) : Except Error Number :=
  match scaleFrom (e.natAbs / 308 + 1) (.ofNat n) e with
  | .ok (.finite units) => .ok (.float negative units)
  | .ok .infinity => .error .numberOutOfRange
  | .error e => .error e

/-- Reads an exponent after its letter. -/
def readExponent (negative : Bool) (n : Nat) (e : Int) (cs : List Char) : Result Number :=
  let (down, cs) := match cs with
    | '+' :: rest => (false, rest)
    | '-' :: rest => (true, rest)
    | _ => (false, cs)
  let digits := cs.takeWhile Char.isDigit
  let rest := cs.dropWhile Char.isDigit
  if cs.isEmpty then .error .endInValue
  else if digits.isEmpty then .error .invalidNumber
  else
    let k := digits.foldl (fun k d => k * 10 + (d.toNat - '0'.toNat)) 0
    if UInt32.size / 2 ≤ k then
      if n != 0 && !down then .error .numberOutOfRange else .ok (.float negative 0, rest)
    else (float negative n (if down then e - k else e + k)).map fun f => (f, rest)

/-- Reads an exponent if there is one. -/
def readOptionalExponent (negative : Bool) (n : Nat) (e : Int) : List Char → Result Number
  | [] => (float negative n e).map fun f => (f, [])
  | c :: cs =>
    if c == 'e' || c == 'E' then readExponent negative n e cs
    else (float negative n e).map fun f => (f, c :: cs)

/-- Reads a fraction after its point. Digits that make the number too long are left out. -/
def readFraction (negative : Bool) (n : Nat) (e : Int) (cs : List Char) : Result Number :=
  let digits := cs.takeWhile Char.isDigit
  let rest := cs.dropWhile Char.isDigit
  if digits.isEmpty then .error (if rest.isEmpty then .endInValue else .invalidNumber)
  else
    let (m, left) := absorb n digits
    readOptionalExponent negative m (e - (digits.length - left : Nat)) rest

/-- The whole number `n` with its sign. It is a float if it is the opposite of zero or does not fit
into 64 bits. -/
def wholeNumber (negative : Bool) (n : Nat) : Except Error Number :=
  if !negative then .ok (.natural n.toUInt64)
  else if n == 0 || UInt64.size / 2 < n then float true n 0
  else .ok (.negative n)

/-- Reads a number after its sign. -/
def readNumber (negative : Bool) (cs : List Char) : Result Number :=
  let digits := cs.takeWhile Char.isDigit
  let rest := cs.dropWhile Char.isDigit
  match digits with
  | [] => .error (if rest.isEmpty then .endInValue else .invalidNumber)
  | d :: more =>
    if d == '0' && !more.isEmpty then .error .invalidNumber
    else
      let (n, left) := absorb 0 digits
      match rest with
      | '.' :: rest => readFraction negative n left rest
      | c :: cs =>
        if c == 'e' || c == 'E' then readExponent negative n left cs
        else whole n left rest
      | [] => whole n left rest
where
  /-- A number without fraction and exponent. -/
  whole (n left : Nat) (rest : List Char) : Result Number :=
    (if left == 0 then wholeNumber negative n else float negative n left).map fun f => (f, rest)

end MediaPaths.Json
