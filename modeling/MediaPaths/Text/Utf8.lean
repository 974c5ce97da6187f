/-!
# UTF-8

The bytes of characters, and the text that some bytes stand for. Bytes stand for a text only if they
are exactly the bytes of that text, so overlong forms, surrogates and cut characters are refused.
-/

namespace MediaPaths.Utf8

/-- The bytes of a code point. -/
def codeBytes (n : Nat) : List Nat :=
  if n < 0x80 then [n]
  else if n < 0x800 then [0xC0 + n / 64, 0x80 + n % 64]
  else if n < 0x10000 then [0xE0 + n / 4096, 0x80 + n / 64 % 64, 0x80 + n % 64]
  else [0xF0 + n / 262144, 0x80 + n / 4096 % 64, 0x80 + n / 64 % 64, 0x80 + n % 64]

/-- The bytes of a text. -/
def encode (s : List Char) : List Nat := s.flatMap fun c => codeBytes c.toNat

/-- The code point that the payload bits of some bytes spell. -/
def payload : List Nat → Nat
  | [] => 0
  | b :: bs =>
    let lead := if b < 0x80 then b else if b < 0xE0 then b % 32 else if b < 0xF0 then b % 16 else b % 8
    bs.foldl (fun n b => n * 64 + b % 64) lead

/-- The character whose bytes these are. -/
def char? (bytes : List Nat) : Option Char :=
  let n := payload bytes
  if h : n.isValidChar then
    if codeBytes n == bytes then some (Char.ofNatAux n h) else none
  else none

/-- How many bytes a character has that begins with this one. -/
def width (b : Nat) : Nat := if b < 0xC0 then 1 else if b < 0xE0 then 2 else if b < 0xF0 then 3 else 4

/-- The text of some bytes, at most `fuel` characters long. -/
def decodeFrom? : (fuel : Nat) → List Nat → Option (List Char)
  | _, [] => some []
  | 0, _ => none
  | fuel + 1, b :: bs =>
    match char? ((b :: bs).take (width b)) with
    | none => none
    | some c => (decodeFrom? fuel ((b :: bs).drop (width b))).map (c :: ·)

/-- The text that some bytes stand for. -/
def decode? (bytes : List Nat) : Option (List Char) := decodeFrom? bytes.length bytes

/-- How many bytes a text has. -/
def size (s : String) : Nat := (encode s.toList).length

end MediaPaths.Utf8
