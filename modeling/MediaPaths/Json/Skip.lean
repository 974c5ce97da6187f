import MediaPaths.Json.Token

/-!
# Passing over a value

Members that a format does not know are passed over without being read: their text has to be JSON,
but it may be nested to any depth, a number may be of any size and surrogates need no partner. The
open arrays and objects are kept on a stack.
-/

namespace MediaPaths.Json

/-- Passes over a string up to its closing quote. -/
def skipStringFrom : (fuel : Nat) → List Char → Except Error (List Char)
  | 0, _ => .error .endInString
  | _ + 1, [] => .error .endInString
  | _ + 1, '"' :: cs => .ok cs
  | _ + 1, ['\\'] => .error .endInString
  | fuel + 1, '\\' :: 'u' :: cs =>
    match readHex cs with
    | .ok (_, rest) => skipStringFrom fuel rest
    | .error e => .error e
  | fuel + 1, '\\' :: c :: cs =>
    if ['"', '\\', '/', 'b', 'f', 'n', 'r', 't'].contains c then skipStringFrom fuel cs
    else .error .invalidEscape
  | fuel + 1, c :: cs =>
    if c.toNat < 0x20 then .error .controlCharacter else skipStringFrom fuel cs

/-- Passes over a string after its opening quote. -/
def skipString (cs : List Char) : Except Error (List Char) := skipStringFrom (cs.length + 1) cs

/-- Passes over an exponent after its letter. -/
def skipExponent (cs : List Char) : Except Error (List Char) :=
  let cs := match cs with
    | '+' :: rest => rest
    | '-' :: rest => rest
    | _ => cs
  if (cs.takeWhile Char.isDigit).isEmpty then .error .invalidNumber
  else .ok (cs.dropWhile Char.isDigit)

/-- Passes over what may follow the digits of a number: an exponent. -/
def skipOptionalExponent : List Char → Except Error (List Char)
  | c :: cs => if c == 'e' || c == 'E' then skipExponent cs else .ok (c :: cs)
  | [] => .ok []

/-- Passes over a number after its sign. -/
def skipNumber (cs : List Char) : Except Error (List Char) :=
  let rest := cs.dropWhile Char.isDigit
  match cs.takeWhile Char.isDigit with
  | [] => .error .invalidNumber
  | d :: more =>
    if d == '0' && !more.isEmpty then .error .invalidNumber
    else
      match rest with
      | '.' :: rest =>
        if (rest.takeWhile Char.isDigit).isEmpty then .error .invalidNumber
        else skipOptionalExponent (rest.dropWhile Char.isDigit)
      | rest => skipOptionalExponent rest

/-- Passes over the name of a member and its colon. -/
def skipName (cs : List Char) : Except Error (List Char) :=
  match skipBlank cs with
  | [] => .error .endInObject
  | '"' :: cs =>
    match skipString cs with
    | .error e => .error e
    | .ok rest =>
      match skipBlank rest with
      | [] => .error .endInObject
      | ':' :: rest => .ok rest
      | _ => .error .expectedColon
  | _ => .error .keyNotString

/-- What is open around a value. -/
inductive Enclosing where
  /-- An array. -/
  | array
  /-- An object. -/
  | object
  deriving DecidableEq, Repr

/-- The step of passing over that comes next. -/
inductive SkipStep where
  /-- A value begins here. -/
  | value
  /-- An array or object has just been opened. -/
  | opened
  /-- A value has just ended. -/
  | ended

/-- Passes over a value together with the arrays and objects that are open. Every two rounds take at
least one character. -/
def skipFrom : (fuel : Nat) → SkipStep → List Enclosing → List Char → Except Error (List Char)
  | 0, _, _, _ => .error .endInValue
  | fuel + 1, .value, stack, cs =>
    match skipBlank cs with
    | [] => .error .endInValue
    | c :: cs =>
      let scalar (result : Except Error (List Char)) : Except Error (List Char) :=
        match result with
        | .ok rest => skipFrom fuel .ended stack rest
        | .error e => .error e
      match c with
      | 'n' => scalar (readWord ['u', 'l', 'l'] cs)
      | 't' => scalar (readWord ['r', 'u', 'e'] cs)
      | 'f' => scalar (readWord ['a', 'l', 's', 'e'] cs)
      | '"' => scalar (skipString cs)
      | '-' => scalar (skipNumber cs)
      | '[' => skipFrom fuel .opened (.array :: stack) cs
      | '\x7b' => skipFrom fuel .opened (.object :: stack) cs
      | _ => if c.isDigit then scalar (skipNumber (c :: cs)) else .error .expectedValue
  | _ + 1, .ended, [], cs => .ok cs
  | _ + 1, .opened, [], cs => .ok cs
  | fuel + 1, step, frame :: stack, cs =>
    let next (cs : List Char) : Except Error (List Char) :=
      match frame with
      | .array => skipFrom fuel .value (frame :: stack) cs
      | .object =>
        match skipName cs with
        | .ok rest => skipFrom fuel .value (frame :: stack) rest
        | .error e => .error e
    match skipBlank cs, frame, step with
    | [], .array, _ => .error .endInArray
    | [], .object, _ => .error .endInObject
    | ']' :: rest, .array, _ => skipFrom fuel .ended stack rest
    | '\x7d' :: rest, .object, _ => skipFrom fuel .ended stack rest
    | ',' :: rest, _, .ended => next rest
    | _, .array, .ended => .error .expectedCommaOrBracket
    | _, .object, .ended => .error .expectedCommaOrBrace
    | rest, _, _ => next rest

/-- Passes over a value. -/
def skipValue (cs : List Char) : Except Error (List Char) :=
  skipFrom (2 * cs.length + 2) .value [] cs

end MediaPaths.Json
