import MediaPaths.Json.Reader

/-!
# Reading JSON text of a known shape

Where a format fixes the shape of a value, the value is read right from the text, and a value of
another shape is an error as soon as it begins: an array or object is not read any further, other
values are read to the end to be named in the message.
-/

namespace MediaPaths.Json

/-- The value that begins here, as messages speak of it. -/
def readFound : List Char → Except Error Found
  | [] => .error .expectedValue
  | c :: cs =>
    match c with
    | '[' => .ok .sequence
    | '\x7b' => .ok .map
    | _ => (readScalar (c :: cs)).map fun r => r.1.found

/-- What is wrong with a value that begins here and is not what was expected. -/
def mismatch (expected : String) (cs : List Char) : Error :=
  match readFound cs with
  | .ok found => .invalidType found expected
  | .error e => e

/-- Reads a string. -/
def readText (expected : String) (cs : List Char) : Result String :=
  match skipBlank cs with
  | [] => .error .endInValue
  | '"' :: rest => readString rest
  | rest => .error (mismatch expected rest)

/-- Reads a value or `null`. -/
def readOptional {α : Type} (reader : List Char → Result α) (cs : List Char) :
    Result (Option α) :=
  match skipBlank cs with
  | 'n' :: rest => (readWord ['u', 'l', 'l'] rest).map fun rest => (none, rest)
  | rest => (reader rest).map fun (a, rest) => (some a, rest)

/-- Reads nothing but `null`. -/
def readNull (cs : List Char) : Except Error (List Char) :=
  match skipBlank cs with
  | [] => .error .endInValue
  | 'n' :: rest => readWord ['u', 'l', 'l'] rest
  | rest => .error (mismatch "unit" rest)

/-- The size that a number denotes. -/
def Number.toSize : Number → Except Error UInt64
  | .natural n => .ok n
  | .negative n => .error (.invalidValue (.number (.negative n)) "usize")
  | n => .error (.invalidType (.number n) "usize")

/-- Reads a size, a whole number from 0 to `2 ^ 64 - 1`, after its sign. -/
def readSizeAfter (negative : Bool) (cs : List Char) : Result UInt64 :=
  match readNumber negative cs with
  | .ok (n, rest) => n.toSize.map fun n => (n, rest)
  | .error e => .error e

/-- Reads a size. -/
def readSize (cs : List Char) : Result UInt64 :=
  match skipBlank cs with
  | [] => .error .endInValue
  | '-' :: rest => readSizeAfter true rest
  | c :: rest =>
    if c.isDigit then readSizeAfter false (c :: rest) else .error (mismatch "usize" (c :: rest))

/-- What a name stands for among a list of names. -/
def findVariant {α : Type} (variants : List (String × α)) (name : String) : Except Error α :=
  match variants.find? (·.1 == name) with
  | some v => .ok v.2
  | none => .error (.unknownVariant name (variants.map (·.1)))

/-- Reads a name alone in an object, with the value `null`, after the opening brace. -/
def readVariantMember {α : Type} (variants : List (String × α)) (cs : List Char) : Result α :=
  match readText "variant identifier" cs with
  | .error e => .error e
  | .ok (name, rest) =>
    match findVariant variants name with
    | .error e => .error e
    | .ok a =>
      match readColon rest >>= readNull with
      | .error e => .error e
      | .ok rest =>
        match skipBlank rest with
        | '\x7d' :: rest => .ok (a, rest)
        | [] => .error .endInObject
        | _ => .error .expectedValue

/-- Reads one of some names, as a string or as the only member of an object, with the value `null`. -/
def readVariant {α : Type} (variants : List (String × α)) (levels : Nat) (cs : List Char) :
    Result α :=
  match skipBlank cs, levels with
  | [], _ => .error .endInValue
  | '"' :: rest, _ =>
    match readString rest with
    | .ok (name, rest) => (findVariant variants name).map fun a => (a, rest)
    | .error e => .error e
  | '\x7b' :: _, 0 => .error .tooDeep
  | '\x7b' :: rest, _ => readVariantMember variants rest
  | _, _ => .error .expectedValue

end MediaPaths.Json
