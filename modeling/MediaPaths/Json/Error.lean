import MediaPaths.Json.Value
import MediaPaths.Text.Quoted

/-!
# What can be wrong with JSON

A text may be no JSON at all, or a value may not have the shape that is asked for. Messages name what
was found and what was expected.
-/

namespace MediaPaths.Json

/-- A value as messages speak of it. -/
inductive Found where
  /-- The value `null`. -/
  | null
  /-- A truth value. -/
  | bool (b : Bool)
  /-- A number. -/
  | number (n : Number)
  /-- A text. -/
  | string (s : String)
  /-- A list of values. -/
  | sequence
  /-- An object. -/
  | map
  deriving DecidableEq, Repr

namespace Found

/-- What a message says about a value. -/
def text : Found → String
  | null => "null"
  | bool b => if b then "boolean \x60true\x60" else "boolean \x60false\x60"
  | number (.float neg units) => s!"floating point \x60{(Number.float neg units).text}\x60"
  | number n => s!"integer \x60{n.text}\x60"
  | string s => s!"string {Text.quoted s}"
  | sequence => "sequence"
  | map => "map"

end Found

/-- How messages speak of a value. -/
def Value.found : Value → Found
  | null => .null
  | bool b => .bool b
  | number n => .number n
  | string s => .string s
  | array _ => .sequence
  | object _ => .map

/-- What is wrong with a JSON text or value. -/
inductive Error where
  /-- The text ends where a value has to follow. -/
  | endInValue
  /-- The text ends inside an array. -/
  | endInArray
  /-- The text ends inside an object. -/
  | endInObject
  /-- The text ends inside a string. -/
  | endInString
  /-- No colon follows the name of a member. -/
  | expectedColon
  /-- An element is followed by neither a comma nor a closing bracket. -/
  | expectedCommaOrBracket
  /-- A member is followed by neither a comma nor a closing brace. -/
  | expectedCommaOrBrace
  /-- A word is none of `null`, `true` and `false`. -/
  | expectedWord
  /-- No value begins here. -/
  | expectedValue
  /-- A backslash is followed by no escape. -/
  | invalidEscape
  /-- A number is malformed. -/
  | invalidNumber
  /-- A number is larger than every binary64 number. -/
  | numberOutOfRange
  /-- A control character stands in a string. -/
  | controlCharacter
  /-- The name of a member is no string. -/
  | keyNotString
  /-- A surrogate has no partner. -/
  | loneSurrogate
  /-- Half a surrogate pair is followed by no escape. -/
  | endOfHexEscape
  /-- A comma is followed by a closing bracket or brace. -/
  | trailingComma
  /-- Something follows the end of the value. -/
  | trailingCharacters
  /-- Arrays and objects are nested too deeply. -/
  | tooDeep
  /-- A value has the wrong type. -/
  | invalidType (found : Found) (expected : String)
  /-- A value has the right type but is not allowed. -/
  | invalidValue (found : Found) (expected : String)
  /-- An array has the wrong number of elements. -/
  | invalidLength (length : Nat) (expected : String)
  /-- A text is none of the names allowed. -/
  | unknownVariant (name : String) (allowed : List String)
  /-- A member comes twice. -/
  | duplicateField (name : String)
  /-- A rule of the format that is written in JSON is broken. -/
  | broken (rule : String)
  deriving DecidableEq, Repr

namespace Error

/-- The names a text could have been: one alone, two joined by `or`, more as a list. -/
def choices (names : List String) : String :=
  match names.map fun n => s!"\x60{n}\x60" with
  | [] => "there are no variants"
  | [a] => s!"expected {a}"
  | [a, b] => s!"expected {a} or {b}"
  | all => "expected one of " ++ ", ".intercalate all

/-- The message of an error. -/
def message : Error → String
  | endInValue => "EOF while parsing a value"
  | endInArray => "EOF while parsing a list"
  | endInObject => "EOF while parsing an object"
  | endInString => "EOF while parsing a string"
  | expectedColon => "expected \x60:\x60"
  | expectedCommaOrBracket => "expected \x60,\x60 or \x60]\x60"
  | expectedCommaOrBrace => "expected \x60,\x60 or \x60\x7d\x60"
  | expectedWord => "expected ident"
  | expectedValue => "expected value"
  | invalidEscape => "invalid escape"
  | invalidNumber => "invalid number"
  | numberOutOfRange => "number out of range"
  | controlCharacter => "control character (\\u0000-\\u001F) found while parsing a string"
  | keyNotString => "key must be a string"
  | loneSurrogate => "lone leading surrogate in hex escape"
  | endOfHexEscape => "unexpected end of hex escape"
  | trailingComma => "trailing comma"
  | trailingCharacters => "trailing characters"
  | tooDeep => "recursion limit exceeded"
  | invalidType found expected => s!"invalid type: {found.text}, expected {expected}"
  | invalidValue found expected => s!"invalid value: {found.text}, expected {expected}"
  | invalidLength length expected => s!"invalid length {length}, expected {expected}"
  | unknownVariant name allowed => s!"unknown variant \x60{name}\x60, {choices allowed}"
  | duplicateField name => s!"duplicate field \x60{name}\x60"
  | broken rule => rule

end Error

end MediaPaths.Json
