import MediaPaths.Json.Value

/-!
# Compact JSON text

Values are written without white space. In strings only quotes, backslashes and control characters
are escaped, the latter by a letter where there is one and by a code otherwise.
-/

namespace MediaPaths.Json

/-- A hexadecimal digit in lower case. -/
def hexDigit (n : Nat) : Char := Nat.digitChar n

/-- How one character is written in a string. -/
def writeChar (c : Char) : List Char :=
  if c == '"' || c == '\\' then ['\\', c]
  else if c == '\x08' then ['\\', 'b']
  else if c == '\x09' then ['\\', 't']
  else if c == '\x0a' then ['\\', 'n']
  else if c == '\x0c' then ['\\', 'f']
  else if c == '\x0d' then ['\\', 'r']
  else if c.toNat < 0x20 then
    ['\\', 'u', '0', '0', hexDigit (c.toNat / 16), hexDigit (c.toNat % 16)]
  else [c]

/-- A string in quotes. -/
def writeString (s : String) : List Char := '"' :: s.toList.flatMap writeChar ++ ['"']

mutual

/-- A value as text. -/
def write : Value → List Char
  | .null => "null".toList
  | .bool b => if b then "true".toList else "false".toList
  | .number n => n.text.toList
  | .string s => writeString s
  | .array vs => '[' :: writeElements vs
  | .object ms => '\x7b' :: writeMembers ms

/-- The elements of an array and its closing bracket. -/
def writeElements : List Value → List Char
  | [] => [']']
  | [v] => write v ++ [']']
  | v :: vs => write v ++ ',' :: writeElements vs

/-- The members of an object and its closing brace. -/
def writeMembers : List (String × Value) → List Char
  | [] => ['\x7d']
  | [(k, v)] => writeString k ++ ':' :: write v ++ ['\x7d']
  | (k, v) :: ms => writeString k ++ ':' :: write v ++ ',' :: writeMembers ms

end

/-- A value as a string. -/
def Value.compact (v : Value) : String := String.ofList (write v)

end MediaPaths.Json
