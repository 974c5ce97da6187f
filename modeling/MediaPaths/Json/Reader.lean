import MediaPaths.Json.Token

/-!
# Reading JSON text

Values are read from left to right. Arrays and objects may be nested 127 levels deep, and the reader
recurses on the levels that are left. `readElements` and `readMembers` walk the text of one array or
object and leave its elements and members to the reader they are given.
-/

namespace MediaPaths.Json

/-- How deeply arrays and objects may be nested. -/
def maxLevels : Nat := 127

/-- Reads the elements of an array up to its closing bracket; `taken` is what has been read, the
latest first. Every round takes at least one character. -/
def readElementsFrom {α : Type} (element : List Char → Result α) :
    (fuel : Nat) → (taken : List α) → List Char → Result (List α)
  | 0, _, _ => .error .endInArray
  | fuel + 1, taken, cs =>
    match element cs with
    | .error e => .error e
    | .ok (v, rest) =>
      match skipBlank rest with
      | [] => .error .endInArray
      | ']' :: rest => .ok ((v :: taken).reverse, rest)
      | ',' :: rest =>
        match skipBlank rest with
        | [] => .error .endInValue
        | ']' :: _ => .error .trailingComma
        | rest => readElementsFrom element fuel (v :: taken) rest
      | _ => .error .expectedCommaOrBracket

/-- Reads an array after its opening bracket. -/
def readElements {α : Type} (element : List Char → Result α) (cs : List Char) : Result (List α) :=
  match skipBlank cs with
  | [] => .error .endInArray
  | ']' :: rest => .ok ([], rest)
  | rest => readElementsFrom element (rest.length + 1) [] rest

/-- Passes over the colon behind the name of a member. -/
def readColon (cs : List Char) : Except Error (List Char) :=
  match skipBlank cs with
  | [] => .error .endInObject
  | ':' :: rest => .ok rest
  | _ => .error .expectedColon

/-- Reads members up to the closing brace, from the opening quote of a name on. The given reader takes
the name and the state so far and goes on behind the name, where the colon follows. Every round takes
at least one character. -/
def readMembersFrom {σ : Type} (member : String → σ → List Char → Result σ) :
    (fuel : Nat) → σ → List Char → Result σ
  | 0, _, _ => .error .endInObject
  | fuel + 1, s, cs =>
    match cs with
    | '"' :: cs =>
      match readString cs with
      | .error e => .error e
      | .ok (name, rest) =>
        match member name s rest with
        | .error e => .error e
        | .ok (s, rest) =>
          match skipBlank rest with
          | [] => .error .endInObject
          | '\x7d' :: rest => .ok (s, rest)
          | ',' :: rest =>
            match skipBlank rest with
            | [] => .error .endInValue
            | '\x7d' :: _ => .error .trailingComma
            | rest => readMembersFrom member fuel s rest
          | _ => .error .expectedCommaOrBrace
    | _ => .error .keyNotString

/-- Reads an object after its opening brace. -/
def readMembers {σ : Type} (member : String → σ → List Char → Result σ) (s : σ) (cs : List Char) :
    Result σ :=
  match skipBlank cs with
  | [] => .error .endInObject
  | '\x7d' :: rest => .ok (s, rest)
  | rest => readMembersFrom member (rest.length + 1) s rest

/-- Reads a value that is neither an array nor an object, at its first character. -/
def readScalar : List Char → Result Value
  | [] => .error .endInValue
  | c :: cs =>
    match c with
    | '"' => (readString cs).map fun (s, rest) => (.string s, rest)
    | 'n' => (readWord ['u', 'l', 'l'] cs).map fun rest => (.null, rest)
    | 't' => (readWord ['r', 'u', 'e'] cs).map fun rest => (.bool true, rest)
    | 'f' => (readWord ['a', 'l', 's', 'e'] cs).map fun rest => (.bool false, rest)
    | '-' => (readNumber true cs).map fun (n, rest) => (.number n, rest)
    | _ =>
      if c.isDigit then (readNumber false (c :: cs)).map fun (n, rest) => (.number n, rest)
      else .error .expectedValue

/-- Reads a value that may be nested so many levels deep. -/
def readValue : (levels : Nat) → List Char → Result Value
  | levels, cs =>
    match skipBlank cs, levels with
    | '[' :: _, 0 => .error .tooDeep
    | '[' :: rest, levels + 1 =>
      (readElements (readValue levels) rest).map fun (vs, rest) => (.array vs, rest)
    | '\x7b' :: _, 0 => .error .tooDeep
    | '\x7b' :: rest, levels + 1 =>
      let member (name : String) (ms : Members) (cs : List Char) : Result Members :=
        match readColon cs with
        | .ok rest => (readValue levels rest).map fun (v, rest) => (ms.insert name v, rest)
        | .error e => .error e
      (readMembers member [] rest).map fun (ms, rest) => (.object ms, rest)
    | rest, _ => readScalar rest

/-- Reads a whole text: nothing but white space may follow. -/
def readAll {α : Type} (reader : List Char → Result α) (text : String) : Except Error α :=
  match reader text.toList with
  | .error e => .error e
  | .ok (a, rest) => if (skipBlank rest).isEmpty then .ok a else .error .trailingCharacters

/-- The value that a text denotes. -/
def Value.ofString (text : String) : Except Error Value := readAll (readValue maxLevels) text

end MediaPaths.Json
