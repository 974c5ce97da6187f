import MediaPaths.Regex.Expr
import MediaPaths.Regex.Flags
import MediaPaths.Text.Blank

/-!
# Escapes and character classes of a pattern

What can stand for one character or one assertion: escapes such as `\d`, `\x41`, `\p{Greek}` or
`\b`, and bracketed classes with ranges, nested classes and the set operations `&&`, `--` and `~~`.

Without the flag `u` a pattern is about single bytes of ASCII text, so a class may hold only ASCII
characters there, and a negated class is an error.
-/

namespace MediaPaths.Regex

open Unicode

/-! ## White space of verbose patterns -/

/-- The pattern after white space and comments; a comment goes from `#` to the end of its line. -/
def skipSpace : (inComment : Bool) → List Char → List Char
  | _, [] => []
  | true, c :: cs => skipSpace (c != '\n') cs
  | false, c :: cs =>
    if Text.isBlank c then skipSpace false cs
    else if c == '#' then skipSpace true cs
    else c :: cs

/-- The place where reading goes on: white space and comments count unless the pattern is
verbose. -/
def skip (f : Flags) (cs : List Char) : List Char :=
  if f.verbose then skipSpace false cs else cs

/-! ## Escapes -/

/-- What an escape, a dot or a plain character stands for. -/
inductive Primitive where
  /-- One character; `byte` if it was written as two hexadecimal digits. -/
  | literal (c : Char) (byte : Bool)
  /-- One character of a set. -/
  | set (s : CodeSet)
  /-- An assertion. -/
  | look (l : Look)
  deriving DecidableEq, Repr

/-- Characters with a meaning of their own in patterns. -/
def isMeta (c : Char) : Bool :=
  ['\\', '.', '+', '*', '?', '(', ')', '|', '[', ']', '\x7b', '\x7d', '^', '$', '#', '&', '-',
    '~'].contains c

/-- Characters that a backslash leaves as they are. -/
def isEscapable (c : Char) : Bool :=
  isMeta c || (c.toNat < 0x80 && !c.isAlphanum && c != '<' && c != '>')

/-- The value of a hexadecimal digit in either case. -/
def hexValue? (c : Char) : Option Nat :=
  if c.isDigit then some (c.toNat - '0'.toNat)
  else if 'a' ≤ c ∧ c ≤ 'f' then some (c.toNat - 'a'.toNat + 10)
  else if 'A' ≤ c ∧ c ≤ 'F' then some (c.toNat - 'A'.toNat + 10)
  else none

/-- The character with this code, if there is one. -/
def charOfCode? (n : Nat) : Option Char :=
  if h : n.isValidChar then some (Char.ofNatAux n h) else none

/-- The character with the code written by these hexadecimal digits. -/
def charOfHex? (digits : List Char) : Option Char := do
  let values ← digits.mapM hexValue?
  charOfCode? (values.foldl (fun n d => n * 16 + d) 0)

/-- So many characters, with space skipped after each. -/
def takeChars? (f : Flags) : Nat → List Char → Option (List Char × List Char)
  | 0, cs => some ([], cs)
  | _ + 1, [] => none
  | n + 1, c :: cs => do
    let (taken, rest) ← takeChars? f n (skip f cs)
    some (c :: taken, rest)

/-- The characters up to a closing brace and the rest after it, with space skipped on the way. -/
def braced? (f : Flags) : (fuel : Nat) → List Char → Option (List Char × List Char)
  | 0, _ => none
  | _ + 1, [] => none
  | _ + 1, '\x7d' :: cs => some ([], cs)
  | fuel + 1, c :: cs => do
    let (taken, rest) ← braced? f fuel (skip f cs)
    some (c :: taken, rest)

/-- A character by its code: `\x41`, `\u0041`, `\U00000041`, or any number of digits in braces. -/
def readHex? (f : Flags) (digits : Nat) (cs : List Char) : Option (Primitive × List Char) :=
  match skip f cs with
  | [] => none
  | '\x7b' :: rest => do
    let (hex, rest) ← braced? f (rest.length + 1) (skip f rest)
    if hex.isEmpty then none
    let c ← charOfHex? hex
    some (.literal c false, skip f rest)
  | rest => do
    let (hex, rest) ← takeChars? f digits rest
    let c ← charOfHex? hex
    some (.literal c (digits == 2), rest)

/-- Splits a text at the first place where `p` begins. -/
def splitAtFirst? (p : List Char) : List Char → Option (List Char × List Char)
  | [] => none
  | c :: cs =>
    match List.isPrefixOf? p (c :: cs) with
    | some rest => some ([], rest)
    | none => (splitAtFirst? p cs).map fun (a, b) => (c :: a, b)

/-- The characters with a property, given by name alone or by name and value. -/
def propertySet? (name : List Char) : Option CodeSet :=
  let cut := (splitAtFirst? ['!', '='] name).orElse fun _ =>
    (splitAtFirst? [':'] name).orElse fun _ => splitAtFirst? ['='] name
  match cut with
  | some (property, value) => value? (String.ofList property) (String.ofList value)
  | none => property? (String.ofList name)

/-- Adds the letters of the other case to a set, if case does not count. -/
def foldCase (f : Flags) (s : CodeSet) : CodeSet :=
  if !f.ignoreCase then s
  else if f.unicode then closeUnderCase s
  else
    let upper := s.inter (.range 'A'.toNat 'Z'.toNat)
    let lower := s.inter (.range 'a'.toNat 'z'.toNat)
    let shifted := upper.ranges.map (fun r => (r.1 + 32, r.2 + 32)) ++
      lower.ranges.map (fun r => (r.1 - 32, r.2 - 32))
    s.union (.ofRanges shifted)

/-- A set or, if negated, its complement. Sets of bytes have no complement in ASCII text. -/
def negate? (f : Flags) (negated : Bool) (s : CodeSet) : Option CodeSet :=
  if !negated then if f.unicode || s.isAscii then some s else none
  else if f.unicode then some s.compl
  else none

/-- A property class: `\pL`, `\p{Greek}`, `\p{sc=Greek}`, and `\P` for the complement. -/
def readProperty? (f : Flags) (negated : Bool) (cs : List Char) :
    Option (Primitive × List Char) := do
  let (name, rest) ←
    match skip f cs with
    | [] => none
    | '\x7b' :: rest => braced? f (rest.length + 1) (skip f rest)
    | c :: rest => if c == '\\' then none else some ([c], skip f rest)
  if !f.unicode then none
  let s ← propertySet? name
  some (.set (← negate? f negated (foldCase f s)), rest)

/-- ASCII letters, digits and the underscore. -/
def asciiWord : CodeSet :=
  .ofRanges [('0'.toNat, '9'.toNat), ('A'.toNat, 'Z'.toNat), ('_'.toNat, '_'.toNat),
    ('a'.toNat, 'z'.toNat)]

/-- ASCII white space. -/
def asciiSpace : CodeSet := .ofRanges [(0x9, 0xD), (0x20, 0x20)]

/-- The sets behind `\d`, `\s` and `\w`. -/
def shorthand (unicode : Bool) : Char → CodeSet
  | 'd' => if unicode then digits else .range '0'.toNat '9'.toNat
  | 's' => if unicode then spaces else asciiSpace
  | _ => if unicode then wordChars else asciiWord

/-- What a word boundary with a name in braces asserts. -/
def namedBoundary? (unicode : Bool) (name : List Char) : Option Look :=
  match String.ofList name with
  | "start" => some (.wordStart unicode)
  | "end" => some (.wordEnd unicode)
  | "start-half" => some (.wordStartHalf unicode)
  | "end-half" => some (.wordEndHalf unicode)
  | _ => none

/-- The letters and hyphens at the front, with space skipped after each. -/
def boundaryName (f : Flags) : (fuel : Nat) → List Char → List Char × List Char
  | 0, cs => ([], cs)
  | _ + 1, [] => ([], [])
  | fuel + 1, c :: cs =>
    if c.isAlpha || c == '-' then
      let (taken, rest) := boundaryName f fuel (skip f cs)
      (c :: taken, rest)
    else ([], c :: cs)

/-- What follows `\b`: a name in braces makes a special boundary, anything else in braces is left for
a repetition. -/
def readBoundary? (f : Flags) : List Char → Option (Primitive × List Char)
  | '\x7b' :: cs =>
    match skip f cs with
    | [] => none
    | c :: rest =>
      if c.isAlpha || c == '-' then
        match boundaryName f (cs.length + 1) (c :: rest) with
        | (name, '\x7d' :: rest) => do some (.look (← namedBoundary? f.unicode name), rest)
        | _ => none
      else some (.look (.boundary f.unicode), '\x7b' :: cs)
  | cs => some (.look (.boundary f.unicode), cs)

/-- What follows a backslash. Digits would refer to groups, which is not supported. -/
def readEscape? (f : Flags) : List Char → Option (Primitive × List Char)
  | [] => none
  | c :: cs =>
    match c with
    | 'x' => readHex? f 2 cs
    | 'u' => readHex? f 4 cs
    | 'U' => readHex? f 8 cs
    | 'p' => readProperty? f false cs
    | 'P' => readProperty? f true cs
    | 'd' | 's' | 'w' => some (.set (shorthand f.unicode c), cs)
    | 'D' | 'S' | 'W' => do some (.set (← negate? f true (shorthand f.unicode c.toLower)), cs)
    | 'a' => some (.literal '\x07' false, cs)
    | 'f' => some (.literal '\x0c' false, cs)
    | 't' => some (.literal '\t' false, cs)
    | 'n' => some (.literal '\n' false, cs)
    | 'r' => some (.literal '\r' false, cs)
    | 'v' => some (.literal '\x0b' false, cs)
    | 'A' => some (.look .textStart, cs)
    | 'z' => some (.look .textEnd, cs)
    | 'b' => readBoundary? f cs
    | 'B' => some (.look (.noBoundary f.unicode), cs)
    | '<' => some (.look (.wordStart f.unicode), cs)
    | '>' => some (.look (.wordEnd f.unicode), cs)
    | _ => if isEscapable c then some (.literal c false, cs) else none

/-! ## Bracketed classes -/

/-- The sets that classes such as `[:alpha:]` name. -/
def namedClass? (name : List Char) : Option CodeSet :=
  let r (a b : Char) : Nat × Nat := (a.toNat, b.toNat)
  match String.ofList name with
  | "alnum" => some (.ofRanges [r '0' '9', r 'A' 'Z', r 'a' 'z'])
  | "alpha" => some (.ofRanges [r 'A' 'Z', r 'a' 'z'])
  | "ascii" => some (.range 0 0x7F)
  | "blank" => some (.ofRanges [r '\t' '\t', r ' ' ' '])
  | "cntrl" => some (.ofRanges [(0, 0x1F), (0x7F, 0x7F)])
  | "digit" => some (.ofRanges [r '0' '9'])
  | "graph" => some (.ofRanges [r '!' '~'])
  | "lower" => some (.ofRanges [r 'a' 'z'])
  | "print" => some (.ofRanges [r ' ' '~'])
  | "punct" => some (.ofRanges [r '!' '/', r ':' '@', r '[' '\x60', r '\x7b' '~'])
  | "space" => some asciiSpace
  | "upper" => some (.ofRanges [r 'A' 'Z'])
  | "word" => some asciiWord
  | "xdigit" => some (.ofRanges [r '0' '9', r 'A' 'F', r 'a' 'f'])
  | _ => none

/-- A named class after its opening bracket, such as `:alpha:]` or `:^alpha:]`. -/
def readNamedClass? : List Char → Option (CodeSet × Bool × List Char)
  | ':' :: cs =>
    let (negated, cs) := match cs with
      | '^' :: rest => (true, rest)
      | _ => (false, cs)
    let name := cs.takeWhile (· != ':')
    match cs.dropWhile (· != ':') with
    | ':' :: ']' :: rest => (namedClass? name).map fun s => (s, negated, rest)
    | _ => none
  | _ => none

/-- Members read so far inside a class: their set, their number and how deeply they are nested. -/
structure Members where
  /-- The members. -/
  set : CodeSet := .empty
  /-- How many items they were written as. -/
  count : Nat := 0
  /-- The deepest nesting of an item. -/
  depth : Nat := 0

namespace Members

/-- One more item. -/
def push (m : Members) (s : CodeSet) (depth : Nat) : Members :=
  ⟨m.set.union s, m.count + 1, max m.depth depth⟩

/-- The nesting of all items together; two or more make a level of their own. -/
def nesting (m : Members) : Nat := if m.count < 2 then m.depth else m.depth + 1

end Members

/-- The operations between the parts of a class. -/
inductive SetOp where
  /-- The characters in both, `&&`. -/
  | inter
  /-- The characters in the first only, `--`. -/
  | diff
  /-- The characters in one only, `~~`. -/
  | symmDiff
  deriving DecidableEq, Repr

/-- Applies an operation; case is dealt with on both sides first. -/
def SetOp.apply (f : Flags) (op : SetOp) (a b : CodeSet) : CodeSet :=
  let a := foldCase f a
  let b := foldCase f b
  match op with
  | inter => a.inter b
  | diff => a.diff b
  | symmDiff => a.symmDiff b

/-- A class that is still open: the items around it, whether it is negated, and the operation that
waits for its right side together with the left side. -/
structure OpenClass where
  /-- The items of the class around this one. -/
  outer : Members
  /-- Whether the class is negated. -/
  negated : Bool
  /-- The left side with its nesting, and the operation. -/
  pending : Option (CodeSet × Nat × SetOp)

/-- What the items read so far amount to together with the waiting operation. -/
def OpenClass.value (f : Flags) (c : OpenClass) (m : Members) : CodeSet × Nat :=
  match c.pending with
  | none => (m.set, m.nesting)
  | some (left, depth, op) => (op.apply f left m.set, max depth m.nesting + 1)

/-- The beginning of a class after its bracket: hyphens, or else a closing bracket, that stand for
themselves. -/
def readClassStart? (f : Flags) (cs : List Char) : Option (Bool × Members × List Char) :=
  let hyphens : Nat → Members → List Char → Members × List Char := fun fuel m cs =>
    fuel.fold (fun _ _ (m, cs) =>
      match cs with
      | '-' :: rest => (m.push (.single '-') 0, skip f rest)
      | _ => (m, cs)) (m, cs)
  let cs := skip f cs
  let (negated, cs) := match cs with
    | '^' :: rest => (true, skip f rest)
    | _ => (false, cs)
  let (m, cs) := hyphens cs.length {} cs
  let (m, cs) := match m.count, cs with
    | 0, ']' :: rest => (m.push (.single ']') 0, skip f rest)
    | _, _ => (m, cs)
  if cs.isEmpty then none else some (negated, m, cs)

/-- One end of a range or a single item of a class. -/
def readClassItem? (f : Flags) : List Char → Option (Primitive × List Char)
  | [] => none
  | '\\' :: cs => readEscape? f cs
  | c :: cs => some (.literal c false, cs)

/-- The character of a literal; without the flag `u` it must be ASCII. -/
def classLiteral? (f : Flags) : Primitive → Option Char
  | .literal c _ => if f.unicode || c.toNat < 0x80 then some c else none
  | _ => none

/-- The character that follows the current one, white space of verbose patterns aside. -/
def peekPast (f : Flags) (cs : List Char) : Option Char :=
  if f.verbose then
    match cs.dropWhile Text.isBlank with
    | '#' :: rest => (rest.dropWhile Text.isBlank).head?
    | rest => rest.head?
  else cs.head?

/-- A range or a single item. A hyphen makes no range before a closing bracket or another hyphen. -/
def readRange? (f : Flags) (cs : List Char) : Option (CodeSet × List Char) := do
  let (first, rest) ← readClassItem? f cs
  match skip f rest with
  | [] => none
  | '-' :: more =>
    if peekPast f more == some ']' || peekPast f more == some '-' then
      let s ← single first
      some (s, '-' :: more)
    else
      match skip f more with
      | [] => none
      | more =>
        let (last, rest) ← readClassItem? f more
        let lo ← classLiteral? f first
        let hi ← classLiteral? f last
        if lo ≤ hi then some (.range lo.toNat hi.toNat, rest) else none
  | rest =>
    let s ← single first
    some (s, rest)
where
  /-- The set of an item that is no range. -/
  single : Primitive → Option CodeSet
    | .set s => some s
    | .look _ => none
    | p => (classLiteral? f p).map .single

/-- The operation written at the front. -/
def readSetOp? : List Char → Option (SetOp × List Char)
  | '&' :: '&' :: cs => some (.inter, cs)
  | '-' :: '-' :: cs => some (.diff, cs)
  | '~' :: '~' :: cs => some (.symmDiff, cs)
  | _ => none

/-- Reads inside classes up to the end of the outermost one: its set, its nesting and the rest. -/
def readClassBody? (f : Flags) :
    (fuel : Nat) → List OpenClass → Members → List Char → Option (CodeSet × Nat × List Char)
  | 0, _, _, _ => none
  | fuel + 1, stack, m, cs =>
    match skip f cs, stack with
    | [], _ => none
    | _, [] => none
    | ']' :: rest, c :: outer => do
      let (s, depth) := c.value f m
      let s ← negate? f c.negated (foldCase f s)
      if outer.isEmpty then some (s, depth + 1, rest)
      else readClassBody? f fuel outer (c.outer.push s (depth + 1)) rest
    | '[' :: rest, c :: outer =>
      match readNamedClass? rest with
      | some (s, negated, rest) => do
        let s ← negate? f negated (foldCase f s)
        readClassBody? f fuel (c :: outer) (m.push s 0) rest
      | none => do
        let (negated, inner, rest) ← readClassStart? f rest
        readClassBody? f fuel (⟨m, negated, none⟩ :: c :: outer) inner rest
    | cs, c :: outer =>
      match readSetOp? cs with
      | some (op, rest) =>
        let (s, depth) := c.value f m
        readClassBody? f fuel ({ c with pending := some (s, depth, op) } :: outer) {} rest
      | none => do
        let (s, rest) ← readRange? f cs
        readClassBody? f fuel (c :: outer) (m.push s 0) rest

/-- A bracketed class after its opening bracket: its set, its nesting and the rest. -/
def readClass? (f : Flags) (cs : List Char) : Option (CodeSet × Nat × List Char) := do
  let (negated, m, rest) ← readClassStart? f cs
  readClassBody? f (rest.length + 1) [⟨{}, negated, none⟩] m rest

end MediaPaths.Regex
