import MediaPaths.Regex.Class
import MediaPaths.Regex.Expr
import MediaPaths.Regex.Flags

/-!
# Reading a pattern

A pattern is read from left to right by a machine that keeps the group at hand and the groups around
it: every step takes at least one character off the pattern and either adds an item, closes a branch
or opens or closes a group. `parse?` runs it to the end.

Nesting is limited: a group, a repetition, a bracketed class, a sequence of two or more items and a
choice between two or more branches each make one level.
-/

namespace MediaPaths.Regex

/-- How deeply a pattern may be nested. -/
def nestLimit : Nat := 250

/-- One item of a sequence. -/
structure Item where
  /-- What it matches; a setting of flags matches nothing and cannot be repeated. -/
  expr : Option Expr
  /-- How deeply it is nested. -/
  depth : Nat

namespace Item

/-- The expression of an item, the empty text for a setting of flags. -/
def value (i : Item) : Expr := i.expr.getD .empty

/-- An item that is no setting of flags. -/
def of (e : Expr) (depth : Nat := 0) : Item := ⟨some e, depth⟩

/-- The sequence of some items, the last of them first. -/
def sequence : List Item → Item
  | [] => of .empty
  | [i] => i
  | items =>
    of (.cats (items.reverse.filterMap (·.expr))) ((items.map (·.depth)).foldl max 0 + 1)

/-- The choice between some branches, the last of them first. -/
def choice : List Item → Item
  | [] => of .empty
  | [i] => i
  | branches =>
    of (.alts (branches.reverse.map value)) ((branches.map (·.depth)).foldl max 0 + 1)

end Item

/-- The part of a group read so far: finished branches and the items of the branch at hand, both with
the latest first. -/
structure Level where
  /-- The items of the branch at hand. -/
  items : List Item := []
  /-- The branches before it. -/
  branches : List Item := []

namespace Level

/-- Adds an item to the branch at hand. -/
def push (l : Level) (i : Item) : Level := { l with items := i :: l.items }

/-- Ends the branch at hand. -/
def branch (l : Level) : Level := ⟨[], Item.sequence l.items :: l.branches⟩

/-- The whole level as one item. -/
def close (l : Level) : Item := Item.choice l.branch.branches

end Level

/-- A group that has been opened: what stands before it, its number if it has one, and the flags that
hold again after it. -/
structure OpenGroup where
  /-- The level around the group. -/
  outer : Level
  /-- The number of the group. -/
  index : Option Nat
  /-- The flags outside the group. -/
  flags : Flags

/-- The state of reading. -/
structure Reader where
  /-- The rest of the pattern. -/
  rest : List Char
  /-- The flags that hold here. -/
  flags : Flags := {}
  /-- The level at hand. -/
  level : Level := {}
  /-- The open groups, the innermost first. -/
  stack : List OpenGroup := []
  /-- The number of groups so far. -/
  groups : Nat := 0
  /-- The names of groups so far. -/
  names : List (List Char) := []

namespace Reader

/-- Adds an item and goes on with `rest`. -/
def push (r : Reader) (i : Item) (rest : List Char) : Reader :=
  { r with rest := rest, level := r.level.push i }

/-! ## Groups -/

/-- Whether a character may stand in the name of a group. -/
def isNameChar (c : Char) : Bool :=
  c == '_' || c == '.' || c == '[' || c == ']' || Unicode.alphabetic.contains c ||
    Unicode.numbers.contains c

/-- Whether a character may begin the name of a group. -/
def isNameStart (c : Char) : Bool := c == '_' || Unicode.alphabetic.contains c

/-- A group's name up to the closing angle bracket, and the rest. -/
def groupName? (cs : List Char) : Option (List Char × List Char) :=
  let name := cs.takeWhile (· != '>')
  match cs.dropWhile (· != '>'), name with
  | _ :: rest, c :: more => if isNameStart c && more.all isNameChar then some (name, rest) else none
  | _, _ => none

/-- Opens a group with its number, if it has one, and with its flags. -/
def openGroup (r : Reader) (index : Option Nat) (flags : Flags) (rest : List Char) : Reader :=
  { r with
    rest := rest
    flags := flags
    level := {}
    stack := ⟨r.level, index, r.flags⟩ :: r.stack
    groups := r.groups + (if index.isSome then 1 else 0) }

/-- Opens a named group. No two groups have the same name. -/
def openNamed? (r : Reader) (cs : List Char) : Option Reader :=
  match groupName? cs with
  | none => none
  | some (name, rest) =>
    if r.names.contains name then none
    else
      let r := { r with names := name :: r.names }
      some (r.openGroup (some (r.groups + 1)) r.flags rest)

/-- What follows an opening parenthesis: a plain or a named group, a group with flags, or flags for
the rest of the group at hand. Assertions about the text around are not supported. -/
def openParen? (r : Reader) (cs : List Char) : Option Reader :=
  match skip r.flags cs with
  | '?' :: 'P' :: '<' :: rest => r.openNamed? rest
  | '?' :: '<' :: '=' :: _ => none
  | '?' :: '<' :: '!' :: _ => none
  | '?' :: '<' :: rest => r.openNamed? rest
  | '?' :: rest =>
    match r.flags.read? true [] rest with
    | none => none
    | some (flags, any, ender, rest) =>
      if ender == ')' then
        if any then some { r.push ⟨none, 0⟩ rest with flags := flags } else none
      else some (r.openGroup none flags rest)
  | rest => some (r.openGroup (some (r.groups + 1)) r.flags rest)

/-- Closes the innermost group. -/
def closeParen? (r : Reader) (rest : List Char) : Option Reader :=
  match r.stack with
  | [] => none
  | g :: stack =>
    let inner := r.level.close
    let e := match g.index with
      | some i => Expr.group i inner.value
      | none => inner.value
    some { r with
      rest := rest
      flags := g.flags
      level := g.outer.push (.of e (inner.depth + 1))
      stack := stack }

/-! ## Repetition -/

/-- Repeats the latest item; there must be one, and no setting of flags. A question mark at the front
of the rest makes the repetition lazy. -/
def repeatLast? (r : Reader) (min : Nat) (max : Option Nat) (rest : List Char) : Option Reader :=
  match r.level.items with
  | ⟨some e, depth⟩ :: items =>
    let (lazy, rest) := match rest with
      | '?' :: more => (true, more)
      | _ => (false, rest)
    let e := e.times min max (lazy == r.flags.swapGreed)
    some { r with
      rest := rest
      level := { r.level with items := .of e (depth + 1) :: items } }
  | _ => none

/-- The digits at the front, with white space of a verbose pattern skipped after each. -/
def digitsFrom (f : Flags) : (fuel : Nat) → List Char → List Char × List Char
  | 0, cs => ([], cs)
  | _ + 1, [] => ([], [])
  | fuel + 1, c :: cs =>
    if c.isDigit then
      let (ds, rest) := digitsFrom f fuel (skip f cs)
      (c :: ds, rest)
    else ([], c :: cs)

/-- A number of 32 bits with white space around it: `none` if it is too large, and `some none` if
there is no digit. -/
def count? (f : Flags) (cs : List Char) : Option (Option Nat × List Char) :=
  let (ds, rest) := digitsFrom f (cs.length + 1) (cs.dropWhile Text.isBlank)
  let rest := skip f (rest.dropWhile Text.isBlank)
  if ds.isEmpty then some (none, rest)
  else
    let n := ds.foldl (fun n d => n * 10 + (d.toNat - '0'.toNat)) 0
    if n < UInt32.size then some (some n, rest) else none

/-- The numbers of a counted repetition after its opening brace: `{n}`, `{n,}` or `{n,m}`. -/
def bounds? (f : Flags) (cs : List Char) : Option (Nat × Option Nat × List Char) := do
  let (lo, rest) ← count? f (skip f cs)
  let lo ← lo
  match rest with
  | '\x7d' :: rest => some (lo, some lo, rest)
  | ',' :: rest =>
    match skip f rest with
    | '\x7d' :: rest => some (lo, none, rest)
    | rest =>
      let (hi, rest) ← count? f rest
      let hi ← hi
      match rest with
      | '\x7d' :: rest => if lo ≤ hi then some (lo, some hi, rest) else none
      | _ => none
  | _ => none

/-- A counted repetition after its opening brace. -/
def repeatCounted? (r : Reader) (cs : List Char) : Option Reader :=
  match bounds? r.flags cs with
  | none => none
  | some (lo, hi, rest) => r.repeatLast? lo hi (skip r.flags rest)

/-! ## Characters and assertions -/

/-- The characters that a dot matches; without the flag `u` there are none that make up text. -/
def dot? (f : Flags) : Option Unicode.CodeSet :=
  if !f.unicode then none
  else
    let all := Unicode.CodeSet.range 0 0x10FFFF
    if f.dotAll then some all
    else if f.anyLineEnd then some (all.diff (.ofRanges [(0xA, 0xA), (0xD, 0xD)]))
    else some (all.diff (.single '\n'))

/-- The assertion of `^`. -/
def lineStart (f : Flags) : Look :=
  if !f.multiLine then .textStart else if f.anyLineEnd then .anyLineStart else .lineStart

/-- The assertion of `$`. -/
def lineEnd (f : Flags) : Look :=
  if !f.multiLine then .textEnd else if f.anyLineEnd then .anyLineEnd else .lineEnd

/-- The expression of a single character. Without the flag `u` a byte above the ASCII range is no
text, and case is known for ASCII only. -/
def literal? (f : Flags) (c : Char) (byte : Bool) : Option Expr :=
  if !f.unicode && 0x80 ≤ c.toNat && (byte || f.ignoreCase) then none
  else if f.ignoreCase then some (.chars (foldCase f (.single c)))
  else some (.chars (.single c))

/-- The expression of a primitive. -/
def primitive? (f : Flags) : Primitive → Option Expr
  | .literal c byte => literal? f c byte
  | .set s => some (.chars s)
  | .look l => some (.look l)

/-! ## The machine -/

/-- One step, at a character `c` with `cs` after it. -/
def stepAt? (r : Reader) (c : Char) (cs : List Char) : Option Reader :=
  match c with
  | '(' => r.openParen? cs
  | ')' => r.closeParen? cs
  | '|' => some { r with rest := cs, level := r.level.branch }
  | '[' => do
    let (s, depth, rest) ← readClass? r.flags cs
    some (r.push (.of (.chars s) depth) rest)
  | '?' => r.repeatLast? 0 (some 1) cs
  | '*' => r.repeatLast? 0 none cs
  | '+' => r.repeatLast? 1 none cs
  | '\x7b' => r.repeatCounted? cs
  | '.' => do some (r.push (.of (.chars (← dot? r.flags))) cs)
  | '^' => some (r.push (.of (.look (lineStart r.flags))) cs)
  | '$' => some (r.push (.of (.look (lineEnd r.flags))) cs)
  | '\\' => do
    let (p, rest) ← readEscape? r.flags cs
    some (r.push (.of (← primitive? r.flags p)) rest)
  | _ => do some (r.push (.of (← literal? r.flags c false)) cs)

/-- Reads to the end of the pattern; every step takes at least one character. -/
def run? : (fuel : Nat) → Reader → Option Reader
  | 0, _ => none
  | fuel + 1, r =>
    match skip r.flags r.rest with
    | [] => some r
    | c :: cs =>
      match r.stepAt? c cs with
      | none => none
      | some r => run? fuel r

end Reader

/-- The expression that a pattern denotes. -/
def parse? (s : List Char) : Option Expr :=
  match Reader.run? (s.length + 1) { rest := s } with
  | none => none
  | some r =>
    let whole := r.level.close
    if r.stack.isEmpty && whole.depth ≤ nestLimit then some whole.value else none

end MediaPaths.Regex
