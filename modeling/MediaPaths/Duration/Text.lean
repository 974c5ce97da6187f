import MediaPaths.Duration.Basic
import MediaPaths.Number.Binary64
import MediaPaths.Text.Blank

/-!
# Durations as text

A duration is written as groups, each a decimal number followed by one of the units `h`, `m`, `s`
and `ms`, or as a bare `0`. The value of a group is the binary64 number nearest to its decimal,
multiplied by the binary64 number nearest to the length of its unit in seconds, and rounded to whole
nanoseconds. The groups are added up in the order they stand in.

The printer writes whole milliseconds, so it forgets what is shorter.
-/

namespace MediaPaths

open Number

/-- The units a duration is written in. -/
inductive TimeUnit where
  /-- Hours, `h`. -/
  | hours
  /-- Minutes, `m`. -/
  | minutes
  /-- Seconds, `s`. -/
  | seconds
  /-- Milliseconds, `ms`. -/
  | millis
  deriving DecidableEq, Repr

namespace TimeUnit

/-- How a unit is written. -/
def symbol : TimeUnit → List Char
  | hours => ['h']
  | minutes => ['m']
  | seconds => ['s']
  | millis => ['m', 's']

/-- The unit that is written this way. -/
def ofSymbol? (s : List Char) : Option TimeUnit :=
  [hours, minutes, seconds, millis].find? (·.symbol == s)

/-- The length of a unit in seconds; a millisecond is not a binary64 number and is rounded. -/
def scale : TimeUnit → Binary64
  | hours => .ofNat 3600
  | minutes => .ofNat 60
  | seconds => .ofNat 1
  | millis => .ofRatio 1 1000

theorem ofSymbol?_symbol (u : TimeUnit) : ofSymbol? u.symbol = some u := by
  cases u <;> decide

end TimeUnit

namespace Duration

/-- The characters a number is made of: digits and the point. -/
def isNumeral (c : Char) : Bool := c.isDigit || c == '.'

/-- A decimal number read as a fraction: digits with at most one point, and at least one digit. -/
def decimal? (s : List Char) : Option (Nat × Nat) :=
  let whole := s.takeWhile Char.isDigit
  let fraction := (s.dropWhile Char.isDigit).drop 1
  let rest := s.dropWhile Char.isDigit
  if (rest.isEmpty || rest.head? == some '.') && fraction.all Char.isDigit &&
      !(whole ++ fraction).isEmpty then
    some ((whole ++ fraction).foldl (fun n c => n * 10 + (c.toNat - '0'.toNat)) 0,
      Nat.pow 10 fraction.length)
  else none

/-- The nanoseconds nearest to a number of seconds, if in range. -/
def ofSeconds? : Binary64 → Option Duration
  | .finite u =>
    if u < UInt64.size * Binary64.one then ofNanos? (roundDiv (u * second) Binary64.one) else none
  | .infinity => none

/-- The length of one group: its number times its unit. -/
def groupValue? (number : Nat × Nat) (unit : TimeUnit) : Option Duration :=
  ofSeconds? ((Binary64.ofRatio number.1 number.2).mul unit.scale)

/-- Splits a text into a number and a unit, again and again: `number` and `unit` are what has been
read of the group at hand. A new group starts where a numeral follows a unit. -/
def groupsFrom (number unit : List Char) : List Char → List (List Char × List Char)
  | [] => [(number, unit)]
  | c :: s =>
    if isNumeral c then
      if unit.isEmpty then groupsFrom (number ++ [c]) unit s
      else (number, unit) :: groupsFrom [c] [] s
    else groupsFrom number (unit ++ [c]) s

/-- The length of a group given by its two texts. -/
def readGroup? (g : List Char × List Char) : Option Duration := do
  let number ← decimal? g.1
  let unit ← TimeUnit.ofSymbol? g.2
  groupValue? number unit

/-- The sum of the groups of a text. -/
def sumGroups? (groups : List (List Char × List Char)) : Option Duration :=
  groups.foldlM (fun total g => do total.add? (← readGroup? g)) zero

/-- Reads a duration; white space around it does not count. -/
def read? (s : List Char) : Option Duration :=
  let t := Text.trim s
  if t = ['0'] then some zero
  else if t.isEmpty then none
  else sumGroups? (groupsFrom [] [] t)

/-- Reads a duration from a string. -/
def ofString? (s : String) : Option Duration := read? s.toList

/-- One part of a written duration, nothing if the part is zero. -/
def part (n : Nat) (unit : TimeUnit) : List Char :=
  if n = 0 then [] else Nat.toDigits 10 n ++ unit.symbol

/-- A duration written in whole milliseconds, without the parts that are zero. -/
def write (d : Duration) : List Char :=
  let ms := d.millis
  if ms = 0 then ['0', 's']
  else
    part (ms / 3600000) .hours ++ part (ms / 60000 % 60) .minutes ++
      part (ms / 1000 % 60) .seconds ++ part (ms % 1000) .millis

/-- A duration as a string. -/
protected def toString (d : Duration) : String := String.ofList d.write

instance : ToString Duration := ⟨Duration.toString⟩

end Duration

end MediaPaths
