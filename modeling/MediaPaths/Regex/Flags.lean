/-!
# Flags of a pattern

Flags are set for the rest of a group, `(?i)`, or for a group of their own, `(?i:…)`. A hyphen turns
the flags after it off.
-/

namespace MediaPaths.Regex

/-- How the pattern after this place is read. -/
structure Flags where
  /-- Letters match in either case. -/
  ignoreCase : Bool := false
  /-- The assertions `^` and `$` are about lines. -/
  multiLine : Bool := false
  /-- The dot matches line ends too. -/
  dotAll : Bool := false
  /-- Repetitions are lazy, and greedy when marked with `?`. -/
  swapGreed : Bool := false
  /-- Classes and assertions are about all characters, not just ASCII. -/
  unicode : Bool := true
  /-- Lines end in a carriage return, a line feed or both. -/
  anyLineEnd : Bool := false
  /-- White space and comments in the pattern do not count. -/
  verbose : Bool := false
  deriving DecidableEq, Repr

namespace Flags

/-- Turns the flag of this letter on or off. -/
def set? (f : Flags) (on : Bool) : Char → Option Flags
  | 'i' => some { f with ignoreCase := on }
  | 'm' => some { f with multiLine := on }
  | 's' => some { f with dotAll := on }
  | 'U' => some { f with swapGreed := on }
  | 'u' => some { f with unicode := on }
  | 'R' => some { f with anyLineEnd := on }
  | 'x' => some { f with verbose := on }
  | _ => none

/-- Reads flags up to a colon or a closing parenthesis: the flags they result in, whether there were
any, the character that ends them and the rest. No letter may come twice, a hyphen at most once and
not at the end. -/
def read? (f : Flags) (on : Bool) (seen : List Char) :
    List Char → Option (Flags × Bool × Char × List Char)
  | [] => none
  | c :: cs =>
    if c == ':' || c == ')' then
      if seen.head? == some '-' then none else some (f, !seen.isEmpty, c, cs)
    else if seen.contains c then none
    else if c == '-' then read? f false (c :: seen) cs
    else
      match f.set? on c with
      | none => none
      | some g => read? g on (c :: seen) cs

end Flags

end MediaPaths.Regex
