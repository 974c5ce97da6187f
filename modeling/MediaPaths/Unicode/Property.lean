import MediaPaths.Unicode.CodeSet
import MediaPaths.Unicode.Category
import MediaPaths.Unicode.Script
import MediaPaths.Unicode.Binary
import MediaPaths.Unicode.Age
import MediaPaths.Unicode.Segment
import MediaPaths.Unicode.Folding

/-!
# Looking up character properties

Properties are asked for by name, in any case and with any spaces, hyphens and underscores, with or
without a leading `is`: `property? "Letter"`, `value? "sc" "Greek"`. A name alone is a binary
property, a general category or a script, in this order.
-/

namespace MediaPaths.Unicode

open CodeSet

/-- A name without case, spaces, hyphens and underscores, and without a leading `is`. The name `isc`
keeps it, for it would be the general category `c` otherwise. -/
def looseName (s : String) : String :=
  let cs := s.toList.filterMap fun c =>
    if c == ' ' || c == '_' || c == '-' || 0x80 ≤ c.toNat then none else some c.toLower
  match cs with
  | ['i', 's', 'c'] => "isc"
  | 'i' :: 's' :: rest => String.ofList rest
  | _ => String.ofList cs

/-- The row of a table that bears a name. -/
def lookUp? (table : List (String × List String)) (name : String) : Option CodeSet :=
  (table.find? fun row => (row.1.splitOn " ").contains name).map fun row => decode row.2

/-- A general category, the characters assigned so far, or all of them. -/
def category? (name : String) : Option CodeSet :=
  match name with
  | "any" => some (range 0 0x10FFFF)
  | "ascii" => some (range 0 0x7F)
  | "assigned" => (lookUp? categories "cn").map compl
  | _ => lookUp? categories name

/-- The characters assigned in the named version or before. -/
def age? (name : String) : Option CodeSet :=
  let step (acc : List (Nat × Nat) × Bool) (row : String × List String) : List (Nat × Nat) × Bool :=
    if acc.2 then acc
    else (acc.1 ++ (decode row.2).ranges, (row.1.splitOn " ").contains name)
  let (ranges, found) := ages.foldl step ([], false)
  if found then some (ofRanges ranges) else none

/-- The characters with the property, category or script of this name. The abbreviations `cf`, `sc`
and `lc` mean categories, though properties have them too. -/
def property? (name : String) : Option CodeSet :=
  let name := looseName name
  let binary := if name == "cf" || name == "sc" || name == "lc" then none
    else lookUp? binaryProperties name
  match binary with
  | some s => some s
  | none =>
    match category? name with
    | some s => some s
    | none => lookUp? scripts name

/-- The characters for which the named property has the named value. -/
def value? (property value : String) : Option CodeSet :=
  let value := looseName value
  match looseName property with
  | "gc" | "generalcategory" => category? value
  | "sc" | "script" => lookUp? scripts value
  | "scx" | "scriptextensions" => lookUp? scriptExtensions value
  | "age" => age? value
  | "gcb" | "graphemeclusterbreak" => lookUp? graphemeBreaks value
  | "wb" | "wordbreak" => lookUp? wordBreaks value
  | "sb" | "sentencebreak" => lookUp? sentenceBreaks value
  | _ => none

/-- A general category, by one of its names in loose form. -/
def categorySet (name : String) : CodeSet := (category? name).getD empty

/-- A binary property, by one of its names in loose form. -/
def binarySet (name : String) : CodeSet := (lookUp? binaryProperties name).getD empty

/-- Decimal digits. -/
def digits : CodeSet := categorySet "nd"

/-- White space. -/
def spaces : CodeSet := binarySet "whitespace"

/-- Letters. -/
def alphabetic : CodeSet := binarySet "alphabetic"

/-- Numbers of every kind. -/
def numbers : CodeSet := categorySet "n"

/-- The characters that words are made of: letters, marks, decimal digits, connector punctuation and
the join controls. -/
def wordChars : CodeSet :=
  [categorySet "m", digits, categorySet "pc", binarySet "joincontrol"].foldl union alphabetic

/-- Characters that have no image of their own: controls, formats, separators other than the space,
private and unassigned ones. -/
def unprintable : CodeSet :=
  (["c", "zl", "zp", "zs"].map categorySet |>.foldl union empty).diff (single ' ')

/-- Characters that extend the one before them. -/
def graphemeExtenders : CodeSet := binarySet "graphemeextend"

/-- The classes of characters that differ only in case. -/
def folding : List (List Nat) :=
  (words foldingClasses).map fun word => (word.splitOn "-").map hexNumber

/-- Adds to a set every character that differs from a member only in case. -/
def closeUnderCase (s : CodeSet) : CodeSet :=
  let more := folding.filter fun chars => chars.any fun n => inRanges n s.ranges
  ofRanges (s.ranges ++ (more.flatten.map fun n => (n, n)))

/-- Whether a character has others that differ from it only in case. -/
def hasCase (c : Char) : Bool := folding.any (·.contains c.toNat)

end MediaPaths.Unicode
