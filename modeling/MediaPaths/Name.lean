/-!
# Path names

A path is requested under a name of ASCII letters, digits and `_ - / . ~`, which neither begins nor
ends with a slash. Two names are reserved for entries that serve every path: `all` and `all_others`.
-/

namespace MediaPaths

/-- Why a name is no path name. -/
inductive NameError where
  /-- It is empty. -/
  | empty
  /-- It begins with a slash. -/
  | leadingSlash
  /-- It ends with a slash. -/
  | trailingSlash
  /-- It has a character that is not allowed. -/
  | invalidCharacters
  deriving DecidableEq, Repr

namespace NameError

/-- The message of an error. -/
def message : NameError → String
  | empty => "cannot be empty"
  | leadingSlash => "can't begin with a slash"
  | trailingSlash => "can't end with a slash"
  | invalidCharacters =>
    "can contain only alphanumeric characters, underscore, dot, tilde, minus or slash"

end NameError

namespace Name

/-- Whether a character may stand in a path name. -/
def isAllowed (c : Char) : Bool :=
  c.isAlphanum || c == '_' || c == '-' || c == '/' || c == '.' || c == '~'

/-- What is wrong with a name; of several things, the first in the order of the constructors. -/
def fault? (name : String) : Option NameError :=
  let cs := name.toList
  if cs.isEmpty then some .empty
  else if cs.head? == some '/' then some .leadingSlash
  else if cs.getLast? == some '/' then some .trailingSlash
  else if cs.all isAllowed then none
  else some .invalidCharacters

/-- Whether a name is one of those that serve every path. -/
def isCatchAll (name : String) : Bool := name == "all" || name == "all_others"

theorem fault?_eq_none {name : String} :
    fault? name = none ↔ name.toList ≠ [] ∧ name.toList.head? ≠ some '/' ∧
      name.toList.getLast? ≠ some '/' ∧ ∀ c ∈ name.toList, isAllowed c = true := by
  simp only [fault?, beq_iff_eq, List.isEmpty_iff]
  split
  · simp_all
  · split
    · simp_all
    · split
      · simp_all
      · split <;> simp_all

end Name

end MediaPaths
