/-!
# Log levels
-/

namespace MediaPaths

/-- How important a message is, from the most to the least. -/
inductive LogLevel where
  /-- Something failed. -/
  | error
  /-- Something may be wrong. -/
  | warn
  /-- Something of note happened; the default. -/
  | info
  /-- Everything else. -/
  | debug
  deriving DecidableEq, Repr, Inhabited

namespace LogLevel

/-- How a level is written. -/
def text : LogLevel → String
  | error => "error"
  | warn => "warn"
  | info => "info"
  | debug => "debug"

/-- The levels under their names. -/
def variants : List (String × LogLevel) :=
  [error, warn, info, debug].map fun l => (l.text, l)

/-- The place of a level in the order from the most important on. -/
def rank : LogLevel → Nat
  | error => 0
  | warn => 1
  | info => 2
  | debug => 3

end LogLevel

end MediaPaths
