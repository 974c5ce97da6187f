import MediaPaths.Json.Typed

/-!
# Values of a known shape

What a value means where a format fixes its shape, and the error if it has another shape.
-/

namespace MediaPaths.Json.Value

/-- The error that a value is not what was expected. -/
def mismatch (v : Value) (expected : String) : Error := .invalidType v.found expected

/-- A string. -/
def toText : Value → Except Error String
  | string s => .ok s
  | v => .error (v.mismatch "a string")

/-- A truth value. -/
def toBool : Value → Except Error Bool
  | bool b => .ok b
  | v => .error (v.mismatch "a boolean")

/-- A size. -/
def toSize : Value → Except Error UInt64
  | number n => n.toSize
  | v => .error (v.mismatch "usize")

/-- A value or `null`. -/
def toOptional {α : Type} (decode : Value → Except Error α) : Value → Except Error (Option α)
  | null => .ok none
  | v => (decode v).map some

/-- One of some names, as a string or as the only member of an object, with the value `null`. -/
def toVariant {α : Type} (variants : List (String × α)) : Value → Except Error α
  | string s => findVariant variants s
  | object [(name, v)] =>
    match findVariant variants name, v with
    | .ok a, null => .ok a
    | .ok _, v => .error (v.mismatch "unit")
    | .error e, _ => .error e
  | object _ => .error (.invalidValue .map "map with a single key")
  | v => .error (v.mismatch "string or map")

end MediaPaths.Json.Value
