import MediaPaths.Configuration.Error
import MediaPaths.Source.Error

/-!
# Why a server cannot do what it is asked for
-/

namespace MediaPaths

/-- Why a server cannot do what it is asked for. -/
inductive ServerError where
  /-- A configuration cannot be used. -/
  | configuration (e : ConfigError)
  /-- No entry applies to a path. -/
  | lookup (e : LookupError)
  /-- A source cannot be made. -/
  | source (e : SourceError)
  deriving DecidableEq, Repr

namespace ServerError

/-- The message of an error. -/
def message : ServerError → String
  | configuration e => e.message
  | lookup e => e.message
  | source e => e.message

end ServerError

end MediaPaths
