import MediaPaths.Entry.Error
import MediaPaths.Json.Error

/-!
# What can be wrong with a configuration
-/

namespace MediaPaths

/-- Why a configuration cannot be used. -/
inductive ConfigError where
  /-- An entry cannot be declared. -/
  | entry (e : EntryError)
  /-- Two entries have the same name. -/
  | duplicate (name : String)
  /-- The defaults of entries are no object. -/
  | defaultsNotObject
  /-- An entry is no object. -/
  | entryNotObject (name : String)
  /-- The depth of the write queue is no power of two. -/
  | queueNotPowerOfTwo
  /-- The text is no JSON of the right shape. -/
  | malformed (e : Json.Error)
  /-- Settings in the text have the wrong shape. -/
  | misshapen (e : Json.Error)
  /-- There is no such file. -/
  | missing
  /-- A file does not hold text. -/
  | notText
  deriving DecidableEq, Repr

namespace ConfigError

/-- The message of an error. -/
def message : ConfigError → String
  | entry e => e.message
  | duplicate name => s!"path '{name}' is declared more than once"
  | defaultsNotObject => "invalid configuration: 'pathDefaults' must be an object"
  | entryNotObject name => s!"path '{name}': entry must be an object"
  | queueNotPowerOfTwo => "invalid configuration: 'writeQueueSize' must be a power of two"
  | malformed e => s!"failed to parse configuration: {e.message}"
  | misshapen e => s!"failed to parse configuration: {e.message}"
  | missing => "failed to read configuration: No such file or directory (os error 2)"
  | notText => "failed to read configuration: stream did not contain valid UTF-8"

end ConfigError

/-- Why no entry applies to a path. -/
inductive LookupError where
  /-- The name is no path name. -/
  | invalidName (name : String) (e : NameError)
  /-- No entry applies. -/
  | notConfigured (name : String)
  deriving DecidableEq, Repr

namespace LookupError

/-- The message of an error. -/
def message : LookupError → String
  | invalidName name e => s!"invalid path name: {e.message} ({name})"
  | notConfigured name => s!"path '{name}' is not configured"

end LookupError

end MediaPaths
