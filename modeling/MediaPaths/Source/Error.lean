import MediaPaths.Source.Kind

/-!
# What can be wrong with a source
-/

namespace MediaPaths

/-- Why a source cannot be pulled. -/
inductive SourceError where
  /-- The source, with its placeholders filled in, is no address to pull from. -/
  | invalidAddress (address reason : String)
  /-- An execution failed. -/
  | failed (message : String)
  /-- An execution ended without being asked to. -/
  | exited
  /-- An execution crashed. -/
  | panicked (message : String)
  /-- The supervisor is being stopped. -/
  | terminated
  /-- The owner of the path declined. -/
  | rejected (reason : String)
  /-- There is no client for this kind of source. -/
  | unsupported (kind : SourceKind)
  /-- The configured source is no address. -/
  | notStatic (source : String)
  deriving DecidableEq, Repr

namespace SourceError

/-- The message of an error. -/
def message : SourceError → String
  | invalidAddress address reason => s!"invalid source URI '{address}': {reason}"
  | failed m => m
  | exited => "source exited unexpectedly"
  | panicked m => s!"source panicked: {m}"
  | terminated => "terminated"
  | rejected reason => reason
  | unsupported kind => s!"unsupported source type: {kind.text}"
  | notStatic source => s!"'{source}' is not a static source"

end SourceError

end MediaPaths
