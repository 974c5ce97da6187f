import MediaPaths.Configuration.Basic
import MediaPaths.Source.Media

/-!
# Active paths

A path becomes active when it is asked for, or when its source is to be pulled all the time. What is
known of it then does not depend on later configurations, unless these are applied to it.
-/

namespace MediaPaths

/-- Where an active path gets its media from. -/
inductive Origin where
  /-- A client that publishes. -/
  | publisher
  /-- Another place, where readers are sent. -/
  | redirect (target : String)
  /-- A source, pulled by the supervisor of a number. -/
  | source (host : Nat)
  deriving DecidableEq, Repr

namespace Origin

/-- The supervisor of a source. -/
def host? : Origin → Option Nat
  | source host => some host
  | _ => none

end Origin

/-- An active path. -/
structure ActivePath where
  /-- Its name. -/
  name : String
  /-- The number of the activation; no two activations have the same. -/
  id : Nat
  /-- The entry that applies to it. -/
  entry : Entry
  /-- The texts of the groups if a pattern matched its name. -/
  groups : Option (List String)
  /-- The query that it was asked for with. -/
  query : String
  /-- Its media while it is ready. -/
  medias : Option (List Media) := none
  /-- Where it gets its media from. -/
  origin : Origin

namespace ActivePath

/-- Whether it is ready. -/
def isReady (p : ActivePath) : Bool := p.medias.isSome

end ActivePath

/-- What subscribers learn about paths. -/
inductive PathEvent where
  /-- A path has become ready, or its media have changed. -/
  | ready (path : String) (medias : List Media)
  /-- A path is no longer ready. -/
  | notReady (path : String)
  /-- A path is no longer active. -/
  | removed (path : String) (reason : String)
  deriving DecidableEq, Repr

namespace PathEvent

/-- The path that an event is about. -/
def path : PathEvent → String
  | ready p _ | notReady p | removed p _ => p

end PathEvent

end MediaPaths
