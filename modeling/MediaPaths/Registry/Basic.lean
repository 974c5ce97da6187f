import MediaPaths.Configuration.Store
import MediaPaths.Registry.Lock
import MediaPaths.Registry.Path
import MediaPaths.Source.Script

/-!
# The registry of active paths

The registry has the active paths, the configuration in force and the events that subscribers have
been sent. A path is known by its name and its activation by a number, so that what is left of an
earlier activation cannot change a path that has since been activated anew.
-/

namespace MediaPaths

/-- The active paths of a server. -/
structure Registry where
  /-- The configuration in force. -/
  store : Store := {}
  /-- Makes the sources. -/
  factory : Workshop
  /-- The pause between launches of a source, in milliseconds. -/
  pause : Nat := 5000
  /-- The active paths. -/
  paths : List ActivePath := []
  /-- The number of the next activation. -/
  nextId : Nat := 1
  /-- The lock of the active paths. -/
  lock : Lock := {}
  /-- The events that were sent, the latest first. -/
  sent : List PathEvent := []
  /-- Whether it is still in use. -/
  isOpen : Bool := true

namespace Registry

/-- The active path of a name. -/
def get? (r : Registry) (name : String) : Option ActivePath := r.paths.find? (·.name == name)

/-- Whether a path is active. -/
def isActive (r : Registry) (name : String) : Bool := (r.get? name).isSome

/-- Adds an active path. -/
def insert (r : Registry) (p : ActivePath) : Registry := { r with paths := r.paths ++ [p] }

/-- Puts an active path in the place of the one of its name. -/
def set (r : Registry) (p : ActivePath) : Registry :=
  { r with paths := r.paths.map fun q => if q.name = p.name then p else q }

/-- Removes the active path of a name. -/
def remove (r : Registry) (name : String) : Registry :=
  { r with paths := r.paths.filter (·.name != name) }

/-- Sends an event. -/
def send (r : Registry) (e : PathEvent) : Registry := { r with sent := e :: r.sent }

/-- Whether the owners of supervisors still find the registry: as long as it is in use or someone has
to do with its lock. -/
def isReachable (r : Registry) : Bool := r.isOpen || !r.lock.isFree

/-- The active path of a name if it is from the activation of a number. -/
def activation? (r : Registry) (name : String) (id : Nat) : Option ActivePath :=
  (r.get? name).filter (·.id == id)

/-- The path has media. -/
def markReady (r : Registry) (p : ActivePath) (medias : List Media) : Registry :=
  (r.set { p with medias := some medias }).send (.ready p.name medias)

/-- The path has lost its media. -/
def markNotReady (r : Registry) (p : ActivePath) : Registry :=
  (r.set { p with medias := none }).send (.notReady p.name)

/-! ## Subscribers -/

/-- The number of events that are kept for a subscriber. -/
def backlog : Nat := 256

/-- What there is for a subscriber who has been sent some number of events: how many later ones are
lost, because they were too many to be kept, and the others in their order. -/
def news (r : Registry) (known : Nat) : Nat × List PathEvent :=
  let fresh := r.sent.take (r.sent.length - known)
  (fresh.length - backlog, (fresh.take backlog).reverse)

/-! ## Counting -/

/-- The number of active paths that are ready. -/
def readyCount (r : Registry) : Nat := r.paths.countP (·.isReady)

/-- The number of active paths with a source. -/
def sourceCount (r : Registry) : Nat := r.paths.countP (·.origin.host?.isSome)

/-- The active paths in the order of their names. -/
def sorted (r : Registry) : List ActivePath :=
  r.paths.mergeSort fun p q => decide (p.name ≤ q.name)

/-- The names of the active paths, in order. -/
def names (r : Registry) : List String := r.sorted.map (·.name)

end Registry

end MediaPaths
