import MediaPaths.Server.Control
import MediaPaths.Server.Error

/-!
# Activating and deactivating paths

A path is activated when it is asked for. If it has a source, a supervisor is made for it and started,
and the path becomes ready when the source announces media. When the path is deactivated, the
supervisor is stopped.
-/

namespace MediaPaths.Server

/-! ## The lock -/

/-- Waits for the lock of the active paths. -/
def acquire (w : Server) : Server :=
  let w := w.setRegistry { w.registry with lock := w.registry.lock.request .operator }
  w.waitFor fun w => w.registry.lock.isHeldBy .operator

/-- Waits for the lock and lets go of it, so that the active paths can be looked at. -/
def glance (w : Server) : Server := w.acquire.release

/-! ## Activating -/

/-- Makes the supervisor of a path and starts it: the server afterwards and the number of the
supervisor. -/
def pull (w : Server) (name : String) (id : Nat) (m : Match) (query : String) :
    Except SourceError (Server × Nat) :=
  let r := w.registry
  let factory := r.factory.factory id
  (Supervisor.create w.now m.entry m.groups r.store.current.options factory r.pause).map fun s =>
    let i := w.hosts.length
    ((w.addHost s (.path name id)).start i m.entry.settings.sourceOnDemand query, i)

/-- Finds out where a path gets its media from, and starts its supervisor if it has one. -/
def originate (w : Server) (name : String) (id : Nat) (m : Match) (query : String) :
    Except SourceError (Server × Origin) :=
  let settings := m.entry.settings
  if settings.hasStaticSource then
    (w.pull name id m query).map fun (w, i) => (w, .source i)
  else if settings.source == Settings.redirect then
    .ok (w, .redirect settings.sourceRedirect)
  else .ok (w, .publisher)

/-- Makes a path active. The activation has a number even if it fails. -/
def build (w : Server) (name : String) (m : Match) (query : String) :
    Server × Except SourceError ActivePath :=
  let id := w.registry.nextId
  let w := w.setRegistry { w.registry with nextId := id + 1 }
  match w.originate name id m query with
  | .error e => (w, .error e)
  | .ok (w, origin) =>
    let p : ActivePath :=
      { name := name
        id := id
        entry := m.entry
        groups := m.groups
        query := query
        origin := origin }
    let w := w.record (.activated name m.entry.name m.entry.settings.source)
    (w.setRegistry (w.registry.insert p), .ok p)

/-- Activates a path, or finds it active. -/
def activate (w : Server) (name query : String) : Server × Except ServerError ActivePath :=
  match w.registry.store.find name with
  | .error e => (w, .error (.lookup e))
  | .ok m =>
    let w := w.acquire
    match w.registry.get? name with
    | some p => (w.release, .ok p)
    | none =>
      let (w, result) := w.build name m query
      (w.release, result.mapError .source)

/-- Whether a source is to be pulled all the time: it is that of a single path and not on demand. -/
def isAlwaysOn (e : Entry) : Bool :=
  !e.isPattern && e.settings.hasStaticSource && !e.settings.sourceOnDemand

/-- The entries whose sources are to be pulled all the time. -/
def alwaysOn (c : Configuration) : List Entry := c.table.entries.filter isAlwaysOn

/-- Activates some paths, until one cannot be. -/
def activateAll (w : Server) : List Entry → Server × Except ServerError Unit
  | [] => (w, .ok ())
  | e :: es =>
    match w.activate e.name "" with
    | (w, .ok _) => w.activateAll es
    | (w, .error err) => (w, .error err)

/-- Activates all paths whose sources are to be pulled all the time. -/
def activateAlwaysOn (w : Server) : Server × Except ServerError Unit :=
  let c := w.registry.store.current
  match w.activateAll (alwaysOn c) with
  | (w, .ok _) => (w.record (.started c.table.entries.length), .ok ())
  | (w, .error e) => (w, .error e)

/-! ## Deactivating -/

/-- Stops the supervisor of a path, if it has one. -/
def stopSource (w : Server) (p : ActivePath) (reason : String) : Server :=
  match p.origin.host? with
  | some i => w.stop i reason
  | none => w

/-- Does what is left to be done for a path that is no longer active. -/
def close (w : Server) (p : ActivePath) (reason : String) : Server :=
  let w := (w.stopSource p reason).record (.deactivated p.name reason)
  w.setRegistry (w.registry.send (.removed p.name reason))

/-- Deactivates a path: the server afterwards, and whether the path was active. -/
def deactivate (w : Server) (name reason : String) : Server × Bool :=
  let w := w.acquire
  let found := w.registry.get? name
  let w := (w.setRegistry (w.registry.remove name)).release
  match found with
  | some p => (w.close p reason, true)
  | none => (w, false)

/-- Deactivates all paths. -/
def shutdown (w : Server) : Server :=
  let w := w.acquire
  let paths := w.registry.paths
  let w := (w.setRegistry { w.registry with paths := [] }).release
  (paths.foldl (fun w p => w.close p "shutting down") w).record .stopped

/-- Gives a server up. Sources go on, but nobody considers what they announce. -/
def abandon (w : Server) : Server :=
  let n := w.registry.paths.length
  let w := if w.registry.lock.isFree && 0 < n then w.record (.abandoned n) else w
  w.setRegistry { w.registry with isOpen := false }

end MediaPaths.Server
