import MediaPaths.Server.Paths

/-!
# Applying another configuration

When a configuration is put in force, each active path is brought in line with it: a path to which no
entry applies any longer is deactivated, one whose source has to be made anew is restarted, and any
other change is handed to the source while it runs. Then the paths are activated whose sources are to
be pulled all the time.
-/

namespace MediaPaths.Server

/-- The error that came first. -/
def firstError (a : Option ServerError) (b : Option SourceError) : Option ServerError :=
  a <|> b.map .source

/-- Restarts a path for an entry: its source is stopped and made anew. A path that cannot be restarted
is no longer active. -/
def restart (w : Server) (p : ActivePath) (m : Match) : Server × Option SourceError :=
  let w := w.setRegistry (w.registry.remove p.name)
  let w := w.stopSource p "configuration changed"
  let w := if p.isReady then w.setRegistry (w.registry.send (.notReady p.name)) else w
  match w.build p.name m p.query with
  | (w, .ok _) => (w, none)
  | (w, .error e) =>
    let w := w.record (.restartFailed p.name e.message)
    (w.setRegistry (w.registry.send (.removed p.name e.message)), some e)

/-- Hands other settings to a path. -/
def amend (w : Server) (p : ActivePath) (entry : Entry) : Server :=
  let w := w.record (.reloaded p.name)
  let w := w.setRegistry (w.registry.set { p with entry := entry })
  match p.origin.host? with
  | some i => w.reload i entry
  | none => w

/-- Whether a path has to be restarted for an entry. -/
def needsRestart (p : ActivePath) (entry : Entry) (rebuild : Bool) : Bool :=
  rebuild || p.entry.name != entry.name || p.entry.settings.needsRestart entry.settings

/-- Brings an active path in line with a configuration. -/
def align (c : Configuration) (optionsChanged : Bool) (w : Server) (p : ActivePath) :
    Server × Option SourceError :=
  match c.find p.name with
  | .error _ =>
    let w := w.setRegistry (w.registry.remove p.name)
    (w.close p "removed from configuration", none)
  | .ok m =>
    let rebuild := optionsChanged && p.origin.host?.isSome
    if p.entry == m.entry && !rebuild then (w, none)
    else if needsRestart p m.entry rebuild then w.restart p m
    else (w.amend p m.entry, none)

/-- Brings the active path of a name in line with a configuration. -/
def alignName (c : Configuration) (optionsChanged : Bool) (s : Server × Option ServerError)
    (name : String) : Server × Option ServerError :=
  match s.1.registry.get? name with
  | none => s
  | some p =>
    let (w, e) := align c optionsChanged s.1 p
    (w, firstError s.2 e)

/-- Activates the path of an entry whose source is to be pulled all the time, unless it is active. -/
def ensure (s : Server × Option ServerError) (e : Entry) : Server × Option ServerError :=
  if s.1.registry.isActive e.name then s
  else
    match s.1.build e.name ⟨e, none⟩ "" with
    | (w, .ok _) => (w, s.2)
    | (w, .error err) => (w, firstError s.2 (some err))

/-- Puts a configuration in force. Of several errors the first one is told; the others are logged, and
none of them keeps other paths from being brought in line. -/
def apply (w : Server) (c : Configuration) : Server × Except ServerError Unit :=
  match c.check with
  | .error e => (w, .error (.configuration e))
  | .ok c =>
    let (store, previous) := w.registry.store.replace c
    let w := (w.setRegistry { w.registry with store := store }).record
      (.replaced c.table.entries.length)
    let w := w.acquire
    let names := w.registry.paths.map (·.name)
    let aligned := names.foldl (alignName c (previous.options != c.options)) (w, none)
    let (w, e) := (alwaysOn c).foldl ensure aligned
    (w.release, match e with
      | some e => .error e
      | none => .ok ())

end MediaPaths.Server
