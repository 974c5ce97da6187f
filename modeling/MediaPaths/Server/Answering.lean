import MediaPaths.Server.Basic

/-!
# How owners answer

While its owner is at a request, a worker does nothing else. `serve` takes the owner one step further,
or has no result if the owner has to wait. The owner that is an active path takes the lock of the
active paths for it, and gives up when the supervisor is being stopped: whoever stops the supervisor
may be holding that lock. If it has got the lock by then, it may consider the request nevertheless.
-/

namespace MediaPaths.Server

/-- The owner replies to a request and is done with it. -/
def settleRequest (w : Server) (i : Nat) (h : Host) (r : Request) (answer : Option Answer) : Server :=
  w.put i { h with supervisor := (h.supervisor.reply r.number answer).resume }

/-! ## Verdicts laid down -/

/-- A verdict is carried out. -/
def carryOut (w : Server) (i : Nat) (s : Supervisor) (j : Judge) (r : Request) (v : Verdict) :
    Server :=
  match v with
  | .reply answer => w.settleRequest i ⟨s, .judge j⟩ r answer
  | .stall answer => w.setHost i ⟨s, .judge { j with deliberation := some (.stalled answer) }⟩
  | .delay ms answer stopped =>
    let d := Deliberation.delayed (w.now + ms) answer stopped
    w.setHost i ⟨s, .judge { j with deliberation := some d }⟩
  | .hold => w.setHost i ⟨s.resume, .judge { j with held := j.held ++ [r] }⟩
  | .crash => w.put i ⟨s.crash r, .judge j⟩

/-- Takes an owner one step further whose verdicts are laid down. -/
def serveJudge (w : Server) (i : Nat) (s : Supervisor) (j : Judge) (r : Request) : Option Server :=
  let settle answer := w.settleRequest i ⟨s, .judge { j with deliberation := none }⟩ r answer
  match j.deliberation with
  | none =>
    let (j, v) := j.hear w.now r.announcement
    some (w.carryOut i s j r v)
  | some (.stalled answer) => if s.cancelled then some (settle answer) else none
  | some (.delayed till answer stopped) =>
    if s.cancelled then some (settle stopped)
    else if till ≤ w.now then some (settle (some answer))
    else none

/-! ## Active paths -/

/-- The lock is given to the next who waits for it. -/
def release (w : Server) : Server :=
  let lock := w.registry.lock.release
  let w := w.setRegistry { w.registry with lock := lock }
  match lock.holder with
  | some (.owner i) => w.enqueue i .worker
  | _ => w

/-- What becomes of an announcement that cannot be considered: an owner that is no more has nothing to
accept, and nothing to lose. -/
def declined : Announcement → Answer
  | .ready _ => .terminated
  | .notReady => .accepted

/-- Why an announcement of an earlier activation is turned down. -/
def stale (name : String) : SourceError := .rejected s!"path not found: {name}"

/-- Considers an announcement of an activation: the server afterwards and the answer. -/
def consider (w : Server) (name : String) (id : Nat) (a : Announcement) : Server × Answer :=
  match a, w.registry.activation? name id with
  | .ready medias, some p =>
    ((w.record (.ready name medias)).setRegistry (w.registry.markReady p medias), .accepted)
  | .ready _, none => (w, .refused (stale name))
  | .notReady, some p =>
    if p.isReady then
      ((w.record (.notReady name)).setRegistry (w.registry.markNotReady p), .accepted)
    else (w, .accepted)
  | .notReady, none => (w, .accepted)

/-- Takes an owner one step further that is an active path. -/
def servePath (w : Server) (i : Nat) (h : Host) (name : String) (id : Nat) (r : Request) :
    Option Server :=
  let lock := w.registry.lock
  let party := Party.owner i
  if !w.registry.isReachable then some (w.settleRequest i h r (some (declined r.announcement)))
  else if lock.isHeldBy party then
    if h.supervisor.cancelled && h.supervisor.source.contrary (.lock r.number) then
      some ((w.settleRequest i h r (some (declined r.announcement))).release)
    else
      let (w, answer) := w.consider name id r.announcement
      some ((w.settleRequest i h r (some answer)).release)
  else if lock.awaits party then
    if h.supervisor.cancelled then
      let w := w.setRegistry { w.registry with lock := lock.leave party }
      some (w.settleRequest i h r (some (declined r.announcement)))
    else none
  else some (w.setRegistry { w.registry with lock := lock.request party })

/-! ## Workers -/

/-- Takes the owner of a supervisor one step further. -/
def serve (w : Server) (i : Nat) (h : Host) (r : Request) : Option Server :=
  match h.owner with
  | .judge j => w.serveJudge i h.supervisor j r
  | .path name id => w.servePath i h name id r

/-- Takes a task one step further, unless it has to wait or is no more. -/
def stepTask (w : Server) (i : Nat) (t : Task) : Option Server :=
  match w.hosts[i]? with
  | none => none
  | some h =>
    match t, h.supervisor.worker with
    | .worker, .serving r => w.serve i h r
    | _, _ => (h.supervisor.step w.now t).map fun s => w.put i { h with supervisor := s }

end MediaPaths.Server
