import MediaPaths.Server.Schedule

/-!
# Controlling the supervisors of a server
-/

namespace MediaPaths.Server

/-- Adds a supervisor with its owner. -/
def addHost (w : Server) (s : Supervisor) (owner : Owner) : Server :=
  { w with hosts := w.hosts ++ [⟨s, owner⟩] }

/-- Starts a supervisor. -/
def start (w : Server) (i : Nat) (onDemand : Bool) (query : String) : Server :=
  w.modify i (·.start onDemand query)

/-- Whether the worker of a supervisor has ended. -/
def isDone (i : Nat) (w : Server) : Bool :=
  match w.supervisor? i with
  | some s => s.isDone
  | none => true

/-- Logs that the worker of a supervisor has crashed, if it has. -/
def recordCrash (w : Server) (i : Nat) : Server :=
  match w.supervisor? i with
  | some s => if s.worker == .crashed then w.record (.crashed s.entry.name) else w
  | none => w

/-- Stops a supervisor and waits until its worker has ended. -/
def stop (w : Server) (i : Nat) (reason : String) : Server :=
  let w := (w.modify i (·.cancel reason)).waitFor (isDone i)
  (w.recordCrash i).modify i (·.rest)

/-- Hands other settings to a supervisor. -/
def reload (w : Server) (i : Nat) (entry : Entry) : Server := w.modify i (·.reload entry)

/-- Sets the pause between launches. -/
def setPause (w : Server) (i : Nat) (ms : Nat) : Server :=
  w.modify i fun s => { s with pause := ms }

/-- Whether a supervisor is in a phase, or will be in no other. -/
def isIn (i : Nat) (p : Phase) (w : Server) : Bool :=
  match w.supervisor? i with
  | some s => s.phase == p || s.isDone
  | none => true

/-- Waits until a supervisor is in a phase, but not longer than some milliseconds. -/
def waitPhase (w : Server) (i : Nat) (p : Phase) (limit : Nat) : Server :=
  w.waitUntil (w.now + limit) (isIn i p)

/-- Replies to the oldest request of some sort that the owner keeps: the server afterwards, and whether
there was one. -/
def replyHeld (w : Server) (i : Nat) (sort : Announcement → Bool) (answer : Option Answer) :
    Server × Bool :=
  match w.hosts[i]? with
  | none => (w, false)
  | some h =>
    match h.owner with
    | .path _ _ => (w, false)
    | .judge j =>
      match j.release? sort with
      | none => (w, false)
      | some (j, r) => (w.put i ⟨h.supervisor.reply r.number answer, .judge j⟩, true)

end MediaPaths.Server
