import MediaPaths.Registry.Basic
import MediaPaths.Registry.Log
import MediaPaths.Server.Owner
import MediaPaths.Supervision.Control

/-!
# Servers

A server has the registry of active paths and all supervisors that were ever made, each with its
owner. The tasks of the supervisors that can go on stand in line. Time is counted in milliseconds and
passes only while no task can go on.
-/

namespace MediaPaths

/-- A supervisor with its owner. -/
structure Host where
  /-- The supervisor. -/
  supervisor : Supervisor
  /-- Its owner. -/
  owner : Owner

/-- A time at which a task goes on that waits for it. -/
structure Alarm where
  /-- The time. -/
  due : Nat
  /-- The number of the supervisor. -/
  host : Nat
  /-- The task. -/
  task : Task
  deriving DecidableEq, Repr

/-- A server. -/
structure Server where
  /-- The time. -/
  now : Nat := 0
  /-- The tasks that can go on, each with the number of its supervisor. -/
  queue : List (Nat × Task) := []
  /-- The alarms of the tasks that wait for a time, in the order in which they were set. -/
  alarms : List Alarm := []
  /-- The supervisors with their owners; they are numbered from 0. -/
  hosts : List Host := []
  /-- The active paths. -/
  registry : Registry
  /-- The log, the latest record first. -/
  log : List LogRecord := []

namespace Server

/-- Has a task wait in line, unless it does already. -/
def enqueue (w : Server) (i : Nat) (t : Task) : Server :=
  if w.queue.contains (i, t) then w else { w with queue := w.queue ++ [(i, t)] }

/-- Logs something. -/
def record (w : Server) (r : LogRecord) : Server := { w with log := r :: w.log }

/-- Puts a host in the place of the one of a number. -/
def setHost (w : Server) (i : Nat) (h : Host) : Server := { w with hosts := w.hosts.set i h }

/-- Changes the registry. -/
def setRegistry (w : Server) (r : Registry) : Server := { w with registry := r }

/-- A line is written to the log of an owner. -/
def writeLine (w : Server) (i : Nat) (level : LogLevel) (message : String) : Server :=
  match w.hosts[i]? with
  | none => w
  | some h =>
    match h.owner with
    | .judge j =>
      let line : Stamped (LogLevel × String) := ⟨w.now, level, message⟩
      w.setHost i { h with owner := .judge { j with lines := line :: j.lines } }
    | .path name _ => w.record (.line name level message)

/-- An effect of a step comes about. -/
def perform (w : Server) (i : Nat) : Effect → Server
  | .wake t => w.enqueue i t
  | .line level message => w.writeLine i level message

/-- Puts a host in the place of the one of a number; the effects of its latest steps come about. -/
def put (w : Server) (i : Nat) (h : Host) : Server :=
  let effects := h.supervisor.effects
  let h := { h with supervisor := { h.supervisor with effects := [] } }
  effects.foldl (fun w e => w.perform i e) (w.setHost i h)

/-- Changes a supervisor; the effects of that come about. -/
def modify (w : Server) (i : Nat) (f : Supervisor → Supervisor) : Server :=
  match w.hosts[i]? with
  | none => w
  | some h => w.put i { h with supervisor := f h.supervisor }

/-- The supervisor of a number. -/
def supervisor? (w : Server) (i : Nat) : Option Supervisor := w.hosts[i]?.map (·.supervisor)

end Server

end MediaPaths
