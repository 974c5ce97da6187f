import MediaPaths.Source.Statistics
import MediaPaths.Supervision.Execution

/-!
# Supervisors

A supervisor keeps one execution of a source going: when it fails, the next one is launched after a
pause. It passes the announcements of the source on to the owner of the path, and changes of the
settings on to the source.

Three kinds of tasks make up a supervisor: its worker, which launches executions and passes
announcements on, the executions, and the couriers, each of which brings one change of the settings to
the worker or to an execution. A task that can go on is woken; this is told by the effects of a step.
-/

namespace MediaPaths

/-- What is known of a supervisor from outside. -/
inductive Phase where
  /-- An execution is going. -/
  | running
  /-- The latest execution has failed, and the next one has not been launched. -/
  | retryPending
  /-- No execution will be launched. -/
  | stopped
  deriving DecidableEq, Repr

namespace Phase

/-- How a phase is written. -/
def text : Phase → String
  | running => "running"
  | retryPending => "retryPending"
  | stopped => "stopped"

end Phase

/-- What a worker is about to do. -/
inductive WorkerState where
  /-- There is no worker. -/
  | idle
  /-- It has not begun. -/
  | spawned
  /-- It waits for something to do. -/
  | selecting
  /-- It has passed a request on and waits for the owner to be done with it. -/
  | serving (r : Request)
  /-- It waits for the execution to end, because it is being stopped. -/
  | joining
  /-- It has ended as it should. -/
  | stopped
  /-- It has crashed. -/
  | crashed
  deriving DecidableEq, Repr

namespace WorkerState

/-- Whether the worker has begun or will begin, and has not ended. -/
def isAlive : WorkerState → Bool
  | idle | stopped | crashed => false
  | spawned | selecting | serving _ | joining => true

end WorkerState

/-- The tasks of a supervisor. -/
inductive Task where
  /-- The worker. -/
  | worker
  /-- The execution of a number. -/
  | execution (number : Nat)
  /-- The courier of a number. -/
  | courier (number : Nat)
  deriving DecidableEq, Repr

/-- What a step does beyond the supervisor itself. -/
inductive Effect where
  /-- A task can go on. -/
  | wake (t : Task)
  /-- A line is written to the log of the owner. -/
  | line (level : LogLevel) (message : String)
  deriving DecidableEq, Repr

/-- A change of the settings on its way. -/
structure Courier where
  /-- Its number. -/
  number : Nat
  /-- The entry with the other settings. -/
  entry : Entry
  /-- The execution to which it is brought; the worker if `none`. -/
  execution : Option Nat

/-- The supervisor of a source. -/
structure Supervisor where
  /-- The entry with which it will be started or was changed last. -/
  entry : Entry
  /-- The texts of the groups that the name of the path has matched. -/
  groups : List String
  /-- The kind of the source. -/
  kind : SourceKind
  /-- The settings with which the source was made. -/
  options : SourceOptions
  /-- The source. -/
  source : Source
  /-- The pause between a failure and the next launch, in milliseconds. -/
  pause : Nat := 5000
  /-- What it has counted. -/
  statistics : Statistics := {}
  /-- What was noted about the source, the latest first. -/
  events : List (Stamped SourceEvent) := []
  /-- The query with which it was started. -/
  query : String := ""
  /-- Whether it is being stopped. -/
  cancelled : Bool := false
  /-- The phase that it was last known to be in. -/
  phase : Phase := .running
  /-- Its worker. -/
  worker : WorkerState := .idle
  /-- The entry with which the worker launches executions. -/
  launchEntry : Entry := entry
  /-- The execution that the worker watches. -/
  execution : Option Execution := none
  /-- The time of the next launch. -/
  retryAt : Option Nat := none
  /-- Executions that nobody watches, because the worker has crashed. -/
  orphans : List Execution := []
  /-- The announcement of media that is to be passed on. -/
  readyBox : Mailbox Request := {}
  /-- The announcement of a loss that is to be passed on. -/
  notReadyBox : Mailbox Request := {}
  /-- The change of the settings that the worker is to take note of. -/
  reloadBox : Mailbox Entry := {}
  /-- The changes that are on their way. -/
  couriers : List Courier := []
  /-- The number of executions launched so far. -/
  launches : Nat := 0
  /-- The number of the next request. -/
  nextRequest : Nat := 0
  /-- The number of the next courier. -/
  nextCourier : Nat := 0
  /-- The effects of the latest steps. -/
  effects : List Effect := []

namespace Supervisor

/-! ## Effects and notes -/

/-- Has an effect. -/
def emit (s : Supervisor) (e : Effect) : Supervisor := { s with effects := s.effects ++ [e] }

/-- Wakes a task. -/
def wake (s : Supervisor) (t : Task) : Supervisor := s.emit (.wake t)

/-- Wakes a task, if there is one. -/
def wakeAny (s : Supervisor) (t : Option Task) : Supervisor :=
  match t with
  | some t => s.wake t
  | none => s

/-- Wakes some tasks. -/
def wakeAll (s : Supervisor) (ts : List Task) : Supervisor := ts.foldl wake s

/-- Writes a line to the log of the owner. -/
def log (s : Supervisor) (level : LogLevel) (message : String) : Supervisor :=
  s.emit (.line level s!"[{s.kind.text}] {message}")

/-- Notes something about the source. -/
def note (s : Supervisor) (now : Nat) (e : SourceEvent) : Supervisor :=
  { s with events := ⟨now, e⟩ :: s.events }

/-! ## Executions -/

/-- All executions that have not been done with. -/
def executions (s : Supervisor) : List Execution := s.execution.toList ++ s.orphans

/-- The execution of a number. -/
def execution? (s : Supervisor) (number : Nat) : Option Execution :=
  s.executions.find? (·.number == number)

/-- Does something to each execution. -/
def mapExecutions (s : Supervisor) (f : Execution → Execution) : Supervisor :=
  { s with execution := s.execution.map f, orphans := s.orphans.map f }

/-- Puts an execution in the place of the one of its number. -/
def setExecution (s : Supervisor) (e : Execution) : Supervisor :=
  s.mapExecutions fun f => if f.number = e.number then e else f

/-- Whether the worker watches the execution of a number. -/
def watches (s : Supervisor) (number : Nat) : Bool :=
  match s.execution with
  | some e => e.number == number
  | none => false

/-! ## Requests -/

/-- The mailbox in which an announcement is put. -/
def box (s : Supervisor) : Announcement → Mailbox Request
  | .ready _ => s.readyBox
  | .notReady => s.notReadyBox

/-- Changes the mailbox in which an announcement is put. -/
def setBox (s : Supervisor) (a : Announcement) (b : Mailbox Request) : Supervisor :=
  match a with
  | .ready _ => { s with readyBox := b }
  | .notReady => { s with notReadyBox := b }

/-- The execution that has heard a reply. -/
def hear (number : Nat) (answer : Option Answer) (e : Execution) : Execution :=
  if e.awaits number then { e with activity := .listening number (some answer) } else e

/-- Replies to the request of a number; `none` throws it away unanswered. Only the execution that
waits for the answer to this very request hears it. -/
def reply (s : Supervisor) (number : Nat) (answer : Option Answer) : Supervisor :=
  let hearers := s.executions.filter (·.awaits number)
  (s.mapExecutions (hear number answer)).wakeAll (hearers.map fun e => .execution e.number)

end Supervisor

end MediaPaths
