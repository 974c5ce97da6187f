import MediaPaths.Supervision.Conduct
import MediaPaths.Supervision.Delivery
import MediaPaths.Supervision.Worker

/-!
# Controlling a supervisor

A supervisor is made for an entry, started, changed while it runs, and stopped; after that it can be
started again. `step` takes one of its tasks one step further.
-/

namespace MediaPaths.Supervisor

/-- Makes the supervisor for an entry. The source is made once, at the time `now`. -/
def create (now : Nat) (entry : Entry) (groups : Option (List String)) (options : SourceOptions)
    (factory : Factory) (pause : Nat) : Except SourceError Supervisor :=
  match entry.settings.sourceKind? with
  | none => .error (.notStatic entry.settings.source)
  | some kind =>
    (factory kind entry options).map fun source =>
      { entry := entry
        groups := groups.getD []
        kind := kind
        options := options
        source := source
        pause := pause
        events := [⟨now, .built kind options⟩] }

/-- Whether it is not started. -/
def isIdle (s : Supervisor) : Bool := s.worker == .idle

/-- Starts a supervisor. One that is started already stays as it is. -/
def start (s : Supervisor) (onDemand : Bool) (query : String) : Supervisor :=
  if s.isIdle then
    let s := s.log .info (if onDemand then "started on demand" else "started")
    { s with
      query := query
      cancelled := false
      phase := .running
      worker := .spawned
      launchEntry := s.entry
      execution := none
      retryAt := none
      readyBox := {}
      notReadyBox := {}
      reloadBox := {}
      couriers := [] }.wake .worker
  else s

/-- The tasks that learn that the supervisor is being stopped: executions first, then the worker, then
the couriers. -/
def audience (s : Supervisor) : List Task :=
  s.executions.map (fun e => Task.execution e.number) ++
    Task.worker :: s.couriers.map fun c => .courier c.number

/-- Asks a supervisor to stop. One that is not started stays as it is. -/
def cancel (s : Supervisor) (reason : String) : Supervisor :=
  if s.isIdle then s
  else
    let s := { s.log .info s!"stopped: {reason}" with cancelled := true }
    (s.mapExecutions fun e => { e with cancelled := true }).wakeAll s.audience

/-- Whether the worker has ended. -/
def isDone (s : Supervisor) : Bool := !s.worker.isAlive

/-- Once the worker has ended, the supervisor is idle again. -/
def rest (s : Supervisor) : Supervisor := { s with worker := .idle }

/-- Changes the settings of a supervisor that is started; its worker learns of it by a courier. One that
is not started stays as it is. -/
def reload (s : Supervisor) (entry : Entry) : Supervisor :=
  if s.isIdle then s else { s with entry := entry }.dispatch entry none

/-- Takes a task one step further, unless it has to wait. -/
def step (s : Supervisor) (now : Nat) : Task → Option Supervisor
  | .worker => s.stepWorker now
  | .execution n => s.stepExecution now n
  | .courier n => s.stepCourier n

/-- The tasks that go on by themselves at some time. -/
def timers (s : Supervisor) : List (Nat × Task) :=
  s.executions.filterMap (fun e => e.deadline?.map fun t => (t, .execution e.number)) ++
    s.retryAt.toList.map fun t => (t, .worker)

end MediaPaths.Supervisor
