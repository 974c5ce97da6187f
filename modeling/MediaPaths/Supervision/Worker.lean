import MediaPaths.Source.Template
import MediaPaths.Supervision.Basic

/-!
# The worker of a supervisor

The worker launches executions and looks after what happens to them. When several things are there to
be done, being stopped comes first, then the end of the execution, announcements of media,
announcements of a loss, changes of the settings, and last the next launch.
-/

namespace MediaPaths.Supervisor

/-- The next launch is to be made after the pause. -/
def armRetry (s : Supervisor) (now : Nat) : Supervisor :=
  { s with phase := .retryPending, retryAt := some (now + s.pause) }

/-- Launches an execution that pulls from an address. If the supervisor is being stopped, so is the
execution. -/
def spawn (s : Supervisor) (address : String) : Supervisor :=
  let e : Execution :=
    { number := s.launches
      address := address
      entry := s.launchEntry
      script := s.source.behaviour s.launches
      cancelled := s.cancelled }
  { s with
    statistics := s.statistics.countRun
    phase := .running
    execution := some e
    retryAt := none
    launches := s.launches + 1 }.wake (.execution e.number)

/-- What the log says about a source that is no address once its placeholders are filled in. -/
def resolveFailure (source : String) (e : SourceError) : String :=
  s!"failed to resolve source {source}: {e.message}"

/-- Launches an execution. A source that is no address once its placeholders are filled in counts as a
failed execution. -/
def launch (s : Supervisor) (now : Nat) : Supervisor :=
  let settings := s.launchEntry.settings
  match Template.resolve settings.source s.groups s.query settings.username settings.password with
  | .ok address => s.spawn address
  | .error e =>
    ({ s with statistics := s.statistics.countFailure e.message }.log .error
      (resolveFailure settings.source e)).armRetry now

/-- Answers what is left in the mailboxes of announcements, since nobody waits for it any longer. -/
def discardRequests (s : Supervisor) : Supervisor :=
  let s := match s.readyBox.take? with
    | some (r, b, next) =>
      ({ s with readyBox := b }.reply r.number (some .terminated)).wakeAny (next.map Task.execution)
    | none => s
  match s.notReadyBox.take? with
  | some (r, b, next) =>
    ({ s with notReadyBox := b }.reply r.number (some .accepted)).wakeAny (next.map Task.execution)
  | none => s

/-- The execution has ended by itself: that is a failure. -/
def handleEnd (s : Supervisor) (now : Nat) (r : SourceError) : Supervisor :=
  let s := { s with
    execution := none
    statistics := s.statistics.countFailure r.message }
  ((s.log .error r.message).discardRequests).armRetry now

/-- The worker ends as it should. -/
def halt (s : Supervisor) : Supervisor :=
  { s with
    worker := .stopped
    phase := .stopped
    execution := none
    retryAt := none
    readyBox := {}
    notReadyBox := {}
    reloadBox := {} }

/-- Passes a request on. -/
def serve (s : Supervisor) (r : Request) : Supervisor :=
  let statistics := match r.announcement with
    | .ready _ => s.statistics.countReady
    | .notReady => s.statistics.countNotReady
  { s with statistics := statistics, worker := .serving r }

/-- The next announcement that is to be passed on. -/
def takeRequest? (s : Supervisor) : Option (Supervisor × Request) :=
  match s.readyBox.take? with
  | some (r, b, next) =>
    some ({ s with readyBox := b }.wakeAny (next.map Task.execution), r)
  | none =>
    match s.notReadyBox.take? with
    | some (r, b, next) =>
      some ({ s with notReadyBox := b }.wakeAny (next.map Task.execution), r)
    | none => none

/-- Sends a change of the settings on its way. -/
def dispatch (s : Supervisor) (entry : Entry) (execution : Option Nat) : Supervisor :=
  let c : Courier := ⟨s.nextCourier, entry, execution⟩
  { s with
    couriers := s.couriers ++ [c]
    nextCourier := s.nextCourier + 1 }.wake (.courier c.number)

/-- The worker takes note of a change of the settings and has it brought to the execution. -/
def handleReload (s : Supervisor) (entry : Entry) : Supervisor :=
  let s := { s with launchEntry := entry }
  match s.execution with
  | some e => s.dispatch entry (some e.number)
  | none => s

/-- The worker does the first of the things that are there to be done. -/
def select (s : Supervisor) (now : Nat) : Option Supervisor :=
  if s.cancelled then
    some (if s.execution.isSome then { s with worker := .joining } else s.halt)
  else
    match s.execution.bind (·.result?) with
    | some r => some (s.handleEnd now r)
    | none =>
      match s.takeRequest? with
      | some (s, r) => some (s.serve r)
      | none =>
        match s.reloadBox.take? with
        | some (entry, b, next) =>
          some (({ s with reloadBox := b }.wakeAny (next.map Task.courier)).handleReload entry)
        | none =>
          match s.retryAt with
          | some t => if t ≤ now then some ({ s with retryAt := none }.launch now) else none
          | none => none

/-- Takes the worker one step further, unless it has to wait. -/
def stepWorker (s : Supervisor) (now : Nat) : Option Supervisor :=
  match s.worker with
  | .spawned => some ({ s with worker := .selecting }.launch now)
  | .selecting => s.select now
  | .joining => if s.execution.all (!·.isAlive) then some s.halt else none
  | .idle | .serving _ | .stopped | .crashed => none

/-- The owner is done with a request. -/
def resume (s : Supervisor) : Supervisor := { s with worker := .selecting }

/-- The owner crashes while it is at a request, and the worker with it. What waited in the mailboxes is
thrown away, and the execution goes on without anyone to watch it. -/
def crash (s : Supervisor) (r : Request) : Supervisor :=
  let lost := r :: (s.readyBox.content.toList ++ s.notReadyBox.content.toList)
  let senders := (s.readyBox.senders ++ s.notReadyBox.senders).map Task.execution ++
    s.reloadBox.senders.map Task.courier
  let s := lost.foldl (fun s r => s.reply r.number none) s
  { s with
    worker := .crashed
    orphans := s.orphans ++ s.execution.toList
    execution := none
    retryAt := none
    readyBox := {}
    notReadyBox := {}
    reloadBox := {} }.wakeAll senders

end MediaPaths.Supervisor
