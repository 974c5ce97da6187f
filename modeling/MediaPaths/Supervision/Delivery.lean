import MediaPaths.Supervision.Basic

/-!
# Bringing changes of the settings

A courier puts the change that it brings in the mailbox of the worker or of an execution and is done.
It waits for room if it has to, and gives up when what it brings has become pointless. If there is room just
then, it may bring it nevertheless.
-/

namespace MediaPaths.Supervisor

/-- The courier of a number. -/
def courier? (s : Supervisor) (number : Nat) : Option Courier :=
  s.couriers.find? (·.number == number)

/-- A courier is done. -/
def dismiss (s : Supervisor) (number : Nat) : Supervisor :=
  { s with couriers := s.couriers.filter (·.number != number) }

/-- Whether a courier gives up because those to whom it brings a change are being stopped. -/
def isPointless (s : Supervisor) (c : Courier) (stopped : Bool) (b : Mailbox Entry) : Bool :=
  stopped && !(s.source.contrary (.courier c.number) && b.hasRoom c.number)

/-- Brings a change to the worker. -/
def deliver (s : Supervisor) (c : Courier) : Option Supervisor :=
  if s.isPointless c s.cancelled s.reloadBox || !s.worker.isAlive then some (s.dismiss c.number)
  else
    match s.reloadBox.post? c.number c.entry with
    | some b => some (({ s with reloadBox := b }.dismiss c.number).wake .worker)
    | none =>
      if s.reloadBox.awaits c.number then none
      else some { s with reloadBox := s.reloadBox.join c.number }

/-- Brings a change to an execution. -/
def forward (s : Supervisor) (c : Courier) (e : Execution) : Option Supervisor :=
  if s.isPointless c e.cancelled e.inbox || !e.isAlive then some (s.dismiss c.number)
  else
    match e.inbox.post? c.number c.entry with
    | some b =>
      some (((s.setExecution { e with inbox := b }).dismiss c.number).wake (.execution e.number))
    | none =>
      if e.inbox.awaits c.number then none
      else some (s.setExecution { e with inbox := e.inbox.join c.number })

/-- Takes the courier of a number one step further, unless it has to wait or is no more. -/
def stepCourier (s : Supervisor) (number : Nat) : Option Supervisor :=
  match s.courier? number with
  | none => none
  | some c =>
    match c.execution with
    | none => s.deliver c
    | some n =>
      match s.execution? n with
      | some e => s.forward c e
      | none => some (s.dismiss c.number)

end MediaPaths.Supervisor
