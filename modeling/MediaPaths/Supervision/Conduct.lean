import MediaPaths.Supervision.Basic

/-!
# How an execution goes through its script

`stepExecution` takes an execution one step further, or has no result if the execution has to wait. An
execution that is being stopped learns of it where its script looks out for it, and in any call that
announces something, at the latest when it waits for the answer.
-/

namespace MediaPaths.Supervisor

/-- Ends an execution. If the worker watches it, the worker learns of it; otherwise nobody does. Whoever
brings a change of its settings can give up. -/
def endExecution (s : Supervisor) (e : Execution) (r : SourceError) : Supervisor :=
  let senders := e.inbox.senders.map Task.courier
  if s.watches e.number then
    ((s.setExecution { e with activity := .ended r }).wakeAll senders).wake .worker
  else
    { s with orphans := s.orphans.filter (·.number != e.number) }.wakeAll senders

/-- The execution learns that it is being stopped, and ends. -/
def obey (s : Supervisor) (now : Nat) (e : Execution) : Supervisor :=
  (s.note now .cancelled).endExecution e .exited

/-- The line in the log that says that an announcement was accepted. -/
def acceptance : Announcement → String
  | .ready medias => s!"ready: {Media.summary medias}"
  | .notReady => "not ready"

/-- Writes to the log that an announcement was accepted, if it was. -/
def logAnswer (s : Supervisor) (a : Announcement) (answer : Answer) : Supervisor :=
  match answer with
  | .accepted => s.log .info (acceptance a)
  | .refused _ => s

/-- The call that announces something returns. -/
def conclude (s : Supervisor) (now : Nat) (e : Execution) (a : Announcement) (must : Bool)
    (answer : Answer) : Supervisor :=
  let s := (s.logAnswer a answer).note now (.answered a answer)
  match answer, must with
  | .refused r, true => s.endExecution e r
  | _, _ => s.setExecution e.advance

/-- Puts a request in its mailbox and has the execution wait for the answer, or for room. -/
def post (s : Supervisor) (e : Execution) (r : Request) : Option Supervisor :=
  match (s.box r.announcement).post? e.number r with
  | some b =>
    let e := { e with activity := .listening r.number none }
    some (((s.setBox r.announcement b).setExecution e).wake .worker)
  | none =>
    if (s.box r.announcement).awaits e.number then none
    else
      let b := (s.box r.announcement).join e.number
      some ((s.setBox r.announcement b).setExecution { e with activity := .posting r })

/-- An execution no longer waits for room. -/
def leaveBox (s : Supervisor) (e : Execution) (a : Announcement) : Supervisor :=
  let (b, next) := (s.box a).leave e.number
  (s.setBox a b).wakeAny (next.map Task.execution)

/-- Whether the execution no longer announces something. One that is being stopped may do so if there is room just
then. -/
def isDeaf (s : Supervisor) (e : Execution) (a : Announcement) : Bool :=
  e.cancelled && !(s.source.contrary (.announcement e.number e.script.length) && (s.box a).hasRoom e.number) ||
    !s.watches e.number

/-- Takes the call that announces something one step further. -/
def stepAnnounce (s : Supervisor) (now : Nat) (e : Execution) (a : Announcement) (must : Bool) :
    Option Supervisor :=
  match e.activity with
  | .listening _ (some answer) => some (s.conclude now e a must (.ofReply answer))
  | .listening _ none => if e.cancelled then some (s.conclude now e a must .terminated) else none
  | .posting r =>
    if s.isDeaf e r.announcement then some ((s.leaveBox e a).conclude now e a must .terminated)
    else s.post e r
  | _ =>
    if s.isDeaf e a then some (s.conclude now e a must .terminated)
    else { s with nextRequest := s.nextRequest + 1 }.post e ⟨s.nextRequest, a⟩

/-- Announces something if there is room, without waiting for the answer. -/
def abandon (s : Supervisor) (e : Execution) (a : Announcement) : Supervisor :=
  if s.isDeaf e a then s
  else
    match (s.box a).post? e.number ⟨s.nextRequest, a⟩ with
    | some b => ({ s with nextRequest := s.nextRequest + 1 }.setBox a b).wake .worker
    | none => s

/-- Takes note of a change of the settings, if there is one. -/
def receive (s : Supervisor) (now : Nat) (e : Execution) : Option (Supervisor × Execution) :=
  e.inbox.take?.map fun (entry, b, next) =>
    let e := { e with inbox := b }
    (((s.setExecution e).note now (.reloaded entry)).wakeAny (next.map Task.courier), e)

/-- Takes a wait one step further: it begins, is over, or goes on. -/
def stepRest (s : Supervisor) (now ms : Nat) (e : Execution) : Option Supervisor :=
  match e.activity with
  | .resting till => if till ≤ now then some (s.setExecution e.advance) else none
  | _ => some (s.setExecution { e with activity := .resting (now + ms) })

/-- Takes an execution that has begun one step further. -/
def stepScript (s : Supervisor) (now : Nat) (e : Execution) : Option Supervisor :=
  match e.script with
  | [] =>
    if e.cancelled then some (s.obey now e) else (s.receive now e).map (·.1)
  | .announce a must :: _ => s.stepAnnounce now e a must
  | .abandon a :: _ => some ((s.abandon e a).setExecution e.advance)
  | .log level message :: _ => some ((s.log level message).setExecution e.advance)
  | .sleep ms :: _ => if e.cancelled then some (s.obey now e) else s.stepRest now ms e
  | .linger ms :: _ => s.stepRest now ms e
  | .awaitStop :: _ =>
    if e.cancelled then some ((s.note now .cancelled).setExecution e.advance) else none
  | .awaitReload :: _ =>
    if e.cancelled then some (s.obey now e)
    else (s.receive now e).map fun (s, e) => s.setExecution e.advance
  | .inspect :: _ =>
    some ((s.note now (.inspected e.cancelled)).setExecution e.advance)
  | .finish r :: _ => some (s.endExecution e r)

/-- Takes the execution of a number one step further, unless it has to wait or is no more. -/
def stepExecution (s : Supervisor) (now number : Nat) : Option Supervisor :=
  match s.execution? number with
  | none => none
  | some e =>
    match e.activity with
    | .ended _ => none
    | .launched =>
      some ((s.note now (.launched e.address e.entry)).setExecution { e with activity := .acting })
    | _ => s.stepScript now e

end MediaPaths.Supervisor
