import Mathlib.Data.List.Induction
import MediaPaths.Supervision.Control

/-!
# Runs of a supervisor

A supervisor is moved by whoever operates it, by its owner, by its source and by its tasks. In a run
these moves come in any order: a task may take its step whenever it can, time is of no account, the
owner may reply to any request at any time, and the source may give up a call or announce something
beside its script. What is proved of all runs holds whatever the order in which tasks stand in line.

The chronicle of a run tells which requests were put in a mailbox and by which execution, with which
requests the owner was called, how it answered them, and which executions ended.
-/

namespace MediaPaths

namespace Announcement

/-- Whether it is an announcement of media. -/
def isReady : Announcement → Bool
  | ready _ => true
  | notReady => false

end Announcement

namespace Supervisor

/-! ## Moves -/

/-- What may happen to a supervisor. -/
inductive Move where
  /-- It is started. -/
  | start (onDemand : Bool) (query : String)
  /-- It is asked to stop. -/
  | cancel (reason : String)
  /-- Its worker has ended, and it may be started again. -/
  | rest
  /-- It is handed other settings. -/
  | reload (entry : Entry)
  /-- The pause between launches is set. -/
  | setPause (ms : Nat)
  /-- A task takes a step at some time. -/
  | task (now : Nat) (t : Task)
  /-- The owner replies to a request. -/
  | reply (number : Nat) (answer : Option Answer)
  /-- The owner is done with the request that was passed on to it. -/
  | resume
  /-- The owner crashes while it is at a request. -/
  | crash
  /-- The effects of the moves so far have come about. -/
  | flush
  /-- An execution waits no longer in a call that announces something. -/
  | giveUp (number : Nat)
  /-- An execution announces something beside its script, if there is room. -/
  | aside (number : Nat) (a : Announcement)
  deriving DecidableEq

/-- An execution waits no longer in the call that it is in. -/
def giveUp (s : Supervisor) (number : Nat) : Option Supervisor :=
  match s.execution? number with
  | none => none
  | some e =>
    match e.activity with
    | .posting r => some ((s.leaveBox e r.announcement).setExecution e.advance)
    | .listening _ _ => some (s.setExecution e.advance)
    | _ => none

/-- An execution that has not ended announces something beside its script. -/
def announceAside (s : Supervisor) (number : Nat) (a : Announcement) : Option Supervisor :=
  match s.execution? number with
  | none => none
  | some e => if e.isAlive then some (s.abandon e a) else none

/-- The supervisor after a move, which need not be possible. -/
def move (s : Supervisor) : Move → Option Supervisor
  | .start onDemand query => if s.isIdle then some (s.start onDemand query) else none
  | .cancel reason => if s.isIdle then none else some (s.cancel reason)
  | .rest => if s.isDone && !s.isIdle then some s.rest else none
  | .reload entry => if s.isIdle then none else some (s.reload entry)
  | .setPause ms => some { s with pause := ms }
  | .task now t => s.step now t
  | .reply number answer => some (s.reply number answer)
  | .resume =>
    match s.worker with
    | .serving _ => some s.resume
    | _ => none
  | .crash =>
    match s.worker with
    | .serving r => some (s.crash r)
    | _ => none
  | .flush => some { s with effects := [] }
  | .giveUp number => s.giveUp number
  | .aside number a => s.announceAside number a

/-- The supervisor after some moves. -/
def run (s : Supervisor) (ms : List Move) : Option Supervisor := ms.foldlM move s

@[simp] theorem run_nil (s : Supervisor) : s.run [] = some s := rfl

theorem run_cons (s : Supervisor) (m : Move) (ms : List Move) :
    s.run (m :: ms) = (s.move m).bind (·.run ms) := rfl

theorem run_append {s u : Supervisor} {ms ns : List Move} :
    s.run (ms ++ ns) = some u ↔ ∃ t, s.run ms = some t ∧ t.run ns = some u := by
  simp [run, List.foldlM_append, Option.bind_eq_some_iff]

theorem run_concat {s u : Supervisor} {ms : List Move} {m : Move} :
    s.run (ms ++ [m]) = some u ↔ ∃ t, s.run ms = some t ∧ t.move m = some u := by
  simp [run, List.foldlM_append, Option.bind_eq_some_iff]

/-- What a run keeps, if each move keeps it. -/
theorem run_induction {P : List Move → Supervisor → Prop} {s : Supervisor} (nil : P [] s)
    (concat : ∀ ms t m u, s.run ms = some t → P ms t → t.move m = some u → P (ms ++ [m]) u)
    {ms : List Move} {u : Supervisor} (h : s.run ms = some u) : P ms u := by
  induction ms using List.reverseRecOn generalizing u with
  | nil =>
    cases h
    exact nil
  | append_singleton ms m ih =>
    obtain ⟨t, ht, hm⟩ := run_concat.1 h
    exact concat ms t m u ht (ih ht) hm

/-- Whether a stop is asked for after a move, if it was before or not. -/
def askedAfter (asked : Bool) : Move → Bool
  | .start _ _ => false
  | .cancel _ => true
  | _ => asked

/-- Whether a stop was asked for since the latest start. -/
def isStopAsked (ms : List Move) : Bool := ms.foldl askedAfter false

/-! ## The chronicle -/

/-- What is told of a run. -/
inductive Happening where
  /-- An execution has put a request in its mailbox. -/
  | queued (execution : Nat) (r : Request)
  /-- The owner is called with a request. -/
  | begun (r : Request)
  /-- The owner replies to the request with which it was called. -/
  | answered (r : Request) (answer : Option Answer)
  /-- An execution has ended. -/
  | ended (execution : Nat)
  deriving DecidableEq

/-- The requests that lie in the mailboxes. -/
def letters (s : Supervisor) : List Request :=
  s.readyBox.content.toList ++ s.notReadyBox.content.toList

/-- Whether there is an execution of a number that has not ended. -/
def isLive (s : Supervisor) (number : Nat) : Bool := (s.execution? number).any (·.isAlive)

/-- The requests that an execution has put in their mailboxes between two moments. -/
def posted (s t : Supervisor) (number : Nat) : List Happening :=
  (t.letters.filter fun r => !s.letters.contains r).map (.queued number)

/-- What is told of a move between two moments. -/
def happenings (s : Supervisor) (m : Move) (t : Supervisor) : List Happening :=
  match m with
  | .task _ (.execution n) =>
    s.posted t n ++ if s.isLive n && !t.isLive n then [.ended n] else []
  | .aside n _ => s.posted t n
  | .task _ .worker =>
    match t.worker with
    | .serving r => [.begun r]
    | _ => []
  | .reply number answer =>
    match s.worker with
    | .serving r => if r.number = number then [.answered r answer] else []
    | _ => []
  | _ => []

/-- What is told of some moves. -/
def chronicle (s : Supervisor) : List Move → List Happening
  | [] => []
  | m :: ms =>
    match s.move m with
    | some t => s.happenings m t ++ t.chronicle ms
    | none => []

theorem chronicle_append {s t : Supervisor} {ms : List Move} (hs : s.run ms = some t)
    (ns : List Move) : s.chronicle (ms ++ ns) = s.chronicle ms ++ t.chronicle ns := by
  induction ms generalizing s with
  | nil =>
    cases hs
    rfl
  | cons m ms ih =>
    obtain ⟨v, hv, hs⟩ := Option.bind_eq_some_iff.1 hs
    simp [chronicle, hv, ih hs]

theorem chronicle_concat {s t u : Supervisor} {ms : List Move} {m : Move} (hs : s.run ms = some t)
    (hm : t.move m = some u) : s.chronicle (ms ++ [m]) = s.chronicle ms ++ t.happenings m u := by
  rw [chronicle_append hs]
  simp [chronicle, hm]

end Supervisor

end MediaPaths
