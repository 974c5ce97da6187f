import MediaPaths.LogLevel
import MediaPaths.Source.Script

/-!
# Owners

A supervisor passes the announcements of its source on to an owner. The owner is an active path, or
someone whose verdicts are laid down beforehand.
-/

namespace MediaPaths

/-- What an owner makes of a request. -/
inductive Verdict where
  /-- It replies at once; `none` throws the request away. -/
  | reply (answer : Option Answer)
  /-- It replies when the supervisor is being stopped. -/
  | stall (answer : Option Answer)
  /-- It replies after some milliseconds, or otherwise when the supervisor is being stopped. -/
  | delay (ms : Nat) (answer : Answer) (stopped : Option Answer)
  /-- It keeps the request and does not reply for now. -/
  | hold
  /-- It crashes. -/
  | crash
  deriving DecidableEq, Repr

/-- What an owner waits for before it replies. -/
inductive Deliberation where
  /-- That the supervisor is being stopped. -/
  | stalled (answer : Option Answer)
  /-- Some time, or that the supervisor is being stopped. -/
  | delayed (till : Nat) (answer : Answer) (stopped : Option Answer)
  deriving DecidableEq, Repr

/-- An owner whose verdicts are laid down. -/
structure Judge where
  /-- The verdicts on announcements of media; after the last one all are accepted. -/
  ready : List Verdict := []
  /-- The verdicts on announcements of a loss; after the last one all are accepted. -/
  notReady : List Verdict := []
  /-- What it waits for. -/
  deliberation : Option Deliberation := none
  /-- The requests that it keeps, the oldest first. -/
  held : List Request := []
  /-- The announcements that were passed on to it, the latest first. -/
  seen : List (Stamped Announcement) := []
  /-- The lines of its log, the latest first. -/
  lines : List (Stamped (LogLevel × String)) := []

namespace Judge

instance : Inhabited Judge := ⟨{}⟩

/-- Takes note of an announcement, and the verdict on it. -/
def hear (j : Judge) (now : Nat) (a : Announcement) : Judge × Verdict :=
  let j := { j with seen := ⟨now, a⟩ :: j.seen }
  match a with
  | .ready _ => ({ j with ready := j.ready.tail }, j.ready.headD (.reply (some .accepted)))
  | .notReady => ({ j with notReady := j.notReady.tail }, j.notReady.headD (.reply (some .accepted)))

/-- The oldest request of some sort that it keeps, and the owner without it. -/
def release? (j : Judge) (sort : Announcement → Bool) : Option (Judge × Request) :=
  (j.held.find? (sort ·.announcement)).map fun r => ({ j with held := j.held.erase r }, r)

/-- The time at which it will go on by itself. -/
def deadline? (j : Judge) : Option Nat :=
  match j.deliberation with
  | some (.delayed till _ _) => some till
  | _ => none

end Judge

/-- The owner of a supervisor. -/
inductive Owner where
  /-- One whose verdicts are laid down. -/
  | judge (j : Judge)
  /-- The active path of a name, from the activation of a number. -/
  | path (name : String) (id : Nat)

end MediaPaths
