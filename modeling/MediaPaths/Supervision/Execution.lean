import MediaPaths.Source.Script
import MediaPaths.Supervision.Mailbox

/-!
# Executions

Each launch of a source is an execution of its own: it goes through the script of that launch until it
ends.
-/

namespace MediaPaths

/-- What an execution is about to do or waits for. -/
inductive Activity where
  /-- It has not begun. -/
  | launched
  /-- It is about to take the next step. -/
  | acting
  /-- It waits for room to put a request. -/
  | posting (r : Request)
  /-- It waits for the answer to a request. There may be a reply: an answer, or `none` if the request
  was thrown away. -/
  | listening (number : Nat) (reply : Option (Option Answer))
  /-- It waits until some time. -/
  | resting (till : Nat)
  /-- It has ended. -/
  | ended (e : SourceError)
  deriving DecidableEq, Repr

/-- An execution of a source. -/
structure Execution where
  /-- Its number; executions of a source are numbered in the order of their launch. -/
  number : Nat
  /-- The address from which it pulls. -/
  address : String
  /-- The entry with which it was launched. -/
  entry : Entry
  /-- The steps that it has not gone through. -/
  script : Script
  /-- What it is about to do. -/
  activity : Activity := .launched
  /-- Whether it is being stopped. -/
  cancelled : Bool := false
  /-- The next change of its settings. -/
  inbox : Mailbox Entry := {}

namespace Execution

instance : Inhabited Execution := ⟨⟨0, "", {}, [], .launched, false, {}⟩⟩

/-- How it has ended, if it has. -/
def result? (e : Execution) : Option SourceError :=
  match e.activity with
  | .ended r => some r
  | _ => none

/-- Whether it has not ended. -/
def isAlive (e : Execution) : Bool := e.result?.isNone

/-- Whether it waits for the answer to the request of a number. -/
def awaits (e : Execution) (number : Nat) : Bool := e.activity == .listening number none

/-- The time at which it will go on by itself. -/
def deadline? (e : Execution) : Option Nat :=
  match e.activity with
  | .resting till => some till
  | _ => none

/-- Goes on to the next step. -/
def advance (e : Execution) : Execution :=
  { e with activity := .acting, script := e.script.tail }

end Execution

end MediaPaths
