import MediaPaths.Configuration.Basic
import MediaPaths.Source.Announcement

/-!
# What sources do

A source is known by what it does from its launch on: it announces, waits, listens for changes of its
settings, ends. A script lists these steps, and a source has a script for each launch.
-/

namespace MediaPaths

/-- A step of a source. -/
inductive SourceStep where
  /-- Announces something and waits for the answer. If it must be accepted, a refusal ends the
  source. -/
  | announce (a : Announcement) (must : Bool)
  /-- Announces something if there is room, and does not wait for the answer. -/
  | abandon (a : Announcement)
  /-- Writes a line to the log of the path. -/
  | log (level : LogLevel) (message : String)
  /-- Waits for some milliseconds; ends at once if the source is stopped meanwhile. -/
  | sleep (ms : Nat)
  /-- Waits for some milliseconds, come what may. -/
  | linger (ms : Nat)
  /-- Waits until the source is stopped, and goes on. -/
  | awaitStop
  /-- Waits for a change of its settings; ends if the source is stopped first. -/
  | awaitReload
  /-- Takes a look at whether it is being stopped. -/
  | inspect
  /-- Ends, with what its supervisor makes of it. -/
  | finish (e : SourceError)
  deriving DecidableEq, Repr

/-- The steps of a source from its launch on. After the last one it takes note of each change of its
settings until it is stopped. -/
abbrev Script := List SourceStep

/-- What is noted about a source. -/
inductive SourceEvent where
  /-- It was made. -/
  | built (kind : SourceKind) (options : SourceOptions)
  /-- It was launched. -/
  | launched (address : String) (entry : Entry)
  /-- A call that announced something has returned. -/
  | answered (a : Announcement) (answer : Answer)
  /-- It learned that it is being stopped. -/
  | cancelled
  /-- It learned of other settings. -/
  | reloaded (entry : Entry)
  /-- It saw whether it is being stopped. -/
  | inspected (cancelled : Bool)

/-- Something with the time, in milliseconds, at which it happened. -/
structure Stamped (α : Type) where
  /-- The time. -/
  time : Nat
  /-- What happened. -/
  what : α

/-- Two things that are there at the same time, one of them that the source is being stopped. It is left open
which of them is seen to. -/
inductive Contest where
  /-- There is room for what an execution announces with so many steps of its script left. -/
  | announcement (execution left : Nat)
  /-- There is room for what a courier brings. -/
  | courier (number : Nat)
  /-- The owner has got the lock for the request of a number. -/
  | lock (request : Nat)
  deriving DecidableEq, Repr

/-- A source as a server makes it. -/
structure Source where
  /-- How it is identified; empty if it is not. -/
  id : String := ""
  /-- What it does when it is launched for the first time, the second, and so on from 0. -/
  behaviour : Nat → Script
  /-- Which contests come out the other way. If they do not, one who is being stopped announces nothing and
  brings nothing, and an owner that has got the lock considers the request. -/
  contrary : Contest → Bool := fun _ => false

namespace Source

/-- The source that follows a list of scripts and keeps to the last one. -/
def ofScripts (id : String) (scripts : List Script) : Source where
  id := id
  behaviour n := scripts.getD n (scripts.getLastD [])

end Source

/-- Makes the source for an entry, or tells why it cannot. -/
abbrev Factory := SourceKind → Entry → SourceOptions → Except SourceError Source

/-- Makes the sources of a server. What it answers may change from one activation to the next. -/
structure Workshop where
  /-- What it answers in the activation of a number. -/
  factory : Nat → Factory

/-- A factory whose answers do not change. -/
instance : Coe Factory Workshop := ⟨fun f => ⟨fun _ => f⟩⟩

end MediaPaths
