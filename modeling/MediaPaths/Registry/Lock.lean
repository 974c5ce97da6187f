/-!
# The lock of the active paths

Whoever changes the active paths, or looks at several of them, holds their lock. Those who find it
taken wait in line and get it one after the other.
-/

namespace MediaPaths

/-- Who may hold the lock. -/
inductive Party where
  /-- Whoever operates the server. -/
  | operator
  /-- The owner of a supervisor. -/
  | owner (host : Nat)
  deriving DecidableEq, Repr

/-- A lock. -/
structure Lock where
  /-- Who holds it. -/
  holder : Option Party := none
  /-- Who waits for it, in the order in which they came. -/
  waiting : List Party := []
  deriving DecidableEq, Repr

namespace Lock

instance : Inhabited Lock := ⟨{}⟩

/-- Whether nobody holds it. -/
def isFree (l : Lock) : Bool := l.holder.isNone

/-- Whether a party holds it. -/
def isHeldBy (l : Lock) (p : Party) : Bool := l.holder == some p

/-- Whether a party waits for it. -/
def awaits (l : Lock) (p : Party) : Bool := l.waiting.contains p

/-- Has a party hold it, or wait for it at the end of the line. -/
def request (l : Lock) (p : Party) : Lock :=
  if l.isFree then { l with holder := some p } else { l with waiting := l.waiting ++ [p] }

/-- Gives it to the first who waits. -/
def release (l : Lock) : Lock := { holder := l.waiting.head?, waiting := l.waiting.tail }

/-- Has a party wait no longer. -/
def leave (l : Lock) (p : Party) : Lock := { l with waiting := l.waiting.erase p }

/-- Nobody waits for a lock that is free. -/
def IsFair (l : Lock) : Prop := l.isFree = true → l.waiting = []

theorem isFair_request (l : Lock) (p : Party) : (l.request p).IsFair := by
  unfold Lock.request
  split
  · intro hf
    simp [isFree] at hf
  · rename_i hf
    intro hf'
    exact absurd hf' hf

theorem isFair_release (l : Lock) : l.release.IsFair := by
  intro h
  cases hw : l.waiting with
  | nil => simp [release, hw]
  | cons p ps => simp [isFree, release, hw] at h

end Lock

end MediaPaths
