/-!
# Statistics of a supervised source
-/

namespace MediaPaths

/-- What a supervisor counts. The counters are natural numbers. Kept in words of 64 bits they would wrap around
after `2 ^ 64` events, which are out of reach: at one event a nanosecond that takes more than 500 years. -/
structure Statistics where
  /-- Executions launched. -/
  runs : Nat := 0
  /-- Executions that failed or could not be launched. -/
  failures : Nat := 0
  /-- Announcements of media passed on. -/
  ready : Nat := 0
  /-- Losses of media passed on. -/
  notReady : Nat := 0
  /-- The message of the latest failure. -/
  lastError : Option String := none
  deriving DecidableEq, Repr, Inhabited

namespace Statistics

/-- An execution was launched. -/
def countRun (s : Statistics) : Statistics := { s with runs := s.runs + 1 }

/-- An execution failed or could not be launched. -/
def countFailure (s : Statistics) (message : String) : Statistics :=
  { s with failures := s.failures + 1, lastError := some message }

/-- An announcement was passed on. -/
def countReady (s : Statistics) : Statistics := { s with ready := s.ready + 1 }

/-- A loss of media was passed on. -/
def countNotReady (s : Statistics) : Statistics := { s with notReady := s.notReady + 1 }

/-- Whether an execution was ever launched. -/
def everRan (s : Statistics) : Bool := 0 < s.runs

end Statistics

end MediaPaths
