/-!
# Durations

A duration is a whole number of nanoseconds. Its seconds fit into 64 bits, so sums are checked:
`add?` has no result when the sum is out of range.
-/

namespace MediaPaths

namespace Duration

/-- How many nanoseconds make a second. -/
abbrev second : Nat := 1000000000

/-- How many nanoseconds make a millisecond. -/
abbrev millisecond : Nat := 1000000

/-- The least number of nanoseconds that is out of range. -/
abbrev limit : Nat := UInt64.size * second

end Duration

/-- A span of time, in nanoseconds. -/
structure Duration where
  /-- The whole span in nanoseconds. -/
  nanos : Nat
  /-- The seconds of the span fit into 64 bits. -/
  inRange : nanos < Duration.limit
  deriving DecidableEq

namespace Duration

/-- The duration of `n` nanoseconds, if in range. -/
def ofNanos? (n : Nat) : Option Duration :=
  if h : n < limit then some ⟨n, h⟩ else none

/-- No time at all. -/
def zero : Duration := ⟨0, by decide⟩

instance : Inhabited Duration := ⟨zero⟩

/-- Ten seconds, the default of every timeout. -/
def tenSeconds : Duration := ⟨10 * second, by decide⟩

/-- The whole seconds. -/
def seconds (d : Duration) : Nat := d.nanos / second

/-- The nanoseconds beyond the whole seconds. -/
def subsecNanos (d : Duration) : Nat := d.nanos % second

/-- The whole milliseconds. -/
def millis (d : Duration) : Nat := d.nanos / millisecond

/-- The sum, if in range. -/
def add? (a b : Duration) : Option Duration := ofNanos? (a.nanos + b.nanos)

/-- The duration of `ms` milliseconds, the longest one if that is out of range. -/
def ofMillis (ms : Nat) : Duration :=
  (ofNanos? (ms * millisecond)).getD ⟨limit - 1, by decide⟩

@[ext] theorem ext {a b : Duration} (h : a.nanos = b.nanos) : a = b := by
  cases a; cases b; cases h; rfl

theorem ofNanos?_eq_some {n : Nat} {d : Duration} : ofNanos? n = some d ↔ d.nanos = n := by
  unfold ofNanos?
  constructor
  · intro h
    split at h
    · exact congrArg Duration.nanos (Option.some.inj h).symm
    · cases h
  · rintro rfl
    simp [d.inRange]

theorem add?_eq_some {a b c : Duration} : a.add? b = some c ↔ c.nanos = a.nanos + b.nanos :=
  ofNanos?_eq_some

theorem add?_eq_none {a b : Duration} : a.add? b = none ↔ limit ≤ a.nanos + b.nanos := by
  simp [add?, ofNanos?]

end Duration

end MediaPaths
