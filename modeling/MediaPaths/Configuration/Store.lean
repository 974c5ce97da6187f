import MediaPaths.Configuration.Document

/-!
# The current configuration

A store holds one configuration at a time. It is replaced as a whole, so that whoever holds an earlier
one goes on with it undisturbed.
-/

namespace MediaPaths

/-- The place where the current configuration is kept. -/
structure Store where
  /-- The current configuration. -/
  current : Configuration := {}

namespace Store

instance : Inhabited Store := ⟨{}⟩

/-- Puts another configuration in the place of the current one; the result has the one before too. -/
def replace (s : Store) (c : Configuration) : Store × Configuration := (⟨c⟩, s.current)

/-- The entry that currently applies to a path. -/
def find (s : Store) (name : String) : Except LookupError Match := s.current.find name

@[simp] theorem current_replace (s : Store) (c : Configuration) : (s.replace c).1.current = c := rfl

@[simp] theorem previous_replace (s : Store) (c : Configuration) :
    (s.replace c).2 = s.current := rfl

end Store

end MediaPaths
