import MediaPaths.Source.Error
import MediaPaths.Source.Media

/-!
# Announcements

A source tells the owner of its path when it has media and when it has lost them. Each time it asks,
and waits for the answer before it goes on.
-/

namespace MediaPaths

/-- What a source tells the owner of its path. -/
inductive Announcement where
  /-- It has these media. -/
  | ready (medias : List Media)
  /-- It has lost its media. -/
  | notReady
  deriving DecidableEq, Repr

/-- What an announcement is answered with. -/
inductive Answer where
  /-- It was taken note of. -/
  | accepted
  /-- It was turned down. -/
  | refused (e : SourceError)
  deriving DecidableEq, Repr

namespace Answer

/-- The answer that a call has if it is not waited for any longer. -/
def terminated : Answer := refused .terminated

/-- The answer that a call has, `none` standing for a request that was thrown away. -/
def ofReply : Option Answer → Answer
  | some a => a
  | none => terminated

end Answer

/-- An announcement that waits for its answer. -/
structure Request where
  /-- Its number; no two requests to a supervisor have the same. -/
  number : Nat
  /-- What is announced. -/
  announcement : Announcement
  deriving DecidableEq, Repr

end MediaPaths
