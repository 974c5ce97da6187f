import MediaPaths.Proofs.Server.Outline

/-!
# Histories of a server

A server begins with a configuration and no active path. What is asked of it is done one thing after
the other, and each time until it is completed. In between, tasks take steps and time passes, in
whatever order.
-/

namespace MediaPaths

namespace Server

/-- What may be asked of a server. -/
inductive Operation where
  /-- Activate all paths whose sources are to be pulled all the time. -/
  | start
  /-- Activate a path. -/
  | activate (name query : String)
  /-- Deactivate a path. -/
  | deactivate (name reason : String)
  /-- Put another configuration in force. -/
  | reload (c : Configuration)
  /-- Deactivate all paths. -/
  | shutdown
  /-- Look at the active paths. -/
  | look

/-- The server after it has done what was asked of it, or failed to. -/
def operate (w : Server) : Operation → Server
  | .start => w.activateAlwaysOn.1
  | .activate name query => (w.activate name query).1
  | .deactivate name reason => (w.deactivate name reason).1
  | .reload c => (w.apply c).1
  | .shutdown => w.shutdown
  | .look => w.glance

/-- What may happen to a server. -/
inductive Event where
  /-- Something is asked of it. -/
  | operation (o : Operation)
  /-- The first task in line takes a step, or leaves the line. -/
  | step
  /-- A task takes a step, whether it stands in line or not. -/
  | task (i : Nat) (t : Task)
  /-- Time passes until `t`. -/
  | pass (t : Nat)

/-- The server after something has happened. -/
def occur (w : Server) : Event → Server
  | .operation o => w.operate o
  | .step => w.step
  | .task i t =>
    match w.stepTask i t with
    | some w => w.hosts[i]?.elim w (w.setAlarms i)
    | none => w
  | .pass t => w.passTo t

/-- The server after some things have happened. -/
def history (w : Server) (es : List Event) : Server := es.foldl occur w

/-- A server with a configuration, before anything has happened. -/
def fresh (store : Store) (factory : Workshop) (pause : Nat) : Server :=
  { registry := { store := store, factory := factory, pause := pause } }

variable {w : Server} {P : Server → Prop}

/-- What tasks, time and operations keep holds after every history. -/
theorem history_lasting (hP : Lasting P) (operate : ∀ w o, P w → P (w.operate o)) (es : List Event)
    (hw : P w) : P (w.history es) := by
  induction es generalizing w with
  | nil => exact hw
  | cons e es ih =>
    refine ih (w := w.occur e) ?_
    cases e with
    | operation o => exact operate w o hw
    | step => exact hP.step hw
    | task i t =>
      simp only [occur]
      split
      · exact hP.task ‹_› hw
      · exact hw
    | pass t => exact hP.pass t hw

/-- What tasks and operations keep, and what has nothing to do with time, holds after every history. -/
theorem history_induction (hP : Steady P) (operate : ∀ w o, P w → P (w.operate o)) (es : List Event)
    (hw : P w) : P (w.history es) :=
  history_lasting hP.lasting operate es hw

theorem tidy_fresh (store : Store) (factory : Workshop) (pause : Nat) :
    (fresh store factory pause).Tidy :=
  ⟨fun h hh => (by cases hh), List.nodup_nil⟩

end Server

end MediaPaths
