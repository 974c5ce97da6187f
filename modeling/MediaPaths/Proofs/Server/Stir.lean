import Mathlib.Logic.Relation
import MediaPaths.Proofs.Registry.Lock
import MediaPaths.Proofs.Server.Scenes

/-!
# What happens while one waits

While whoever operates a server waits, the tasks in line take steps, in whatever order, and those that have
to wait leave the line. Time goes on. In which order active paths are listed is left open. None of this takes
the lock from its holder, unless it is the holder who gives it back.
-/

namespace MediaPaths

namespace Server

open Relation

variable {w v : Server} {i : Nat} {h : Host} {name : String} {id : Nat} {r : Request} {t : Task}
  {gone : List ActivePath}

/-- What can happen while nobody operates a server. -/
inductive Stir (w : Server) : Server → Prop where
  /-- A task in line takes a step. -/
  | task {i : Nat} {t : Task} {v : Server} (hq : (i, t) ∈ w.queue) (ht : w.stepTask i t = some v) :
      Stir w (v.hosts[i]?.elim v (v.setAlarms i))
  /-- A task that has to wait leaves the line. -/
  | park {i : Nat} {t : Task} (hq : (i, t) ∈ w.queue) (ht : w.stepTask i t = none) :
      Stir w { w with queue := w.queue.erase (i, t) }
  /-- Time passes. -/
  | pass {t : Nat} (ht : w.now ≤ t) : Stir w (w.passTo t)
  /-- The active paths are listed anew. -/
  | relist {ps : List ActivePath} (hp : ps.Perm w.registry.paths) : Stir w (w.relisted ps)

/-- What can have happened after a while. -/
abbrev Stirs : Server → Server → Prop := ReflTransGen Stir

/-- The first task in line takes a step or leaves the line. -/
theorem stirs_step (w : Server) : Stirs w w.step := by
  unfold Server.step
  split
  · exact .refl
  · rename_i i t rest hq
    have hin : (i, t) ∈ w.queue := hq ▸ List.mem_cons_self ..
    split
    · exact .single (.task hin ‹_›)
    · have hs := Stir.park hin ‹_›
      rw [hq, List.erase_cons_head] at hs
      exact .single hs

/-! ## Owners -/

/-- What the owner of a supervisor does next about the request that it is at. -/
inductive Attends (w : Server) (i : Nat) (h : Host) (name : String) (id : Nat) (r : Request)
    (v : Server) : Prop where
  /-- It finds that the server was given up. -/
  | closed (hr : w.registry.isReachable = false)
      (hv : v = w.settleRequest i h r (some (declined r.announcement)))
  /-- It holds the lock, considers the request, answers it and gives the lock back. -/
  | answers (hl : w.registry.lock.isHeldBy (.owner i) = true)
      (hv : v = ((w.consider name id r.announcement).1.settleRequest i h r
        (some (w.consider name id r.announcement).2)).release)
  /-- It holds the lock and gives it back without a look at the request, because the supervisor is being stopped. -/
  | yields (hl : w.registry.lock.isHeldBy (.owner i) = true) (hc : h.supervisor.cancelled = true)
      (hv : v = (w.settleRequest i h r (some (declined r.announcement))).release)
  /-- It waits no longer, because the supervisor is being stopped. -/
  | declines (hl : w.registry.lock.isHeldBy (.owner i) = false)
      (hp : Party.owner i ∈ w.registry.lock.waiting) (hc : h.supervisor.cancelled = true)
      (hv : v = (w.setRegistry { w.registry with
        lock := w.registry.lock.leave (.owner i) }).settleRequest i h r
          (some (declined r.announcement)))
  /-- It asks for the lock. -/
  | asks (hp : Party.owner i ∉ w.registry.lock.parties)
      (hv : v = w.setRegistry { w.registry with lock := w.registry.lock.request (.owner i) })

/-- What an owner that is an active path does about a request, case by case. -/
theorem attends_of_servePath (hv : w.servePath i h name id r = some v) :
    Attends w i h name id r v := by
  unfold servePath at hv
  simp only at hv
  split at hv
  · rename_i hr
    cases hv
    exact .closed (by simpa using hr) rfl
  · split at hv
    · rename_i hl
      split at hv
      · rename_i hc
        cases hv
        exact .yields hl (Bool.and_eq_true_iff.1 hc).1 rfl
      · cases hv
        exact .answers hl rfl
    · rename_i hl
      have hl := Bool.eq_false_iff.2 hl
      split at hv
      · rename_i hp
        split at hv
        · rename_i hc
          cases hv
          exact .declines hl (List.contains_iff_mem.1 hp) hc rfl
        · cases hv
      · rename_i hp
        cases hv
        refine .asks (fun hmem => ?_) rfl
        rcases List.mem_append.1 hmem with hmem | hmem
        · rw [Lock.isHeldBy, Option.mem_toList.1 hmem] at hl
          simp at hl
        · exact hp (List.contains_iff_mem.2 hmem)

/-- The owner of a supervisor has to wait just for the lock, and only until the supervisor is stopped. -/
theorem servePath_eq_none (hv : w.servePath i h name id r = none) :
    Party.owner i ∈ w.registry.lock.waiting ∧ w.registry.lock.isHeldBy (.owner i) = false ∧
      h.supervisor.cancelled = false := by
  unfold servePath at hv
  simp only at hv
  split at hv
  · cases hv
  · split at hv
    · split at hv <;> cases hv
    · rename_i hl
      split at hv
      · rename_i hp
        split at hv
        · cases hv
        · rename_i hc
          exact ⟨List.contains_iff_mem.1 hp, by simpa using hl, by simpa using hc⟩
      · cases hv

/-- The worker that serves a request takes its steps as the owner. -/
theorem stepTask_serving (hi : w.hosts[i]? = some h) (ho : h.owner = .path name id)
    (hs : h.supervisor.worker = .serving r) : w.stepTask i .worker = w.servePath i h name id r := by
  simp only [stepTask, hi, hs, serve, ho]

/-- A task takes a step of its supervisor, or its owner goes on. -/
inductive Acts (w : Server) (i : Nat) (t : Task) (v : Server) : Prop where
  /-- The supervisor takes a step. -/
  | own {h : Host} {s : Supervisor} (hi : w.hosts[i]? = some h)
      (hs : h.supervisor.step w.now t = some s) (hv : v = w.put i ⟨s, h.owner⟩)
  /-- The owner goes on. -/
  | serve {h : Host} {name : String} {id : Nat} {r : Request} (hi : w.hosts[i]? = some h)
      (ho : h.owner = .path name id) (hw : h.supervisor.worker = .serving r) (ht : t = .worker)
      (ha : Attends w i h name id r v)

/-- A step of a task is a run of its supervisor, or the owner attends to a request. -/
theorem acts_of_stepTask (hw : w.Owned) (hv : w.stepTask i t = some v) : Acts w i t v := by
  have hstep := hv
  unfold stepTask at hv
  split at hv
  · cases hv
  · rename_i h hi
    split at hv
    · rename_i r hs
      obtain ⟨name, id, ho⟩ := hw.of_getElem? hi
      rw [stepTask_serving hi ho hs] at hstep
      exact .serve hi ho hs rfl (attends_of_servePath hstep)
    · obtain ⟨s, hs, rfl⟩ := Option.map_eq_some_iff.1 hv
      exact .own hi hs rfl

/-! ## The lock -/

theorem registry_settleRequest (w : Server) (i : Nat) (h : Host) (r : Request)
    (answer : Option Answer) : (w.settleRequest i h r answer).registry = w.registry :=
  registry_put _ _ _

theorem lock_consider (w : Server) (name : String) (id : Nat) (a : Announcement) :
    (w.consider name id a).1.registry.lock = w.registry.lock := by
  unfold consider
  split
  · rfl
  · rfl
  · split <;> rfl
  · rfl

/-- An owner takes its own steps with the lock: it asks, gives it back, or leaves the line. -/
theorem Attends.lock (ha : Attends w i h name id r v) :
    Lock.Steps (.owner i) w.registry.lock v.registry.lock := by
  cases ha with
  | closed _ hv =>
    rw [hv, registry_settleRequest]
    exact .keep
  | answers hl hv =>
    rw [hv, registry_release, registry_settleRequest]
    simp only [lock_consider]
    exact .release hl
  | yields hl _ hv =>
    rw [hv, registry_release, registry_settleRequest]
    exact .release hl
  | declines _ hp _ hv =>
    rw [hv, registry_settleRequest]
    exact .leave hp
  | asks hp hv =>
    rw [hv]
    exact .request hp

/-- No task does more with the lock than its owner may. -/
theorem lock_of_stepTask (hw : w.Owned) (hv : w.stepTask i t = some v) :
    Lock.Steps (.owner i) w.registry.lock v.registry.lock := by
  cases acts_of_stepTask hw hv with
  | own _ _ hv =>
    rw [hv, registry_put]
    exact .keep
  | serve _ _ _ _ ha => exact ha.lock

/-- Owners come and go, but they leave the lock to whoever operates the server. -/
theorem Stir.lock (hs : Stir w v) (hw : w.Owned) :
    ∃ i, Lock.Steps (.owner i) w.registry.lock v.registry.lock := by
  cases hs with
  | @task i t v hq ht =>
    refine ⟨i, ?_⟩
    rw [registry_elim_setAlarms]
    exact lock_of_stepTask hw ht
  | park | relist => exact ⟨0, .keep⟩
  | pass =>
    refine ⟨0, ?_⟩
    rw [registry_passTo]
    exact .keep

/-! ## Scenes -/

/-- A stir keeps a scene in order. -/
theorem Scene.InOrder.stir (hx : Scene.InOrder ⟨w, gone⟩) (hs : Stir w v) :
    Scene.InOrder ⟨v, gone⟩ := by
  cases hs with
  | task _ ht => exact hx.next (k := {}) (.task ht)
  | park => exact ⟨hx.assigned.congr rfl, hx.distinct, hx.claims⟩
  | pass => exact hx.next (k := {}) (.pass _)
  | relist hp => exact hx.next (k := {}) (.relist hp)

theorem Scene.InOrder.stirs (hx : Scene.InOrder ⟨w, gone⟩) (hs : Stirs w v) :
    Scene.InOrder ⟨v, gone⟩ := by
  induction hs with
  | refl => exact hx
  | tail _ hs ih => exact ih.stir hs

/-- No path is added or removed. -/
theorem Stir.names (hs : Stir w v) (hw : w.Tidy) :
    (v.registry.paths.map (·.name)).Perm (w.registry.paths.map (·.name)) := by
  cases hs with
  | @task i t v _ ht =>
    obtain ⟨ms, hturn⟩ := turn_of_stepTask hw.owned ht
    have hturn := hturn.congr (hosts_elim_setAlarms v i) (registry_elim_setAlarms v i)
    exact .of_eq (names_of_outline (outline_of_turn hw hturn))
  | park => exact .refl _
  | pass => exact .of_eq (by rw [registry_passTo])
  | relist hp => exact hp.map _

/-- The same names are active after any stirs. -/
theorem Stirs.names (hs : Stirs w v) (hx : Scene.InOrder ⟨w, gone⟩) :
    (v.registry.paths.map (·.name)).Perm (w.registry.paths.map (·.name)) := by
  induction hs with
  | refl => exact .refl _
  | tail hpath hs ih => exact (hs.names (hx.stirs hpath).assigned.tidy).trans ih

/-- Whether a path is active is known from the names of those that are. -/
theorem get?_eq_none_of_names (hn : (v.registry.paths.map (·.name)).Perm
    (w.registry.paths.map (·.name))) (hw : w.registry.get? name = none) :
    v.registry.get? name = none := by
  refine List.find?_eq_none.2 fun q hq hname => ?_
  obtain ⟨p, hp, hpq⟩ := List.mem_map.1 (hn.mem_iff.1 (List.mem_map_of_mem hq))
  have hne := List.find?_eq_none.1 hw p hp
  rw [hpq] at hne
  exact hne hname

end Server

end MediaPaths
