import MediaPaths.Proofs.Supervision.Run
import MediaPaths.Server.Reload

/-!
# What a task of a server does

`Turn` lists what becomes of the supervisors and of the registry when a task takes a step. What each of
these steps keeps is `Steady`: it is kept while whoever operates the server waits.
-/

namespace MediaPaths

/-- A host after the effects of its latest steps have come about. -/
def Host.flushed (h : Host) : Host := { h with supervisor := { h.supervisor with effects := [] } }

/-- A host after its owner has replied to a request and is done with it. -/
def Host.settled (h : Host) (r : Request) (answer : Option Answer) : Host :=
  Host.flushed { h with supervisor := (h.supervisor.reply r.number answer).resume }

namespace Server

/-- Every supervisor is owned by an active path. -/
def Owned (w : Server) : Prop := ∀ h ∈ w.hosts, ∃ name id, h.owner = .path name id

variable {w w' : Server} {i : Nat} {h : Host}

theorem Owned.congr (hw : w.Owned) (h : w'.hosts = w.hosts) : w'.Owned := by
  intro x hx
  exact hw x (h ▸ hx)

theorem Owned.of_getElem? (hw : w.Owned) (hi : w.hosts[i]? = some h) :
    ∃ name id, h.owner = .path name id :=
  hw h (List.mem_of_getElem? hi)

theorem Owned.set (hw : w.Owned) (hi : w.hosts[i]? = some h) {s : Supervisor}
    (hh : w'.hosts = w.hosts.set i ⟨s, h.owner⟩) : w'.Owned := by
  intro x hx
  rw [hh] at hx
  rcases List.mem_or_eq_of_mem_set hx with hx | rfl
  · exact hw x hx
  · obtain ⟨name, id, ho⟩ := hw.of_getElem? hi
    exact ⟨name, id, ho⟩

/-! ## Effects -/

@[simp] theorem hosts_enqueue (w : Server) (i : Nat) (t : Task) :
    (w.enqueue i t).hosts = w.hosts := by
  unfold enqueue
  split <;> rfl

@[simp] theorem registry_enqueue (w : Server) (i : Nat) (t : Task) :
    (w.enqueue i t).registry = w.registry := by
  unfold enqueue
  split <;> rfl

theorem registry_perform (w : Server) (i : Nat) (e : Effect) :
    (w.perform i e).registry = w.registry := by
  cases e with
  | wake t => exact registry_enqueue w i t
  | line level message =>
    simp only [perform, writeLine]
    split
    · rfl
    · split <;> rfl

/-- An effect on an active path leaves the supervisors alone. -/
theorem hosts_perform (hw : w.Owned) (i : Nat) (e : Effect) :
    (w.perform i e).hosts = w.hosts := by
  cases e with
  | wake t => exact hosts_enqueue w i t
  | line level message =>
    simp only [perform, writeLine]
    split
    · rfl
    · rename_i h hi
      obtain ⟨name, id, ho⟩ := hw.of_getElem? hi
      simp only [ho]
      rfl

theorem registry_performs (w : Server) (i : Nat) (es : List Effect) :
    (es.foldl (fun w e => w.perform i e) w).registry = w.registry := by
  induction es generalizing w with
  | nil => rfl
  | cons e es ih => rw [List.foldl_cons, ih, registry_perform]

theorem hosts_performs (hw : w.Owned) (i : Nat) (es : List Effect) :
    (es.foldl (fun w e => w.perform i e) w).hosts = w.hosts := by
  induction es generalizing w with
  | nil => rfl
  | cons e es ih =>
    have he := hosts_perform hw i e
    rw [List.foldl_cons, ih (hw.congr he), he]

@[simp] theorem registry_put (w : Server) (i : Nat) (h : Host) :
    (w.put i h).registry = w.registry :=
  registry_performs _ i _

/-- A supervisor is changed, and nothing else is. -/
theorem hosts_put (hw : w.Owned) (hi : w.hosts[i]? = some h) (s : Supervisor) :
    (w.put i ⟨s, h.owner⟩).hosts = w.hosts.set i (Host.flushed ⟨s, h.owner⟩) := by
  have hset : (w.setHost i (Host.flushed ⟨s, h.owner⟩)).Owned := hw.set hi rfl
  exact hosts_performs hset i _

@[simp] theorem registry_modify (w : Server) (i : Nat) (f : Supervisor → Supervisor) :
    (w.modify i f).registry = w.registry := by
  unfold modify
  split
  · rfl
  · exact registry_put _ _ _

/-- A supervisor that there is was changed, or there is none and nothing happened. -/
theorem hosts_modify (hw : w.Owned) (i : Nat) (f : Supervisor → Supervisor) :
    (∃ h, w.hosts[i]? = some h ∧
        (w.modify i f).hosts = w.hosts.set i (Host.flushed ⟨f h.supervisor, h.owner⟩)) ∨
      w.hosts[i]? = none ∧ (w.modify i f).hosts = w.hosts := by
  unfold modify
  split
  · exact .inr ⟨‹_›, rfl⟩
  · rename_i h hi
    exact .inl ⟨h, hi, hosts_put hw hi _⟩

/-! ## Steps of tasks -/

/-- What becomes of the supervisors and of the registry when a task of a supervisor takes a step, and
the moves that the supervisor makes. -/
inductive Turn (w : Server) (i : Nat) (w' : Server) : List Supervisor.Move → Prop where
  /-- The supervisor takes a step. -/
  | own {h : Host} {t : Task} {s : Supervisor} (hi : w.hosts[i]? = some h)
      (hs : h.supervisor.step w.now t = some s)
      (hh : w'.hosts = w.hosts.set i (Host.flushed ⟨s, h.owner⟩)) (hr : w'.registry = w.registry) :
      Turn w i w' [.task w.now t, .flush]
  /-- The owner asks for the lock. -/
  | line (hh : w'.hosts = w.hosts)
      (hr : w'.registry = { w.registry with lock := w'.registry.lock }) : Turn w i w' []
  /-- The owner gives up a request, because the supervisor is being stopped or the server was. -/
  | decline {h : Host} {r : Request} (hi : w.hosts[i]? = some h)
      (hw : h.supervisor.worker = .serving r)
      (hc : h.supervisor.cancelled = true ∨ w.registry.isReachable = false)
      (hh : w'.hosts = w.hosts.set i (h.settled r (some (declined r.announcement))))
      (hr : w'.registry = { w.registry with lock := w'.registry.lock }) :
      Turn w i w' [.reply r.number (some (declined r.announcement)), .resume, .flush]
  /-- The owner considers a request and answers it. -/
  | answer {h : Host} {r : Request} {name : String} {id : Nat} (hi : w.hosts[i]? = some h)
      (ho : h.owner = .path name id) (hw : h.supervisor.worker = .serving r)
      (hh : w'.hosts =
        w.hosts.set i (h.settled r (some (w.consider name id r.announcement).2)))
      (hr : w'.registry =
        { (w.consider name id r.announcement).1.registry with lock := w'.registry.lock }) :
      Turn w i w'
        [.reply r.number (some (w.consider name id r.announcement).2), .resume, .flush]

theorem hosts_consider (w : Server) (name : String) (id : Nat) (a : Announcement) :
    (w.consider name id a).1.hosts = w.hosts := by
  unfold consider
  split
  · rfl
  · rfl
  · split <;> rfl
  · rfl

@[simp] theorem hosts_release (w : Server) : w.release.hosts = w.hosts := by
  unfold release
  simp only
  split
  · simp [setRegistry]
  · rfl

theorem registry_release (w : Server) :
    w.release.registry = { w.registry with lock := w.registry.lock.release } := by
  unfold release
  simp only
  split
  · simp [setRegistry]
  · rfl

/-- An owner that answers a request is done with it, and no other supervisor is changed. -/
theorem hosts_settleRequest {u : Server} (hw : w.Owned) (hi : w.hosts[i]? = some h) (hu : u.hosts = w.hosts)
    (r : Request) (answer : Option Answer) :
    (u.settleRequest i h r answer).hosts = w.hosts.set i (h.settled r answer) := by
  rw [settleRequest, hosts_put (hw.congr hu) (hu ▸ hi), hu]
  rfl

theorem turn_of_servePath {name : String} {id : Nat} {r : Request} (hw : w.Owned)
    (hi : w.hosts[i]? = some h) (ho : h.owner = .path name id)
    (hs : h.supervisor.worker = .serving r) (ht : w.servePath i h name id r = some w') :
    ∃ ms, Turn w i w' ms := by
  have hput : ∀ {v : Server} (answer : Option Answer), v.hosts = w.hosts →
      (v.settleRequest i h r answer).hosts = w.hosts.set i (h.settled r answer) := fun answer hv =>
    hosts_settleRequest hw hi hv r answer
  have hreg : ∀ (v : Server) answer, (v.settleRequest i h r answer).registry = v.registry :=
    fun _ _ => registry_put _ _ _
  unfold servePath at ht
  simp only at ht
  split at ht
  · rename_i hreach
    cases ht
    have hreach : w.registry.isReachable = false := by simpa using hreach
    exact ⟨_, .decline hi hs (.inr hreach) (hput _ rfl) (by rw [hreg])⟩
  · split at ht
    · split at ht
      · rename_i hc
        cases ht
        refine ⟨_, .decline hi hs (.inl (Bool.and_eq_true_iff.1 hc).1) ?_ ?_⟩
        · rw [hosts_release, hput _ rfl]
        · rw [registry_release, hreg]
      · cases ht
        refine ⟨_, .answer hi ho hs ?_ ?_⟩
        · rw [hosts_release, hput _ (hosts_consider _ _ _ _)]
        · rw [registry_release, hreg]
    · split at ht
      · split at ht
        · cases ht
          exact ⟨_, .decline hi hs (.inl ‹_›) (hput _ rfl) (by rw [hreg]; rfl)⟩
        · cases ht
      · cases ht
        exact ⟨_, .line rfl rfl⟩

/-- Whenever a task takes a step, one of these four things happens. -/
theorem turn_of_stepTask {t : Task} (hw : w.Owned) (ht : w.stepTask i t = some w') :
    ∃ ms, Turn w i w' ms := by
  unfold stepTask at ht
  split at ht
  · cases ht
  · rename_i h hi
    split at ht
    · rename_i r hs
      obtain ⟨name, id, ho⟩ := hw.of_getElem? hi
      simp only [serve, ho] at ht
      exact turn_of_servePath hw hi ho hs ht
    · obtain ⟨s, hs, rfl⟩ := Option.map_eq_some_iff.1 ht
      exact ⟨_, .own hi hs (hosts_put hw hi s) (registry_put _ _ _)⟩

/-! ## Waiting -/

/-- Something that is kept when a task takes a step or leaves the line, and when time passes. -/
structure Lasting (P : Server → Prop) : Prop where
  task : ∀ {w w' : Server} {i : Nat} {t : Task}, w.stepTask i t = some w' → P w →
    P (w'.hosts[i]?.elim w' (w'.setAlarms i))
  park : ∀ {w : Server} {i : Nat} {t : Task}, (i, t) ∈ w.queue → w.stepTask i t = none → P w →
    P { w with queue := w.queue.erase (i, t) }
  pass : ∀ {w : Server} (t : Nat), P w → P (w.passTo t)

/-- Something that the steps of tasks keep and that has nothing to do with time. -/
structure Steady (P : Server → Prop) : Prop where
  /-- It depends on the supervisors and the registry only. -/
  clock : ∀ {w w' : Server}, w'.hosts = w.hosts → w'.registry = w.registry → P w → P w'
  /-- The step of a task keeps it. -/
  task : ∀ {w w' : Server} {i : Nat} {t : Task}, w.stepTask i t = some w' → P w → P w'

variable {P : Server → Prop}

namespace Lasting

theorem step (hP : Lasting P) (hw : P w) : P w.step := by
  unfold Server.step
  split
  · exact hw
  · rename_i hq
    split
    · exact hP.task ‹_› hw
    · have hpark := hP.park (hq ▸ List.mem_cons_self ..) ‹_› hw
      rwa [hq, List.erase_cons_head] at hpark

theorem await (hP : Lasting P) (fuel : Nat) (done : Server → Bool) (till : Option Nat) (hw : P w) :
    P (w.await fuel done till) := by
  induction fuel generalizing w with
  | zero => exact hw
  | succ fuel ih =>
    unfold Server.await
    split
    · exact ih (hP.step hw)
    · split
      · exact hw
      · split
        · exact hw
        · simp only
          split
          · exact hP.pass _ hw
          · exact ih (hP.pass _ hw)

/-- It is kept while one waits for something. -/
theorem waitFor (hP : Lasting P) (done : Server → Bool) (hw : P w) :
    P (w.waitFor done) := by
  unfold Server.waitFor
  split
  · exact hw
  · exact hP.await _ done none hw

end Lasting

theorem hosts_passTo (w : Server) (t : Nat) : (w.passTo t).hosts = w.hosts := by
  have hfold : ∀ (as : List Alarm) (v : Server),
      (as.foldl (fun w a => w.enqueue a.host a.task) v).hosts = v.hosts := by
    intro as
    induction as with
    | nil => exact fun _ => rfl
    | cons a as ih => exact fun v => (ih _).trans (hosts_enqueue v _ _)
  exact hfold _ _

theorem registry_passTo (w : Server) (t : Nat) : (w.passTo t).registry = w.registry := by
  have hfold : ∀ (as : List Alarm) (v : Server),
      (as.foldl (fun w a => w.enqueue a.host a.task) v).registry = v.registry := by
    intro as
    induction as with
    | nil => exact fun _ => rfl
    | cons a as ih => exact fun v => (ih _).trans (registry_enqueue v _ _)
  exact hfold _ _

theorem hosts_elim_setAlarms (w : Server) (i : Nat) :
    (w.hosts[i]?.elim w (w.setAlarms i)).hosts = w.hosts := by
  cases w.hosts[i]? <;> rfl

theorem registry_elim_setAlarms (w : Server) (i : Nat) :
    (w.hosts[i]?.elim w (w.setAlarms i)).registry = w.registry := by
  cases w.hosts[i]? <;> rfl

namespace Steady

theorem lasting (hP : Steady P) : Lasting P := by
  constructor
  · intro w w' i t ht hw
    exact hP.clock (hosts_elim_setAlarms w' i) (registry_elim_setAlarms w' i) (hP.task ht hw)
  · intro w i t _ _ hw
    exact hP.clock (w := w) rfl rfl hw
  · intro w t hw
    exact hP.clock (hosts_passTo w t) (registry_passTo w t) hw

/-- Whatever the steps of tasks keep is kept while one waits for something. -/
theorem waitFor (hP : Steady P) (done : Server → Bool) (hw : P w) : P (w.waitFor done) :=
  hP.lasting.waitFor done hw

end Steady

end Server

end MediaPaths
