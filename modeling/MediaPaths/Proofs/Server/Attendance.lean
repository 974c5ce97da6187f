import MediaPaths.Proofs.Server.Bustle
import MediaPaths.Proofs.Supervision.Line

/-!
# Calls are attended to

While an owner is at a request, the worker of its supervisor stands in line, or the owner waits for the lock
and whoever holds that goes on. `Diligent` says so; what whoever operates a server does keeps it, and so does
all that happens while one waits.
-/

namespace MediaPaths

namespace Server

open Relation
open Supervisor (enter mem_enter)

variable {w v : Server} {x y : Scene} {i j : Nat} {h : Host} {name : String} {id : Nat} {r : Request}
  {t : Task} {k : Nat × Task} {s : Supervisor} {may : Touch → Prop} {p : ActivePath} {entry : Entry}

/-! ## What effects do -/

theorem queue_enqueue (w : Server) (i : Nat) (t : Task) :
    (w.enqueue i t).queue = enter w.queue (i, t) := by
  unfold enqueue enter
  split <;> rfl

theorem alarms_enqueue (w : Server) (i : Nat) (t : Task) : (w.enqueue i t).alarms = w.alarms := by
  unfold enqueue
  split <;> rfl

theorem queue_writeLine (w : Server) (i : Nat) (level : LogLevel) (message : String) :
    (w.writeLine i level message).queue = w.queue ∧
      (w.writeLine i level message).alarms = w.alarms := by
  unfold writeLine
  split
  · exact ⟨rfl, rfl⟩
  · split <;> exact ⟨rfl, rfl⟩

/-- A task that is put in line is there, and nobody leaves for it. -/
theorem mem_queue_enqueue : k ∈ (w.enqueue i t).queue ↔ k ∈ w.queue ∨ k = (i, t) := by
  rw [queue_enqueue, mem_enter]

theorem now_enqueue (w : Server) (i : Nat) (t : Task) : (w.enqueue i t).now = w.now := by
  unfold enqueue
  split <;> rfl

/-- An effect puts the task that it wakes in line, and no other. -/
theorem mem_queue_perform {e : Effect} :
    k ∈ (w.perform i e).queue ↔ k ∈ w.queue ∨ k.1 = i ∧ .wake k.2 = e := by
  cases e with
  | wake t =>
    obtain ⟨j, t'⟩ := k
    simp [perform, mem_queue_enqueue]
  | line level message =>
    rw [perform, (queue_writeLine w i level message).1]
    simp

theorem clock_perform (w : Server) (i : Nat) (e : Effect) :
    (w.perform i e).now = w.now ∧ (w.perform i e).alarms = w.alarms := by
  cases e with
  | wake t => exact ⟨now_enqueue w i t, alarms_enqueue w i t⟩
  | line level message =>
    refine ⟨?_, (queue_writeLine w i level message).2⟩
    simp only [perform, writeLine]
    split
    · rfl
    · split <;> rfl

/-- The effects of a step put those tasks in line that they wake. -/
theorem mem_queue_performs {es : List Effect} :
    k ∈ (es.foldl (fun w e => w.perform i e) w).queue ↔ k ∈ w.queue ∨ k.1 = i ∧ .wake k.2 ∈ es := by
  induction es generalizing w with
  | nil => simp
  | cons e es ih =>
    rw [List.foldl_cons, ih, mem_queue_perform, List.mem_cons, and_or_left, or_assoc]

theorem clock_performs (w : Server) (i : Nat) (es : List Effect) :
    (es.foldl (fun w e => w.perform i e) w).now = w.now ∧
      (es.foldl (fun w e => w.perform i e) w).alarms = w.alarms := by
  induction es generalizing w with
  | nil => exact ⟨rfl, rfl⟩
  | cons e es ih =>
    obtain ⟨hn, ha⟩ := clock_perform w i e
    rw [List.foldl_cons, (ih _).1, (ih _).2]
    exact ⟨hn, ha⟩

/-- The tasks stand in line that stood there, and those of the supervisor that it has woken. -/
theorem mem_queue_put :
    k ∈ (w.put i h).queue ↔ k ∈ w.queue ∨ k.1 = i ∧ .wake k.2 ∈ h.supervisor.effects :=
  mem_queue_performs

theorem clock_put (w : Server) (i : Nat) (h : Host) :
    (w.put i h).now = w.now ∧ (w.put i h).alarms = w.alarms :=
  clock_performs _ _ _

/-- Putting a host back lets nobody leave the line. -/
theorem queue_put_subset (w : Server) (i : Nat) (h : Host) : w.queue ⊆ (w.put i h).queue :=
  fun _ hk => mem_queue_put.2 (.inl hk)

/-- A supervisor that there is was changed, and its effects have come about. -/
theorem modify_cases (hw : w.Owned) (i : Nat) (f : Supervisor → Supervisor) :
    (∃ h, w.hosts[i]? = some h ∧
        (w.modify i f).hosts = w.hosts.set i (Host.flushed ⟨f h.supervisor, h.owner⟩) ∧
        ∀ k, k ∈ (w.modify i f).queue ↔
          k ∈ w.queue ∨ k.1 = i ∧ .wake k.2 ∈ (f h.supervisor).effects) ∨
      w.modify i f = w := by
  unfold modify
  split
  · exact .inr rfl
  · rename_i h hi
    exact .inl ⟨h, hi, hosts_put hw hi _, fun k => mem_queue_put⟩

theorem clock_modify (w : Server) (i : Nat) (f : Supervisor → Supervisor) :
    (w.modify i f).now = w.now ∧ (w.modify i f).alarms = w.alarms := by
  unfold modify
  split
  · exact ⟨rfl, rfl⟩
  · exact clock_put _ _ _

/-- Who is in line stays there when the lock is given back. -/
theorem mem_queue_release (hk : k ∈ w.queue) : k ∈ w.release.queue := by
  unfold release
  simp only
  split
  · exact mem_queue_enqueue.2 (.inl hk)
  · exact hk

/-- The owner to whom the lock is given goes on. -/
theorem mem_queue_of_granted (hl : w.registry.lock.release.holder = some (.owner j)) :
    (j, .worker) ∈ w.release.queue := by
  unfold release
  simp only [hl]
  exact mem_queue_enqueue.2 (.inr rfl)

/-- Making a path active may have its supervisor stand in line. -/
theorem build_clock (w : Server) (name : String) (m : Match) (query : String) :
    (w.build name m query).1.now = w.now ∧ (w.build name m query).1.alarms = w.alarms ∧
      w.queue ⊆ (w.build name m query).1.queue := by
  have horigin : ∀ (u : Server) (id : Nat) (v : Server) (o : Origin),
      u.originate name id m query = .ok (v, o) →
        v.now = u.now ∧ v.alarms = u.alarms ∧ u.queue ⊆ v.queue := by
    intro u id v o ho
    unfold originate at ho
    simp only at ho
    split at ho
    · unfold pull at ho
      simp only at ho
      cases hc : Supervisor.create u.now m.entry m.groups u.registry.store.current.options
          (u.registry.factory.factory id) u.registry.pause with
      | error e =>
        rw [hc] at ho
        cases ho
      | ok s =>
        rw [hc] at ho
        cases ho
        obtain ⟨hn, ha⟩ := clock_modify (u.addHost s (.path name id)) u.hosts.length
          (·.start m.entry.settings.sourceOnDemand query)
        refine ⟨hn, ha, fun k hk => ?_⟩
        show k ∈ ((u.addHost s (.path name id)).modify _ _).queue
        unfold modify
        split
        · exact hk
        · exact queue_put_subset (u.addHost s (.path name id)) _ _ hk
    · split at ho <;> cases ho <;> exact ⟨rfl, rfl, fun _ hk => hk⟩
  unfold build
  simp only
  split
  · exact ⟨rfl, rfl, fun _ hk => hk⟩
  · rename_i v o ho
    exact horigin (w.setRegistry w.numbered) _ v o ho

theorem clock_release (w : Server) : w.release.now = w.now ∧ w.release.alarms = w.alarms := by
  unfold release
  simp only
  split
  · exact ⟨now_enqueue _ _ _, alarms_enqueue _ _ _⟩
  · exact ⟨rfl, rfl⟩

/-- Considering an announcement takes no time and wakes nobody. -/
theorem clock_consider (w : Server) (name : String) (id : Nat) (a : Announcement) :
    (w.consider name id a).1.now = w.now ∧ (w.consider name id a).1.alarms = w.alarms ∧
      (w.consider name id a).1.queue = w.queue := by
  unfold consider
  split
  · exact ⟨rfl, rfl, rfl⟩
  · exact ⟨rfl, rfl, rfl⟩
  · split <;> exact ⟨rfl, rfl, rfl⟩
  · exact ⟨rfl, rfl, rfl⟩

/-- An owner that attends to a request takes no time and lets nobody leave the line. -/
theorem Attends.clock (ha : Attends w i h name id r v) :
    v.now = w.now ∧ v.alarms = w.alarms ∧ w.queue ⊆ v.queue := by
  have settle : ∀ (u : Server) answer, (u.settleRequest i h r answer).now = u.now ∧
      (u.settleRequest i h r answer).alarms = u.alarms ∧
      u.queue ⊆ (u.settleRequest i h r answer).queue := fun u answer =>
    ⟨(clock_put u i _).1, (clock_put u i _).2, queue_put_subset u i _⟩
  cases ha with
  | closed _ hv => exact hv ▸ settle w _
  | answers _ hv =>
    obtain ⟨hn, ha, hq⟩ := clock_consider w name id r.announcement
    obtain ⟨hn', ha', hq'⟩ := settle (w.consider name id r.announcement).1
      (some (w.consider name id r.announcement).2)
    subst hv
    refine ⟨(clock_release _).1.trans (hn'.trans hn), (clock_release _).2.trans (ha'.trans ha), fun k hk => ?_⟩
    exact mem_queue_release (hq' (hq.symm ▸ hk))
  | yields _ _ hv =>
    obtain ⟨hn, ha, hq⟩ := settle w (some (declined r.announcement))
    subst hv
    exact ⟨(clock_release _).1.trans hn, (clock_release _).2.trans ha, fun k hk => mem_queue_release (hq hk)⟩
  | declines _ _ _ hv => exact hv ▸ settle (w.setRegistry _) _
  | asks _ hv => exact hv ▸ ⟨rfl, rfl, fun _ hk => hk⟩

/-- The owner answers the request, or it gets in line for the lock. -/
theorem Attends.hosts (hw : w.Owned) (hi : w.hosts[i]? = some h) (ha : Attends w i h name id r v) :
    (∃ x, v.hosts = w.hosts.set i (h.settled r (some x))) ∨
      .owner i ∉ w.registry.lock.parties ∧ v.hosts = w.hosts ∧ .owner i ∈ v.registry.lock.parties := by
  cases ha with
  | closed _ hv => exact .inl ⟨_, hv ▸ hosts_settleRequest hw hi rfl r _⟩
  | answers _ hv =>
    exact .inl ⟨_, by rw [hv, hosts_release, hosts_settleRequest hw hi (hosts_consider _ _ _ _)]⟩
  | yields _ _ hv => exact .inl ⟨_, by rw [hv, hosts_release, hosts_settleRequest hw hi rfl]⟩
  | declines _ _ _ hv =>
    have hu : (w.setRegistry { w.registry with lock := w.registry.lock.leave (.owner i) }).hosts = w.hosts := rfl
    exact .inl ⟨_, by rw [hv, hosts_settleRequest hw hi hu]⟩
  | asks hp hv =>
    subst hv
    exact .inr ⟨hp, rfl, (Lock.parties_request _ _).mem_iff.2 (List.mem_cons_self ..)⟩

/-! ## What is known of a supervisor -/

section

variable {P : Supervisor → Prop}

/-- What leaves the hosts alone leaves what is known of a supervisor. -/
theorem known_same (hi : ∃ s, w.supervisor? i = some s ∧ P s) (hh : v.hosts = w.hosts) :
    ∃ s, v.supervisor? i = some s ∧ P s := by
  obtain ⟨s, hs, hP⟩ := hi
  exact ⟨s, by rw [supervisor?, hh, ← supervisor?, hs], hP⟩

/-- It is still so after one supervisor was changed, if that leaves it so of this one. -/
theorem known_set (hi : ∃ s, w.supervisor? i = some s ∧ P s) (hj : w.hosts[j]? = some h)
    (hh : v.hosts = w.hosts.set j ⟨s, h.owner⟩) (hs : j = i → P h.supervisor → P s) :
    ∃ s, v.supervisor? i = some s ∧ P s := by
  obtain ⟨t, ht, hP⟩ := hi
  by_cases hij : j = i
  · subst hij
    refine ⟨s, supervisor?_of_set hj hh, hs rfl ?_⟩
    rw [supervisor?, hj, Option.map_some] at ht
    rwa [Option.some.inj ht]
  · exact ⟨t, (supervisor?_of_set_ne hij hh).trans ht, hP⟩

/-- The same for a change to the supervisor of a number, if there is one. -/
theorem known_modify (hi : ∃ s, w.supervisor? i = some s ∧ P s) (hw : w.Owned)
    {f : Supervisor → Supervisor} (hf : ∀ s, w.supervisor? j = some s → P s → P { f s with effects := [] }) :
    ∃ s, (w.modify j f).supervisor? i = some s ∧ P s := by
  rcases hosts_modify hw j f with ⟨h, hj, hh⟩ | ⟨-, hh⟩
  · exact known_set hi hj hh fun _ => hf _ (by rw [supervisor?, hj, Option.map_some])
  · exact known_same hi hh

/-- A new path leaves what is known of the supervisors that there are. -/
theorem known_build (hi : ∃ s, w.supervisor? i = some s ∧ P s) (hw : w.Owned) (name : String) (m : Match)
    (query : String) : ∃ s, (w.build name m query).1.supervisor? i = some s ∧ P s := by
  obtain ⟨s, hs, hP⟩ := hi
  exact ⟨s, by rw [supervisor?, hosts_build_of_lt hw (lt_of_supervisor? hs), ← supervisor?, hs], hP⟩

end

/-- Only a step of its worker changes what the worker of a supervisor is at. -/
theorem worker_of_step {n : Nat} {s' : Supervisor} (hs : s.step n t = some s') :
    t = .worker ∨ s'.worker = s.worker ∧ s'.cancelled = s.cancelled := by
  cases t with
  | worker => exact .inl rfl
  | execution n =>
    have hframe := Supervisor.frame_stepExecution hs
    exact .inr ⟨congrArg (·.1.worker) hframe, congrArg (·.1.cancelled) hframe⟩
  | courier n =>
    have hframe := Supervisor.courierFrame_stepCourier hs
    exact .inr ⟨congrArg (·.worker) hframe, congrArg (·.cancelled) hframe⟩

/-- A supervisor that is handed settings is at what it was at. -/
theorem worker_reload (s : Supervisor) (entry : Entry) :
    (s.reload entry).worker = s.worker ∧ (s.reload entry).cancelled = s.cancelled := by
  unfold Supervisor.reload
  split <;> exact ⟨rfl, rfl⟩

/-- So is one that is asked to stop. -/
theorem worker_cancel (s : Supervisor) (reason : String) : (s.cancel reason).worker = s.worker := by
  unfold Supervisor.cancel
  split
  · rfl
  · rw [Supervisor.wakeAll_eq]
    rfl

/-! ## Attendance -/

/-- Whoever has to do with the lock does what it takes to get rid of it, and calls are attended to. -/
structure Diligent (w : Server) : Prop where
  /-- Nobody waits for a lock that is free. -/
  fair : w.registry.lock.IsFair
  /-- No owner has to do with the lock twice. -/
  orderly : w.registry.lock.IsOrderly
  /-- An owner has to do with the lock only while it is at a request. -/
  engaged : ∀ j, Party.owner j ∈ w.registry.lock.parties →
    ∃ s r, w.supervisor? j = some s ∧ s.worker = .serving r
  /-- An owner that holds the lock goes on. -/
  granted : ∀ j, w.registry.lock.holder = some (.owner j) → (j, .worker) ∈ w.queue
  /-- An owner that is at a request goes on, or waits for the lock. -/
  pending : ∀ i s r, w.supervisor? i = some s → s.worker = .serving r →
    (i, .worker) ∈ w.queue ∨ .owner i ∈ w.registry.lock.waiting ∧ s.cancelled = false

namespace Diligent

/-- Owners are at the requests that they were at, and go on. -/
theorem keep (hw : w.Diligent) (hl : v.registry.lock = w.registry.lock) (hq : w.queue ⊆ v.queue)
    (he : ∀ i s r, w.supervisor? i = some s → s.worker = .serving r →
      ∃ t, v.supervisor? i = some t ∧ t.worker = .serving r)
    (hp : ∀ i t r, v.supervisor? i = some t → t.worker = .serving r → (i, .worker) ∈ v.queue ∨
      ∃ s, w.supervisor? i = some s ∧ s.worker = .serving r ∧ t.cancelled = s.cancelled) :
    v.Diligent := by
  refine ⟨hl ▸ hw.fair, hl ▸ hw.orderly, fun j hj => ?_, fun j hj => ?_, fun i t r ht hr => ?_⟩
  · rw [hl] at hj
    obtain ⟨s, r, hs, hr⟩ := hw.engaged j hj
    obtain ⟨t, ht, hr⟩ := he j s r hs hr
    exact ⟨t, r, ht, hr⟩
  · rw [hl] at hj
    exact hq (hw.granted j hj)
  · rcases hp i t r ht hr with hin | ⟨s, hs, hr, hc⟩
    · exact .inl hin
    · rw [hl, hc]
      exact (hw.pending i s r hs hr).imp_left (@hq _)

/-- What leaves the lock and the hosts alone keeps owners diligent. -/
theorem same (hw : w.Diligent) (hl : v.registry.lock = w.registry.lock) (hq : w.queue ⊆ v.queue)
    (hh : v.hosts = w.hosts) : v.Diligent := by
  have hsup : ∀ i, v.supervisor? i = w.supervisor? i := fun i => by rw [supervisor?, hh, supervisor?]
  refine hw.keep hl hq (fun i s r hs hr => ⟨s, (hsup i).trans hs, hr⟩) fun i t r ht hr => ?_
  exact .inr ⟨t, (hsup i).symm.trans ht, hr, rfl⟩

/-- One supervisor is changed. -/
theorem set (hw : w.Diligent) (hl : v.registry.lock = w.registry.lock) (hq : w.queue ⊆ v.queue)
    (hi : w.hosts[i]? = some h) (hh : v.hosts = w.hosts.set i ⟨s, h.owner⟩)
    (he : ∀ r, h.supervisor.worker = .serving r → s.worker = .serving r)
    (hp : ∀ r, s.worker = .serving r → (i, .worker) ∈ v.queue ∨
      h.supervisor.worker = .serving r ∧ s.cancelled = h.supervisor.cancelled) : v.Diligent := by
  have hset := supervisor?_of_set hi hh
  have hself : w.supervisor? i = some h.supervisor := by rw [supervisor?, hi, Option.map_some]
  refine hw.keep hl hq (fun j t r ht hr => ?_) fun j t r ht hr => ?_
  · by_cases hij : i = j
    · subst hij
      obtain rfl := Option.some.inj (hself.symm.trans ht)
      exact ⟨s, hset, he r hr⟩
    · exact ⟨t, (supervisor?_of_set_ne hij hh).trans ht, hr⟩
  · by_cases hij : i = j
    · subst hij
      obtain rfl := Option.some.inj (hset.symm.trans ht)
      exact (hp r hr).imp_right fun hr => ⟨_, hself, hr.1, hr.2⟩
    · exact .inr ⟨t, (supervisor?_of_set_ne hij hh).symm.trans ht, hr, rfl⟩

/-- One supervisor is operated. -/
theorem modify (hw : w.Diligent) (howned : w.Owned) {f : Supervisor → Supervisor}
    (he : ∀ s r, w.supervisor? i = some s → s.worker = .serving r → (f s).worker = .serving r)
    (hp : ∀ s r, (f s).worker = .serving r → .wake .worker ∈ (f s).effects ∨
      s.worker = .serving r ∧ (f s).cancelled = s.cancelled) : (w.modify i f).Diligent := by
  have hlock : (w.modify i f).registry.lock = w.registry.lock := by rw [registry_modify]
  rcases modify_cases howned i f with ⟨h, hi, hh, hq⟩ | hsame
  · refine hw.set hlock (fun k hk => (hq k).2 (.inl hk)) hi hh (fun r hr => ?_) fun r hr => ?_
    · exact he _ r (by rw [supervisor?, hi, Option.map_some]) hr
    · exact (hp _ r hr).imp_left fun hwake => (hq _).2 (.inr ⟨rfl, hwake⟩)
  · rw [hsame]
    exact hw

/-- The lock is given back by someone who is at no request any longer. -/
theorem release {q : Party} (hw : w.Diligent) (hq : w.registry.lock.isHeldBy q = true)
    (hl : v.registry.lock = w.registry.lock.release) (hline : w.queue ⊆ v.queue)
    (hgrant : ∀ j, v.registry.lock.holder = some (.owner j) → (j, .worker) ∈ v.queue)
    (he : ∀ j s r, .owner j ≠ q → w.supervisor? j = some s → s.worker = .serving r →
      v.supervisor? j = some s)
    (hp : ∀ j s r, v.supervisor? j = some s → s.worker = .serving r → w.supervisor? j = some s) :
    v.Diligent := by
  have hsteps : Lock.Steps q w.registry.lock v.registry.lock := hl ▸ .release hq
  refine ⟨hsteps.isFair hw.fair, hsteps.isOrderly hw.orderly, fun j hj => ?_, hgrant, fun j s r hs hr => ?_⟩
  · have hne : Party.owner j ≠ q := by
      rintro rfl
      rw [hl] at hj
      exact Lock.not_mem_parties_release (hw.orderly j) hq hj
    obtain ⟨s, r, hs, hr⟩ := hw.engaged j ((hsteps.mem_iff hne).1 hj)
    exact ⟨s, r, he j s r hne hs hr, hr⟩
  · rcases hw.pending j s r (hp j s r hs hr) hr with hin | ⟨hin, hc⟩
    · exact .inl (hline hin)
    · -- whoever waited waits still, or has got the lock
      have hmem : Party.owner j ∈ v.registry.lock.parties := by
        rw [hl, Lock.parties_release]
        exact hin
      rcases List.mem_append.1 hmem with hmem | hmem
      · exact .inl (hgrant j (Option.mem_toList.1 hmem))
      · exact .inr ⟨hmem, hc⟩

/-! ### Those who operate the server -/

/-- Whoever asks for the lock waits behind the others. -/
theorem request (hw : w.Diligent) :
    (w.setRegistry { w.registry with lock := w.registry.lock.request .operator }).Diligent := by
  have hmem : ∀ {q : Party}, q ∈ w.registry.lock.waiting →
      q ∈ (w.registry.lock.request .operator).waiting := by
    intro q hq
    unfold Lock.request
    split
    · exact hq
    · exact List.mem_append_left _ hq
  refine ⟨Lock.isFair_request _ _, Lock.isOrderly_request hw.orderly (.inr rfl), fun j hj => ?_,
    fun j hj => ?_, fun i s r hs hr => (hw.pending i s r hs hr).imp_right fun hin => ⟨hmem hin.1, hin.2⟩⟩
  · have hj : Party.owner j ∈ .operator :: w.registry.lock.parties :=
      (Lock.parties_request w.registry.lock .operator).mem_iff.1 hj
    exact hw.engaged j ((List.mem_cons.1 hj).resolve_left nofun)
  · refine hw.granted j ?_
    change (w.registry.lock.request .operator).holder = _ at hj
    unfold Lock.request at hj
    split at hj
    · cases hj
    · exact hj

/-- A new path comes with a worker that serves nothing yet. -/
theorem build (hw : w.Diligent) (howned : w.Owned) (name : String) (m : Match) (query : String) :
    (w.build name m query).1.Diligent := by
  obtain ⟨-, -, hqueue⟩ := build_clock w name m query
  have hlock := lock_build howned name m query
  obtain ⟨ms, hb⟩ := built_of_build howned name m query
  generalize (w.build name m query).1 = v at hb hqueue hlock ⊢
  generalize (w.build name m query).2 = result at hb
  cases hb with
  | failed hh | redirected _ _ hh | published _ _ hh => exact hw.same hlock hqueue hh
  | @pulled s hs hh =>
    have hold : ∀ {j t}, w.supervisor? j = some t → v.supervisor? j = some t := fun {j t} ht => by
      rw [supervisor?, hh, List.getElem?_append_left (lt_of_supervisor? ht)]
      exact ht
    refine hw.keep hlock hqueue (fun j t r ht hr => ⟨t, hold ht, hr⟩) fun j t r ht hr => ?_
    rw [supervisor?, hh] at ht
    by_cases hj : j < w.hosts.length
    · rw [List.getElem?_append_left hj] at ht
      exact .inr ⟨t, ht, hr, rfl⟩
    · -- the worker of a supervisor that was just started has not begun
      rw [List.getElem?_append_right (Nat.le_of_not_lt hj)] at ht
      obtain ⟨x, hx, rfl⟩ := Option.map_eq_some_iff.1 ht
      obtain rfl := List.mem_singleton.1 (List.mem_of_getElem? hx)
      obtain ⟨kind, source, -, rfl⟩ := Supervisor.create_eq hs
      cases hr

/-- Settings that are sent out ask for no lock. -/
theorem reload (hw : w.Diligent) (howned : w.Owned) (i : Nat) (entry : Entry) :
    (w.reload i entry).Diligent := by
  refine hw.modify howned (fun s r _ hr => (worker_reload s entry).1.trans hr) fun s r hr => .inr ?_
  exact ⟨(worker_reload s entry).1.symm.trans hr, (worker_reload s entry).2⟩

/-- An owner whose source is being stopped goes on as it was. -/
theorem cancel (hw : w.Diligent) (howned : w.Owned) (i : Nat) (reason : String) :
    (w.modify i (·.cancel reason)).Diligent := by
  refine hw.modify howned (fun s r _ hr => (worker_cancel s reason).trans hr) fun s r hr => ?_
  rw [worker_cancel] at hr
  unfold Supervisor.cancel
  split
  · exact .inr ⟨hr, rfl⟩
  · refine .inl ?_
    rw [Supervisor.wakeAll_eq]
    refine List.mem_append_right _ (List.mem_map_of_mem ?_)
    exact List.mem_append_right _ (List.mem_cons_self ..)

/-- A supervisor that is done serves nothing, so it may rest. -/
theorem rest (hw : w.Diligent) (howned : w.Owned) (hd : isDone i w = true) :
    (w.modify i (·.rest)).Diligent := by
  refine hw.modify howned (fun s r hs hr => ?_) fun s r hr => by cases hr
  rw [isDone, hs] at hd
  simp [Supervisor.isDone, hr, WorkerState.isAlive] at hd

/-- Whoever has the lock next goes on. -/
theorem pass (hw : w.Diligent) (hl : w.registry.lock.isHeldBy .operator = true) : w.release.Diligent := by
  have hsup : ∀ j, w.release.supervisor? j = w.supervisor? j := fun j => by
    rw [supervisor?, hosts_release, supervisor?]
  refine hw.release hl (by rw [registry_release]) (fun k hk => mem_queue_release hk) (fun j hj => ?_)
    (fun j s r _ hs _ => (hsup j).trans hs) fun j s r hs _ => (hsup j).symm.trans hs
  rw [registry_release] at hj
  exact mem_queue_of_granted hj

/-! ### Stirs -/

/-- A supervisor takes a step of its own. -/
theorem own (hw : w.Diligent) (howned : w.Owned) (hq : (i, t) ∈ w.queue) (hi : w.hosts[i]? = some h)
    (hs : h.supervisor.step w.now t = some s) : (w.put i ⟨s, h.owner⟩).Diligent := by
  -- only the worker goes from one request to another, and it stands in line
  have hworker := worker_of_step hs
  refine hw.set (by rw [registry_put]) (queue_put_subset w i _) hi (hosts_put howned hi s)
    (fun r hr => ?_) fun r hr => ?_
  · rcases hworker with rfl | ⟨hsame, -⟩
    · simp [Supervisor.step, Supervisor.stepWorker, hr] at hs
    · exact hsame.trans hr
  · rcases hworker with rfl | ⟨hsame, hcancel⟩
    · exact .inl (queue_put_subset w i _ hq)
    · exact .inr ⟨hsame.symm.trans hr, hcancel⟩

/-- An owner that holds the lock answers the request that it is at, and gives the lock back. -/
theorem settle_release {u : Server} {answer : Option Answer} (hw : w.Diligent) (howned : w.Owned)
    (hl : w.registry.lock.isHeldBy (.owner i) = true) (hi : w.hosts[i]? = some h) (hu : u.hosts = w.hosts)
    (hlock : u.registry.lock = w.registry.lock) (hqueue : w.queue ⊆ v.queue)
    (hv : v = (u.settleRequest i h r answer).release) : v.Diligent := by
  have hhosts : v.hosts = w.hosts.set i (h.settled r answer) := by
    rw [hv, hosts_release, hosts_settleRequest howned hi hu]
  have hsettled : (u.settleRequest i h r answer).registry.lock = w.registry.lock := by
    rw [registry_settleRequest]
    exact hlock
  have hvlock : v.registry.lock = w.registry.lock.release := by
    rw [hv, registry_release]
    exact congrArg Lock.release hsettled
  refine hw.release hl hvlock hqueue (fun j hj => ?_) (fun j t r' hne ht _ => ?_) fun j t r' ht hr' => ?_
  · rw [hvlock] at hj
    rw [hv]
    refine mem_queue_of_granted ?_
    rw [hsettled]
    exact hj
  · have hij : i ≠ j := by
      rintro rfl
      exact hne rfl
    rw [supervisor?_of_set_ne hij hhosts]
    exact ht
  · by_cases hij : i = j
    · subst hij
      obtain rfl := Option.some.inj ((supervisor?_of_set hi hhosts).symm.trans ht)
      cases hr'
    · rw [supervisor?_of_set_ne hij hhosts] at ht
      exact ht

/-- An owner that waits for the lock answers the request that it is at, and leaves the line. -/
theorem withdraw {answer : Option Answer} (hw : w.Diligent) (hp : .owner i ∈ w.registry.lock.waiting)
    (hi : w.hosts[i]? = some h) (hhosts : v.hosts = w.hosts.set i (h.settled r answer))
    (hlock : v.registry.lock = w.registry.lock.leave (.owner i)) (hqueue : w.queue ⊆ v.queue) :
    v.Diligent := by
  have hsteps : Lock.Steps (.owner i) w.registry.lock v.registry.lock := hlock ▸ .leave hp
  refine ⟨hsteps.isFair hw.fair, hsteps.isOrderly hw.orderly, fun j hj => ?_, fun j hj => ?_,
    fun j t r' ht hr' => ?_⟩
  · have hij : i ≠ j := by
      rintro rfl
      rw [hlock] at hj
      exact Lock.not_mem_parties_leave (hw.orderly i) hp hj
    have hne : Party.owner j ≠ .owner i := fun heq => hij (Party.owner.inj heq).symm
    obtain ⟨t, r', ht, hr'⟩ := hw.engaged j ((hsteps.mem_iff hne).1 hj)
    exact ⟨t, r', (supervisor?_of_set_ne hij hhosts).trans ht, hr'⟩
  · rw [hlock] at hj
    exact hqueue (hw.granted j hj)
  · by_cases hij : i = j
    · subst hij
      obtain rfl := Option.some.inj ((supervisor?_of_set hi hhosts).symm.trans ht)
      cases hr'
    · rw [supervisor?_of_set_ne hij hhosts] at ht
      have hne : Party.owner j ≠ .owner i := fun heq => hij (Party.owner.inj heq).symm
      refine (hw.pending j t r' ht hr').imp (@hqueue _) fun hin => ⟨?_, hin.2⟩
      rw [hlock]
      exact (List.mem_erase_of_ne hne).2 hin.1

/-- An owner that is at a request asks for the lock. -/
theorem ask (hw : w.Diligent) (hq : (i, .worker) ∈ w.queue) (hi : w.supervisor? i = some s)
    (hs : s.worker = .serving r) (hp : .owner i ∉ w.registry.lock.parties) (hh : v.hosts = w.hosts)
    (hlock : v.registry.lock = w.registry.lock.request (.owner i)) (hqueue : w.queue ⊆ v.queue) :
    v.Diligent := by
  have hsteps : Lock.Steps (.owner i) w.registry.lock v.registry.lock := hlock ▸ .request hp
  have hsup : ∀ j, v.supervisor? j = w.supervisor? j := fun j => by rw [supervisor?, hh, supervisor?]
  refine ⟨hsteps.isFair hw.fair, hsteps.isOrderly hw.orderly, fun j hj => ?_, fun j hj => ?_,
    fun j t r' ht hr' => ?_⟩
  · rw [hsup]
    by_cases hij : i = j
    · subst hij
      exact ⟨s, r, hi, hs⟩
    · have hne : Party.owner j ≠ .owner i := fun heq => hij (Party.owner.inj heq).symm
      exact hw.engaged j ((hsteps.mem_iff hne).1 hj)
  · refine hqueue ?_
    rw [hlock, Lock.request] at hj
    split at hj
    · obtain rfl := Party.owner.inj (Option.some.inj hj)
      exact hq
    · exact hw.granted j hj
  · refine (hw.pending j t r' ((hsup j).symm.trans ht) hr').imp (@hqueue _) fun hin => ⟨?_, hin.2⟩
    rw [hlock, Lock.request]
    split
    · exact hin.1
    · exact List.mem_append_left _ hin.1

/-- An owner that attends to a request stays diligent, and so do the others. -/
theorem serve (hw : w.Diligent) (hord : w.Assigned) (hq : (i, .worker) ∈ w.queue)
    (hi : w.hosts[i]? = some h) (hs : h.supervisor.worker = .serving r)
    (ha : Attends w i h name id r v) : v.Diligent := by
  have howned := hord.tidy.owned
  obtain ⟨-, -, hqueue⟩ := ha.clock
  cases ha with
  | closed hr =>
    rw [Registry.isReachable, hord.isOpen] at hr
    cases hr
  | answers hl hv =>
    exact hw.settle_release howned hl hi (hosts_consider _ _ _ _) (lock_consider _ _ _ _) hqueue hv
  | yields hl _ hv => exact hw.settle_release howned hl hi rfl rfl hqueue hv
  | declines _ hp _ hv =>
    have hu : (w.setRegistry { w.registry with lock := w.registry.lock.leave (.owner i) }).hosts = w.hosts := rfl
    refine hw.withdraw hp hi (by rw [hv, hosts_settleRequest howned hi hu]) ?_ hqueue
    rw [hv, registry_settleRequest]
    rfl
  | asks hp hv =>
    subst hv
    have hself : w.supervisor? i = some h.supervisor := by rw [supervisor?, hi, Option.map_some]
    exact hw.ask hq hself hs hp rfl rfl hqueue

/-- An owner that stands in line only leaves it to wait for the lock. -/
theorem park (hw : w.Diligent) (howned : w.Owned) (ht : w.stepTask i t = none) :
    ({ w with queue := w.queue.erase (i, t) } : Server).Diligent := by
  have hwaits : ∀ j s r, w.supervisor? j = some s → s.worker = .serving r → (j, Task.worker) = (i, t) →
      .owner j ∈ w.registry.lock.waiting ∧ w.registry.lock.isHeldBy (.owner j) = false ∧
        s.cancelled = false := by
    rintro j s r hs hr heq
    cases heq
    obtain ⟨h, hi, rfl⟩ := Option.map_eq_some_iff.1 hs
    obtain ⟨name, id, ho⟩ := howned.of_getElem? hi
    rw [stepTask_serving hi ho hr] at ht
    exact servePath_eq_none ht
  refine ⟨hw.fair, hw.orderly, hw.engaged, fun j hj => ?_, fun j s r hs hr => ?_⟩
  · have hheld : w.registry.lock.isHeldBy (.owner j) = true := Lock.isHeldBy_iff.2 hj
    obtain ⟨s, r, hs, hr⟩ := hw.engaged j (Lock.mem_parties_of_isHeldBy hheld)
    have hne : (j, Task.worker) ≠ (i, t) := fun heq => by
      rw [(hwaits j s r hs hr heq).2.1] at hheld
      cases hheld
    exact (List.mem_erase_of_ne hne).2 (hw.granted j hj)
  · by_cases heq : (j, Task.worker) = (i, t)
    · obtain ⟨hin, -, hc⟩ := hwaits j s r hs hr heq
      exact .inr ⟨hin, hc⟩
    · exact (hw.pending j s r hs hr).imp_left (List.mem_erase_of_ne heq).2

/-- The passage of time puts tasks in line and takes none out. -/
theorem queue_passTo_subset (w : Server) (n : Nat) : w.queue ⊆ (w.passTo n).queue := by
  have hfold : ∀ (as : List Alarm) (u : Server), u.queue ⊆
      (as.foldl (fun w a => w.enqueue a.host a.task) u).queue := by
    intro as
    induction as with
    | nil => exact fun u _ hk => hk
    | cons a as ih => exact fun u k hk => ih _ (mem_queue_enqueue.2 (.inl hk))
  exact hfold _ { w with now := n, alarms := _ }

/-- A stir keeps owners diligent. -/
theorem stir (hw : w.Diligent) (hord : w.Assigned) (hs : Stir w v) : v.Diligent := by
  have howned := hord.tidy.owned
  cases hs with
  | @task i t u hq ht =>
    have hu : u.Diligent := by
      cases acts_of_stepTask howned ht with
      | own hi hs hv =>
        rw [hv]
        exact hw.own howned hq hi hs
      | serve hi _ hserving ht ha =>
        subst ht
        exact hw.serve hord hq hi hserving ha
    have hqueue : (u.hosts[i]?.elim u (u.setAlarms i)).queue = u.queue := by
      cases u.hosts[i]? <;> rfl
    exact hu.same (by rw [registry_elim_setAlarms]) (fun k hk => hqueue ▸ hk) (hosts_elim_setAlarms u i)
  | park _ ht => exact hw.park howned ht
  | @pass n =>
    exact hw.same (by rw [registry_passTo]) (queue_passTo_subset w n) (hosts_passTo w n)
  | relist => exact hw.same rfl (fun _ hk => hk) rfl

/-- So does a moment with any number of operators. -/
theorem bustle (hw : w.Diligent) (hord : w.Assigned) (hb : Bustle w v) : v.Diligent := by
  have howned := hord.tidy.owned
  cases hb with
  | stir hs => exact hw.stir hord hs
  | record | send | replace | remove | clear | amend => exact hw.same rfl (fun _ hk => hk) rfl
  | request => exact hw.request
  | release hl => exact hw.pass hl
  | inform i entry => exact hw.reload howned i entry
  | cancel _ reason => exact hw.cancel howned _ reason
  | rest _ hd => exact hw.rest howned hd
  | build => exact hw.build howned _ _ _

/-- The owner that holds the lock can go on. -/
theorem holder_goes (hw : w.Diligent) (howned : w.Owned)
    (hl : w.registry.lock.holder = some (.owner j)) :
    (j, .worker) ∈ w.queue ∧ (w.stepTask j .worker).isSome = true := by
  have hheld : w.registry.lock.isHeldBy (.owner j) = true := Lock.isHeldBy_iff.2 hl
  refine ⟨hw.granted j hl, ?_⟩
  obtain ⟨s, r, hs, hr⟩ := hw.engaged j (Lock.mem_parties_of_isHeldBy hheld)
  obtain ⟨h, hi, rfl⟩ := Option.map_eq_some_iff.1 hs
  obtain ⟨name, id, ho⟩ := howned.of_getElem? hi
  rw [stepTask_serving hi ho hr, Option.isSome_iff_ne_none]
  intro hnone
  rw [(servePath_eq_none hnone).2.1] at hheld
  cases hheld

end Diligent

/-- Owners stay diligent whatever happens in an operation. -/
theorem kept_diligent (may : Touch → Prop) : Kept may fun x => x.server.Diligent :=
  kept_of_bustle (fun hord hb hw => hw.bustle hord hb) may

/-- On a fresh server nobody waits for the lock. -/
theorem diligent_fresh (store : Store) (factory : Workshop) (pause : Nat) :
    (fresh store factory pause).Diligent :=
  ⟨fun _ => rfl, fun _ => Nat.zero_le _, fun j hj => absurd hj List.not_mem_nil, nofun,
    fun i s r hs => by cases hs⟩

end Server

end MediaPaths
