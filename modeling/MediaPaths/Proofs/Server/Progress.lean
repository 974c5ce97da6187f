import MediaPaths.Proofs.Server.Attendance
import MediaPaths.Proofs.Supervision.Heeding

/-!
# A stop never hangs

Whoever operates a server waits for the lock of the active paths, or for the end of a worker while it may be
holding that lock. The owner of a worker may be waiting for the lock, and the source for its owner. Still
someone can always go on: the owner that holds the lock does, and so does a worker that is being stopped, or its
execution does, at the latest when the time has come that it sits out.
-/

namespace MediaPaths

namespace Server

open Relation

variable {w v : Server} {x y : Scene} {i j : Nat} {h : Host} {name : String} {id : Nat} {r : Request}
  {t : Task} {k : Nat × Task} {s : Supervisor} {may : Touch → Prop}

/-! ## Time -/

/-- When a time has come, the tasks stand in line that waited for it. -/
theorem mem_queue_passTo {n : Nat} : k ∈ (w.passTo n).queue ↔
    k ∈ w.queue ∨ ∃ a ∈ w.alarms, a.due ≤ n ∧ (a.host, a.task) = k := by
  have hfold : ∀ (as : List Alarm) (u : Server),
      k ∈ (as.foldl (fun w a => w.enqueue a.host a.task) u).queue ↔
        k ∈ u.queue ∨ ∃ a ∈ as, (a.host, a.task) = k := by
    intro as
    induction as with
    | nil => simp
    | cons a as ih =>
      intro u
      rw [List.foldl_cons, ih, mem_queue_enqueue, or_assoc, List.exists_mem_cons_iff, @eq_comm _ k]
  unfold passTo
  rw [List.partition_eq_filter_filter]
  refine (hfold _ _).trans (or_congr_right ?_)
  simp only [List.mem_filter, decide_eq_true_eq, and_assoc]

/-- Time passes to what it was told, and the alarms that are due by then go off. -/
theorem clock_passTo (w : Server) (n : Nat) : (w.passTo n).now = n ∧
    (w.passTo n).alarms = w.alarms.filter fun a => !decide (a.due ≤ n) := by
  have hfold : ∀ (as : List Alarm) (u : Server),
      (as.foldl (fun w a => w.enqueue a.host a.task) u).now = u.now ∧
        (as.foldl (fun w a => w.enqueue a.host a.task) u).alarms = u.alarms := by
    intro as
    induction as with
    | nil => exact fun u => ⟨rfl, rfl⟩
    | cons a as ih =>
      intro u
      rw [List.foldl_cons, (ih _).1, (ih _).2, now_enqueue, alarms_enqueue]
      exact ⟨rfl, rfl⟩
  unfold passTo
  rw [List.partition_eq_filter_filter]
  exact hfold _ _

/-- A task that has to wait for its owner has to wait for itself, too. -/
theorem step_eq_none (hs : w.supervisor? i = some s) (ht : w.stepTask i t = none) :
    s.step w.now t = none := by
  obtain ⟨h, hi, rfl⟩ := Option.map_eq_some_iff.1 hs
  simp only [stepTask, hi] at ht
  split at ht
  · rename_i hr
    simp only [Supervisor.step, Supervisor.stepWorker, hr]
  · exact Option.map_eq_none_iff.1 ht

/-! ## Timers -/

/-- A cancellation sets no timer. -/
theorem timers_cancel (s : Supervisor) (reason : String) : (s.cancel reason).timers = s.timers := by
  unfold Supervisor.cancel
  split
  · rfl
  · rw [Supervisor.wakeAll_eq]
    simp only [Supervisor.timers, Supervisor.executions, Supervisor.mapExecutions, Option.toList_map,
      ← List.map_append, List.filterMap_map]
    rfl

theorem timers_reload (s : Supervisor) (entry : Entry) : (s.reload entry).timers = s.timers := by
  unfold Supervisor.reload
  split <;> rfl

/-! ## Nobody is forgotten -/

/-- Nobody is forgotten whose supervisor is being stopped, and alarms are set for all who wait for a time. -/
structure Alert (w : Server) : Prop where
  /-- Stops are heeded. -/
  heeds : ∀ i s, w.supervisor? i = some s → s.Heeds (fun t => (i, t) ∈ w.queue) w.now
  /-- Alarms are set. -/
  alarms : ∀ i s, w.supervisor? i = some s → ∀ x ∈ s.timers, w.now < x.1 → ⟨x.1, i, x.2⟩ ∈ w.alarms

namespace Alert

/-- What leaves the hosts and the time alone keeps the alarms set. -/
theorem same (hw : w.Alert) (hh : v.hosts = w.hosts) (hn : v.now = w.now) (ha : v.alarms = w.alarms)
    (hq : w.queue ⊆ v.queue) : v.Alert := by
  have hsup : ∀ i, v.supervisor? i = w.supervisor? i := fun i => by rw [supervisor?, hh, supervisor?]
  refine ⟨fun i s hs => ?_, fun i s hs x hx hlt => ?_⟩
  · rw [hn]
    exact (hw.heeds i s ((hsup i).symm.trans hs)).mono fun k hk => hq hk
  · rw [ha]
    exact hw.alarms i s ((hsup i).symm.trans hs) x hx (hn ▸ hlt)

/-- One supervisor is changed. -/
theorem set (hw : w.Alert) (hi : w.hosts[i]? = some h) (hh : v.hosts = w.hosts.set i ⟨s, h.owner⟩)
    (hn : v.now = w.now) (hq : w.queue ⊆ v.queue) (hs : s.Heeds (fun t => (i, t) ∈ v.queue) w.now)
    (ha : ∀ a ∈ w.alarms, a.host ≠ i → a ∈ v.alarms)
    (ht : ∀ x ∈ s.timers, w.now < x.1 → ⟨x.1, i, x.2⟩ ∈ v.alarms) : v.Alert := by
  have hset := supervisor?_of_set hi hh
  refine ⟨fun j u hu => ?_, fun j u hu x hx hlt => ?_⟩
  · rw [hn]
    by_cases hij : i = j
    · subst hij
      obtain rfl := Option.some.inj (hset.symm.trans hu)
      exact hs
    · rw [supervisor?_of_set_ne hij hh] at hu
      exact (hw.heeds j u hu).mono fun k hk => hq hk
  · rw [hn] at hlt
    by_cases hij : i = j
    · subst hij
      obtain rfl := Option.some.inj (hset.symm.trans hu)
      exact ht x hx hlt
    · rw [supervisor?_of_set_ne hij hh] at hu
      exact ha _ (hw.alarms j u hu x hx hlt) (Ne.symm hij)

/-- One supervisor is operated, and none of its tasks begins to wait for a time. -/
theorem modify (hw : w.Alert) (howned : w.Owned) {f : Supervisor → Supervisor}
    (ht : ∀ s, (f s).timers ⊆ s.timers)
    (hf : ∀ (inLine inLine' : Task → Prop) s, s.Heeds inLine w.now → (∀ k, inLine k → inLine' k) →
      (∀ k, .wake k ∈ (f s).effects → inLine' k) → (f s).Heeds inLine' w.now) :
    (w.modify i f).Alert := by
  rcases modify_cases howned i f with ⟨h, hi, hh, hq⟩ | hsame
  · obtain ⟨hn, ha⟩ := clock_modify w i f
    have hself : w.supervisor? i = some h.supervisor := by rw [supervisor?, hi, Option.map_some]
    have hline : w.queue ⊆ (w.modify i f).queue := fun k hk => (hq k).2 (.inl hk)
    have hheeds := hf _ _ _ (hw.heeds i _ hself) (fun k hk => hline hk)
      fun k hk => (hq (i, k)).2 (.inr ⟨rfl, hk⟩)
    refine hw.set hi hh hn hline ?_ (fun a hmem _ => ha ▸ hmem) fun x hx hlt => ?_
    · exact ⟨hheeds.warned, hheeds.worker, hheeds.execution⟩
    · rw [ha]
      exact hw.alarms i _ hself x (ht _ hx) hlt
  · rw [hsame]
    exact hw

/-- A new path has no timer yet. -/
theorem build (hw : w.Alert) (howned : w.Owned) (name : String) (m : Match) (query : String) :
    (w.build name m query).1.Alert := by
  obtain ⟨hn, ha, hqueue⟩ := build_clock w name m query
  obtain ⟨ms, hb⟩ := built_of_build howned name m query
  generalize (w.build name m query).1 = v at hb hn ha hqueue ⊢
  generalize (w.build name m query).2 = result at hb
  cases hb with
  | failed hh | redirected _ _ hh | published _ _ hh => exact hw.same hh hn ha hqueue
  | @pulled s hs hh =>
    -- a supervisor that was just started is not being stopped, and none of its tasks waits for a time
    have hold : ∀ j t, v.supervisor? j = some t →
        w.supervisor? j = some t ∨ t.cancelled = false ∧ t.timers = [] := by
      intro j t ht
      rw [supervisor?, hh] at ht
      by_cases hj : j < w.hosts.length
      · rw [List.getElem?_append_left hj] at ht
        exact .inl ht
      · rw [List.getElem?_append_right (Nat.le_of_not_lt hj)] at ht
        obtain ⟨x, hx, rfl⟩ := Option.map_eq_some_iff.1 ht
        obtain rfl := List.mem_singleton.1 (List.mem_of_getElem? hx)
        obtain ⟨kind, source, -, rfl⟩ := Supervisor.create_eq hs
        exact .inr ⟨rfl, rfl⟩
    refine ⟨fun j t ht => ?_, fun j t ht x hx hlt => ?_⟩
    · rcases hold j t ht with ht | ⟨hc, -⟩
      · rw [hn]
        exact (hw.heeds j t ht).mono fun k hk => hqueue hk
      · exact Supervisor.heeds_of_not_cancelled hc
    · rcases hold j t ht with ht | ⟨-, hnone⟩
      · rw [ha]
        exact hw.alarms j t ht x hx (hn ▸ hlt)
      · rw [hnone] at hx
        cases hx

/-- Alarms are set anew for a host that has changed. -/
theorem setAlarms (hw : w.Alert) (hi : w.hosts[i]? = some h) (hh : v.hosts = w.hosts.set i ⟨s, h.owner⟩)
    (hn : v.now = w.now) (ha : v.alarms = w.alarms) (hq : w.queue ⊆ v.queue)
    (hs : s.Heeds (fun t => (i, t) ∈ v.queue) w.now) : (v.hosts[i]?.elim v (v.setAlarms i)).Alert := by
  have hlt := (List.getElem?_eq_some_iff.1 hi).1
  have hself : v.hosts[i]? = some ⟨s, h.owner⟩ := by
    rw [hh, List.getElem?_set_self hlt]
  rw [hself]
  refine hw.set hi hh hn hq hs (fun a hmem hne => ?_) fun x hx htime => ?_
  · refine List.mem_append_left _ (List.mem_filter.2 ⟨ha.symm ▸ hmem, ?_⟩)
    simp [hne]
  · -- whatever alarm was not set is set now
    let kept := v.alarms.filter fun a => a.host != i || (v.alarmsOf i ⟨s, h.owner⟩).contains a
    have hnew : (⟨x.1, i, x.2⟩ : Alarm) ∈ v.alarmsOf i ⟨s, h.owner⟩ := by
      refine List.mem_map.2 ⟨x, List.mem_filter.2 ⟨List.mem_append_left _ hx, ?_⟩, rfl⟩
      rw [hn]
      exact decide_eq_true htime
    by_cases hkept : (⟨x.1, i, x.2⟩ : Alarm) ∈ kept
    · exact List.mem_append_left _ hkept
    · refine List.mem_append_right _ (List.mem_filter.2 ⟨hnew, ?_⟩)
      rw [Bool.not_eq_true', Bool.eq_false_iff]
      exact fun hc => hkept (List.contains_iff_mem.1 hc)

/-- A task in line takes a step. -/
theorem task (hw : w.Alert) (howned : w.Owned) (hq : (i, t) ∈ w.queue) (ht : w.stepTask i t = some v) :
    (v.hosts[i]?.elim v (v.setAlarms i)).Alert := by
  cases acts_of_stepTask howned ht with
  | @own h s hi hs hv =>
    subst hv
    have hself : w.supervisor? i = some h.supervisor := by rw [supervisor?, hi, Option.map_some]
    have hheeds : s.Heeds (fun t => (i, t) ∈ (w.put i ⟨s, h.owner⟩).queue) w.now :=
      (hw.heeds i _ hself).step (fun k hk => queue_put_subset w i _ hk) hq hs fun k hk =>
        mem_queue_put.2 (.inr ⟨rfl, hk⟩)
    exact hw.setAlarms hi (hosts_put howned hi s) (clock_put w i _).1 (clock_put w i _).2
      (queue_put_subset w i _) ⟨hheeds.warned, hheeds.worker, hheeds.execution⟩
  | @serve h name id r hi ho hserving hworker ha =>
    subst hworker
    have hself : w.supervisor? i = some h.supervisor := by rw [supervisor?, hi, Option.map_some]
    obtain ⟨hn, halarms, hsub⟩ := ha.clock
    rcases ha.hosts howned hi with ⟨x, hh⟩ | ⟨-, hh, -⟩
    · have hheeds : (h.supervisor.reply r.number (some x)).resume.Heeds (fun t => (i, t) ∈ v.queue) w.now :=
        (hw.heeds i _ hself).settle (fun k hk => hsub hk) (hsub hq) (some x)
      exact hw.setAlarms hi hh hn halarms hsub ⟨hheeds.warned, hheeds.worker, hheeds.execution⟩
    · have hset : v.hosts = w.hosts.set i ⟨h.supervisor, h.owner⟩ := by
        obtain ⟨hlt, rfl⟩ := List.getElem?_eq_some_iff.1 hi
        rw [hh]
        exact (List.set_getElem_self hlt).symm
      exact hw.setAlarms hi hset hn halarms hsub ((hw.heeds i _ hself).mono fun k hk => hsub hk)

/-- A stir keeps the alarms set. -/
theorem stir (hw : w.Alert) (hord : w.Assigned) (hs : Stir w v) : v.Alert := by
  have howned := hord.tidy.owned
  cases hs with
  | task hq ht => exact hw.task howned hq ht
  | @park i t hq ht =>
    refine ⟨fun j s hs => ?_, hw.alarms⟩
    by_cases hij : j = i
    · subst hij
      refine ((hw.heeds j s hs).park (step_eq_none hs ht)).mono fun k hk => ?_
      exact (List.mem_erase_of_ne fun heq => hk.2 (Prod.mk.inj heq).2).2 hk.1
    · refine (hw.heeds j s hs).mono fun k hk => ?_
      exact (List.mem_erase_of_ne fun heq => hij (Prod.mk.inj heq).1).2 hk
  | @pass n hnow =>
    obtain ⟨hn, ha⟩ := clock_passTo w n
    have hsup : ∀ j, (w.passTo n).supervisor? j = w.supervisor? j := fun j => by
      rw [supervisor?, hosts_passTo, supervisor?]
    refine ⟨fun j s hs => ?_, fun j s hs x hx hlt => ?_⟩
    · rw [hsup] at hs
      rw [hn]
      refine (hw.heeds j s hs).pass (fun k hk => mem_queue_passTo.2 (.inl hk)) fun e he till hact hlt hdue => ?_
      refine mem_queue_passTo.2 (.inr ⟨⟨till, j, .execution e.number⟩, ?_, hdue, rfl⟩)
      refine hw.alarms j s hs (till, .execution e.number) (List.mem_append_left _ ?_) hlt
      refine List.mem_filterMap.2 ⟨e, List.mem_append_left _ (Option.mem_toList.2 he), ?_⟩
      rw [Execution.deadline?, hact]
      rfl
    · rw [hsup] at hs
      rw [hn] at hlt
      rw [ha]
      refine List.mem_filter.2 ⟨hw.alarms j s hs x hx (Nat.lt_of_le_of_lt hnow hlt), ?_⟩
      simpa using hlt
  | relist => exact hw.same rfl rfl rfl fun _ hk => hk

/-- So does a moment with any number of operators. -/
theorem bustle (hw : w.Alert) (hord : w.Assigned) (hb : Bustle w v) : v.Alert := by
  have howned := hord.tidy.owned
  cases hb with
  | stir hs => exact hw.stir hord hs
  | record | request | send | replace | remove | clear | amend =>
    exact hw.same rfl rfl rfl fun _ hk => hk
  | release =>
    exact hw.same (hosts_release w) (clock_release w).1 (clock_release w).2 fun k hk => mem_queue_release hk
  | inform i entry =>
    exact hw.modify howned (fun s => (timers_reload s entry).symm ▸ List.Subset.refl _)
      fun _ _ s hs hline _ => (hs.mono hline).reload entry
  | cancel _ reason =>
    exact hw.modify howned (fun s => (timers_cancel s reason).symm ▸ List.Subset.refl _)
      fun _ _ s hs hline hwake => hs.cancel hline hwake
  | rest => exact hw.modify howned (fun s => List.Subset.refl _) fun _ _ s hs hline _ => (hs.mono hline).rest
  | build => exact hw.build howned _ _ _

end Alert

/-- On a fresh server nothing rests. -/
theorem alert_fresh (store : Store) (factory : Workshop) (pause : Nat) :
    (fresh store factory pause).Alert :=
  ⟨fun i s hs => by simp [fresh, supervisor?] at hs, fun i s hs => by simp [fresh, supervisor?] at hs⟩

/-! ## Waiting comes to an end -/

/-- Someone goes on for whom one waits, unless one need not wait any longer. -/
inductive Onward (w : Server) : Wait → Prop where
  /-- One need not wait any longer. -/
  | over {u : Wait} (h : u.isOver w = true) : Onward w u
  /-- The owner that holds the lock is in line and can take a step. -/
  | holder {j : Nat} (hl : w.registry.lock.holder = some (.owner j)) (hq : (j, .worker) ∈ w.queue)
      (ht : (w.stepTask j .worker).isSome = true) : Onward w .lock
  /-- A task of the supervisor that is being stopped is in line and can take a step. -/
  | task {i : Nat} {t : Task} (hq : (i, t) ∈ w.queue) (ht : (w.stepTask i t).isSome = true) :
      Onward w (.worker i)
  /-- The execution of the supervisor sits out a time, and the alarm for that is set. -/
  | alarm {i till : Nat} {s : Supervisor} {e : Execution} (hs : w.supervisor? i = some s)
      (he : s.execution = some e) (hact : e.activity = .resting till) (hlt : w.now < till)
      (ha : ⟨till, i, .execution e.number⟩ ∈ w.alarms) : Onward w (.worker i)

/-- The holder of the lock goes on. -/
theorem Diligent.onward_lock (hw : w.Diligent) (howned : w.Owned)
    (hp : .operator ∈ w.registry.lock.parties) : Onward w .lock := by
  obtain ⟨q, hq⟩ : ∃ q, w.registry.lock.holder = some q := by
    rcases List.mem_append.1 hp with hholds | hwaits
    · exact ⟨_, Option.mem_toList.1 hholds⟩
    · exact Lock.exists_holder hw.fair hwaits
  cases q with
  | operator => exact .over (Lock.isHeldBy_iff.2 hq)
  | owner j =>
    obtain ⟨hline, ht⟩ := hw.holder_goes howned hq
    exact .holder hq hline ht

/-- A task goes on that its supervisor lets go on, if the owner is not at a request. -/
theorem isSome_stepTask (hi : w.hosts[i]? = some h) (hserving : ∀ r, h.supervisor.worker ≠ .serving r)
    (ht : ∃ s, h.supervisor.step w.now t = some s) : (w.stepTask i t).isSome = true := by
  obtain ⟨s, ht⟩ := ht
  have hstep : w.stepTask i t = some (w.put i ⟨s, h.owner⟩) := by
    simp only [stepTask, hi]
    split
    · exact absurd ‹_› (hserving _)
    · rw [ht]
      rfl
  rw [hstep]
  rfl

/-- While an execution sits out a time, the alarm for that is set. -/
theorem Alert.onward_of_resting {e : Execution} {till : Nat} (hw : w.Alert) (hs : w.supervisor? i = some s)
    (he : s.execution = some e) (hact : e.activity = .resting till) (hlt : w.now < till) :
    Onward w (.worker i) := by
  refine .alarm hs he hact hlt ?_
  refine hw.alarms i s hs (till, .execution e.number) (List.mem_append_left _ ?_) hlt
  refine List.mem_filterMap.2 ⟨e, List.mem_append_left _ (Option.mem_toList.2 he), ?_⟩
  rw [Execution.deadline?, hact]
  rfl

/-- A worker that waits for the end of its execution goes on when that has ended; until then the execution goes
on, or sits out a time. -/
theorem Alert.onward_joining (hw : w.Alert) (hi : w.hosts[i]? = some h) (hcan : h.supervisor.cancelled = true)
    (hworker : h.supervisor.worker = .joining) : Onward w (.worker i) := by
  have hs : w.supervisor? i = some h.supervisor := by rw [supervisor?, hi, Option.map_some]
  have hheeds := hw.heeds i _ hs
  have hserving : ∀ r, h.supervisor.worker ≠ .serving r := by simp [hworker]
  by_cases hdead : ∀ e ∈ h.supervisor.execution, e.isAlive = false
  · have hall : h.supervisor.execution.all (!·.isAlive) = true := by
      rw [Option.all_eq_true]
      intro e he
      simp [hdead e he]
    refine .task (hheeds.worker hcan (.inr (.inr ⟨hworker, hdead⟩))) (isSome_stepTask hi hserving ?_)
    exact ⟨_, by simp only [Supervisor.step, Supervisor.stepWorker, hworker, if_pos hall]; rfl⟩
  · simp only [not_forall, Bool.not_eq_false] at hdead
    obtain ⟨e, he, ha⟩ := hdead
    rcases hheeds.execution hcan e he ha with hin | ⟨till, hact, hlt⟩
    · rcases Supervisor.stepExecution_or_rests w.now (Supervisor.execution?_watched he) ha
        (hheeds.warned hcan e he) with ht | ⟨till, hact, hlt⟩
      · exact .task hin (isSome_stepTask hi hserving ht)
      · exact hw.onward_of_resting hs he hact hlt
    · exact hw.onward_of_resting hs he hact hlt

/-- The supervisor that is being stopped goes on, or its execution sits out a time. -/
theorem Alert.onward_worker (hw : w.Alert) (hd : w.Diligent) (howned : w.Owned)
    (hc : ∀ s, w.supervisor? i = some s → s.cancelled = true ∨ s.isIdle = true) :
    Onward w (.worker i) := by
  by_cases hdone : isDone i w = true
  · exact .over hdone
  obtain ⟨s, hs⟩ : ∃ s, w.supervisor? i = some s := by
    refine Option.ne_none_iff_exists'.1 fun hnone => hdone ?_
    rw [isDone, hnone]
  have halive : s.worker.isAlive = true := by simpa [isDone, hs, Supervisor.isDone] using hdone
  have hcan : s.cancelled = true := by
    refine (hc s hs).resolve_right fun hidle => ?_
    have hworker : s.worker = .idle := by simpa [Supervisor.isIdle] using hidle
    simp [hworker, WorkerState.isAlive] at halive
  have hheeds := hw.heeds i s hs
  obtain ⟨h, hi, rfl⟩ := Option.map_eq_some_iff.1 hs
  cases hworker : h.supervisor.worker with
  | idle | stopped | crashed => simp [hworker, WorkerState.isAlive] at halive
  | spawned =>
    refine .task (hheeds.worker hcan (.inl hworker)) (isSome_stepTask hi (by simp [hworker]) ?_)
    exact ⟨_, by simp only [Supervisor.step, Supervisor.stepWorker, hworker]; rfl⟩
  | selecting =>
    refine .task (hheeds.worker hcan (.inr (.inl hworker))) (isSome_stepTask hi (by simp [hworker]) ?_)
    exact ⟨_, by simp only [Supervisor.step, Supervisor.stepWorker, hworker, Supervisor.select, if_pos hcan]; rfl⟩
  | serving r =>
    -- whoever waits for the lock gives up when the supervisor is being stopped
    obtain ⟨name, id, ho⟩ := howned.of_getElem? hi
    have hq : (i, .worker) ∈ w.queue := by
      refine (hd.pending i _ r hs hworker).resolve_right fun hin => ?_
      rw [hcan] at hin
      cases hin.2
    refine .task hq ?_
    rw [stepTask_serving hi ho hworker, Option.isSome_iff_ne_none]
    intro hnone
    rw [(servePath_eq_none hnone).2.2] at hcan
    cases hcan
  | joining => exact hw.onward_joining hi hcan hworker

/-! ## Several who operate the server -/

/-- A supervisor is asked to stop, or it was laid to rest. -/
def IsStopping (i : Nat) (w : Server) : Prop :=
  ∃ s, w.supervisor? i = some s ∧ (s.cancelled = true ∨ s.isIdle = true)

/-- A supervisor that is cancelled is stopping. -/
theorem isStopping_cancel (hw : w.Owned) (hs : w.supervisor? i = some s) (reason : String) :
    (w.modify i (·.cancel reason)).IsStopping i := by
  obtain ⟨h, hi, rfl⟩ := Option.map_eq_some_iff.1 hs
  rcases hosts_modify hw i (·.cancel reason) with ⟨h', hi', hh⟩ | ⟨hnone, -⟩
  · exact ⟨_, supervisor?_of_set hi' hh, stopping_cancel h'.supervisor reason⟩
  · rw [hi] at hnone
    cases hnone

/-- A supervisor that is asked to stop is never started again. -/
theorem Bustle.isStopping (hb : Bustle w v) (hw : w.Owned) (hi : w.IsStopping i) : v.IsStopping i := by
  cases hb with
  | stir hs =>
    cases hs with
    | @task k t u hq ht =>
      obtain ⟨ms, hturn⟩ := turn_of_stepTask hw ht
      rcases run_of_turn (hturn.congr (hosts_elim_setAlarms u k) (registry_elim_setAlarms u k)) with
        hh | ⟨h, s, hk, hrun, hh, hms⟩
      · exact known_same hi hh
      · have hgentle := fun m hm => Supervisor.gentle_of_routine (hms m hm)
        refine known_set hi hk hh fun _ hc => hc.imp (fun hc => ?_) (Supervisor.continues_of_gentle hgentle hrun).1.idle
        exact Supervisor.cancelled_of_run hc (fun m hm => (hgentle m hm).2) hrun
    | park | relist => exact known_same hi rfl
    | pass => exact known_same hi (hosts_passTo _ _)
  | record | request | send | replace | remove | clear | amend => exact known_same hi rfl
  | release => exact known_same hi (hosts_release w)
  | inform j entry =>
    refine known_modify hi hw fun s _ hs => ?_
    unfold Supervisor.reload
    split <;> exact hs
  | cancel _ reason => exact known_modify hi hw fun s _ _ => stopping_cancel s reason
  | rest => exact known_modify hi hw fun s _ _ => .inr rfl
  | build hn m query => exact known_build hi hw _ m query

/-- It stays so from one moment to the next. -/
theorem Bustles.isStopping (hb : Bustles w v) (hw : w.Assigned) (hi : w.IsStopping i) : v.IsStopping i :=
  hb.keep (fun hord hb h => hb.isStopping hord.tidy.owned h) hw hi

/-- Calls are attended to and stops are heeded, however many people operate the server. -/
theorem Bustles.attentive {store : Store} {factory : Workshop} {pause : Nat}
    (hb : Bustles (fresh store factory pause) w) : w.Assigned ∧ w.Diligent ∧ w.Alert := by
  have hfresh := (inOrder_fresh store factory pause).assigned
  exact ⟨hb.assigned hfresh,
    hb.keep (fun hord hb h => h.bustle hord hb) hfresh (diligent_fresh store factory pause),
    hb.keep (fun hord hb h => h.bustle hord hb) hfresh (alert_fresh store factory pause)⟩

/-- Whatever is asked of a server, and whatever happens meanwhile, one does not wait for ever. As long as what
one waits for is not there, someone goes on: the owner that holds the lock, or a task of the supervisor that is
being stopped, unless its execution sits out a time, and the alarm for that is set. It is the same if several
people operate the server at the same time. They stand in line for the lock with the owners. If one of them holds
it, that one acts, or waits for a supervisor that it has asked to stop, and goes on waiting for it whatever the
others do. -/
theorem stop_never_hangs (store : Store) (factory : Workshop) (pause : Nat) :
    (∀ w u next, ReflTransGen Plan.Next (.fresh store factory pause) (.wait w u next) → Onward w u) ∧
    ∀ w, Bustles (fresh store factory pause) w →
      (.operator ∈ w.registry.lock.parties → Onward w .lock) ∧
      ∀ i s reason v, w.Unclaimed i → w.supervisor? i = some s →
        Bustles (w.modify i (·.cancel reason)) v → Onward v (.worker i) := by
  refine ⟨fun w u next hk => ?_, fun w hb => ?_⟩
  · obtain ⟨x, -, hstand⟩ := (standing_fresh store factory pause).nexts hk
    obtain ⟨hw, hsuits, -⟩ := hstand.poised
    obtain ⟨hord, hdiligent, halert⟩ : w.Assigned ∧ w.Diligent ∧ w.Alert :=
      (bustles_nexts store factory pause hk).attentive
    cases u with
    | lock => exact hdiligent.onward_lock hord.tidy.owned (hw ▸ hsuits)
    | worker i =>
      refine halert.onward_worker hdiligent hord.tidy.owned ?_
      rw [← hw]
      exact hsuits.2
  · obtain ⟨hord, hdiligent, -⟩ := hb.attentive
    refine ⟨hdiligent.onward_lock hord.tidy.owned, fun i s reason v hi hs hv => ?_⟩
    have hcancel : Bustle w (w.modify i (·.cancel reason)) := .cancel hi reason
    obtain ⟨t, ht, hc⟩ := hv.isStopping (hcancel.moment.assigned hord)
      (isStopping_cancel hord.tidy.owned hs reason)
    obtain ⟨hord, hdiligent, halert⟩ := Bustles.attentive (hb.trans (.head hcancel hv))
    refine halert.onward_worker hdiligent hord.tidy.owned fun t' ht' => ?_
    rwa [← Option.some.inj (ht.symm.trans ht')]

/-- A camera is made anew for another address while its owner is about to consider a track that was announced.
Whoever reloads holds the lock and waits for the worker, the worker waits for its owner, and the owner waits for
the lock. -/
theorem stop_never_hangs_reloading :
    let tracks : List Media := [⟨.video, ["H264"]⟩]
    let camera : Workshop := ⟨fun _ _ _ _ => .ok { behaviour := fun _ =>
      [.announce (.ready tracks) true, .awaitStop] }⟩
    let configured (source : String) :=
      ((({} : Configuration).insert "cam" { source := source }).toOption).getD {}
    let idle := Plan.fresh ⟨configured "rtsp://10.0.0.1:554/live"⟩ camera 5000
    let started := (Plan.ofOperation idle.server .start).go.turns 6
    let k := (Plan.ofOperation started.server (.reload (configured "rtsp://10.0.0.2:554/live"))).go.turns 1
    ∃ w next, k = .wait w (.worker 0) next ∧ w.registry.lock = ⟨some .operator, [.owner 0]⟩ ∧
      (w.supervisor? 0).any (fun s => s.cancelled && s.worker.isAlive) = true ∧ Onward w (.worker 0) := by
  intro tracks camera configured idle started k
  have hwaits : (match k with
      | .wait w (.worker 0) _ => w.registry.lock == ⟨some .operator, [.owner 0]⟩ &&
          (w.supervisor? 0).any fun s => s.cancelled && s.worker.isAlive
      | _ => false) = true := by decide +kernel
  have hstarted : ReflTransGen Plan.Next idle started := Plan.nexts_ask rfl .start 6
  have hk : ReflTransGen Plan.Next idle k := hstarted.trans (Plan.nexts_ask (by decide +kernel) (.reload _) 1)
  clear_value k
  revert hk
  split at hwaits
  · rename_i w next
    obtain ⟨hlock, hworker⟩ := Bool.and_eq_true_iff.1 hwaits
    exact fun hk => ⟨w, next, rfl, by simpa using hlock, hworker, (stop_never_hangs _ _ _).1 _ _ _ hk⟩
  · cases hwaits

end Server

end MediaPaths
