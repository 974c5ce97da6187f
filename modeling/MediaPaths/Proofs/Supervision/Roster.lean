import MediaPaths.Proofs.Supervision.Conduct
import MediaPaths.Proofs.Supervision.Cycle
import MediaPaths.Proofs.Supervision.Traffic

/-!
# Executions and what is told of them

As long as its owner does not crash, the worker of a supervisor holds every execution that was launched
and has not ended: one that ended is told of in the chronicle, and any other one is held. `Fares` lists
what a move can do to the execution that is held.
-/

namespace MediaPaths

namespace Supervisor

variable {s t : Supervisor} {now number : Nat} {m : Move} {h : List Happening}

/-! ## Executions that nobody watches -/

theorem orphans_setExecution (ho : s.orphans = []) (e : Execution) :
    (s.setExecution e).orphans = [] := by
  simp [setExecution, mapExecutions, ho]

theorem orphans_of_cast (h : t.cast = s.cast) : t.orphans = s.orphans :=
  congrArg Cast.orphans h

theorem orphans_stepExecution (ho : s.orphans = []) (hs : s.stepExecution now number = some t) :
    t.orphans = [] := by
  obtain ⟨e, -, -, ha⟩ := acts_stepExecution hs
  have hc : ∀ c : Supervisor, c.orphans = c.cast.orphans := fun _ => rfl
  cases ha with
  | goes _ _ _ _ ht | takes _ _ _ _ ht | ends _ _ _ _ _ ht | leaves _ ht =>
    rw [hc, ht]
    simp [Cast.set, Cast.take, Cast.summon, Cast.drop, cast, ho]

theorem orphans_stepCourier (ho : s.orphans = []) (hs : s.stepCourier number = some t) :
    t.orphans = [] := by
  unfold stepCourier at hs
  split at hs
  · cases hs
  · split at hs
    · unfold deliver at hs
      split at hs
      · cases hs
        exact ho
      · split at hs
        · cases hs
          exact ho
        · split at hs <;> cases hs
          exact ho
    · split at hs
      · unfold forward at hs
        split at hs
        · cases hs
          exact ho
        · split at hs
          · cases hs
            exact orphans_setExecution ho _
          · split at hs <;> cases hs
            exact orphans_setExecution ho _
      · cases hs
        exact ho

theorem orphans_reply (ho : s.orphans = []) (number : Nat) (answer : Option Answer) :
    (s.reply number answer).orphans = [] := by
  simp [reply, wakeAll_eq, mapExecutions, ho]

theorem orphans_discardRequests (ho : s.orphans = []) : s.discardRequests.orphans = [] := by
  unfold discardRequests
  cases s.readyBox.take? with
  | some x =>
    have hr := orphans_reply (s := { s with readyBox := x.2.1 }) ho x.1.number (some .terminated)
    simp only [wakeAny_eq]
    split
    · exact orphans_reply (by exact hr) _ _
    · exact hr
  | none =>
    simp only [wakeAny_eq]
    split
    · exact orphans_reply (by exact ho) _ _
    · exact ho

theorem orphans_of_works (ho : s.orphans = []) (hw : Works now s t) : t.orphans = [] := by
  have hl : ∀ v : Supervisor, (v.launch now).orphans = v.orphans := by
    intro v
    rcases launch_cases v now with ⟨address, h⟩ | ⟨statistics, effects, h⟩ <;> rw [h] <;> rfl
  cases hw with
  | begin | retry =>
    rw [hl]
    exact ho
  | join | halt => exact ho
  | handleEnd => exact orphans_discardRequests (by exact ho)
  | serve _ _ _ ht =>
    rcases takeRequest?_cases ht with ⟨b, next, -, rfl⟩ | ⟨-, b, next, -, rfl⟩
    · simp only [wakeAny_eq]
      exact ho
    · simp only [wakeAny_eq]
      exact ho
  | reload =>
    unfold handleReload
    simp only [wakeAny_eq]
    split <;> exact ho

/-- Only a crash of the owner leaves an execution to itself. -/
theorem orphans_move (ho : s.orphans = []) (hm : m ≠ .crash) (h : s.move m = some t) :
    t.orphans = [] := by
  cases m with
  | start onDemand query =>
    simp only [move] at h
    split at h <;> cases h
    unfold start
    split <;> exact ho
  | cancel reason =>
    simp only [move] at h
    split at h <;> cases h
    unfold cancel
    split
    · exact ho
    · simp only [wakeAll_eq]
      simp [mapExecutions, log, emit, ho]
  | reload entry =>
    simp only [move] at h
    split at h <;> cases h
    unfold reload
    split <;> exact ho
  | task now k =>
    cases k with
    | worker => exact orphans_of_works ho (works_of_stepWorker h)
    | execution n => exact orphans_stepExecution ho h
    | courier n => exact orphans_stepCourier ho h
  | reply number answer =>
    cases h
    exact orphans_reply ho _ _
  | rest | resume =>
    simp only [move] at h
    split at h <;> cases h
    exact ho
  | crash => exact absurd rfl hm
  | setPause | flush =>
    cases h
    exact ho
  | giveUp number =>
    simp only [move, giveUp] at h
    split at h
    · cases h
    · split at h <;> cases h
      · exact orphans_setExecution ((orphans_of_cast (cast_leaveBox _ _ _)).trans ho) _
      · exact orphans_setExecution ho _
  | aside number a =>
    simp only [move, announceAside] at h
    split at h
    · cases h
    · split at h <;> cases h
      exact (orphans_of_cast (cast_abandon _ _ _)).trans ho

/-! ## Supervisors whose owner has not crashed -/

/-- A supervisor whose owner has not crashed. -/
structure Sound (s : Supervisor) : Prop where
  /-- No execution was left to itself. -/
  orphans : s.orphans = []
  /-- What decides about launches agrees. -/
  consistent : s.control.Consistent
  /-- Its worker has not crashed. -/
  worker : s.control.worker ≠ .crashed
  /-- While no worker goes on, it holds nothing. -/
  watched : s.control.worker = .idle ∨ s.control.worker = .stopped → s.control.watched = none
  /-- Once its worker has ended, it is known to be stopped. -/
  phase : s.control.worker = .stopped ∨ s.control.worker = .idle ∧ s.control.cancelled = true →
    s.control.phase = .stopped

/-- Only a supervisor whose worker has ended is laid to rest. -/
theorem Sound.stopped_of_rest (hs : s.Sound) (h : s.move .rest = some t) :
    s.control.worker = .stopped := by
  simp only [Supervisor.move] at h
  split at h
  · rename_i hd
    cases hw : s.worker with
    | stopped => exact hw
    | crashed => exact absurd hw hs.worker
    | idle | spawned | selecting | serving _ | joining =>
      simp [isDone, isIdle, hw, WorkerState.isAlive] at hd
  · cases h

theorem isIdle_of_cancel {reason : String} (h : s.move (.cancel reason) = some t) :
    s.control.worker ≠ .idle := by
  intro hw
  have hi : s.isIdle = true := by simpa [isIdle, control] using hw
  simp [Supervisor.move, hi] at h

/-- Every move but a crash of the owner keeps a supervisor sound. -/
theorem Sound.move (hs : s.Sound) (hm : m ≠ .crash) (h : s.move m = some t) : t.Sound := by
  have ho := orphans_move hs.orphans hm h
  have hc := consistent_move hs.consistent hm h
  cases steers_of_move h with
  | still _ ht => exact ⟨ho, hc, ht ▸ hs.worker, ht ▸ hs.watched, ht ▸ hs.phase⟩
  | cancel ht =>
    refine ⟨ho, hc, ht ▸ hs.worker, ht ▸ hs.watched, fun hw => ?_⟩
    rw [ht] at hw ⊢
    exact hs.phase (.inl (hw.resolve_right fun hi => isIdle_of_cancel h hi.1))
  | rest ht =>
    have hw := hs.stopped_of_rest h
    rw [ht] at hc
    exact ⟨ho, ht ▸ hc, by simp [ht], fun _ => ht ▸ hs.watched (.inr hw),
      fun _ => ht ▸ hs.phase (.inl hw)⟩
  | halt _ _ ht => exact ⟨ho, hc, by simp [ht], fun _ => by rw [ht], fun _ => by rw [ht]⟩
  | handleEnd hw _ _ ht =>
    have hw : s.control.worker = .selecting := hw
    exact ⟨ho, hc, by simp [ht, hw], fun _ => by rw [ht], fun hd => by simp [ht, hw] at hd⟩
  | start _ ht | launch _ ht | fail _ ht | join _ _ _ ht | serve _ ht | resume _ ht =>
    exact ⟨ho, hc, by simp [ht], fun hd => by simp [ht] at hd, fun hd => by simp [ht] at hd⟩
  | crash => exact absurd rfl hm

theorem sound_create {pause : Nat} {entry : Entry} {groups : Option (List String)}
    {options : SourceOptions} {factory : Factory}
    (hs : create now entry groups options factory pause = .ok s) : s.Sound := by
  have hc := (consistent_create hs).1
  obtain ⟨kind, source, -, rfl⟩ := create_eq hs
  exact ⟨rfl, hc, by simp [control], fun _ => rfl, by simp [control]⟩

/-! ## Supervisors that keep going -/

/-- Whether a move neither asks the supervisor to stop nor is a crash of its owner, and the supervisor
is not laid to rest. -/
def Move.isGentle : Move → Bool
  | .cancel _ | .rest | .crash => false
  | _ => true

theorem crash_notMem_of_gentle {ms : List Move} (hms : ∀ m ∈ ms, m.isGentle = true) :
    .crash ∉ ms := fun h => by cases hms _ h

/-- Gentle moves ask no supervisor to stop. -/
theorem isStopAsked_of_gentle {ms : List Move} (hms : ∀ m ∈ ms, m.isGentle = true) :
    isStopAsked ms = false := by
  unfold isStopAsked
  induction ms with
  | nil => rfl
  | cons m ms ih =>
    rw [List.forall_mem_cons] at hms
    have hm : askedAfter false m = false := by
      cases m with
      | cancel | rest | crash => cases hms.1
      | _ => rfl
    rw [List.foldl_cons, hm, ih hms.2]

/-! ## What becomes of the execution that is held -/

/-- The number of the execution that the worker holds, and whether it has not ended. -/
def held (s : Supervisor) : Option (Nat × Bool) := s.execution.map fun e => (e.number, e.isAlive)

/-- What a move does to the execution that is held, and what is told of it. -/
inductive Fares (s t : Supervisor) : List Happening → Prop where
  /-- It goes on as it did. Only the execution that is held puts requests in mailboxes. -/
  | still {hs : List Happening} (hl : t.held = s.held) (hn : t.launches = s.launches)
      (hq : ∀ n r, .queued n r ∈ hs → ∃ a, s.held = some (n, a)) (he : ∀ n, .ended n ∉ hs) :
      Fares s t hs
  /-- It ends. -/
  | ends {n : Nat} {hs : List Happening} (hs' : s.held = some (n, true))
      (ht : t.held = some (n, false)) (hn : t.launches = s.launches)
      (hq : ∀ k r, .queued k r ∈ hs → k = n) (he : ∀ k, .ended k ∈ hs ↔ k = n) : Fares s t hs
  /-- The next one is launched. -/
  | launch (hs : s.held = none) (ht : t.held = some (s.launches, true))
      (hn : t.launches = s.launches + 1) : Fares s t []
  /-- The worker is done with one that has ended, and with what is left in the mailboxes. -/
  | reap {n : Nat} (hs : s.held = some (n, false)) (ht : t.held = none)
      (hn : t.launches = s.launches) (hl : ∀ a, t.letter a = none) : Fares s t []

theorem held_setExecution {e f : Execution} (hf : s.execution = some f)
    (hn : f.number = e.number) : (s.setExecution e).held = some (e.number, e.isAlive) := by
  simp [held, setExecution, mapExecutions, hf, hn]

theorem held_reply (s : Supervisor) (number : Nat) (answer : Option Answer) :
    (s.reply number answer).held = s.held := by
  simp only [reply, wakeAll_eq, held, mapExecutions, Option.map_map]
  cases s.execution with
  | none => rfl
  | some e =>
    simp only [Option.map_some, Function.comp_apply, hear]
    split
    · rename_i ha
      have hact : e.activity = .listening number none := by simpa [Execution.awaits] using ha
      simp [Execution.isAlive, Execution.result?, hact]
    · rfl

theorem held_of_courierFrame (h : t.courierFrame = s.courierFrame) : t.held = s.held := by
  have hc : ∀ c : Supervisor, c.held = c.courierFrame.held := by
    intro c
    simp only [held, courierFrame, Option.map_map]
    rfl
  rw [hc t, hc s, h]

theorem held_cancel (s : Supervisor) (reason : String) : (s.cancel reason).held = s.held := by
  unfold cancel
  split
  · rfl
  · simp only [wakeAll_eq, held, mapExecutions, log, emit, Option.map_map]
    rfl

theorem launches_cancel (s : Supervisor) (reason : String) :
    (s.cancel reason).launches = s.launches := by
  unfold cancel
  split
  · rfl
  · simp only [wakeAll_eq]
    rfl

theorem launches_of_frame (h : t.frame = s.frame) : t.launches = s.launches := by
  have hl : ∀ c : Supervisor, c.launches = c.frame.1.launches := fun _ => rfl
  rw [hl t, hl s, h]

/-- Where no execution was left to itself, the one of a number is the one that is held. -/
theorem execution_of_execution? (ho : s.orphans = []) {e : Execution}
    (he : s.execution? number = some e) : s.execution = some e := by
  simp only [execution?, executions, ho, List.append_nil] at he
  cases hx : s.execution with
  | none => simp [hx] at he
  | some f =>
    simp only [hx, Option.toList_some, List.find?_cons] at he
    split at he
    · exact he
    · cases he

theorem held_launch (s : Supervisor) (now : Nat) :
    (s.launch now).held = some (s.launches, true) ∧ (s.launch now).launches = s.launches + 1 ∨
      (s.launch now).held = s.held ∧ (s.launch now).launches = s.launches := by
  rcases launch_cases s now with ⟨address, h⟩ | ⟨statistics, effects, h⟩
  · rw [h]
    exact .inl ⟨rfl, rfl⟩
  · rw [h]
    exact .inr ⟨rfl, rfl⟩

theorem held_eq_none (h : s.control.watched = none) : s.held = none := by
  have hx : s.execution = none := by simpa [control] using h
  rw [held, hx, Option.map_none]

/-- Nothing is told of the execution that is held. -/
theorem Fares.silent {hs : List Happening} (hl : t.held = s.held) (hn : t.launches = s.launches)
    (hq : ∀ n r, .queued n r ∉ hs) (he : ∀ n, .ended n ∉ hs) : Fares s t hs :=
  .still hl hn (fun n r hm => absurd hm (hq n r)) he

/-- A launch, when no execution is held. -/
theorem fares_launch {v : Supervisor} (hv : v.held = none ∧ s.held = none)
    (hl : v.launches = s.launches) : Fares s (v.launch now) [] := by
  rcases held_launch v now with ⟨hh, hn⟩ | ⟨hh, hn⟩
  · exact .launch hv.2 (by rw [hh, hl]) (by rw [hn, hl])
  · exact .silent (by rw [hh, hv.1, hv.2]) (hn.trans hl) (by simp) (by simp)

theorem fares_of_works (hs : s.Sound) (hw : Works now s t) :
    Fares s t (s.happenings (.task now .worker) t) := by
  -- of a step of the worker it is told at most that the owner is called
  have htold : ∀ v : Supervisor, (∀ n r, .queued n r ∉ s.happenings (.task now .worker) v) ∧
      ∀ n, .ended n ∉ s.happenings (.task now .worker) v := by
    intro v
    simp only [happenings]
    split <;> simp
  cases hw with
  | begin hwork =>
    have hn := held_eq_none (hs.consistent.spawned hwork).1
    rw [happenings_worker (by simp [worker_launch])]
    exact fares_launch ⟨hn, hn⟩ rfl
  | join => exact .silent rfl rfl (htold _).1 (htold _).2
  | halt hwork he =>
    have hl : ∀ a, s.halt.letter a = none := fun a => by cases a <;> rfl
    rw [happenings_worker (by simp [Supervisor.halt])]
    cases hx : s.execution with
    | none => exact .silent (by rw [held, held, hx]; rfl) rfl (by simp) (by simp)
    | some e => exact .reap (by rw [held, hx, Option.map_some, he e hx]) rfl rfl hl
  | handleEnd hwork hc he hr =>
    rename_i e r
    have hheld : s.held = some (e.number, false) := by
      rw [held, he, Option.map_some, isAlive_of_result? hr]
    have hcontrol := control_handleEnd s now r
    rw [happenings_worker (by simp [worker_handleEnd, hwork])]
    refine .reap hheld (held_eq_none (by rw [hcontrol])) ?_ (clears_handleEnd s now r).letter
    have hl : ∀ c : Supervisor, c.launches = c.control.launches := fun _ => rfl
    rw [hl, hcontrol]
    rfl
  | serve _ _ _ ht =>
    rcases takeRequest?_cases ht with ⟨b, next, -, rfl⟩ | ⟨-, b, next, -, rfl⟩
    · rw [wakeAny_eq]
      exact .silent rfl rfl (htold _).1 (htold _).2
    · rw [wakeAny_eq]
      exact .silent rfl rfl (htold _).1 (htold _).2
  | reload hwork _ hb =>
    refine .silent ?_ ?_ (htold _).1 (htold _).2
    · unfold handleReload
      simp only [wakeAny_eq]
      split <;> rfl
    · unfold handleReload
      simp only [wakeAny_eq]
      split <;> rfl
  | retry hwork _ ht _ =>
    have hret : s.worker = .spawned ∨ s.worker = .selecting ∧ s.retryAt.isSome :=
      .inr ⟨hwork, by simp [ht]⟩
    have hn := held_eq_none (watched_eq_none_of_launching hs.consistent hret)
    rw [happenings_worker (by simp [worker_launch, hwork])]
    exact fares_launch ⟨hn, hn⟩ rfl

theorem mem_posted {n : Nat} {r : Request} (h : .queued n r ∈ s.posted t number) : n = number := by
  simp only [posted, List.mem_map] at h
  obtain ⟨q, -, hq⟩ := h
  cases hq
  rfl

theorem ended_not_mem_posted (s t : Supervisor) (number n : Nat) :
    .ended n ∉ s.posted t number := by
  simp [posted]

theorem fares_stepExecution (hs : s.Sound) (h : s.stepExecution now number = some t) :
    Fares s t (s.happenings (.task now (.execution number)) t) := by
  obtain ⟨e, he, halive, -⟩ := acts_stepExecution h
  have hx := execution_of_execution? hs.orphans he
  have hnum := number_of_execution? he
  have hframe := frame_stepExecution h
  have hwatch : t.execution.map (·.number) = s.execution.map (·.number) :=
    congrArg Prod.snd hframe
  rw [hx, Option.map_some, hnum] at hwatch
  obtain ⟨e', he', hnum'⟩ := Option.map_eq_some_iff.1 hwatch
  have hheld : s.held = some (number, true) := by
    rw [held, hx, Option.map_some, hnum, halive]
  have hheld' : t.held = some (number, e'.isAlive) := by
    rw [held, he', Option.map_some, hnum']
  have hlive : s.isLive number = true := by simp [isLive, he, halive]
  have hlive' : t.isLive number = e'.isAlive := by
    rw [isLive, ← hnum', execution?_watched he', Option.any_some]
  have hn := launches_of_frame hframe
  simp only [happenings, hlive, hlive', Bool.true_and]
  cases ha : e'.isAlive with
  | true =>
    rw [ha] at hheld'
    refine .still (hheld'.trans hheld.symm) hn (fun n r hm => ?_) (fun n hm => ?_)
    · simp only [Bool.not_true, Bool.false_eq_true, if_false, List.append_nil] at hm
      exact ⟨true, by rw [hheld, mem_posted hm]⟩
    · simp only [Bool.not_true, Bool.false_eq_true, if_false, List.append_nil] at hm
      exact ended_not_mem_posted _ _ _ _ hm
  | false =>
    rw [ha] at hheld'
    refine .ends hheld hheld' hn (fun n r hm => ?_) fun n => ?_
    · simp only [Bool.not_false, if_true, List.mem_append, List.mem_singleton, reduceCtorEq,
        or_false] at hm
      exact mem_posted hm
    · simp [ended_not_mem_posted]

theorem fares_announceAside {a : Announcement} (hs : s.Sound)
    (h : s.announceAside number a = some t) : Fares s t (s.posted t number) := by
  have hl := launches_of_frame (frame_announceAside h)
  unfold announceAside at h
  split at h
  · cases h
  · rename_i e he
    split at h <;> cases h
    have hx := execution_of_execution? hs.orphans he
    have hexe : (s.abandon e a).execution = s.execution := by
      unfold abandon
      split
      · rfl
      · split
        · exact execution_setBox _ _ _
        · rfl
    refine .still (by rw [held, held, hexe]) hl (fun n r hm => ?_) fun n =>
      ended_not_mem_posted _ _ _ _
    exact ⟨e.isAlive, by rw [held, hx, Option.map_some, mem_posted hm, number_of_execution? he]⟩

theorem fares_giveUp (hs : s.Sound) (h : s.giveUp number = some t) : Fares s t [] := by
  have hl := launches_of_frame (frame_giveUp h)
  unfold giveUp at h
  split at h
  · cases h
  · rename_i e he
    have hx := execution_of_execution? hs.orphans he
    split at h <;> cases h
    · rename_i r hact
      have hbox : (s.leaveBox e r.announcement).execution = some e := by
        simp only [leaveBox, wakeAny_eq]
        exact (execution_setBox _ _ _).trans hx
      refine .silent ?_ hl (by simp) (by simp)
      rw [held_setExecution (e := e.advance) hbox rfl, held, hx, Option.map_some]
      simp [Execution.advance, Execution.isAlive, Execution.result?, hact]
    · rename_i hact
      refine .silent ?_ hl (by simp) (by simp)
      rw [held_setExecution (e := e.advance) hx rfl, held, hx, Option.map_some]
      simp [Execution.advance, Execution.isAlive, Execution.result?, hact]

/-- Every move but a crash of the owner does one of these things. -/
theorem fares_move (hs : s.Sound) (hm : m ≠ .crash) (h : s.move m = some t) :
    Fares s t (s.happenings m t) := by
  cases m with
  | start onDemand query =>
    simp only [move] at h
    split at h <;> cases h
    rename_i hi
    have hidle : s.worker = .idle := by simpa [isIdle] using hi
    have hn := held_eq_none (hs.watched (.inl hidle))
    refine .silent ?_ ?_ (by simp [happenings]) (by simp [happenings])
    · rw [start, if_pos hi, hn]
      rfl
    · rw [start, if_pos hi]
      rfl
  | reload entry =>
    simp only [move] at h
    split at h <;> cases h
    rename_i hi
    rw [reload, if_neg hi]
    exact .silent rfl rfl (by simp [happenings]) (by simp [happenings])
  | task now k =>
    cases k with
    | worker => exact fares_of_works hs (works_of_stepWorker h)
    | execution n => exact fares_stepExecution hs h
    | courier n =>
      have hf := courierFrame_stepCourier h
      have hl : ∀ c : Supervisor, c.launches = c.courierFrame.launches := fun _ => rfl
      refine .silent (held_of_courierFrame hf) ?_ (by simp [happenings]) (by simp [happenings])
      rw [hl t, hl s, hf]
  | reply number answer =>
    cases h
    have hq : (∀ n r, .queued n r ∉ s.happenings (.reply number answer) (s.reply number answer)) ∧
        ∀ n, .ended n ∉ s.happenings (.reply number answer) (s.reply number answer) := by
      simp only [happenings]
      split
      · split <;> simp
      · simp
    exact .silent (held_reply _ _ _) (launches_of_frame (frame_reply _ _ _)) hq.1 hq.2
  | rest | resume =>
    simp only [move] at h
    split at h <;> cases h
    exact .silent rfl rfl (by simp [happenings]) (by simp [happenings])
  | setPause | flush =>
    cases h
    exact .silent rfl rfl (by simp [happenings]) (by simp [happenings])
  | cancel reason =>
    simp only [move] at h
    split at h <;> cases h
    exact .silent (held_cancel s reason) (launches_cancel s reason) (by simp [happenings])
      (by simp [happenings])
  | giveUp number => exact fares_giveUp hs h
  | aside number a => exact fares_announceAside hs h
  | crash => exact absurd rfl hm

/-! ## The roster -/

/-- How the chronicle tells of the executions launched. -/
structure Roster (h : List Happening) (s : Supervisor) : Prop where
  /-- The one that is held is the latest. -/
  latest : ∀ n a, s.held = some (n, a) → n + 1 = s.launches
  /-- Requests come from executions that were launched. -/
  queued : ∀ n r, .queued n r ∈ h → n < s.launches
  /-- One that ended was launched, and does not go on. -/
  ended : ∀ n, .ended n ∈ h → n < s.launches ∧ s.held ≠ some (n, true)
  /-- One that was launched has ended or is held. -/
  live : ∀ n, n < s.launches → .ended n ∈ h ∨ s.held = some (n, true)

theorem Roster.of_fares {hs : List Happening} (hr : Roster h s) (hf : Fares s t hs) :
    Roster (h ++ hs) t := by
  cases hf with
  | still hl hn hq he =>
    refine ⟨by rw [hl, hn]; exact hr.latest, fun n r hm => ?_, fun n hm => ?_, fun n hlt => ?_⟩
    · rw [hn]
      rcases List.mem_append.1 hm with hm | hm
      · exact hr.queued n r hm
      · obtain ⟨a, ha⟩ := hq n r hm
        have := hr.latest n a ha
        omega
    · rw [hl, hn]
      rcases List.mem_append.1 hm with hm | hm
      · exact hr.ended n hm
      · exact absurd hm (he n)
    · rw [hl]
      exact (hr.live n (hn ▸ hlt)).imp_left (List.mem_append_left _)
  | ends hs' ht hn hq he =>
    rename_i k
    have hk := hr.latest k true hs'
    refine ⟨fun n a ha => ?_, fun n r hm => ?_, fun n hm => ?_, fun n hlt => ?_⟩
    · rw [ht] at ha
      cases ha
      rw [hn, hk]
    · rw [hn]
      rcases List.mem_append.1 hm with hm | hm
      · exact hr.queued n r hm
      · have := hq n r hm
        omega
    · rw [hn, ht]
      refine ⟨?_, by simp⟩
      rcases List.mem_append.1 hm with hm | hm
      · exact (hr.ended n hm).1
      · have := (he n).1 hm
        omega
    · rcases hr.live n (hn ▸ hlt) with hm | hm
      · exact .inl (List.mem_append_left _ hm)
      · rw [hs'] at hm
        cases hm
        exact .inl (List.mem_append_right _ ((he k).2 rfl))
  | launch hs' ht hn =>
    rw [List.append_nil]
    refine ⟨fun n a ha => ?_, fun n r hm => ?_, fun n hm => ?_, fun n hlt => ?_⟩
    · rw [ht] at ha
      cases ha
      exact hn.symm
    · have := hr.queued n r hm
      omega
    · have hlt := (hr.ended n hm).1
      refine ⟨by omega, ?_⟩
      rw [ht]
      intro heq
      cases heq
      omega
    · by_cases hnew : n = s.launches
      · exact .inr (by rw [ht, hnew])
      · rcases hr.live n (by omega) with hm | hm
        · exact .inl hm
        · rw [hs'] at hm
          cases hm
  | reap hs' ht hn =>
    rw [List.append_nil]
    refine ⟨by simp [ht], by rw [hn]; exact hr.queued, fun n hm => ?_, fun n hlt => ?_⟩
    · rw [hn, ht]
      exact ⟨(hr.ended n hm).1, by simp⟩
    · rcases hr.live n (hn ▸ hlt) with hm | hm
      · exact .inl hm
      · rw [hs'] at hm
        cases hm

/-- The chronicle tells of all executions, as long as the owner does not crash. -/
theorem roster_run {ms : List Move} (hs : s.Sound) (hr : Roster [] s) (hms : .crash ∉ ms)
    (h : s.run ms = some t) : t.Sound ∧ Roster (s.chronicle ms) t := by
  refine run_induction (P := fun ms t => .crash ∉ ms → t.Sound ∧ Roster (s.chronicle ms) t)
    (fun _ => ⟨hs, hr⟩) ?_ h hms
  intro ms u m v hu ih hm hms
  rw [List.mem_append, List.mem_singleton, not_or] at hms
  obtain ⟨hc, hr⟩ := ih hms.1
  rw [chronicle_concat hu hm]
  exact ⟨hc.move (Ne.symm hms.2) hm, hr.of_fares (fares_move hc (Ne.symm hms.2) hm)⟩

end Supervisor

end MediaPaths
