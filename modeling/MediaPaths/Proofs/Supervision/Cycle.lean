import MediaPaths.Proofs.Supervision.Control

/-!
# The cycle of launches

While its worker waits, a supervisor has an execution or a time for the next launch, never both and
never neither, and its phase tells which. It launches only when it has no execution, it is stopped only
on request and after its execution has ended, and then it stays stopped until it is started again.

The invariant is `Control.Consistent`; every move but a crash of the owner keeps it.
-/

namespace MediaPaths

/-- Whether a worker waits for something to do, for its owner or for an execution to end. -/
def WorkerState.isWaiting : WorkerState → Bool
  | selecting | serving _ | joining => true
  | idle | spawned | stopped | crashed => false

namespace Supervisor

namespace Control

/-- An execution is held, and there is no time for a launch. -/
def Holds (c : Control) : Prop := c.watched.isSome ∧ c.retryAt = none ∧ c.phase = .running

/-- There is a time for the next launch, and no execution is held. -/
def Pauses (c : Control) : Prop := c.watched = none ∧ c.retryAt.isSome ∧ c.phase = .retryPending

/-- The fields agree with each other. -/
structure Consistent (c : Control) : Prop where
  /-- A worker that has not begun holds nothing. -/
  spawned : c.worker = .spawned → c.watched = none ∧ c.phase = .running
  /-- A worker that waits holds an execution or pauses. -/
  waiting : c.worker.isWaiting → c.Holds ∨ c.Pauses
  /-- A worker that waits for an execution to end holds it and is being stopped. -/
  joining : c.worker = .joining → c.watched.isSome ∧ c.cancelled
  /-- A supervisor that is stopped has no worker that goes on. -/
  stopped : c.phase = .stopped → c.worker = .stopped ∨ c.worker = .idle

end Control

variable {s t : Supervisor} {m : Move} {ms : List Move}

/-! ## The invariant -/

/-- A worker that is about to launch holds no execution. -/
theorem watched_eq_none_of_launching (hc : s.control.Consistent)
    (hw : s.worker = .spawned ∨ s.worker = .selecting ∧ s.retryAt.isSome) :
    s.control.watched = none := by
  rcases hw with hw | ⟨hw, hr⟩
  · exact (hc.spawned hw).1
  · rcases hc.waiting (by simp [control, hw, WorkerState.isWaiting]) with ⟨-, hn, -⟩ | ⟨hn, -, -⟩
    · rw [show s.retryAt = none from hn] at hr
      cases hr
    · exact hn

/-- A worker that waits for something to do or for its owner is not stopped. -/
theorem phase_ne_stopped (hc : s.control.Consistent) (hw : s.worker ≠ .stopped ∧ s.worker ≠ .idle) :
    s.control.phase ≠ .stopped := by
  intro hp
  rcases hc.stopped hp with h | h
  · exact hw.1 h
  · exact hw.2 h

/-- Every move but a crash of the owner keeps the fields in agreement. -/
theorem consistent_move (hc : s.control.Consistent) (hm : m ≠ .crash) (h : s.move m = some t) :
    t.control.Consistent := by
  cases steers_of_move h with
  | still _ ht => exact ht ▸ hc
  | start _ ht =>
    rw [ht]
    exact ⟨by simp, by simp [WorkerState.isWaiting], by simp, by simp⟩
  | cancel ht =>
    rw [ht]
    exact ⟨hc.spawned, hc.waiting, fun hw => ⟨(hc.joining hw).1, rfl⟩, hc.stopped⟩
  | rest ht =>
    rw [ht]
    exact ⟨by simp, by simp [WorkerState.isWaiting], by simp, by simp⟩
  | launch _ ht =>
    rw [ht]
    exact ⟨by simp, fun _ => .inl ⟨rfl, rfl, rfl⟩, by simp, by simp⟩
  | fail hw ht =>
    have hn := watched_eq_none_of_launching hc hw
    rw [ht]
    exact ⟨by simp, fun _ => .inr ⟨hn, rfl, rfl⟩, by simp, by simp⟩
  | join hw hcan he ht =>
    have hh := hc.waiting (by simp [control, hw, WorkerState.isWaiting])
    have hp := phase_ne_stopped hc (by simp [hw])
    rw [ht]
    refine ⟨by simp, fun _ => hh, fun _ => ⟨?_, hcan⟩, fun h => absurd h hp⟩
    simpa [control] using he
  | halt _ _ ht =>
    rw [ht]
    exact ⟨by simp, by simp [WorkerState.isWaiting], by simp, by simp⟩
  | handleEnd hw _ _ ht =>
    have hw : s.control.worker = .selecting := hw
    rw [ht]
    exact ⟨by simp [hw], fun _ => .inr ⟨rfl, rfl, rfl⟩, by simp [hw], by simp⟩
  | serve hw ht =>
    have hh := hc.waiting (by simp [control, hw, WorkerState.isWaiting])
    have hp := phase_ne_stopped hc (by simp [hw])
    rw [ht]
    exact ⟨by simp, fun _ => hh, by simp, fun h => absurd h hp⟩
  | resume hw ht =>
    have hh := hc.waiting (by simp [control, hw, WorkerState.isWaiting])
    have hp := phase_ne_stopped hc (by simp [hw])
    rw [ht]
    exact ⟨by simp, fun _ => hh, by simp, fun h => absurd h hp⟩
  | crash => exact absurd rfl hm

/-- Every run without a crash of the owner keeps the fields in agreement. -/
theorem consistent_run (hc : s.control.Consistent) (hm : .crash ∉ ms) (h : s.run ms = some t) :
    t.control.Consistent := by
  induction ms generalizing s with
  | nil =>
    cases h
    exact hc
  | cons m ms ih =>
    obtain ⟨v, hv, h⟩ := Option.bind_eq_some_iff.1 h
    rw [List.mem_cons, not_or] at hm
    exact ih (consistent_move hc (Ne.symm hm.1) hv) hm.2 h

/-- A supervisor that was just made is consistent. -/
theorem consistent_create {now pause : Nat} {entry : Entry} {groups : Option (List String)}
    {options : SourceOptions} {factory : Factory}
    (h : create now entry groups options factory pause = .ok s) :
    s.control.Consistent ∧ s.cancelled = false := by
  obtain ⟨kind, source, -, rfl⟩ := create_eq h
  exact ⟨⟨by simp [control], by simp [control, WorkerState.isWaiting], by simp [control],
    by simp [control]⟩, rfl⟩

/-! ## Launches -/

/-- A move that launches an execution finds none that is held, and has the new one held. -/
theorem launches_move (hc : s.control.Consistent) (h : s.move m = some t) :
    t.launches = s.launches ∨
      s.execution = none ∧ t.launches = s.launches + 1 ∧
        t.execution.map (·.number) = some s.launches := by
  have hl : ∀ c : Supervisor, c.launches = c.control.launches := fun _ => rfl
  rw [hl t, hl s]
  cases steers_of_move h with
  | launch hw ht =>
    have hn : s.execution.map (·.number) = none := watched_eq_none_of_launching hc hw
    refine .inr ⟨by simpa using hn, by rw [ht]; rfl, ?_⟩
    exact congrArg Control.watched ht
  | start _ ht => exact .inl (by rw [ht]; rfl)
  | still _ ht | cancel ht | rest ht | fail _ ht | join _ _ _ ht | halt _ _ ht | handleEnd _ _ _ ht
  | serve _ ht | resume _ ht | crash _ ht => exact .inl (by rw [ht])

/-! ## Stopping -/

/-- A move asks for a stop, withdraws it or leaves it at that. -/
theorem cancelled_move (h : s.move m = some t) : t.cancelled = askedAfter s.cancelled m := by
  have hl : ∀ c : Supervisor, c.cancelled = c.control.cancelled := fun _ => rfl
  rw [hl t, hl s]
  cases steers_of_move h with
  | still hm ht => rw [ht, hm]
  | start _ ht | cancel ht | rest ht | launch _ ht | fail _ ht | join _ _ _ ht | halt _ _ ht
  | handleEnd _ _ _ ht | serve _ ht | resume _ ht | crash _ ht => rw [ht]; rfl

/-- A supervisor is being stopped if and only if a stop was asked for since the latest start. -/
theorem cancelled_run (hs : s.cancelled = false) (h : s.run ms = some t) :
    t.cancelled = isStopAsked ms := by
  refine run_induction (P := fun ms t => t.cancelled = isStopAsked ms) hs ?_ h
  intro ms v m u _ hv hm
  rw [cancelled_move hm, hv]
  simp [isStopAsked]

/-- Only a worker that is being stopped and whose execution has ended makes the supervisor stopped. -/
theorem stopped_move (hc : s.control.Consistent) (h : s.move m = some t) (hs : s.phase ≠ .stopped)
    (hp : t.phase = .stopped) : s.cancelled = true ∧ ∀ e ∈ s.execution, e.isAlive = false := by
  replace hs : s.control.phase ≠ .stopped := hs
  replace hp : t.control.phase = .stopped := hp
  cases steers_of_move h with
  | halt hw he _ =>
    rcases hw with ⟨-, hcan⟩ | hw
    · exact ⟨hcan, he⟩
    · exact ⟨(hc.joining hw).2, he⟩
  | still _ ht | cancel ht | rest ht | join _ _ _ ht | serve _ ht | resume _ ht | crash _ ht =>
    rw [ht] at hp
    exact absurd hp hs
  | start _ ht | launch _ ht | fail _ ht | handleEnd _ _ _ ht =>
    rw [ht] at hp
    cases hp

/-- Whether a move starts the supervisor. -/
def Move.isStart : Move → Bool
  | .start _ _ => true
  | _ => false

/-- A supervisor that is stopped stays so and launches nothing, until it is started. -/
theorem stays_stopped_move (hw : s.worker = .stopped ∨ s.worker = .idle) (hm : m.isStart = false)
    (h : s.move m = some t) :
    (t.worker = .stopped ∨ t.worker = .idle) ∧ t.phase = s.phase ∧ t.launches = s.launches := by
  have hf : ∀ c : Supervisor, c.worker = c.control.worker ∧ c.phase = c.control.phase ∧
      c.launches = c.control.launches := fun _ => ⟨rfl, rfl, rfl⟩
  rw [(hf s).1] at hw
  rw [(hf t).1, (hf t).2.1, (hf t).2.2, (hf s).2.1, (hf s).2.2]
  cases steers_of_move h with
  | still _ ht | cancel ht => rw [ht]; exact ⟨hw, rfl, rfl⟩
  | rest ht => rw [ht]; exact ⟨.inr rfl, rfl, rfl⟩
  | start => cases hm
  | launch h' _ | fail h' _ => obtain h' | ⟨h', -⟩ := h' <;> simp [control, h'] at hw
  | halt h' _ _ => obtain ⟨h', -⟩ | h' := h' <;> simp [control, h'] at hw
  | join h' _ _ _ | handleEnd h' _ _ _ | serve h' _ | resume h' _ | crash h' _ =>
    simp [control, h'] at hw

theorem stays_stopped_run (hw : s.worker = .stopped ∨ s.worker = .idle)
    (hm : ∀ m ∈ ms, m.isStart = false) (h : s.run ms = some t) :
    t.phase = s.phase ∧ t.launches = s.launches := by
  induction ms generalizing s with
  | nil =>
    cases h
    exact ⟨rfl, rfl⟩
  | cons m ms ih =>
    obtain ⟨v, hv, h⟩ := Option.bind_eq_some_iff.1 h
    rw [List.forall_mem_cons] at hm
    obtain ⟨hvw, hvp, hvl⟩ := stays_stopped_move hw hm.1 hv
    obtain ⟨hp, hl⟩ := ih hvw hm.2 h
    exact ⟨hp.trans hvp, hl.trans hvl⟩

/-! ## The cycle -/

/-- What holds of a supervisor after any moves without a crash of the owner, in any order. While the
worker waits, either an execution is held or a launch is due, and the phase tells which. An execution
is launched only when none is held. The supervisor becomes stopped only when that was asked for and the
execution held has ended; from then on, until it is started again, it stays stopped and launches
nothing. -/
theorem launch_cycle {now pause : Nat} {entry : Entry} {groups : Option (List String)}
    {options : SourceOptions} {factory : Factory} {s₀ s : Supervisor} {ms : List Move}
    (hs₀ : create now entry groups options factory pause = .ok s₀) (hms : .crash ∉ ms)
    (hs : s₀.run ms = some s) :
    (s.worker.isWaiting →
      s.execution.isSome = !s.retryAt.isSome ∧
        (s.phase = .running ↔ s.execution.isSome = true) ∧
        (s.phase = .retryPending ↔ s.retryAt.isSome = true)) ∧
    (∀ m t, s.move m = some t → t.launches ≠ s.launches →
      s.execution = none ∧ t.launches = s.launches + 1 ∧
        t.execution.map (·.number) = some s.launches) ∧
    (∀ m t, s.move m = some t → s.phase ≠ .stopped → t.phase = .stopped →
      isStopAsked ms ∧ ∀ e ∈ s.execution, e.isAlive = false) ∧
    (s.phase = .stopped → ∀ ns t, (∀ m ∈ ns, m.isStart = false) → s.run ns = some t →
      t.phase = .stopped ∧ t.launches = s.launches) := by
  obtain ⟨hc₀, hcan₀⟩ := consistent_create hs₀
  have hc := consistent_run hc₀ hms hs
  refine ⟨fun hw => ?_, fun m t hm hl => ?_, fun m t hm hp hp' => ?_, fun hp ns t hns ht => ?_⟩
  · rcases hc.waiting hw with ⟨he, hr, hp⟩ | ⟨he, hr, hp⟩
    · have he : s.execution.isSome = true := by simpa [control] using he
      have hr : s.retryAt = none := hr
      have hp : s.phase = .running := hp
      simp [he, hr, hp]
    · have he : s.execution = none := by simpa [control] using he
      have hr : s.retryAt.isSome = true := hr
      have hp : s.phase = .retryPending := hp
      simp [he, hr, hp]
  · exact (launches_move hc hm).resolve_left hl
  · obtain ⟨hcan, he⟩ := stopped_move hc hm hp hp'
    exact ⟨(cancelled_run hcan₀ hs) ▸ hcan, he⟩
  · obtain ⟨hp', hl⟩ := stays_stopped_run (hc.stopped hp) hns ht
    exact ⟨hp'.trans hp, hl⟩

/-- A source that fails is launched again when the pause is over. Once it is asked to stop during the
second pause, the supervisor stays stopped whatever it is told. -/
theorem launch_cycle_failing :
    let failing : Factory := fun _ _ _ => .ok { behaviour := fun _ => [.finish (.failed "lost")] }
    let ms : List Move := [.start false "", .task 0 .worker, .task 0 (.execution 0),
      .task 0 (.execution 0), .task 0 .worker, .task 5000 .worker, .task 5000 (.execution 1),
      .task 5000 (.execution 1), .task 5000 .worker, .cancel "done", .task 6000 .worker]
    let ns : List Move := [.cancel "again", .reload {}, .task 9999 (.courier 0), .rest]
    ∃ s₀ s t, create 0 { settings := { source := "rtsp://h/x" } } none {} failing 5000 = .ok s₀ ∧
      .crash ∉ ms ∧ s₀.run ms = some s ∧ s.phase = .stopped ∧ s.launches = 2 ∧
      s.run ns = some t ∧ t.phase = .stopped ∧ t.launches = 2 := by
  intro failing ms ns
  obtain ⟨s₀, hs₀, hrun, hfin⟩ : ∃ s₀,
      create 0 { settings := { source := "rtsp://h/x" } } none {} failing 5000 = .ok s₀ ∧
        (s₀.run (ms ++ ns)).isSome ∧
        (s₀.run ms).map (fun s => (s.phase, s.launches)) = some (.stopped, 2) :=
    ⟨_, rfl, by decide +kernel, by decide +kernel⟩
  obtain ⟨t, ht⟩ := Option.isSome_iff_exists.1 hrun
  obtain ⟨s, hs, ht⟩ := run_append.1 ht
  obtain ⟨hp, hl⟩ : s.phase = .stopped ∧ s.launches = 2 := by simpa [hs] using hfin
  have hms : .crash ∉ ms := by decide
  obtain ⟨-, -, -, hstop⟩ := launch_cycle hs₀ hms hs
  obtain ⟨htp, htl⟩ := hstop hp ns t (by decide) ht
  exact ⟨s₀, s, t, hs₀, hms, hs, hp, hl, ht, htp, htl.trans hl⟩

end Supervisor

end MediaPaths
