import MediaPaths.Proofs.Supervision.Dealings

/-!
# What is counted agrees with what happened

Executions are numbered in the order of their launch, and the worker is done with them in this order: it
learns that the latest has failed, or finds it held when it is being stopped, before it launches another.
So each execution is told of exactly once, unless it is still kept, and the counters can be read off what
the worker has dealt with.

The invariant is `Balanced`. Each step of the worker extends the account by what it deals with; no other
move has anything counted that concerns launches.
-/

namespace MediaPaths

/-! ## Counting what was dealt with -/

namespace Dealing

variable (ds : List Dealing)

theorem countP_isAttempt :
    ds.countP Dealing.isAttempt = ds.countP Dealing.isLaunched + ds.countP Dealing.isUnresolved := by
  induction ds with
  | nil => rfl
  | cons d ds ih => cases d <;>
    simp [List.countP_cons, isAttempt, isLaunched, isUnresolved, ih] <;> omega

theorem length_launched :
    (ds.filterMap Dealing.launched?).length = ds.countP Dealing.isLaunched := by
  induction ds with
  | nil => rfl
  | cons d ds ih => cases d <;>
    simp [List.filterMap_cons, List.countP_cons, launched?, isLaunched, ih]

theorem length_failures :
    (ds.filterMap Dealing.failure?).length = ds.countP Dealing.isUnresolved + ds.countP Dealing.isFailed := by
  induction ds with
  | nil => rfl
  | cons d ds ih => cases d <;>
    simp [List.filterMap_cons, List.countP_cons, failure?, isUnresolved, isFailed, ih] <;> omega

theorem length_concluded :
    (ds.filterMap Dealing.concluded?).length = ds.countP Dealing.isFailed + ds.countP Dealing.isCaught := by
  induction ds with
  | nil => rfl
  | cons d ds ih => cases d <;>
    simp [List.filterMap_cons, List.countP_cons, concluded?, isFailed, isCaught, ih] <;> omega

end Dealing

namespace Supervisor

variable {s t : Supervisor} {m : Move} {ms : List Move} {ds : List Dealing} {d : Option Dealing}
  {now : Nat}

/-! ## The account -/

/-- The number of the execution that the worker keeps: it holds it, and no stop has found it held. -/
def Control.kept (c : Control) : Option Nat :=
  if c.worker = .joining then none else c.watched

/-- What was dealt with, what is kept and what is counted agree. -/
structure Balanced (ds : List Dealing) (c : Control) (n : Statistics) : Prop where
  /-- Executions are numbered in the order of their launch. -/
  launched : ds.filterMap Dealing.launched? = List.range c.launches
  /-- Each of them was done with, one after the other, or it is kept. -/
  concluded : ds.filterMap Dealing.concluded? ++ c.kept.toList = List.range c.launches
  /-- All launches are counted. -/
  runs : n.runs = c.launches
  /-- All failures are counted. -/
  failures : n.failures = (ds.filterMap Dealing.failure?).length
  /-- The latest failure is known. -/
  lastError : n.lastError = (ds.filterMap Dealing.failure?).getLast?.map (·.message)

theorem Balanced.of_kept {c c' : Control} {n : Statistics} (hb : Balanced ds c n)
    (hl : c'.launches = c.launches) (hk : c'.kept = c.kept) : Balanced ds c' n := by
  obtain ⟨hlaunched, hconcluded, hruns, hfailures, hlast⟩ := hb
  exact ⟨by rw [hl, hlaunched], by rw [hl, hk, hconcluded], by rw [hl, hruns], hfailures, hlast⟩

theorem filterMap_concat {α β : Type} (f : α → Option β) (xs : List α) (x : α) :
    (xs ++ [x]).filterMap f = xs.filterMap f ++ (f x).toList := by
  rw [List.filterMap_append, List.filterMap_cons]
  cases f x <;> rfl

theorem Balanced.concat {c c' : Control} {n n' : Statistics} {d : Dealing} (hb : Balanced ds c n)
    (hlaunched : List.range c'.launches = List.range c.launches ++ d.launched?.toList)
    (hconcluded : d.concluded?.toList ++ c'.kept.toList = c.kept.toList ++ d.launched?.toList)
    (hruns : n'.runs = n.runs + d.launched?.toList.length)
    (hfailures : n'.failures = n.failures + d.failure?.toList.length)
    (hlast : n'.lastError = (d.failure?.map (·.message)).or n.lastError) :
    Balanced (ds ++ [d]) c' n' := by
  refine ⟨?_, ?_, ?_, ?_, ?_⟩
  · rw [filterMap_concat, hb.launched, hlaunched]
  · rw [filterMap_concat, List.append_assoc, hconcluded, ← List.append_assoc, hb.concluded,
      hlaunched]
  · have hlength := congrArg List.length hlaunched
    rw [List.length_append, List.length_range, List.length_range] at hlength
    rw [hruns, hb.runs, hlength]
  · rw [filterMap_concat, List.length_append, hfailures, hb.failures]
  · rw [filterMap_concat, hlast, hb.lastError]
    cases d.failure? with
    | none => simp only [Option.map_none, Option.none_or, Option.toList_none, List.append_nil]
    | some e =>
      simp only [Option.map_some, Option.some_or, Option.toList_some, List.getLast?_concat]

theorem Balanced.started {c : Control} {n : Statistics} (hb : Balanced ds c n) :
    Balanced (ds ++ [.started]) c n :=
  hb.concat (List.append_nil _).symm (List.append_nil _).symm rfl rfl rfl

theorem kept_of_isDue (hc : s.control.Consistent) (hd : s.IsDue now) : s.control.kept = none := by
  have hw : s.worker = .spawned ∨ s.worker = .selecting ∧ s.retryAt.isSome = true := by
    rcases hd with hw | ⟨hw, -, due, -, hr⟩
    · exact .inl hw
    · exact .inr ⟨hw, by simp [hr]⟩
  rw [Control.kept, watched_eq_none_of_launching hc hw, ite_self]

theorem kept_of_execution {e : Execution} (hw : s.worker = .selecting)
    (he : s.execution = some e) : s.control.kept = some e.number := by
  simp [Control.kept, control, hw, he]

/-- What the worker deals with in a step is what is accounted for. -/
theorem Balanced.of_deals (hc : s.control.Consistent) (hb : Balanced ds s.control s.tally)
    (hd : Deals now s t d) : Balanced (ds ++ d.toList) t.control t.tally := by
  have hwork : s.control.worker = s.worker := rfl
  cases hd with
  | launched hdue hctl ht =>
    have hkept : t.control.kept = some s.launches := by simp [hctl, Control.kept]
    refine hb.concat ?_ ?_ (ht ▸ rfl) (ht ▸ rfl) (ht ▸ rfl)
    · rw [hctl]
      exact List.range_succ
    · rw [hkept, kept_of_isDue hc hdue]
      rfl
  | unresolved hdue hctl ht =>
    have hnone := kept_of_isDue hc hdue
    have hkept : t.control.kept = none := by
      rcases hdue with hw | ⟨hw, -⟩ <;> simpa [Control.kept, hctl, hwork, hw] using hnone
    refine hb.concat ?_ ?_ (ht ▸ rfl) (ht ▸ rfl) (ht ▸ rfl)
    · rw [hctl]
      exact (List.append_nil _).symm
    · rw [hkept, hnone]
      rfl
  | failed hw _ he _ hctl ht =>
    have hkept : t.control.kept = none := by simp [hctl, Control.kept]
    refine hb.concat ?_ ?_ (ht ▸ rfl) (ht ▸ rfl) (ht ▸ rfl)
    · rw [hctl]
      exact (List.append_nil _).symm
    · rw [hkept, kept_of_execution hw he]
      rfl
  | caught hw _ he hctl ht =>
    have hkept : t.control.kept = none := by simp [hctl, Control.kept]
    refine hb.concat ?_ ?_ (ht ▸ rfl) (ht ▸ rfl) (ht ▸ rfl)
    · rw [hctl]
      exact (List.append_nil _).symm
    · rw [hkept, kept_of_execution hw he]
      rfl
  | halt hw hctl ht =>
    have hkept : t.control.kept = s.control.kept := by
      rcases hw with ⟨hw, -, hx⟩ | hw
      · have hwatched : s.control.watched = none := by simp [control, hx]
        simp [hctl, Control.kept, hwork, hw, hwatched]
      · simp [hctl, Control.kept, hwork, hw]
    rw [Option.toList_none, List.append_nil, ht]
    exact hb.of_kept (by rw [hctl]) hkept
  | serve hw _ hctl ht =>
    rw [Option.toList_none, List.append_nil, ht]
    exact hb.of_kept (by rw [hctl]) (by simp [hctl, Control.kept, hwork, hw])
  | reload hw hctl ht =>
    rw [Option.toList_none, List.append_nil, ht, hctl]
    exact hb

/-- Whatever is no step of the worker neither launches an execution nor is done with one. -/
theorem kept_move (hs : s.Sound) (hcrash : m ≠ .crash) (hm : ∀ now, m ≠ .task now .worker)
    (h : s.move m = some t) :
    t.control.launches = s.control.launches ∧ t.control.kept = s.control.kept := by
  cases steers_of_move h with
  | still _ ht => rw [ht]; exact ⟨rfl, rfl⟩
  | start hw ht =>
    have hw' : s.control.worker = .idle := hw
    have hn := hs.watched (.inl hw)
    rw [ht]
    exact ⟨rfl, by simp [Control.kept, hw', hn]⟩
  | cancel ht => rw [ht]; exact ⟨rfl, rfl⟩
  | rest ht =>
    have hw := hs.stopped_of_rest h
    rw [ht]
    exact ⟨rfl, by simp [Control.kept, hw]⟩
  | resume hw ht =>
    have hw' : s.control.worker = _ := hw
    rw [ht]
    exact ⟨rfl, by simp [Control.kept, hw']⟩
  | crash => exact absurd rfl hcrash
  | launch | fail | join | halt | handleEnd | serve => exact absurd rfl (hm _)

theorem Balanced.move (hs : s.Sound) (hb : Balanced ds s.control s.tally) (hcrash : m ≠ .crash)
    (h : s.move m = some t) : Balanced (ds ++ (s.dealtIn m).toList) t.control t.tally := by
  by_cases hm : ∃ now, m = .task now .worker
  · obtain ⟨now, rfl⟩ := hm
    exact hb.of_deals hs.consistent (deals_of_stepWorker hs.consistent h)
  · have hm : ∀ now, m ≠ .task now .worker := fun now heq => hm ⟨now, heq⟩
    have hother : Balanced ds t.control t.tally := by
      obtain ⟨hl, hk⟩ := kept_move hs hcrash hm h
      rw [tally_move hm h]
      exact hb.of_kept hl hk
    cases hstart : m.isStart with
    | false =>
      rw [dealtIn_eq_none hm hstart, Option.toList_none, List.append_nil]
      exact hother
    | true =>
      cases m with
      | start => exact hother.started
      | _ => cases hstart

theorem balanced_run (hs : s.Sound) (hb : Balanced [] s.control s.tally) (hms : .crash ∉ ms)
    (h : s.run ms = some t) : t.Sound ∧ Balanced (s.dealings ms) t.control t.tally := by
  -- soundness goes along: only with it does a worker that is due keep no execution
  refine run_induction
    (P := fun ms t => .crash ∉ ms → t.Sound ∧ Balanced (s.dealings ms) t.control t.tally)
    (fun _ => ⟨hs, hb⟩) ?_ h hms
  intro ms u m v hu ih hm hms
  rw [List.mem_append, List.mem_singleton, not_or] at hms
  obtain ⟨hsound, hbal⟩ := ih hms.1
  rw [dealings_concat hu hm]
  exact ⟨hsound.move (Ne.symm hms.2) hm, hbal.move hsound (Ne.symm hms.2) hm⟩

theorem balanced_create {pause : Nat} {entry : Entry} {groups : Option (List String)}
    {options : SourceOptions} {factory : Factory}
    (h : create now entry groups options factory pause = .ok s) :
    Balanced [] s.control s.tally := by
  obtain ⟨kind, source, -, rfl⟩ := create_eq h
  exact ⟨rfl, rfl, rfl, rfl, rfl⟩

/-! ## How executions come to an end -/

/-- An execution that counts as failed was told to have ended, and no stop was asked for. -/
theorem ended_of_failed {h : List Happening} {n : Nat} {e : SourceError} (hc : s.control.Consistent)
    (hr : Roster h s) (hm : s.move m = some t) (hd : s.dealtIn m = some (.failed n e)) :
    .ended n ∈ h ∧ s.cancelled = false := by
  obtain ⟨-, hstarted⟩ | ⟨now, -, hdeals⟩ := deals_of_dealtIn hc hm hd
  · cases hstarted
  · cases hdeals with
    | @failed f _ hw hcan hx hres =>
      have hheld : s.held = some (f.number, false) := by
        rw [held, hx, Option.map_some, isAlive_of_result? hres]
      have hlt : f.number < s.launches := by
        have := hr.latest _ _ hheld
        omega
      refine ⟨(hr.live _ hlt).resolve_right fun hlive => ?_, hcan⟩
      rw [hheld] at hlive
      cases hlive

theorem watched_of_caught {n : Nat} (hc : s.control.Consistent) (hm : s.move m = some t)
    (hd : s.dealtIn m = some (.caught n)) : s.control.watched = some n ∧ s.cancelled = true := by
  obtain ⟨-, hstarted⟩ | ⟨now, -, hdeals⟩ := deals_of_dealtIn hc hm hd
  · cases hstarted
  · cases hdeals with
    | caught hw hcan hx => exact ⟨by simp [control, hx], hcan⟩

/-! ## The balance -/

/-- What is counted after any moves without a crash of the owner, in any order. Executions are numbered
as they are launched, and the worker is done with one after the other: each has failed or was caught by a
stop, or it is the latest and kept. One that failed has ended before, while no stop was asked for. All
launches, all failures and all calls of the owner are counted, and nothing else: what was attempted has
failed, was caught or is kept. The latest error is that of the latest failure. -/
theorem counters_balance {now pause : Nat} {entry : Entry} {groups : Option (List String)}
    {options : SourceOptions} {factory : Factory} {s₀ s : Supervisor} {ms : List Move}
    (hs₀ : create now entry groups options factory pause = .ok s₀) (hms : .crash ∉ ms)
    (hs : s₀.run ms = some s) :
    let ds := s₀.dealings ms
    ds.filterMap Dealing.launched? = List.range s.launches ∧
    ds.filterMap Dealing.concluded? ++ s.control.kept.toList = List.range s.launches ∧
    (∀ m t n e, s.move m = some t → s.dealtIn m = some (.failed n e) →
      .ended n ∈ s₀.chronicle ms ∧ isStopAsked ms = false) ∧
    (∀ m t n, s.move m = some t → s.dealtIn m = some (.caught n) →
      s.control.watched = some n ∧ isStopAsked ms = true) ∧
    s.statistics.runs = ds.countP Dealing.isLaunched ∧
    s.statistics.failures = ds.countP Dealing.isUnresolved + ds.countP Dealing.isFailed ∧
    ds.countP Dealing.isAttempt =
      s.statistics.failures + ds.countP Dealing.isCaught + s.control.kept.toList.length ∧
    (∀ ready, s.passed ready = (s₀.chronicle ms).countP (·.isCall ready)) ∧
    s.statistics.lastError = (ds.filterMap Dealing.failure?).getLast?.map (·.message) ∧
    (s.statistics.lastError = none ↔ s.statistics.failures = 0) := by
  intro ds
  have hsound₀ := sound_create hs₀
  obtain ⟨hsound, hroster⟩ := roster_run hsound₀ (attends_create hs₀).2 hms hs
  obtain ⟨-, hb⟩ := balanced_run hsound₀ (balanced_create hs₀) hms hs
  have hstop : s.cancelled = isStopAsked ms := cancelled_run (consistent_create hs₀).2 hs
  have hruns : s.statistics.runs = ds.countP Dealing.isLaunched := by
    rw [← Dealing.length_launched, hb.launched, List.length_range]
    exact hb.runs
  have hfailures : s.statistics.failures =
      ds.countP Dealing.isUnresolved + ds.countP Dealing.isFailed := by
    rw [← Dealing.length_failures]
    exact hb.failures
  have hlast : s.statistics.lastError =
      (ds.filterMap Dealing.failure?).getLast?.map (·.message) := hb.lastError
  refine ⟨hb.launched, hb.concluded, fun m t n e hm hd => ?_, fun m t n hm hd => ?_, hruns, hfailures,
    ?_, fun ready => ?_, hlast, ?_⟩
  · rw [← hstop]
    exact ended_of_failed hsound.consistent hroster hm hd
  · rw [← hstop]
    exact watched_of_caught hsound.consistent hm hd
  · -- launched executions are those that were done with and the one that is kept
    have hlength : ds.countP Dealing.isLaunched =
        ds.countP Dealing.isFailed + ds.countP Dealing.isCaught + s.control.kept.toList.length := by
      rw [← Dealing.length_launched, ← Dealing.length_concluded, ← List.length_append, hb.concluded,
        hb.launched]
    rw [Dealing.countP_isAttempt, hlength, hfailures]
    omega
  · have h₀ : s₀.passed ready = 0 := by
      obtain ⟨kind, source, -, rfl⟩ := create_eq hs₀
      cases ready <;> rfl
    rw [passed_run hs ready, h₀, Nat.zero_add]
  · rw [hlast, hfailures, ← Dealing.length_failures]
    simp

/-- A source fails, is launched again and stopped while its owner is called; it is started again, fails
and is handed a source that is no address. Three launches and a fourth attempt make three failures and
one execution that a stop has caught. -/
theorem counters_balance_restarted :
    let factory : Factory := fun _ _ _ => .ok (.ofScripts ""
      [[.finish (.failed "lost")], [.abandon (.ready [])], [.finish (.failed "gone")]])
    let ms : List Move := [.start false "", .task 0 .worker, .task 0 (.execution 0),
      .task 0 (.execution 0), .task 0 .worker, .task 5000 .worker, .task 5000 (.execution 1),
      .task 5000 (.execution 1), .task 5000 .worker, .cancel "done", .resume, .task 5000 .worker,
      .task 5000 (.execution 1), .task 5000 .worker, .rest, .start false "", .task 6000 .worker,
      .reload { settings := { source := "nowhere" } }, .task 6000 (.courier 0), .task 6000 .worker,
      .task 6000 (.execution 2), .task 6000 (.execution 2), .task 6000 .worker, .task 11000 .worker]
    ∃ s₀ s, create 0 { settings := { source := "rtsp://h/x" } } none {} factory 5000 = .ok s₀ ∧
      .crash ∉ ms ∧ s₀.run ms = some s ∧ s.statistics.runs = 3 ∧ s.statistics.failures = 3 ∧
      (s₀.dealings ms).countP Dealing.isAttempt = 4 ∧
      (s₀.dealings ms).countP Dealing.isCaught = 1 ∧ s.passed true = 1 ∧ s.passed false = 0 ∧
      s.statistics.lastError ≠ none := by
  intro factory ms
  obtain ⟨s₀, hs₀, hrun, hlaunched, hunresolved, hfailed, hcaught, hcalls⟩ : ∃ s₀,
      create 0 { settings := { source := "rtsp://h/x" } } none {} factory 5000 = .ok s₀ ∧
        (s₀.run ms).map (fun s => s.control.kept) = some none ∧
        (s₀.dealings ms).countP Dealing.isLaunched = 3 ∧
        (s₀.dealings ms).countP Dealing.isUnresolved = 1 ∧
        (s₀.dealings ms).countP Dealing.isFailed = 2 ∧
        (s₀.dealings ms).countP Dealing.isCaught = 1 ∧
        [true, false].map (fun ready => (s₀.chronicle ms).countP (·.isCall ready)) = [1, 0] :=
    ⟨_, rfl, by decide +kernel, by decide +kernel, by decide +kernel, by decide +kernel,
      by decide +kernel, by decide +kernel⟩
  obtain ⟨s, hs, hkept⟩ := Option.map_eq_some_iff.1 hrun
  obtain ⟨htrue, hfalse⟩ : (s₀.chronicle ms).countP (·.isCall true) = 1 ∧
      (s₀.chronicle ms).countP (·.isCall false) = 0 := by simpa using hcalls
  have hms : .crash ∉ ms := by decide
  obtain ⟨-, -, -, -, hr, hf, ha, hp, -, hlast⟩ := counters_balance hs₀ hms hs
  rw [hunresolved, hfailed] at hf
  rw [hf, hcaught, hkept] at ha
  refine ⟨s₀, s, hs₀, hms, hs, hr.trans hlaunched, hf, ha, hcaught, (hp true).trans htrue,
    (hp false).trans hfalse, fun hnone => ?_⟩
  rw [hlast.1 hnone] at hf
  cases hf

end Supervisor

end MediaPaths
