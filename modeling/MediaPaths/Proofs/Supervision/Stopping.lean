import MediaPaths.Proofs.Supervision.Calls
import MediaPaths.Proofs.Supervision.Ending

/-!
# Stopping a supervisor

From the moment at which a supervisor is asked to stop, its owner is not called any more, and its worker
has ended only after its execution has. Then nothing is left of the run: no execution, no call that
announces something, nothing that would launch or announce something later.
-/

namespace MediaPaths

namespace Execution

/-- Whether it is in a call that announces something. -/
def isCalling (e : Execution) : Bool :=
  match e.activity with
  | .posting _ | .listening _ _ => true
  | _ => false

end Execution

namespace Supervisor

variable {s t : Supervisor} {m : Move} {ms : List Move} {h : List Happening} {e : Execution}
  {number : Nat}

/-- The executions that are in a call that announces something. -/
def callers (s : Supervisor) : List Execution := s.executions.filter (·.isCalling)

/-! ## The owner is left alone -/

/-- From the moment at which a stop is asked for, the owner is not called. -/
theorem unbegun_of_cancel {reason : String} {ls : List Move} {r : Request}
    (hls : ∀ m ∈ ls, m.isStart = false) : .begun r ∉ s.chronicle (.cancel reason :: ls) := by
  intro hb
  obtain ⟨xs, m, ys, u, v, heq, hu, hm, hb⟩ := exists_move_of_mem_chronicle hb
  obtain ⟨⟨now, rfl⟩, -, hc, -⟩ := serve_of_begun hm hb
  cases xs with
  | nil => cases heq
  | cons x xs =>
    obtain ⟨rfl, rfl⟩ := List.cons.inj heq
    have hcan := cancelled_of_cancel (fun m hm => hls m (List.mem_append_left _ hm)) hu
    rw [hc] at hcan
    cases hcan

/-! ## What a stop leaves -/

/-- What holds once a supervisor was stopped of which a chronicle tells. -/
structure Settled (h : List Happening) (s : Supervisor) : Prop where
  /-- No execution is left. -/
  executions : s.executions = []
  /-- All that were launched have ended. -/
  ended : ∀ n < s.launches, .ended n ∈ h
  /-- No call that announces something goes on. -/
  callers : s.callers = []
  /-- It is known to be stopped. -/
  phase : s.phase = .stopped
  /-- Until it is started again, nothing is launched, and it stays stopped. -/
  idle : ∀ ks t, .crash ∉ ks → (∀ m ∈ ks, m.isStart = false) → s.run ks = some t →
    t.launches = s.launches ∧ t.executions = [] ∧ t.phase = .stopped
  /-- Even if it is started again, nothing that was announced reaches the owner any more. -/
  silent : ∀ ks t n r, .crash ∉ ks → s.run ks = some t → .queued n r ∈ h → .begun r ∉ s.chronicle ks

theorem worker_of_isDone (hs : s.Sound) (hd : s.isDone = true) :
    s.worker = .stopped ∨ s.worker = .idle := by
  cases hw : s.worker with
  | idle => exact .inr rfl
  | stopped => exact .inl rfl
  | crashed => exact absurd hw hs.worker
  | spawned | selecting | serving _ | joining => simp [isDone, hw, WorkerState.isAlive] at hd

theorem executions_eq_nil (hs : s.Sound) (hw : s.worker = .stopped ∨ s.worker = .idle) :
    s.held = none ∧ s.executions = [] := by
  have hnone : s.control.watched = none := hs.watched hw.symm
  have hx : s.execution = none := by simpa [control] using hnone
  exact ⟨held_eq_none hnone, by simp [executions, hx, hs.orphans]⟩

/-- A worker that has ended stays so until the supervisor is started again. -/
theorem worker_run (hw : s.worker = .stopped ∨ s.worker = .idle)
    (hms : ∀ m ∈ ms, m.isStart = false) (h : s.run ms = some t) :
    t.worker = .stopped ∨ t.worker = .idle := by
  refine run_induction (P := fun ms t => (∀ m ∈ ms, m.isStart = false) →
    t.worker = .stopped ∨ t.worker = .idle) (fun _ => hw) ?_ h hms
  intro ms u m v _ hu hm hms
  have hu := hu fun m hm => hms m (List.mem_append_left _ hm)
  exact (stays_stopped_move hu (hms m (by simp)) hm).1

theorem settled_of_isDone {s₀ : Supervisor} (hl : Ledger [] s₀) (hsound : s₀.Sound)
    (hr : Roster [] s₀) (hms : .crash ∉ ms) (hs : s₀.run ms = some s) (hc : s.cancelled = true)
    (hd : s.isDone = true) : Settled (s₀.chronicle ms) s := by
  obtain ⟨hs', hroster⟩ := roster_run hsound hr hms hs
  have hw := worker_of_isDone hs' hd
  obtain ⟨hheld, hx⟩ := executions_eq_nil hs' hw
  have hp : s.phase = .stopped := hs'.phase (hw.imp id fun hi => ⟨hi, hc⟩)
  have hend : ∀ n < s.launches, .ended n ∈ s₀.chronicle ms := by
    intro n hn
    refine (hroster.live n hn).resolve_right fun h => ?_
    rw [hheld] at h
    cases h
  refine ⟨hx, hend, by rw [callers, hx]; rfl, hp, fun ks t hks hstart ht => ?_,
    fun ks t n r hks ht hq => ?_⟩
  · obtain ⟨htp, htl⟩ := stays_stopped_run hw hstart ht
    have hcrash : .crash ∉ ms ++ ks := by simp [hms, hks]
    have ht' := (roster_run hsound hr hcrash (run_append.2 ⟨s, hs, ht⟩)).1
    exact ⟨htl, (executions_eq_nil ht' (worker_run hw hstart ht)).2, htp.trans hp⟩
  · exact unbegun_of_ended hl hsound hr hms hs hq (hend n (hroster.queued n r hq)) hks

/-- What holds when a supervisor is asked to stop in any state that it can be in after it was started,
whatever comes to pass afterwards. Its owner is not called any more. What its worker, its execution and its
owner can still do is bounded, and as long as the worker has not ended, one of them can do something. Once
it has ended, the supervisor is stopped for good, and has the settings that it was handed last. -/
theorem stop_complete {now pause : Nat} {entry : Entry} {groups : Option (List String)}
    {options : SourceOptions} {factory : Factory} {s₀ s u t : Supervisor} {ms ns ls : List Move}
    {onDemand : Bool} {query reason : String}
    (hs₀ : create now entry groups options factory pause = .ok s₀) (hs : s₀.run ms = some s)
    (hu : s.run (.start onDemand query :: ns) = some u)
    (ht : u.run (.cancel reason :: ls) = some t) (hcrash : .crash ∉ ms ++ ns ++ ls)
    (hstart : ∀ m ∈ ns ++ ls, m.isStart = false) :
    (∀ r, .begun r ∉ u.chronicle (.cancel reason :: ls)) ∧
    ls.countP (·.isLabour) ≤ u.toil ∧
    (t.isDone = false → ∃ m v, m.isLabour = true ∧ t.move m = some v) ∧
    (t.isDone = true →
      Settled (s₀.chronicle (ms ++ .start onDemand query :: ns ++ .cancel reason :: ls)) t ∧
        t.entry = (handed (ns ++ ls)).getLast?.getD s.entry) := by
  have hls : ∀ m ∈ ls, m.isStart = false := fun m hm => hstart m (List.mem_append_right _ hm)
  have hc := cancelled_of_cancel hls ht
  have hsu : s₀.run (ms ++ .start onDemand query :: ns) = some u := run_append.2 ⟨s, hs, hu⟩
  have hrun : s₀.run (ms ++ .start onDemand query :: ns ++ .cancel reason :: ls) = some t :=
    run_append.2 ⟨u, hsu, ht⟩
  have hcrash' : .crash ∉ ms ++ .start onDemand query :: ns ++ .cancel reason :: ls := by
    simpa [not_or, and_assoc] using hcrash
  refine ⟨fun r => unbegun_of_cancel hls, ?_, fun hd => ?_, fun hd => ⟨?_, ?_⟩⟩
  · obtain ⟨v, hv, hvt⟩ := Option.bind_eq_some_iff.1 ht
    have huv : s₀.run (ms ++ .start onDemand query :: ns ++ [.cancel reason]) = some v :=
      run_concat.2 ⟨u, hsu, hv⟩
    have hnone : .crash ∉ ms ++ .start onDemand query :: ns ++ [.cancel reason] := by
      simp only [List.mem_append, not_or] at hcrash' ⊢
      exact ⟨hcrash'.1, by simp⟩
    have hsound := (roster_run (sound_create hs₀) (attends_create hs₀).2 hnone huv).1
    have hlabour := labour_run (warned_run hs₀ huv) hsound.orphans (cancelled_move hv) hls
      (fun h => hcrash (List.mem_append_right _ h)) hvt
    rw [toil_cancel hv] at hlabour
    omega
  · exact exists_labour (warned_run hs₀ hrun) hc hd
  · exact settled_of_isDone (ledger_create hs₀) (sound_create hs₀) (attends_create hs₀).2 hcrash'
      hrun hc hd
  · have hhanded : handed (.start onDemand query :: ns ++ .cancel reason :: ls) =
        handed (ns ++ ls) := by
      simp [handed, Move.change?]
    rw [entry_run (run_append.2 ⟨u, hu, ht⟩), hhanded]

/-- A supervisor is asked to stop while its owner is at a request, its source waits for the answer to
another one, and changes of the settings are on their way. The second request never reaches the
owner, and the supervisor keeps the settings that it was handed last. -/
theorem stop_complete_busy :
    let busy : Factory := fun _ _ _ =>
      .ok { behaviour := fun _ => [.abandon (.ready []), .announce .notReady false, .linger 7] }
    let few : Entry := { settings := { source := "rtsp://h/x", maxReaders := 1 } }
    let many : Entry := { settings := { source := "rtsp://h/x", maxReaders := 99 } }
    let ns : List Move := [.task 0 .worker, .task 0 (.execution 0), .task 0 (.execution 0),
      .task 0 .worker, .task 0 (.execution 0), .reload few, .reload many]
    let ls : List Move := [.task 0 (.execution 0), .reply 0 (some .accepted), .resume,
      .task 0 .worker, .task 0 (.courier 0), .task 0 (.courier 1), .task 0 (.execution 0),
      .task 7 (.execution 0), .task 7 (.execution 0), .task 7 .worker]
    ∃ s₀ u t, create 0 { settings := { source := "rtsp://h/x" } } none {} busy 5000 = .ok s₀ ∧
      s₀.run (.start false "" :: ns) = some u ∧ u.run (.cancel "done" :: ls) = some t ∧
      .crash ∉ ns ++ ls ∧ (∀ m ∈ ns ++ ls, m.isStart = false) ∧
      .queued 0 ⟨1, .notReady⟩ ∈ s₀.chronicle (.start false "" :: ns) ∧
      .begun ⟨1, .notReady⟩ ∉ u.chronicle (.cancel "done" :: ls) ∧
      t.isDone = true ∧ t.phase = .stopped ∧ t.callers = [] ∧ t.entry = many := by
  intro busy few many ns ls
  obtain ⟨s₀, hs₀, hrun, hqueued, hdone⟩ : ∃ s₀,
      create 0 { settings := { source := "rtsp://h/x" } } none {} busy 5000 = .ok s₀ ∧
      (s₀.run (.start false "" :: ns ++ .cancel "done" :: ls)).isSome ∧
      .queued 0 ⟨1, .notReady⟩ ∈ s₀.chronicle (.start false "" :: ns) ∧
      (s₀.run (.start false "" :: ns ++ .cancel "done" :: ls)).map isDone = some true :=
    ⟨_, rfl, by decide +kernel, by decide +kernel, by decide +kernel⟩
  obtain ⟨t, ht⟩ := Option.isSome_iff_exists.1 hrun
  rw [ht] at hdone
  have hd : t.isDone = true := Option.some.inj hdone
  obtain ⟨u, hu, htu⟩ := run_append.1 ht
  have hcrash : .crash ∉ [] ++ ns ++ ls := by decide
  have hstart : ∀ m ∈ ns ++ ls, m.isStart = false := by decide
  obtain ⟨hsilent, -, -, hfin⟩ := stop_complete hs₀ rfl hu htu hcrash hstart
  obtain ⟨hsettled, hentry⟩ := hfin hd
  exact ⟨s₀, u, t, hs₀, hu, htu, hcrash, hstart, hqueued, hsilent _, hd, hsettled.phase,
    hsettled.callers, hentry⟩

end Supervisor

end MediaPaths
