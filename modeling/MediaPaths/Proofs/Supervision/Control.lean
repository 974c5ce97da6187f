import MediaPaths.Proofs.Supervision.Run
import MediaPaths.Proofs.Supervision.Worker

/-!
# What decides about launches

Whether a supervisor launches an execution, waits or stops depends on a few of its fields, which
`control` singles out. `Steers` lists what a move can do to them: executions, couriers and the replies
of owners leave them alone, so that only the worker and whoever operates the supervisor count.
-/

namespace MediaPaths

namespace Supervisor

/-! ## The fields that control a supervisor -/

/-- What decides about launches. -/
structure Control where
  /-- What the worker is about to do. -/
  worker : WorkerState
  /-- Whether the supervisor is being stopped. -/
  cancelled : Bool
  /-- The phase that it was last known to be in. -/
  phase : Phase
  /-- The time of the next launch. -/
  retryAt : Option Nat
  /-- The number of executions launched so far. -/
  launches : Nat
  /-- The number of the execution that the worker watches. -/
  watched : Option Nat
  deriving DecidableEq

/-- What decides about the launches of a supervisor. -/
def control (s : Supervisor) : Control :=
  ⟨s.worker, s.cancelled, s.phase, s.retryAt, s.launches, s.execution.map (·.number)⟩

variable {s t u : Supervisor} {now : Nat}

theorem control_of_frame (h : t.frame = s.frame) : t.control = s.control := by
  have hc : ∀ p : Supervisor, p.control = { p.frame.1.control with watched := p.frame.2 } :=
    fun _ => rfl
  rw [hc t, hc s, h]

theorem control_of_courierFrame (h : t.courierFrame = s.courierFrame) : t.control = s.control := by
  have hc : ∀ p : Supervisor, p.courierFrame.control = p.control := by
    intro p
    simp only [control, courierFrame, Option.map_map]
    rfl
  rw [← hc t, ← hc s, h]

@[simp] theorem control_wakeAny (s : Supervisor) (t : Option Task) :
    (s.wakeAny t).control = s.control :=
  control_of_frame (frame_wakeAny s t)

@[simp] theorem control_wakeAll (s : Supervisor) (ts : List Task) :
    (s.wakeAll ts).control = s.control :=
  control_of_frame (frame_wakeAll s ts)

@[simp] theorem control_reply (s : Supervisor) (number : Nat) (answer : Option Answer) :
    (s.reply number answer).control = s.control :=
  control_of_frame (frame_reply s number answer)

/-! ## The steps of the worker -/

theorem control_spawn (s : Supervisor) (address : String) :
    (s.spawn address).control =
      { s.control with
        phase := .running
        retryAt := none
        launches := s.launches + 1
        watched := some s.launches } := rfl

theorem control_armRetry (s : Supervisor) (now : Nat) :
    (s.armRetry now).control =
      { s.control with phase := .retryPending, retryAt := some (now + s.pause) } := rfl

/-- Launching has an execution go, or sets the time of the next launch. -/
theorem control_launch (s : Supervisor) (now : Nat) :
    (s.launch now).control =
        { s.control with
          phase := .running
          retryAt := none
          launches := s.launches + 1
          watched := some s.launches } ∨
      (s.launch now).control =
        { s.control with phase := .retryPending, retryAt := some (now + s.pause) } := by
  rcases launch_cases s now with ⟨address, h⟩ | ⟨statistics, effects, h⟩
  · exact .inl (by rw [h, control_spawn])
  · exact .inr (by rw [h, control_armRetry]; rfl)

theorem control_handleEnd (s : Supervisor) (now : Nat) (r : SourceError) :
    (s.handleEnd now r).control =
      { s.control with
        phase := .retryPending
        retryAt := some (now + (s.handleEnd now r).pause)
        watched := none } := by
  unfold handleEnd
  simp only
  rw [control_armRetry, control_of_frame (frame_discardRequests _)]
  rfl

theorem control_handleReload (s : Supervisor) (entry : Entry) :
    (s.handleReload entry).control = s.control := by
  unfold handleReload
  simp only
  split <;> rfl

/-! ## Moves of sources and owners -/

theorem frame_giveUp {number : Nat} (h : s.giveUp number = some t) : t.frame = s.frame := by
  unfold giveUp at h
  split at h
  · cases h
  · split at h <;> cases h <;> simp

theorem frame_announceAside {number : Nat} {a : Announcement}
    (h : s.announceAside number a = some t) : t.frame = s.frame := by
  unfold announceAside at h
  split at h
  · cases h
  · split at h <;> cases h
    exact frame_abandon _ _ _

theorem control_replies (s : Supervisor) (rs : List Request) :
    (rs.foldl (fun s r => s.reply r.number none) s).control = s.control :=
  replies_eq control control_reply s rs

theorem control_crash (s : Supervisor) (r : Request) :
    (s.crash r).control =
      { s.control with worker := .crashed, retryAt := none, watched := none } := by
  unfold crash
  simp only
  rw [control_wakeAll, ← control_replies s (r :: (s.readyBox.content.toList ++
    s.notReadyBox.content.toList))]
  rfl

theorem control_cancel {reason : String} (h : s.isIdle = false) :
    (s.cancel reason).control = { s.control with cancelled := true } := by
  unfold cancel
  simp only [h, Bool.false_eq_true, if_false, control_wakeAll]
  simp only [control, mapExecutions, Option.map_map]
  rfl

/-! ## What a move does to them -/

/-- How a move bears on what decides about launches. -/
inductive Steers (s : Supervisor) : Move → Supervisor → Prop where
  /-- It leaves it alone. -/
  | still {m : Move} {t : Supervisor} (hm : ∀ asked, askedAfter asked m = asked)
      (h : t.control = s.control) : Steers s m t
  /-- The supervisor is started. -/
  | start {onDemand : Bool} {query : String} {t : Supervisor} (hw : s.worker = .idle)
      (h : t.control = ⟨.spawned, false, .running, none, s.launches, none⟩) :
      Steers s (.start onDemand query) t
  /-- The supervisor is asked to stop. -/
  | cancel {reason : String} {t : Supervisor} (h : t.control = { s.control with cancelled := true }) :
      Steers s (.cancel reason) t
  /-- The supervisor is idle again. -/
  | rest {t : Supervisor} (h : t.control = { s.control with worker := .idle }) : Steers s .rest t
  /-- The worker launches an execution: the first one, or the next one after a pause. -/
  | launch {now : Nat} {t : Supervisor}
      (hw : s.worker = .spawned ∨ s.worker = .selecting ∧ s.retryAt.isSome)
      (h : t.control =
        { s.control with
          worker := .selecting
          phase := .running
          retryAt := none
          launches := s.launches + 1
          watched := some s.launches }) : Steers s (.task now .worker) t
  /-- The worker cannot launch an execution. -/
  | fail {now at' : Nat} {t : Supervisor}
      (hw : s.worker = .spawned ∨ s.worker = .selecting ∧ s.retryAt.isSome)
      (h : t.control =
        { s.control with
          worker := .selecting
          phase := .retryPending
          retryAt := some at' }) : Steers s (.task now .worker) t
  /-- The worker is being stopped and waits for the execution to end. -/
  | join {now : Nat} {t : Supervisor} (hw : s.worker = .selecting) (hc : s.cancelled = true)
      (he : s.execution.isSome) (h : t.control = { s.control with worker := .joining }) :
      Steers s (.task now .worker) t
  /-- The worker ends as it should. -/
  | halt {now : Nat} {t : Supervisor}
      (hw : s.worker = .selecting ∧ s.cancelled = true ∨ s.worker = .joining)
      (he : ∀ e ∈ s.execution, e.isAlive = false)
      (h : t.control =
        { s.control with
          worker := .stopped
          phase := .stopped
          retryAt := none
          watched := none }) : Steers s (.task now .worker) t
  /-- The worker learns that the execution has ended by itself. -/
  | handleEnd {now at' : Nat} {e : Execution} {t : Supervisor} (hw : s.worker = .selecting)
      (he : s.execution = some e) (ha : e.isAlive = false)
      (h : t.control =
        { s.control with
          phase := .retryPending
          retryAt := some at'
          watched := none }) : Steers s (.task now .worker) t
  /-- The worker passes a request on. -/
  | serve {now : Nat} {r : Request} {t : Supervisor} (hw : s.worker = .selecting)
      (h : t.control = { s.control with worker := .serving r }) : Steers s (.task now .worker) t
  /-- The owner is done with a request. -/
  | resume {r : Request} {t : Supervisor} (hw : s.worker = .serving r)
      (h : t.control = { s.control with worker := .selecting }) : Steers s .resume t
  /-- The owner crashes. -/
  | crash {r : Request} {t : Supervisor} (hw : s.worker = .serving r)
      (h : t.control = { s.control with worker := .crashed, retryAt := none, watched := none }) :
      Steers s .crash t

/-- A launch steers the supervisor in one of two ways. -/
theorem steers_launch {s' : Supervisor} (hs : s'.control = { s.control with
      worker := .selecting, retryAt := s'.retryAt })
    (hw : s.worker = .spawned ∨ s.worker = .selecting ∧ s.retryAt.isSome) :
    Steers s (.task now .worker) (s'.launch now) := by
  have hl : s'.launches = s.launches := congrArg Control.launches hs
  rcases control_launch s' now with h | h
  · refine .launch hw ?_
    rw [h, hs, hl]
  · have hc : (s'.launch now).control = { s.control with
        worker := .selecting
        phase := .retryPending
        retryAt := some (now + s'.pause) } := by
      rw [h, hs]
    exact .fail hw hc

/-- Each thing that the worker does steers the supervisor in a way of its own. -/
theorem steers_of_works (h : Works now s t) : Steers s (.task now .worker) t := by
  cases h with
  | begin hw => exact steers_launch rfl (.inl hw)
  | join hw hc he => exact .join hw hc he rfl
  | halt hw he => exact .halt (hw.imp (fun h => ⟨h.1, h.2.1⟩) id) he rfl
  | handleEnd hw hc he hr =>
    exact .handleEnd hw he (isAlive_of_result? hr) (control_handleEnd s now _)
  | serve hw hc he ht =>
    rename_i r
    refine .serve (r := r) hw ?_
    rw [← control_of_frame (frame_takeRequest? ht)]
    rfl
  | reload hw hc hb =>
    refine .still (fun _ => rfl) ?_
    rw [control_handleReload, control_wakeAny]
    rfl
  | retry hw hc ht hn =>
    refine steers_launch ?_ (.inr ⟨hw, by simp [ht]⟩)
    simp [control, hw]

/-- Every move steers the supervisor in one of these ways. -/
theorem steers_of_move {m : Move} (h : s.move m = some t) : Steers s m t := by
  cases m with
  | start onDemand query =>
    simp only [move] at h
    split at h <;> cases h
    rename_i hi
    refine .start (by simpa [isIdle] using hi) ?_
    rw [Supervisor.start, if_pos hi]
    rfl
  | cancel reason =>
    simp only [move] at h
    split at h <;> cases h
    exact .cancel (control_cancel (by simpa using ‹¬ s.isIdle = true›))
  | rest =>
    simp only [move] at h
    split at h <;> cases h
    exact .rest rfl
  | reload entry =>
    simp only [move] at h
    split at h <;> cases h
    rename_i hi
    refine .still (fun _ => rfl) ?_
    rw [reload, if_neg hi]
    rfl
  | setPause ms =>
    cases h
    exact .still (fun _ => rfl) rfl
  | task now k =>
    cases k with
    | worker => exact steers_of_works (works_of_stepWorker h)
    | execution n => exact .still (fun _ => rfl) (control_of_frame (frame_stepExecution h))
    | courier n => exact .still (fun _ => rfl) (control_of_courierFrame (courierFrame_stepCourier h))
  | reply number answer =>
    cases h
    exact .still (fun _ => rfl) (control_reply _ _ _)
  | resume =>
    simp only [move] at h
    split at h <;> cases h
    exact .resume ‹_› rfl
  | crash =>
    simp only [move] at h
    split at h <;> cases h
    exact .crash ‹_› (control_crash s _)
  | flush =>
    cases h
    exact .still (fun _ => rfl) rfl
  | giveUp number => exact .still (fun _ => rfl) (control_of_frame (frame_giveUp h))
  | aside number a => exact .still (fun _ => rfl) (control_of_frame (frame_announceAside h))

end Supervisor

end MediaPaths
