import MediaPaths.Proofs.Supervision.Calls

/-!
# What a worker deals with

The worker of a supervisor launches executions, or finds that there is no address to pull from; it learns
that an execution has ended by itself; and it finds the execution that it holds when it is being stopped.
`dealing?` tells which of these things its next step is. `Deals` lists for each of them what becomes of the
fields that decide about launches and of what is counted, and nothing else is ever counted but calls of the
owner.
-/

namespace MediaPaths

/-- What a worker deals with. -/
inductive Dealing where
  /-- Its supervisor is started. -/
  | started
  /-- It launches the execution of a number. -/
  | launched (number : Nat)
  /-- It cannot launch one: there is no address to pull from. -/
  | unresolved (e : SourceError)
  /-- The execution of a number has ended by itself. -/
  | failed (number : Nat) (e : SourceError)
  /-- It is being stopped and holds the execution of a number. -/
  | caught (number : Nat)
  deriving DecidableEq

namespace Dealing

/-- Whether a launch is attempted. -/
def isAttempt : Dealing → Bool
  | launched _ | unresolved _ => true
  | started | failed _ _ | caught _ => false

/-- Whether an execution is launched. -/
def isLaunched : Dealing → Bool
  | launched _ => true
  | started | unresolved _ | failed _ _ | caught _ => false

/-- Whether no execution can be launched. -/
def isUnresolved : Dealing → Bool
  | unresolved _ => true
  | started | launched _ | failed _ _ | caught _ => false

/-- Whether an execution has ended by itself. -/
def isFailed : Dealing → Bool
  | failed _ _ => true
  | started | launched _ | unresolved _ | caught _ => false

/-- Whether an execution is held while the supervisor is being stopped. -/
def isCaught : Dealing → Bool
  | caught _ => true
  | started | launched _ | unresolved _ | failed _ _ => false

/-- What is wrong, if something is. -/
def failure? : Dealing → Option SourceError
  | unresolved e | failed _ e => some e
  | started | launched _ | caught _ => none

/-- Whether something is wrong. -/
def isFailure (d : Dealing) : Bool := d.failure?.isSome

/-- The number of the execution that is launched. -/
def launched? : Dealing → Option Nat
  | launched n => some n
  | started | unresolved _ | failed _ _ | caught _ => none

/-- The number of the execution with which the worker is done. -/
def concluded? : Dealing → Option Nat
  | failed n _ | caught n => some n
  | started | launched _ | unresolved _ => none

end Dealing

namespace Supervisor

variable {s t u : Supervisor} {now : Nat} {m : Move} {ms : List Move} {d : Option Dealing}

/-! ## What comes next -/

/-- The address from which the next execution pulls, if there is one. -/
def destination (s : Supervisor) : Except SourceError String :=
  let settings := s.launchEntry.settings
  Template.resolve settings.source s.groups s.query settings.username settings.password

/-- What an attempt to launch an execution comes to. -/
def attempt (s : Supervisor) : Dealing :=
  match s.destination with
  | .ok _ => .launched s.launches
  | .error e => .unresolved e

/-- What the worker deals with in its next step, if that is one of these things. -/
def dealing? (s : Supervisor) (now : Nat) : Option Dealing :=
  match s.worker, s.execution with
  | .spawned, _ => some s.attempt
  | .selecting, some e =>
    if s.cancelled then some (.caught e.number) else e.result?.map (.failed e.number)
  | .selecting, none =>
    if !s.cancelled && s.letters.isEmpty && s.reloadBox.content.isNone && s.retryAt.any (· ≤ now) then
      some s.attempt
    else none
  | _, _ => none

/-- What the worker deals with in a move. -/
def dealtIn (s : Supervisor) : Move → Option Dealing
  | .start _ _ => some .started
  | .task now .worker => s.dealing? now
  | _ => none

theorem dealtIn_eq_none (hm : ∀ now, m ≠ .task now .worker) (hs : m.isStart = false) :
    s.dealtIn m = none := by
  cases m with
  | start => cases hs
  | task now k =>
    cases k with
    | worker => exact absurd rfl (hm now)
    | execution | courier => rfl
  | _ => rfl

/-- What the worker deals with in some moves, in this order. -/
def dealings (s : Supervisor) : List Move → List Dealing
  | [] => []
  | m :: ms =>
    match s.move m with
    | some t => (s.dealtIn m).toList ++ t.dealings ms
    | none => []

theorem dealings_concat (hs : s.run ms = some t) (hm : t.move m = some u) :
    s.dealings (ms ++ [m]) = s.dealings ms ++ (t.dealtIn m).toList := by
  induction ms generalizing s with
  | nil =>
    cases hs
    simp [dealings, hm]
  | cons m' ms ih =>
    obtain ⟨v, hv, hs⟩ := Option.bind_eq_some_iff.1 hs
    simp [dealings, hv, ih hs]

/-! ## What is counted -/

/-- What is counted of launches and of failures. -/
def tally (s : Supervisor) : Statistics := { s.statistics with ready := 0, notReady := 0 }

theorem tally_of_frame (h : t.frame = s.frame) : t.tally = s.tally := by
  have ht : ∀ c : Supervisor, c.tally = c.frame.1.tally := fun _ => rfl
  rw [ht t, ht s, h]

theorem tally_of_courierFrame (h : t.courierFrame = s.courierFrame) : t.tally = s.tally := by
  have ht : ∀ c : Supervisor, c.tally = c.courierFrame.tally := fun _ => rfl
  rw [ht t, ht s, h]

theorem tally_spawn (s : Supervisor) (address : String) :
    (s.spawn address).tally = s.tally.countRun := rfl

theorem tally_serve (s : Supervisor) (r : Request) : (s.serve r).tally = s.tally := by
  unfold serve tally
  cases r.announcement <;> rfl

theorem tally_handleReload (s : Supervisor) (entry : Entry) :
    (s.handleReload entry).tally = s.tally := by
  unfold handleReload
  simp only
  split <;> rfl

theorem tally_replies (s : Supervisor) (rs : List Request) :
    (rs.foldl (fun s r => s.reply r.number none) s).tally = s.tally :=
  replies_eq tally (fun _ _ _ => tally_of_frame (frame_reply _ _ _)) s rs

theorem tally_move (hm : ∀ now, m ≠ .task now .worker) (h : s.move m = some t) :
    t.tally = s.tally := by
  cases m with
  | start onDemand query =>
    simp only [move] at h
    split at h <;> cases h
    rw [start, if_pos ‹_›]
    rfl
  | cancel reason =>
    simp only [move] at h
    split at h <;> cases h
    rw [cancel, if_neg ‹_›]
    exact (tally_of_frame (frame_wakeAll _ _)).trans rfl
  | reload entry =>
    simp only [move] at h
    split at h <;> cases h
    rw [reload, if_neg ‹_›]
    rfl
  | task now k =>
    cases k with
    | worker => exact absurd rfl (hm now)
    | execution n => exact tally_of_frame (frame_stepExecution h)
    | courier n => exact tally_of_courierFrame (courierFrame_stepCourier h)
  | reply number answer =>
    cases h
    exact tally_of_frame (frame_reply _ _ _)
  | rest | resume =>
    simp only [move] at h
    split at h <;> cases h
    rfl
  | crash =>
    simp only [move] at h
    split at h <;> cases h
    unfold crash
    simp only
    exact (tally_of_frame (frame_wakeAll _ _)).trans (tally_replies _ _)
  | setPause | flush =>
    cases h
    rfl
  | giveUp number => exact tally_of_frame (frame_giveUp h)
  | aside number a => exact tally_of_frame (frame_announceAside h)

/-! ## The steps of the worker -/

/-- It is time to launch an execution: the worker begins, or a pause is over. -/
def IsDue (now : Nat) (s : Supervisor) : Prop :=
  s.worker = .spawned ∨
    s.worker = .selecting ∧ s.cancelled = false ∧ ∃ due ≤ now, s.retryAt = some due

/-- What becomes of what decides about launches and of what is counted in a step of the worker. -/
inductive Deals (now : Nat) (s t : Supervisor) : Option Dealing → Prop where
  /-- An execution is launched. -/
  | launched (hd : s.IsDue now)
      (hc : t.control =
        { s.control with
          worker := .selecting
          phase := .running
          retryAt := none
          launches := s.launches + 1
          watched := some s.launches })
      (ht : t.tally = s.tally.countRun) : Deals now s t (some (.launched s.launches))
  /-- No execution can be launched. -/
  | unresolved {e : SourceError} (hd : s.IsDue now)
      (hc : t.control =
        { s.control with
          worker := .selecting
          phase := .retryPending
          retryAt := some (now + s.pause) })
      (ht : t.tally = s.tally.countFailure e.message) : Deals now s t (some (.unresolved e))
  /-- The execution has ended by itself. -/
  | failed {e : Execution} {r : SourceError} (hw : s.worker = .selecting)
      (hs : s.cancelled = false) (he : s.execution = some e) (hr : e.result? = some r)
      (hc : t.control =
        { s.control with
          phase := .retryPending
          retryAt := some (now + s.pause)
          watched := none })
      (ht : t.tally = s.tally.countFailure r.message) : Deals now s t (some (.failed e.number r))
  /-- The supervisor is being stopped while an execution is held. -/
  | caught {e : Execution} (hw : s.worker = .selecting) (hs : s.cancelled = true)
      (he : s.execution = some e) (hc : t.control = { s.control with worker := .joining })
      (ht : t.tally = s.tally) : Deals now s t (some (.caught e.number))
  /-- The worker ends as it should. -/
  | halt (hw : s.worker = .selecting ∧ s.cancelled = true ∧ s.execution = none ∨
        s.worker = .joining)
      (hc : t.control =
        { s.control with
          worker := .stopped
          phase := .stopped
          retryAt := none
          watched := none })
      (ht : t.tally = s.tally) : Deals now s t none
  /-- A request is passed on. -/
  | serve {r : Request} (hw : s.worker = .selecting) (hr : r ∈ s.letters)
      (hc : t.control = { s.control with worker := .serving r }) (ht : t.tally = s.tally) :
      Deals now s t none
  /-- A change of the settings is taken note of. -/
  | reload (hw : s.worker = .selecting) (hc : t.control = s.control) (ht : t.tally = s.tally) :
      Deals now s t none

theorem launch_of_ok {address : String} (h : s.destination = .ok address) (now : Nat) :
    s.launch now = s.spawn address := by
  unfold destination at h
  unfold launch
  simp only at h ⊢
  rw [h]

theorem launch_of_error {e : SourceError} (h : s.destination = .error e) (now : Nat) :
    (s.launch now).control =
        { s.control with phase := .retryPending, retryAt := some (now + s.pause) } ∧
      (s.launch now).tally = s.tally.countFailure e.message := by
  unfold destination at h
  unfold launch
  simp only at h ⊢
  rw [h]
  exact ⟨rfl, rfl⟩

/-- A launch goes to the address for which the entry stands, or it is a failure. -/
theorem deals_launch (hu : u.control = { s.control with worker := .selecting, retryAt := u.retryAt })
    (hp : u.pause = s.pause) (hd : u.destination = s.destination) (ht : u.tally = s.tally)
    (hs : s.IsDue now) : Deals now s (u.launch now) (some s.attempt) := by
  have hl : u.launches = s.launches := congrArg Control.launches hu
  unfold attempt
  cases hx : s.destination with
  | ok address =>
    have hspawn := launch_of_ok (hd.trans hx) now
    refine .launched hs ?_ ?_
    · rw [hspawn, control_spawn, hu, hl]
    · rw [hspawn, tally_spawn, ht]
  | error e =>
    obtain ⟨hc, hcount⟩ := launch_of_error (hd.trans hx) now
    refine .unresolved hs ?_ ?_
    · rw [hc, hu, hp]
    · rw [hcount, ht]

theorem pause_handleEnd (s : Supervisor) (now : Nat) (r : SourceError) :
    (s.handleEnd now r).pause = s.pause :=
  congrArg Brief.pause (brief_of_frame (frame_discardRequests _))

theorem isEmpty_letters_of_takeRequest? (h : s.takeRequest? = none) : s.letters.isEmpty = true := by
  unfold takeRequest? at h
  cases hr : s.readyBox.take? with
  | some x => simp [hr] at h
  | none =>
    cases hn : s.notReadyBox.take? with
    | some x => simp [hr, hn] at h
    | none => simp [letters, content_of_take?_none hr, content_of_take?_none hn]

theorem mem_letters_of_takeRequest? {r : Request} (h : s.takeRequest? = some (t, r)) :
    r ∈ s.letters := by
  rcases takeRequest?_cases h with ⟨b, next, hb, -⟩ | ⟨-, b, next, hb, -⟩
  · exact mem_letters.2 ⟨.ready [], (Mailbox.content_of_take? hb).1⟩
  · exact mem_letters.2 ⟨.notReady, (Mailbox.content_of_take? hb).1⟩

theorem execution_of_retryAt (hc : s.control.Consistent) (hw : s.worker = .selecting)
    (hr : s.retryAt.isSome = true) : s.execution = none := by
  have hn := watched_eq_none_of_launching hc (.inr ⟨hw, hr⟩)
  simpa [control] using hn

theorem deals_of_select (hc : s.control.Consistent) (hw : s.worker = .selecting)
    (h : s.select now = some t) : Deals now s t (s.dealing? now) := by
  unfold select at h
  split at h
  · -- it is being stopped
    rename_i hcan
    obtain rfl := Option.some.inj h
    cases hx : s.execution with
    | none =>
      simp only [dealing?, hw, hx, hcan]
      exact .halt (.inl ⟨hw, hcan, hx⟩) rfl rfl
    | some e =>
      simp only [dealing?, hw, hx, hcan, if_true, Option.isSome_some]
      exact .caught hw hcan hx (by simp [control, hx, hcan]) rfl
  · rename_i hcan
    have hcan : s.cancelled = false := by simpa using hcan
    split at h
    · -- the execution has ended
      rename_i r hr
      cases h
      obtain ⟨e, hx, hr⟩ := Option.bind_eq_some_iff.1 hr
      simp only [dealing?, hw, hx, hcan, hr]
      refine .failed hw hcan hx hr ?_ ((tally_of_frame (frame_discardRequests _)).trans rfl)
      rw [control_handleEnd, pause_handleEnd]
    · rename_i hr
      -- an execution that is held goes on, and the worker does not deal with it
      have hnone : ∀ e, s.execution = some e → s.dealing? now = none := by
        intro e hx
        have hr : e.result? = none := by simpa [hx] using hr
        simp [dealing?, hw, hx, hcan, hr]
      split at h
      · rename_i v r hv
        cases h
        have hmem := mem_letters_of_takeRequest? hv
        have hd : s.dealing? now = none := by
          cases hx : s.execution with
          | some e => exact hnone e hx
          | none => simp [dealing?, hw, hx, List.ne_nil_of_mem hmem]
        rw [hd]
        refine .serve (r := r) hw hmem ?_ ?_
        · rw [← control_of_frame (frame_takeRequest? hv)]
          rfl
        · rw [tally_serve, tally_of_frame (frame_takeRequest? hv)]
      · rename_i hv
        split at h
        · rename_i entry b next hb
          cases h
          have hcontent := (Mailbox.content_of_take? hb).1
          have hd : s.dealing? now = none := by
            cases hx : s.execution with
            | some e => exact hnone e hx
            | none => simp [dealing?, hw, hx, hcontent]
          rw [hd]
          refine .reload hw ?_ ?_
          · rw [control_handleReload, control_wakeAny]
            rfl
          · rw [tally_handleReload, tally_of_frame (frame_wakeAny _ _)]
            rfl
        · rename_i hb
          split at h
          · rename_i due hdue
            split at h
            · rename_i hle
              obtain rfl := Option.some.inj h
              have hx := execution_of_retryAt hc hw (by simp [hdue])
              have hd : s.dealing? now = some s.attempt := by
                simp [dealing?, hw, hx, hcan, isEmpty_letters_of_takeRequest? hv,
                  content_of_take?_none hb, hdue, hle]
              rw [hd]
              refine deals_launch ?_ rfl rfl rfl (.inr ⟨hw, hcan, due, hle, hdue⟩)
              simp [control, hw]
            · cases h
          · cases h

/-- In each step the worker deals with what it is about to, if with anything. -/
theorem deals_of_stepWorker (hc : s.control.Consistent) (h : s.stepWorker now = some t) :
    Deals now s t (s.dealing? now) := by
  unfold stepWorker at h
  split at h
  · rename_i hw
    cases h
    have hd : s.dealing? now = some s.attempt := by simp only [dealing?, hw]
    rw [hd]
    exact deals_launch rfl rfl rfl rfl (.inl hw)
  · exact deals_of_select hc ‹_› h
  · rename_i hw
    split at h <;> cases h
    have hd : s.dealing? now = none := by simp only [dealing?, hw]
    rw [hd]
    exact .halt (.inr hw) rfl rfl
  all_goals cases h

/-- Unless it is started, a supervisor deals with something by a step of its worker. -/
theorem deals_of_dealtIn {d : Dealing} (hc : s.control.Consistent) (h : s.move m = some t)
    (hd : s.dealtIn m = some d) :
    m.isStart = true ∧ d = .started ∨ ∃ now, m = .task now .worker ∧ Deals now s t (some d) := by
  cases m with
  | start =>
    cases hd
    exact .inl ⟨rfl, rfl⟩
  | task now k =>
    cases k with
    | worker =>
      have hdeals := deals_of_stepWorker hc h
      rw [show s.dealing? now = some d from hd] at hdeals
      exact .inr ⟨now, rfl, hdeals⟩
    | execution | courier => cases hd
  | _ => cases hd

end Supervisor

end MediaPaths
