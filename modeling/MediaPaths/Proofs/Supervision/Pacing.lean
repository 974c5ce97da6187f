import Mathlib.Data.List.Chain
import MediaPaths.Proofs.Supervision.Dealings
import MediaPaths.Proofs.Supervision.Launches

/-!
# The pause between launches

When an execution fails, or none can be launched, the next launch is attempted after exactly the pause
that is set, provided that the clock does not run past the time at which the worker can go on. Nothing
else takes the worker's time meanwhile: no execution is held, so that nothing lies in the mailboxes of
announcements, and changes of the settings are noted at once and leave the time of the launch alone.

The invariant is `Stage`: it tells from what the worker dealt with last, and when, what it is about to do.
-/

namespace MediaPaths

namespace Supervisor

variable {s t u : Supervisor} {m : Move} {ms : List Move} {now later start due p : Nat}
  {x y : Stamped Dealing} {xs : List (Stamped Move)} {last : Option (Stamped Dealing)}

/-! ## Runs by the clock -/

/-- Whether a move may come next by the clock. The clock does not go back, a task takes its step at the
time that it shows, and it does not pass the time of the next launch while the worker can go on then. -/
def isTimely (s : Supervisor) (now : Nat) (x : Stamped Move) : Bool :=
  decide (now ≤ x.time) && s.retryAt.all (fun due => (s.stepWorker due).isNone || x.time ≤ due) &&
    match x.what with
    | .task time _ => time == x.time
    | _ => true

/-- The time and the supervisor after a move by the clock. -/
def tick (c : Nat × Supervisor) (x : Stamped Move) : Option (Nat × Supervisor) :=
  if c.2.isTimely c.1 x then (c.2.move x.what).map (x.time, ·) else none

/-- The time and the supervisor after some moves by the clock. -/
def runBy (c : Nat × Supervisor) (xs : List (Stamped Move)) : Option (Nat × Supervisor) :=
  xs.foldlM tick c

theorem timely_of_isTimely {x : Stamped Move} (h : s.isTimely now x = true) :
    (∀ due, s.retryAt = some due → (s.stepWorker due).isSome → x.time ≤ due) ∧
      ∀ time k, x.what = .task time k → time = x.time := by
  simp only [isTimely, Bool.and_eq_true] at h
  refine ⟨fun due hr hw => ?_, fun time k hx => ?_⟩
  · have hdue := h.1.2
    rw [hr, Option.all_some, Bool.or_eq_true] at hdue
    rcases hdue with hnone | hle
    · rw [Option.isNone_iff_eq_none.1 hnone] at hw
      cases hw
    · exact of_decide_eq_true hle
  · have htime := h.2
    rw [hx] at htime
    exact eq_of_beq htime

theorem runBy_induction {P : List (Stamped Move) → Nat → Supervisor → Prop} (nil : P [] start s)
    (concat : ∀ xs x now t u, runBy (start, s) xs = some (now, t) → P xs now t →
      t.isTimely now x = true → t.move x.what = some u → P (xs ++ [x]) x.time u)
    (h : runBy (start, s) xs = some (now, t)) : P xs now t := by
  induction xs using List.reverseRecOn generalizing now t with
  | nil =>
    cases h
    exact nil
  | append_singleton xs x ih =>
    simp only [runBy, List.foldlM_append, List.foldlM_cons, List.foldlM_nil, Option.bind_eq_bind,
      Option.bind_eq_some_iff] at h
    obtain ⟨⟨before, v⟩, hv, ⟨after, w⟩, hw, heq⟩ := h
    cases heq
    unfold tick at hw
    split at hw
    · obtain ⟨w', hw', heq⟩ := Option.map_eq_some_iff.1 hw
      cases heq
      exact concat xs x before v t hv (ih hv) ‹_› hw'
    · cases hw

/-- The moves of a run by the clock. -/
def undated (xs : List (Stamped Move)) : List Move := xs.map (·.what)

theorem undated_concat (xs : List (Stamped Move)) (x : Stamped Move) :
    undated (xs ++ [x]) = undated xs ++ [x.what] := by
  simp [undated]

/-- What the worker deals with in some moves, and when. -/
def diary (s : Supervisor) : List (Stamped Move) → List (Stamped Dealing)
  | [] => []
  | x :: xs =>
    match s.move x.what with
    | some t => (s.dealtIn x.what).toList.map (⟨x.time, ·⟩) ++ t.diary xs
    | none => []

theorem diary_concat {x : Stamped Move} (hs : s.run (undated xs) = some t)
    (hm : t.move x.what = some u) :
    s.diary (xs ++ [x]) = s.diary xs ++ (t.dealtIn x.what).toList.map (⟨x.time, ·⟩) := by
  induction xs generalizing s with
  | nil =>
    cases hs
    simp [diary, hm]
  | cons y ys ih =>
    obtain ⟨v, hv, hs⟩ := Option.bind_eq_some_iff.1 hs
    simp [diary, hv, ih hs]

/-- When something is dealt with, that tells what is dealt with next, and after a failure also when. -/
inductive Follows (pause : Nat) : Stamped Dealing → Stamped Dealing → Prop where
  /-- A launch is attempted as soon as the worker begins. -/
  | first {t t' : Nat} {d : Dealing} (hd : d.isAttempt = true) : Follows pause ⟨t, .started⟩ ⟨t', d⟩
  /-- An execution that was launched ends by itself. -/
  | fails {t t' n : Nat} {e : SourceError} : Follows pause ⟨t, .launched n⟩ ⟨t', .failed n e⟩
  /-- It is held until a stop finds it. -/
  | caught {t t' n : Nat} : Follows pause ⟨t, .launched n⟩ ⟨t', .caught n⟩
  /-- After a failure, a launch is attempted when the pause is over. -/
  | again {t : Nat} {d d' : Dealing} (hd : d.isFailure = true) (hd' : d'.isAttempt = true) :
      Follows pause ⟨t, d⟩ ⟨t + pause, d'⟩
  /-- The supervisor is started again once it was stopped. -/
  | restart {t t' : Nat} {d : Dealing} (hd : d.isFailure = true ∨ d.isCaught = true) :
      Follows pause ⟨t, d⟩ ⟨t', .started⟩

/-! ## What the worker is about to do -/

/-- What the worker is about to do at some time, as far as that follows from what it dealt with last. -/
inductive Stage (p now : Nat) (c : Control) : Option (Stamped Dealing) → Prop where
  /-- It was never started. -/
  | fresh (hw : c.worker = .idle) : Stage p now c none
  /-- It begins. -/
  | begins {t : Nat} (hw : c.worker = .spawned) : Stage p now c (some ⟨t, .started⟩)
  /-- It looks after the execution that it has launched. -/
  | runs {t n : Nat} (hw : c.worker = .selecting ∨ ∃ r, c.worker = .serving r)
      (hx : c.watched = some n) : Stage p now c (some ⟨t, .launched n⟩)
  /-- It waits until the pause is over. -/
  | pauses {t : Nat} {d : Dealing} (hd : d.isFailure = true) (hw : c.worker = .selecting)
      (hr : c.retryAt = some (t + p)) (hn : now ≤ t + p) : Stage p now c (some ⟨t, d⟩)
  /-- It waits for the execution to end. -/
  | joins {t n : Nat} (hw : c.worker = .joining) : Stage p now c (some ⟨t, .caught n⟩)
  /-- It has ended as it should. -/
  | rests {t : Nat} {d : Dealing} (hd : d.isFailure = true ∨ d.isCaught = true)
      (hc : c.cancelled = true) (hw : c.worker = .stopped ∨ c.worker = .idle) :
      Stage p now c (some ⟨t, d⟩)

/-- A worker that waits can go on when it is time for the next launch. -/
theorem isSome_stepWorker_of_retryAt (hw : s.worker = .selecting) (hr : s.retryAt = some due) :
    (s.stepWorker due).isSome = true := by
  simp only [stepWorker, hw, select]
  split
  · rfl
  · split
    · rfl
    · split
      · rfl
      · split
        · rfl
        · rw [hr]
          simp

/-- The worker waits for the time of a launch only while it pauses. -/
theorem Stage.of_retryAt (hc : s.control.Consistent) (hs : Stage p now s.control last)
    (hw : s.worker = .selecting) (hr : s.retryAt = some due) :
    ∃ t d, last = some ⟨t, d⟩ ∧ d.isFailure = true ∧ due = t + p := by
  have hwork : s.control.worker = .selecting := hw
  cases hs with
  | pauses hd _ hr' =>
    have hr' : s.retryAt = _ := hr'
    exact ⟨_, _, rfl, hd, Option.some.inj (hr.symm.trans hr')⟩
  | runs _ hx =>
    have hnone := watched_eq_none_of_launching hc (.inr ⟨hw, by simp [hr]⟩)
    rw [hx] at hnone
    cases hnone
  | fresh hw' | begins hw' | joins hw' | rests _ _ hw' => simp [hwork] at hw'

theorem Stage.follows_of_isDue {d : Dealing} (hc : s.control.Consistent)
    (hs : Stage p now s.control last)
    (hdue : ∀ due, s.retryAt = some due → (s.stepWorker due).isSome → later ≤ due)
    (hd : s.IsDue later) (ha : d.isAttempt = true) :
    ∃ y, last = some y ∧ Follows p y ⟨later, d⟩ := by
  rcases hd with hw | ⟨hw, -, due, hle, hr⟩
  · have hwork : s.control.worker = .spawned := hw
    cases hs with
    | begins => exact ⟨_, rfl, .first ha⟩
    | fresh hw' | runs hw' | pauses _ hw' | joins hw' | rests _ _ hw' => simp [hwork] at hw'
  · obtain ⟨t, d', rfl, hd', rfl⟩ := hs.of_retryAt hc hw hr
    -- the worker cannot go on before the pause is over, and the clock does not pass that time
    obtain rfl : later = t + p := Nat.le_antisymm (hdue _ hr (isSome_stepWorker_of_retryAt hw hr)) hle
    exact ⟨_, rfl, .again hd' ha⟩

theorem Stage.of_execution {e : Execution} (hc : s.control.Consistent)
    (hs : Stage p now s.control last) (hw : s.worker = .selecting) (he : s.execution = some e) :
    ∃ t, last = some ⟨t, .launched e.number⟩ := by
  have hwork : s.control.worker = .selecting := hw
  have hx : s.control.watched = some e.number := by simp [control, he]
  cases hs with
  | runs _ hn =>
    rw [hx] at hn
    cases hn
    exact ⟨_, rfl⟩
  | pauses _ _ hr =>
    have hr : s.retryAt = _ := hr
    have hnone := watched_eq_none_of_launching hc (.inr ⟨hw, by simp [hr]⟩)
    rw [hx] at hnone
    cases hnone
  | fresh hw' | begins hw' | joins hw' | rests _ _ hw' => simp [hwork] at hw'

/-- What the worker deals with in a step follows upon what it dealt with before. -/
theorem Stage.follows_of_deals {d : Dealing} (hc : s.control.Consistent)
    (hs : Stage p now s.control last)
    (hdue : ∀ due, s.retryAt = some due → (s.stepWorker due).isSome → later ≤ due)
    (hd : Deals later s t (some d)) : ∃ y, last = some y ∧ Follows p y ⟨later, d⟩ := by
  cases hd with
  | launched hd => exact hs.follows_of_isDue hc hdue hd rfl
  | unresolved hd => exact hs.follows_of_isDue hc hdue hd rfl
  | failed hw _ he =>
    obtain ⟨t, rfl⟩ := hs.of_execution hc hw he
    exact ⟨_, rfl, .fails⟩
  | caught hw _ he =>
    obtain ⟨t, rfl⟩ := hs.of_execution hc hw he
    exact ⟨_, rfl, .caught⟩

/-- What was dealt with last after something was dealt with, if it was. -/
def latest (last : Option (Stamped Dealing)) (now : Nat) (d : Option Dealing) :
    Option (Stamped Dealing) :=
  (d.map (⟨now, ·⟩)).or last

/-- Time passes, but not beyond the end of the pause. -/
theorem Stage.still (hs : Stage p now s.control last)
    (hdue : ∀ due, s.retryAt = some due → (s.stepWorker due).isSome → later ≤ due)
    (hw : t.control.worker = s.control.worker) (hx : t.control.watched = s.control.watched)
    (hr : t.control.retryAt = s.control.retryAt)
    (hc : s.control.cancelled = true → t.control.cancelled = true) :
    Stage p later t.control last := by
  cases hs with
  | fresh h => exact .fresh (hw.trans h)
  | begins h => exact .begins (hw.trans h)
  | runs h hn => exact .runs (by rwa [hw]) (hx.trans hn)
  | pauses hd h hdue' =>
    exact .pauses hd (hw.trans h) (hr.trans hdue')
      (hdue _ hdue' (isSome_stepWorker_of_retryAt h hdue'))
  | joins h => exact .joins (hw.trans h)
  | rests hd hcan h => exact .rests hd (hc hcan) (by rwa [hw])

/-- After a step, the worker is at the stage to which what it dealt with has brought it. -/
theorem Stage.of_deals {d : Option Dealing} (hc : s.control.Consistent)
    (hl : s.control.watched = none → s.letters = []) (hp : s.pause = p)
    (hs : Stage p now s.control last)
    (hdue : ∀ due, s.retryAt = some due → (s.stepWorker due).isSome → later ≤ due)
    (hd : Deals later s t d) : Stage p later t.control (latest last later d) := by
  have hwork : s.control.worker = s.worker := rfl
  cases hd with
  | launched _ hctl =>
    rw [hctl]
    exact .runs (.inl rfl) rfl
  | unresolved _ hctl =>
    rw [hctl, hp]
    exact .pauses rfl rfl rfl (Nat.le_add_right _ _)
  | failed hw _ _ _ hctl =>
    rw [hctl, hp]
    exact .pauses rfl hw rfl (Nat.le_add_right _ _)
  | caught _ _ _ hctl =>
    rw [hctl]
    exact .joins rfl
  | halt hw hctl =>
    rw [hctl]
    rcases hw with ⟨hw, hcan, hx⟩ | hw
    · cases hs with
      | pauses hd => exact .rests (.inl hd) hcan (.inl rfl)
      | runs _ hn => simp [control, hx] at hn
      | fresh h | begins h | joins h | rests _ _ h => simp [hwork, hw] at h
    · cases hs with
      | joins => exact .rests (.inr rfl) (hc.joining hw).2 (.inl rfl)
      | fresh h | begins h | runs h | pauses _ h | rests _ _ h => simp [hwork, hw] at h
  | serve hw hr hctl =>
    rw [hctl]
    cases hs with
    | runs _ hn => exact .runs (.inr ⟨_, rfl⟩) hn
    | pauses _ _ hdue' =>
      -- nothing lies in the mailboxes while no execution is held
      have hnone := watched_eq_none_of_launching hc
        (.inr ⟨hw, Option.isSome_iff_exists.2 ⟨_, hdue'⟩⟩)
      rw [hl hnone] at hr
      cases hr
    | fresh h | begins h | joins h | rests _ _ h => simp [hwork, hw] at h
  | reload _ hctl =>
    exact hs.still hdue (by rw [hctl]) (by rw [hctl]) (by rw [hctl]) fun h => by rwa [hctl]

/-- What is no step of the worker brings it to no other stage, unless it is started. -/
theorem Stage.of_steers (hsound : s.Sound) (hs : Stage p now s.control last)
    (hdue : ∀ due, s.retryAt = some due → (s.stepWorker due).isSome → later ≤ due)
    (hcrash : m ≠ .crash) (hm : ∀ now, m ≠ .task now .worker) (h : s.move m = some t) :
    (m.isStart = false → Stage p later t.control last) ∧
      (m.isStart = true → t.control.worker = .spawned ∧
        ∀ y ∈ last, Follows p y ⟨later, .started⟩) := by
  cases steers_of_move h with
  | start hw ht =>
    have hw : s.control.worker = .idle := hw
    refine ⟨nofun, fun _ => ⟨by rw [ht], fun y hy => ?_⟩⟩
    cases hs with
    | fresh => cases hy
    | rests hd =>
      cases hy
      exact .restart hd
    | begins h | runs h | pauses _ h | joins h => simp [hw] at h
  | still hstart ht =>
    refine ⟨fun _ => hs.still hdue (by rw [ht]) (by rw [ht]) (by rw [ht]) fun h => by rwa [ht],
      fun hstart' => ?_⟩
    cases m with
    | start => cases hstart true
    | _ => cases hstart'
  | cancel ht =>
    exact ⟨fun _ => hs.still hdue (by rw [ht]) (by rw [ht]) (by rw [ht]) fun _ => by rw [ht],
      nofun⟩
  | rest ht =>
    have hw := hsound.stopped_of_rest h
    refine ⟨fun _ => ?_, nofun⟩
    rw [ht]
    cases hs with
    | rests hd hcan => exact .rests hd hcan (.inr rfl)
    | fresh h | begins h | runs h | pauses _ h | joins h => simp [hw] at h
  | resume hw ht =>
    have hw : s.control.worker = _ := hw
    refine ⟨fun _ => ?_, nofun⟩
    rw [ht]
    cases hs with
    | runs _ hx => exact .runs (.inl rfl) hx
    | fresh h | begins h | pauses _ h | joins h | rests _ _ h => simp [hw] at h
  | crash => exact absurd rfl hcrash
  | launch | fail | join | halt | handleEnd | serve => exact absurd rfl (hm _)

/-- Each move brings the worker to the stage to which what it dealt with leads, and that follows upon
what it dealt with before. -/
theorem Stage.move {d : Option Dealing} (hsound : s.Sound)
    (hl : s.control.watched = none → s.letters = []) (hp : s.pause = p)
    (hs : Stage p now s.control last)
    (hdue : ∀ due, s.retryAt = some due → (s.stepWorker due).isSome → later ≤ due)
    (htime : ∀ at' k, m = .task at' k → at' = later) (hcrash : m ≠ .crash)
    (h : s.move m = some t) (hd : s.dealtIn m = d) :
    Stage p later t.control (latest last later d) ∧
      ∀ d' ∈ d, (∀ y ∈ last, Follows p y ⟨later, d'⟩) ∧ (last = none → d' = .started) := by
  by_cases hm : ∃ now, m = .task now .worker
  · obtain ⟨now, rfl⟩ := hm
    obtain rfl := htime now .worker rfl
    have hdeals := deals_of_stepWorker hsound.consistent h
    rw [show s.dealing? now = d from hd] at hdeals
    refine ⟨hs.of_deals hsound.consistent hl hp hdue hdeals, fun d' hd' => ?_⟩
    obtain rfl : d = some d' := hd'
    obtain ⟨y, rfl, hy⟩ := hs.follows_of_deals hsound.consistent hdue hdeals
    refine ⟨fun y' hy' => ?_, nofun⟩
    cases hy'
    exact hy
  · have hm : ∀ now, m ≠ .task now .worker := fun now heq => hm ⟨now, heq⟩
    obtain ⟨hstill, hstart⟩ := hs.of_steers hsound hdue hcrash hm h
    cases hb : m.isStart with
    | false =>
      rw [dealtIn_eq_none hm hb] at hd
      subst hd
      exact ⟨hstill hb, nofun⟩
    | true =>
      obtain ⟨hw, hfollows⟩ := hstart hb
      cases m with
      | start =>
        subst hd
        refine ⟨.begins hw, fun d' hd' => ?_⟩
        cases hd'
        exact ⟨hfollows, fun _ => rfl⟩
      | _ => cases hb

/-! ## Runs -/

theorem run_of_runBy (h : runBy (start, s) xs = some (now, t)) : s.run (undated xs) = some t := by
  refine runBy_induction (P := fun xs _ t => s.run (undated xs) = some t) rfl ?_ h
  intro xs x now v w _ ih _ hm
  exact undated_concat xs x ▸ run_concat.2 ⟨v, ih, hm⟩

theorem pause_run (hp : ∀ n, .setPause n ∉ ms) (h : s.run ms = some t) : t.pause = s.pause := by
  refine run_induction (P := fun ms t => (∀ n, .setPause n ∉ ms) → t.pause = s.pause)
    (fun _ => rfl) ?_ h hp
  intro ms v m w _ ih hm hp
  simp only [List.mem_append, List.mem_singleton, not_or] at hp
  have hb : w.pause = (v.brief.after m).pause := congrArg Brief.pause (brief_move hm)
  rw [hb, ← ih fun n => (hp n).1]
  cases m with
  | setPause n => exact absurd rfl (hp n).2
  | _ => rfl

theorem letters_of_unwatched {made pause : Nat} {entry : Entry} {groups : Option (List String)}
    {options : SourceOptions} {factory : Factory} {s₀ : Supervisor}
    (hs₀ : create made entry groups options factory pause = .ok s₀) (hms : .crash ∉ ms)
    (hs : s₀.run ms = some s) (hn : s.control.watched = none) : s.letters = [] :=
  (tended_run (ledger_create hs₀) (sound_create hs₀) (attends_create hs₀).2 hms hs).letters_eq_nil
    (held_eq_none hn)

/-- In a run by the clock, what is dealt with follows upon what was dealt with before. -/
theorem paced_run {made pause : Nat} {entry : Entry} {groups : Option (List String)}
    {options : SourceOptions} {factory : Factory} {s₀ : Supervisor} {ps : List Move}
    (hs₀ : create made entry groups options factory pause = .ok s₀) (hps : .crash ∉ ps)
    (hs : s₀.run ps = some s) (hi : s.isIdle = true) (hcrash : .crash ∉ undated xs)
    (hpause : ∀ n, .setPause n ∉ undated xs) (h : runBy (start, s) xs = some (now, t)) :
    (s.diary xs).IsChain (Follows s.pause) ∧
      (∀ y ∈ (s.diary xs).head?, y.what = .started) ∧
      Stage s.pause now t.control (s.diary xs).getLast? := by
  have hidle : s.worker = .idle := by simpa [isIdle] using hi
  -- the stage carries the induction, for it tells what may come next; the chain only records it
  refine runBy_induction (P := fun xs now t => .crash ∉ undated xs → (∀ n, .setPause n ∉ undated xs) →
    (s.diary xs).IsChain (Follows s.pause) ∧ (∀ y ∈ (s.diary xs).head?, y.what = .started) ∧
      Stage s.pause now t.control (s.diary xs).getLast?)
    (fun _ _ => ⟨.nil, fun _ hy => (by cases hy), .fresh hidle⟩) ?_ h hcrash hpause
  intro xs x now v w hv ih htimely hm hcrash hpause
  simp only [undated_concat, List.mem_append, List.mem_singleton, not_or] at hcrash hpause
  obtain ⟨hchain, hhead, hstage⟩ := ih hcrash.1 fun n => (hpause n).1
  obtain ⟨hdue, htime⟩ := timely_of_isTimely htimely
  have hv := run_of_runBy hv
  have hcrash' : .crash ∉ ps ++ undated xs := by
    rw [List.mem_append, not_or]
    exact ⟨hps, hcrash.1⟩
  have hrun : s₀.run (ps ++ undated xs) = some v := run_append.2 ⟨s, hs, hv⟩
  have hsound := (roster_run (sound_create hs₀) (attends_create hs₀).2 hcrash' hrun).1
  obtain ⟨hstage', hfollows⟩ := hstage.move hsound (letters_of_unwatched hs₀ hcrash' hrun)
    (pause_run (fun n => (hpause n).1) hv) hdue htime (Ne.symm hcrash.2) hm rfl
  rw [diary_concat hv hm]
  cases hd : v.dealtIn x.what with
  | none =>
    rw [hd] at hstage'
    simpa using ⟨hchain, hhead, hstage'⟩
  | some d =>
    rw [hd] at hstage' hfollows
    obtain ⟨hy, hfirst⟩ := hfollows d rfl
    refine ⟨hchain.append (.singleton _) fun y hl z hz => ?_, fun y hl => ?_, ?_⟩
    · cases hz
      exact hy y hl
    · cases hds : s.diary xs with
      | nil =>
        rw [hds] at hl hfirst
        cases hl
        exact hfirst rfl
      | cons z zs =>
        rw [hds] at hl hhead
        exact hhead y hl
    · simpa [latest] using hstage'

/-! ## The pause -/

theorem takeRequest?_eq_none (hl : s.letters = []) : s.takeRequest? = none := by
  cases h : s.takeRequest? with
  | none => rfl
  | some x =>
    have hmem := mem_letters_of_takeRequest? h
    rw [hl] at hmem
    cases hmem

/-- When the pause is over, the worker attempts a launch, at the latest once it has noted the change of
the settings that lies in its mailbox. -/
theorem attempt_of_retryAt (hw : s.worker = .selecting) (hc : s.cancelled = false)
    (hx : s.execution = none) (hl : s.letters = []) (hr : s.retryAt = some due) :
    s.dealing? due = some s.attempt ∨
      ∃ v, s.stepWorker due = some v ∧ v.dealing? due = some v.attempt := by
  cases hb : s.reloadBox.take? with
  | none =>
    refine .inl ?_
    simp [dealing?, hw, hx, hc, hl, content_of_take?_none hb, hr]
  | some y =>
    obtain ⟨entry, b, next⟩ := y
    refine .inr ⟨({ s with reloadBox := b }.wakeAny (next.map Task.courier)).handleReload entry,
      ?_, ?_⟩
    · simp [stepWorker, hw, select, hc, hx, takeRequest?_eq_none hl, hb]
    · have hcontent := (Mailbox.content_of_take? hb).2
      rw [letters, List.append_eq_nil_iff] at hl
      simp [handleReload, wakeAny_eq, hx, dealing?, hw, hc, hr, hcontent, letters, hl]

/-- When launches are attempted in a run by the clock from a start on, after whatever moves and over any
number of starts, without a crash of the owner and with the pause as it was set. The first thing that is
dealt with is a start, and a launch is attempted upon it. Each later attempt follows upon a failure, the
latest thing that was dealt with, and takes place exactly when the pause since then is over. After a
failure and as long as no stop is asked for, the worker waits for that time whatever happens, the clock
does not pass it, and when it has come the worker attempts the launch, at the latest after it has noted
one change of the settings. -/
theorem retries_paced {made pause start now : Nat} {entry : Entry} {groups : Option (List String)}
    {options : SourceOptions} {factory : Factory} {s₀ s t : Supervisor} {ps : List Move}
    {xs : List (Stamped Move)} (hs₀ : create made entry groups options factory pause = .ok s₀)
    (hps : .crash ∉ ps) (hs : s₀.run ps = some s) (hi : s.isIdle = true)
    (hcrash : .crash ∉ undated xs) (hpause : ∀ n, .setPause n ∉ undated xs)
    (h : runBy (start, s) xs = some (now, t)) :
    (s.diary xs).IsChain (Follows s.pause) ∧
    (∀ y ∈ (s.diary xs).head?, y.what = .started) ∧
    ∀ y ∈ (s.diary xs).getLast?, y.what.isFailure = true →
      isStopAsked (ps ++ undated xs) = false →
        t.worker = .selecting ∧ t.retryAt = some (y.time + s.pause) ∧ now ≤ y.time + s.pause ∧
          (t.dealing? (y.time + s.pause) = some t.attempt ∨
            ∃ v, t.stepWorker (y.time + s.pause) = some v ∧
              v.dealing? (y.time + s.pause) = some v.attempt) := by
  obtain ⟨hchain, hhead, hstage⟩ := paced_run hs₀ hps hs hi hcrash hpause h
  refine ⟨hchain, hhead, fun y hy hfail hstop => ?_⟩
  have hms : .crash ∉ ps ++ undated xs := by
    rw [List.mem_append, not_or]
    exact ⟨hps, hcrash⟩
  have ht : s₀.run (ps ++ undated xs) = some t := run_append.2 ⟨s, hs, run_of_runBy h⟩
  have hcan : t.cancelled = false := (cancelled_run (consistent_create hs₀).2 ht).trans hstop
  have hc := (roster_run (sound_create hs₀) (attends_create hs₀).2 hms ht).1.consistent
  rw [Option.mem_def.1 hy] at hstage
  cases hstage with
  | pauses _ hw hr hn =>
    have hx := execution_of_retryAt hc hw (Option.isSome_iff_exists.2 ⟨_, hr⟩)
    have hl := letters_of_unwatched hs₀ hms ht (by simp [control, hx])
    exact ⟨hw, hr, hn, attempt_of_retryAt hw hcan hx hl hr⟩
  | rests _ hcan' =>
    have hcan' : t.cancelled = true := hcan'
    rw [hcan] at hcan'
    cases hcan'
  | begins | runs | joins => cases hfail

/-- A source announces media without waiting for the answer and fails after 20 milliseconds. During the
pause of 200 milliseconds its supervisor is handed other settings twice. It is launched again at 220. -/
theorem retries_paced_reloaded :
    let factory : Factory := fun _ _ _ =>
      .ok (.ofScripts "" [[.abandon (.ready []), .finish (.failed "lost")]])
    let ps : List Move := [.setPause 200]
    let xs : List (Stamped Move) := [⟨0, .start false ""⟩, ⟨0, .task 0 .worker⟩,
      ⟨10, .task 10 (.execution 0)⟩, ⟨10, .task 10 (.execution 0)⟩, ⟨20, .task 20 (.execution 0)⟩,
      ⟨20, .task 20 .worker⟩, ⟨100, .reload { settings := { source := "rtsp://h/y" } }⟩,
      ⟨100, .task 100 (.courier 0)⟩, ⟨100, .task 100 .worker⟩,
      ⟨220, .reload { settings := { source := "rtsp://h/z" } }⟩, ⟨220, .task 220 (.courier 1)⟩]
    ∃ s₀ s t, create 0 { settings := { source := "rtsp://h/x" } } none {} factory 5000 = .ok s₀ ∧
      .crash ∉ ps ∧ s₀.run ps = some s ∧ s.isIdle = true ∧ .crash ∉ undated xs ∧
      (∀ n, .setPause n ∉ undated xs) ∧ runBy (0, s) xs = some (220, t) ∧
      (s.diary xs).map (fun y => (y.time, y.what)) =
        [(0, .started), (0, .launched 0), (20, .failed 0 (.failed "lost"))] ∧
      t.retryAt = some 220 ∧
      (t.dealing? 220 = some t.attempt ∨
        ∃ v, t.stepWorker 220 = some v ∧ v.dealing? 220 = some v.attempt) := by
  intro factory ps xs
  obtain ⟨s₀, hs₀, s, hs, hi, hpause, hrun, hdiary⟩ : ∃ s₀,
      create 0 { settings := { source := "rtsp://h/x" } } none {} factory 5000 = .ok s₀ ∧
      ∃ s, s₀.run ps = some s ∧ s.isIdle = true ∧ s.pause = 200 ∧
        (runBy (0, s) xs).map (·.1) = some 220 ∧
        (s.diary xs).map (fun y => (y.time, y.what)) =
          [(0, .started), (0, .launched 0), (20, .failed 0 (.failed "lost"))] :=
    ⟨_, rfl, _, rfl, by decide +kernel, by decide +kernel, by decide +kernel, by decide +kernel⟩
  obtain ⟨⟨now, t⟩, ht, hnow⟩ := Option.map_eq_some_iff.1 hrun
  obtain rfl : now = 220 := hnow
  have hps : .crash ∉ ps := by decide
  have hcrash : .crash ∉ undated xs := by decide
  have hset : ∀ n, .setPause n ∉ undated xs := by simp [undated, xs]
  obtain ⟨-, -, hlast⟩ := retries_paced hs₀ hps hs hi hcrash hset ht
  obtain ⟨y, hy, hyt, hyw⟩ : ∃ y, (s.diary xs).getLast? = some y ∧ y.time = 20 ∧
      y.what = .failed 0 (.failed "lost") := by
    have hl := congrArg List.getLast? hdiary
    rw [List.getLast?_map] at hl
    obtain ⟨y, hy, heq⟩ := Option.map_eq_some_iff.1 hl
    exact ⟨y, hy, congrArg Prod.fst heq, congrArg Prod.snd heq⟩
  obtain ⟨-, hr, -, hattempt⟩ := hlast y hy (by rw [hyw]; rfl) (by decide)
  rw [hyt, hpause] at hr hattempt
  exact ⟨s₀, s, t, hs₀, hps, hs, hi, hcrash, hset, ht, hdiary, hr, hattempt⟩

end Supervisor

end MediaPaths
