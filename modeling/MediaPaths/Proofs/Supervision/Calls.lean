import MediaPaths.Proofs.Supervision.Acceptance

/-!
# Calls of the owner

A request lies in its mailbox only while the execution is held that has put it there: when the worker is
done with an execution, it throws away what that has left. So the owner is only called on behalf of an
execution that goes on, and only what it is called with is counted.

The invariant is `Tended`. It follows from what becomes of the requests in a move and what becomes of the
execution that is held.
-/

namespace MediaPaths

namespace Supervisor

variable {s t : Supervisor} {m : Move} {ms : List Move} {h hs : List Happening} {p q : Happening}
  {r : Request} {n : Nat} {a : Bool}

/-! ## When the owner is called -/

/-- Only a worker that waits for something to do calls the owner: it is not being stopped, the execution
that it holds goes on, and the request lies in its mailbox. -/
theorem serve_of_begun (hm : s.move m = some t) (hb : .begun r ∈ s.happenings m t) :
    (∃ now, m = .task now .worker) ∧ s.worker = .selecting ∧ s.cancelled = false ∧
      (∀ e ∈ s.execution, e.isAlive) ∧ ∃ v, s.takeRequest? = some (v, r) ∧ t = v.serve r := by
  have hposted : ∀ n, .begun r ∉ s.posted t n := fun n => by simp [posted]
  cases m with
  | task now k =>
    cases k with
    | worker =>
      have hw := begun_of_task hb
      cases works_of_stepWorker hm with
      | serve hsel hc he ht =>
        cases hw
        exact ⟨⟨now, rfl⟩, hsel, hc, he, _, ht, rfl⟩
      | begin =>
        rw [worker_launch] at hw
        cases hw
      | join | halt => cases hw
      | handleEnd hsel =>
        rw [worker_handleEnd, hsel] at hw
        cases hw
      | reload hsel =>
        rw [worker_handleReload, wakeAny_eq] at hw
        cases hsel.symm.trans hw
      | retry hsel =>
        rw [worker_launch] at hw
        cases hsel.symm.trans hw
    | execution n =>
      simp only [happenings, List.mem_append] at hb
      rcases hb with hb | hb
      · exact absurd hb (hposted n)
      · split at hb <;> simp at hb
    | courier n => cases hb
  | reply number answer =>
    simp only [happenings] at hb
    split at hb
    · split at hb <;> simp at hb
    · cases hb
  | aside n a => exact absurd hb (hposted n)
  | _ => cases hb

/-- The request with which the owner is called lay in a mailbox. -/
theorem mem_letters_of_begun (hm : s.move m = some t) (hb : .begun r ∈ s.happenings m t) :
    r ∈ s.letters := by
  obtain ⟨-, -, -, -, v, hv, -⟩ := serve_of_begun hm hb
  rcases takeRequest?_cases hv with ⟨b, next, ht, -⟩ | ⟨-, b, next, ht, -⟩
  · exact mem_letters.2 ⟨.ready [], (Mailbox.content_of_take? ht).1⟩
  · exact mem_letters.2 ⟨.notReady, (Mailbox.content_of_take? ht).1⟩

/-! ## Requests of the execution that is held -/

/-- What lies in a mailbox was put there by the execution that is held. -/
def Tended (h : List Happening) (s : Supervisor) : Prop :=
  ∀ r ∈ s.letters, ∃ n a, s.held = some (n, a) ∧ .queued n r ∈ h

theorem Traffic.mem_letters (ht : Traffic s t hs) (hr : r ∈ t.letters) :
    r ∈ s.letters ∨ ∃ n, .queued n r ∈ hs := by
  cases ht with
  | quiet hq => exact .inl (hq.mem_letters.1 hr)
  | clears hc => exact absurd hr (hc.not_mem_letters r)
  | posts hp =>
    rcases hp.mem_letters hr with rfl | hr
    · exact .inr ⟨_, List.mem_cons_self ..⟩
    · exact .inl hr
  | begins hb => exact .inl (hb.mem_letters hr).1

/-- The execution that puts a request in its mailbox is held. -/
theorem Fares.held_of_queued (hf : Fares s t hs) (hq : .queued n r ∈ hs) :
    ∃ a, t.held = some (n, a) := by
  cases hf with
  | still hl _ hq' _ =>
    obtain ⟨a, ha⟩ := hq' n r hq
    exact ⟨a, hl.trans ha⟩
  | ends _ ht _ hq' _ => exact ⟨false, hq' n r hq ▸ ht⟩
  | launch | reap => cases hq

/-- The worker is only done with an execution when nothing is left in the mailboxes. -/
theorem Fares.held_of_mem_letters (hf : Fares s t hs) (hh : s.held = some (n, a))
    (hr : r ∈ t.letters) : ∃ b, t.held = some (n, b) := by
  cases hf with
  | still hl => exact ⟨a, hl.trans hh⟩
  | ends hs' ht =>
    rw [hs'] at hh
    cases hh
    exact ⟨false, ht⟩
  | launch hs' =>
    rw [hs'] at hh
    cases hh
  | reap _ _ _ hl =>
    obtain ⟨k, hk⟩ := Supervisor.mem_letters.1 hr
    rw [hl] at hk
    cases hk

theorem Tended.move (hd : Tended h s) (ht : Traffic s t hs) (hf : Fares s t hs) :
    Tended (h ++ hs) t := by
  intro r hr
  rcases ht.mem_letters hr with hold | ⟨n, hnew⟩
  · obtain ⟨n, a, hheld, hq⟩ := hd r hold
    obtain ⟨b, hb⟩ := hf.held_of_mem_letters hheld hr
    exact ⟨n, b, hb, List.mem_append_left _ hq⟩
  · obtain ⟨b, hb⟩ := hf.held_of_queued hnew
    exact ⟨n, b, hb, List.mem_append_right _ hnew⟩

theorem tended_run (hl : Ledger [] s) (hs : s.Sound) (hr : Roster [] s) (hms : .crash ∉ ms)
    (h : s.run ms = some t) : Tended (s.chronicle ms) t := by
  have hinit : Tended [] s := fun r hr => by
    obtain ⟨a, ha⟩ := mem_letters.1 hr
    obtain ⟨n, hn⟩ := (hl.lying a r ha).1
    cases hn
  refine run_induction (P := fun ms t => .crash ∉ ms → Tended (s.chronicle ms) t)
    (fun _ => hinit) ?_ h hms
  intro ms u m v hu ih hm hms
  rw [List.mem_append, List.mem_singleton, not_or] at hms
  rw [chronicle_concat hu hm]
  have hsound := (roster_run hs hr hms.1 hu).1
  exact (ih hms.1).move (traffic_move (ledger_run hl hu).sorted hm)
    (fares_move hsound (Ne.symm hms.2) hm)

/-- While no execution is held, nothing lies in the mailboxes. -/
theorem Tended.letters_eq_nil (hd : Tended h s) (hn : s.held = none) : s.letters = [] := by
  refine List.eq_nil_iff_forall_not_mem.2 fun r hr => ?_
  obtain ⟨n, a, hheld, -⟩ := hd r hr
  rw [hn] at hheld
  cases hheld

/-- Of two things that are told, one is told before the other. -/
theorem before_or_before (hp : p ∈ h) (hq : q ∈ h) (hne : p ≠ q) : Before h p q ∨ Before h q p := by
  induction h with
  | nil => cases hp
  | cons x h ih =>
    rcases List.mem_cons.1 hp with rfl | hp'
    · have hq := (List.mem_cons.1 hq).resolve_left (Ne.symm hne)
      exact .inl ((List.singleton_sublist.2 hq).cons_cons p)
    · rcases List.mem_cons.1 hq with rfl | hq'
      · exact .inr ((List.singleton_sublist.2 hp').cons_cons q)
      · exact (ih hp' hq').imp (.cons x) (.cons x)

/-- No two executions put the same request in a mailbox. -/
theorem Ledger.queued_unique (hl : Ledger h s) {k : Nat} (hn : .queued n r ∈ h)
    (hk : .queued k r ∈ h) : k = n := by
  by_contra hne
  rcases before_or_before hn hk fun heq => hne (by cases heq; rfl) with hb | hb
  · exact hl.distinct n r k r hb rfl
  · exact hl.distinct k r n r hb rfl

/-! ## What is counted -/

/-- Whether it tells of a call of the owner: with media or with a loss. -/
def Happening.isCall (ready : Bool) : Happening → Bool
  | .begun r => r.announcement.isReady == ready
  | _ => false

/-- How many announcements of media, or of losses, are counted as passed on. -/
def passed (s : Supervisor) (ready : Bool) : Nat :=
  if ready then s.statistics.ready else s.statistics.notReady

theorem countP_isCall_of_unbegun (hh : ∀ r, .begun r ∉ hs) (ready : Bool) :
    hs.countP (·.isCall ready) = 0 := by
  refine List.countP_eq_zero.2 fun x hx hc => ?_
  cases x with
  | begun r => exact hh r hx
  | _ => cases hc

theorem passed_of_frame (h : t.frame = s.frame) (ready : Bool) : t.passed ready = s.passed ready := by
  have hp : ∀ c : Supervisor, c.passed ready = c.frame.1.passed ready := fun _ => rfl
  rw [hp t, hp s, h]

theorem passed_of_courierFrame (h : t.courierFrame = s.courierFrame) (ready : Bool) :
    t.passed ready = s.passed ready := by
  have hp : ∀ c : Supervisor, c.passed ready = c.courierFrame.passed ready := fun _ => rfl
  rw [hp t, hp s, h]

theorem passed_launch (s : Supervisor) (now : Nat) (ready : Bool) :
    (s.launch now).passed ready = s.passed ready := by
  unfold launch
  simp only
  split <;> rfl

theorem passed_replies (s : Supervisor) (rs : List Request) (ready : Bool) :
    (rs.foldl (fun s r => s.reply r.number none) s).passed ready = s.passed ready :=
  replies_eq (fun s => s.passed ready) (fun _ _ _ => passed_of_frame (frame_reply _ _ _) ready) s rs

theorem passed_serve (s : Supervisor) (r : Request) (ready : Bool) :
    (s.serve r).passed ready = s.passed ready + [Happening.begun r].countP (·.isCall ready) := by
  unfold serve passed
  cases hk : r.announcement <;> cases ready <;>
    simp [Happening.isCall, hk, Announcement.isReady, Statistics.countReady,
      Statistics.countNotReady]

/-- A call is counted when the worker makes it, and nothing else that the worker does is counted. -/
theorem passed_of_works {now : Nat} (hw : Works now s t) (ready : Bool) :
    t.passed ready =
      s.passed ready + (s.happenings (.task now .worker) t).countP (·.isCall ready) := by
  cases hw with
  | begin | retry =>
    rw [happenings_worker (by simp [worker_launch, *])]
    exact passed_launch _ _ _
  | join => rfl
  | halt => rfl
  | handleEnd hsel =>
    rw [happenings_worker (by simp [worker_handleEnd, hsel])]
    exact passed_of_frame (frame_discardRequests _) ready
  | serve _ _ _ ht =>
    rw [passed_serve, passed_of_frame (frame_takeRequest? ht)]
    rfl
  | reload hsel =>
    rw [happenings_worker (by simp [worker_handleReload, wakeAny_eq, hsel])]
    unfold handleReload
    simp only [wakeAny_eq]
    split <;> rfl

/-- Calls are counted as they are made. -/
theorem passed_move (hm : s.move m = some t) (ready : Bool) :
    t.passed ready = s.passed ready + (s.happenings m t).countP (·.isCall ready) := by
  -- whatever is no step of the worker neither calls the owner nor counts anything
  have other : (∀ now, m ≠ .task now .worker) → t.passed ready = s.passed ready →
      t.passed ready = s.passed ready + (s.happenings m t).countP (·.isCall ready) := by
    intro hne heq
    rw [countP_isCall_of_unbegun fun r hb => ?_, heq, Nat.add_zero]
    obtain ⟨⟨now, rfl⟩, -⟩ := serve_of_begun hm hb
    exact hne now rfl
  cases m with
  | start onDemand query =>
    refine other (by simp) ?_
    simp only [Supervisor.move] at hm
    split at hm <;> cases hm
    rw [start, if_pos ‹_›]
    rfl
  | cancel reason =>
    refine other (by simp) ?_
    simp only [Supervisor.move] at hm
    split at hm <;> cases hm
    unfold cancel
    split
    · rfl
    · rw [passed_of_frame (frame_wakeAll _ _)]
      rfl
  | reload entry =>
    refine other (by simp) ?_
    simp only [Supervisor.move] at hm
    split at hm <;> cases hm
    rw [reload, if_neg ‹_›]
    rfl
  | task now k =>
    cases k with
    | worker => exact passed_of_works (works_of_stepWorker hm) ready
    | execution n => exact other (by simp) (passed_of_frame (frame_stepExecution hm) ready)
    | courier n =>
      exact other (by simp) (passed_of_courierFrame (courierFrame_stepCourier hm) ready)
  | reply number answer =>
    cases hm
    exact other (by simp) (passed_of_frame (frame_reply _ _ _) ready)
  | rest | resume =>
    refine other (by simp) ?_
    simp only [Supervisor.move] at hm
    split at hm <;> cases hm
    rfl
  | crash =>
    refine other (by simp) ?_
    simp only [Supervisor.move] at hm
    split at hm <;> cases hm
    unfold crash
    simp only
    rw [passed_of_frame (frame_wakeAll _ _)]
    exact passed_replies _ _ _
  | setPause | flush =>
    cases hm
    exact other (by simp) rfl
  | giveUp number => exact other (by simp) (passed_of_frame (frame_giveUp hm) ready)
  | aside number a => exact other (by simp) (passed_of_frame (frame_announceAside hm) ready)

theorem passed_run (h : s.run ms = some t) (ready : Bool) :
    t.passed ready = s.passed ready + (s.chronicle ms).countP (·.isCall ready) := by
  refine run_induction
    (P := fun ms t => t.passed ready = s.passed ready + (s.chronicle ms).countP (·.isCall ready))
    rfl ?_ h
  intro ms u m v hu ih hm
  rw [chronicle_concat hu hm, List.countP_append, passed_move hm, ih, Nat.add_assoc]

/-! ## Calls and executions -/

/-- What is told of some moves is told of one of them. -/
theorem exists_move_of_mem_chronicle (h : p ∈ s.chronicle ms) :
    ∃ xs m ys u v, ms = xs ++ m :: ys ∧ s.run xs = some u ∧ u.move m = some v ∧
      p ∈ u.happenings m v := by
  induction ms generalizing s with
  | nil => cases h
  | cons m ms ih =>
    cases hm : s.move m with
    | none => simp [chronicle, hm] at h
    | some v =>
      simp only [chronicle, hm, List.mem_append] at h
      rcases h with h | h
      · exact ⟨[], m, ms, s, v, rfl, rfl, hm, h⟩
      · obtain ⟨xs, m', ys, u, w, rfl, hu, hw, hp⟩ := ih h
        exact ⟨m :: xs, m', ys, u, w, rfl, by rw [run_cons, hm]; exact hu, hw, hp⟩

/-- When the owner is called, the execution that has put the request in its mailbox goes on. -/
theorem held_of_begun {s₀ : Supervisor} (hl : Ledger [] s₀) (hsound : s₀.Sound)
    (hr : Roster [] s₀) (hms : .crash ∉ ms) (hs : s₀.run ms = some s) (hm : s.move m = some t)
    (hb : .begun r ∈ s.happenings m t) :
    ∃ n, s.held = some (n, true) ∧ .ended n ∉ s₀.chronicle ms ∧
      ∀ k, .queued k r ∈ s₀.chronicle ms ↔ k = n := by
  obtain ⟨-, -, -, halive, -⟩ := serve_of_begun hm hb
  obtain ⟨n, a, hheld, hq⟩ := tended_run hl hsound hr hms hs r (mem_letters_of_begun hm hb)
  obtain rfl : a = true := by
    obtain ⟨e, he, hea⟩ := Option.map_eq_some_iff.1 hheld
    cases hea
    exact halive e he
  refine ⟨n, hheld, fun hend => ?_, fun k => ⟨(ledger_run hl hs).queued_unique hq, ?_⟩⟩
  · exact ((roster_run hsound hr hms hs).2.ended n hend).2 hheld
  · rintro rfl
    exact hq

/-- What an execution that has ended has announced does not reach the owner any more. -/
theorem unbegun_of_ended {s₀ : Supervisor} {ns : List Move} (hl : Ledger [] s₀)
    (hsound : s₀.Sound) (hr : Roster [] s₀) (hms : .crash ∉ ms) (hs : s₀.run ms = some s)
    (hq : .queued n r ∈ s₀.chronicle ms) (hend : .ended n ∈ s₀.chronicle ms) (hns : .crash ∉ ns) :
    .begun r ∉ s.chronicle ns := by
  intro hb
  obtain ⟨xs, m, ys, u, v, rfl, hu, hm, hb⟩ := exists_move_of_mem_chronicle hb
  have hcrash : .crash ∉ ms ++ xs := by
    rw [List.mem_append, not_or]
    exact ⟨hms, fun hx => hns (List.mem_append_left _ hx)⟩
  obtain ⟨k, -, hk, hqk⟩ := held_of_begun hl hsound hr hcrash (run_append.2 ⟨s, hs, hu⟩) hm hb
  rw [chronicle_append hs] at hk hqk
  obtain rfl := (hqk n).1 (List.mem_append_left _ hq)
  exact hk (List.mem_append_left _ hend)

/-- What holds of the calls of the owner after any moves without a crash of the owner, in any order. When
the owner is called, the supervisor is running, and the one execution that has put the request in its
mailbox is held and has not ended. No request is left in a mailbox when an execution is launched, nor
while a launch is due. What an execution that has ended has left there never reaches the owner, and just
the calls that are made are counted. -/
theorem called_while_live {now pause : Nat} {entry : Entry} {groups : Option (List String)}
    {options : SourceOptions} {factory : Factory} {s₀ s : Supervisor} {ms : List Move}
    (hs₀ : create now entry groups options factory pause = .ok s₀) (hms : .crash ∉ ms)
    (hs : s₀.run ms = some s) :
    (∀ m t r, s.move m = some t → .begun r ∈ s.happenings m t →
      s.phase = .running ∧ ∃ n, s.held = some (n, true) ∧ .ended n ∉ s₀.chronicle ms ∧
        ∀ k, .queued k r ∈ s₀.chronicle ms ↔ k = n) ∧
    (∀ m t, s.move m = some t → t.launches ≠ s.launches → s.letters = []) ∧
    (s.phase = .retryPending → s.letters = []) ∧
    (∀ n r, .queued n r ∈ s₀.chronicle ms → .ended n ∈ s₀.chronicle ms →
      ∀ ns t, .crash ∉ ns → s.run ns = some t → .begun r ∉ s.chronicle ns) ∧
    ∀ ready, s.passed ready = (s₀.chronicle ms).countP (·.isCall ready) := by
  have hl := ledger_create hs₀
  have hsound := sound_create hs₀
  have hr := (attends_create hs₀).2
  have hsound' := (roster_run hsound hr hms hs).1
  have htended := tended_run hl hsound hr hms hs
  refine ⟨fun m t r hm hb => ?_, fun m t hm hlaunch => ?_, fun hp => ?_,
    fun n r hq hend ns t hns ht => unbegun_of_ended hl hsound hr hms hs hq hend hns,
    fun ready => ?_⟩
  · obtain ⟨n, hheld, hn⟩ := held_of_begun hl hsound hr hms hs hm hb
    exact ⟨phase_of_held hsound' hheld, n, hheld, hn⟩
  · obtain ⟨hx, -⟩ := (launches_move hsound'.consistent hm).resolve_left hlaunch
    exact htended.letters_eq_nil (by rw [held, hx, Option.map_none])
  · refine htended.letters_eq_nil (Option.eq_none_iff_forall_ne_some.2 fun x hx => ?_)
    cases hp.symm.trans (phase_of_held hsound' hx)
  · have h₀ : s₀.passed ready = 0 := by
      obtain ⟨kind, source, -, rfl⟩ := create_eq hs₀
      cases ready <;> rfl
    rw [passed_run hs ready, h₀, Nat.zero_add]

/-- A source announces media, does not wait for the answer and fails; when it is launched again, it
announces a loss. Only the loss reaches the owner, and only that is counted. -/
theorem called_while_live_failing :
    let failing : Factory := fun _ _ _ =>
      .ok (.ofScripts "" [[.abandon (.ready []), .finish (.failed "lost")], [.abandon .notReady]])
    let ms : List Move := [.start false "", .task 0 .worker, .task 0 (.execution 0),
      .task 0 (.execution 0), .task 0 (.execution 0), .task 0 .worker, .task 5000 .worker,
      .task 5000 (.execution 1), .task 5000 (.execution 1)]
    let ns : List Move := [.task 5000 .worker, .resume]
    ∃ s₀ s t, create 0 { settings := { source := "rtsp://h/x" } } none {} failing 5000 = .ok s₀ ∧
      .crash ∉ ms ∧ s₀.run ms = some s ∧ s.run ns = some t ∧
      .queued 0 ⟨0, .ready []⟩ ∈ s₀.chronicle ms ∧ s.chronicle ns = [.begun ⟨1, .notReady⟩] ∧
      .begun ⟨0, .ready []⟩ ∉ s.chronicle ns ∧ s.phase = .running ∧ s.held = some (1, true) ∧
      t.passed true = 0 ∧ t.passed false = 1 := by
  intro failing ms ns
  obtain ⟨s₀, hs₀, hrun, hms, hns⟩ : ∃ s₀,
      create 0 { settings := { source := "rtsp://h/x" } } none {} failing 5000 = .ok s₀ ∧
        (s₀.run (ms ++ ns)).isSome ∧
        s₀.chronicle ms = [.queued 0 ⟨0, .ready []⟩, .ended 0, .queued 1 ⟨1, .notReady⟩] ∧
        s₀.chronicle (ms ++ ns) = s₀.chronicle ms ++ [.begun ⟨1, .notReady⟩] :=
    ⟨_, rfl, by decide +kernel, by decide +kernel, by decide +kernel⟩
  obtain ⟨t, ht⟩ := Option.isSome_iff_exists.1 hrun
  obtain ⟨s, hs, ht⟩ := run_append.1 ht
  rw [chronicle_append hs, List.append_cancel_left_eq] at hns
  have hcrash : .crash ∉ ms := by decide
  obtain ⟨hcalled, -, -, hdead, -⟩ := called_while_live hs₀ hcrash hs
  have hcrash' : .crash ∉ ms ++ ns := by decide
  obtain ⟨-, -, -, -, hcount⟩ := called_while_live hs₀ hcrash' (run_append.2 ⟨s, hs, ht⟩)
  -- the worker makes the call in its step; of the return of the owner nothing is told
  obtain ⟨v, hv, hvt⟩ := Option.bind_eq_some_iff.1 ht
  have hb : .begun ⟨1, .notReady⟩ ∈ s.happenings (.task 5000 .worker) v := by
    have hmem : .begun ⟨1, .notReady⟩ ∈ s.chronicle ns := by simp [hns]
    simp only [ns, chronicle, hv] at hmem
    split at hmem <;> simpa [happenings] using hmem
  obtain ⟨hp, n, hheld, -, hn⟩ := hcalled _ v _ hv hb
  obtain rfl : 1 = n := (hn 1).1 (by simp [hms])
  refine ⟨s₀, s, t, hs₀, hcrash, hs, ht, by simp [hms], hns, ?_, hp, hheld, ?_, ?_⟩
  · exact hdead 0 _ (by simp [hms]) (by simp [hms]) ns t (by decide) ht
  · rw [hcount true, chronicle_append hs, hms, hns]
    rfl
  · rw [hcount false, chronicle_append hs, hms, hns]
    rfl

end Supervisor

end MediaPaths
