import MediaPaths.Proofs.Supervision.Frame

/-!
# What a step of the worker does

`Works` lists the things that a worker can do in one step, each with what must be there for it. Facts
about the worker are proved by going through this list, and `launch_cases` tells the two outcomes of a
launch.
-/

namespace MediaPaths

namespace Supervisor

variable {s s' : Supervisor} {now : Nat}

/-- The worker does something in one step. -/
inductive Works (now : Nat) (s : Supervisor) : Supervisor → Prop where
  /-- It begins, with a launch. -/
  | begin (hw : s.worker = .spawned) : Works now s ({ s with worker := .selecting }.launch now)
  /-- It is being stopped and waits for the execution to end. -/
  | join (hw : s.worker = .selecting) (hc : s.cancelled = true) (he : s.execution.isSome) :
      Works now s { s with worker := .joining }
  /-- It is being stopped and watches no execution that has not ended. -/
  | halt (hw : s.worker = .selecting ∧ s.cancelled = true ∧ s.execution = none ∨
      s.worker = .joining) (he : ∀ e ∈ s.execution, e.isAlive = false) : Works now s s.halt
  /-- The execution has ended by itself. -/
  | handleEnd {e : Execution} {r : SourceError} (hw : s.worker = .selecting)
      (hc : s.cancelled = false) (he : s.execution = some e) (hr : e.result? = some r) :
      Works now s (s.handleEnd now r)
  /-- It passes a request on. -/
  | serve {t : Supervisor} {r : Request} (hw : s.worker = .selecting) (hc : s.cancelled = false)
      (he : ∀ e ∈ s.execution, e.isAlive) (ht : s.takeRequest? = some (t, r)) :
      Works now s (t.serve r)
  /-- It takes note of a change of the settings. -/
  | reload {entry : Entry} {b : Mailbox Entry} {next : Option Nat} (hw : s.worker = .selecting)
      (hc : s.cancelled = false) (hb : s.reloadBox.take? = some (entry, b, next)) :
      Works now s
        (({ s with reloadBox := b }.wakeAny (next.map Task.courier)).handleReload entry)
  /-- The pause since the latest failure is over. -/
  | retry {t : Nat} (hw : s.worker = .selecting) (hc : s.cancelled = false)
      (ht : s.retryAt = some t) (hn : t ≤ now) :
      Works now s ({ s with retryAt := none }.launch now)

theorem isAlive_of_result? {e : Execution} {r : SourceError} (h : e.result? = some r) :
    e.isAlive = false := by
  simp [Execution.isAlive, h]

theorem works_of_select (hw : s.worker = .selecting) (h : s.select now = some s') :
    Works now s s' := by
  unfold select at h
  split at h
  · rename_i hc
    obtain rfl := Option.some.inj h
    split
    · exact .join hw hc ‹_›
    · rename_i he
      have he : s.execution = none := by simpa using he
      exact .halt (.inl ⟨hw, hc, he⟩) (by simp [he])
  · rename_i hc
    have hc : s.cancelled = false := by simpa using hc
    split at h
    · rename_i r hr
      cases h
      obtain ⟨e, he, hr⟩ := Option.bind_eq_some_iff.1 hr
      exact .handleEnd hw hc he hr
    · rename_i hr
      have he : ∀ e ∈ s.execution, e.isAlive := by
        intro e he
        rw [Option.mem_def.1 he] at hr
        simpa [Execution.isAlive] using hr
      split at h
      · cases h
        exact .serve hw hc he ‹_›
      · split at h
        · cases h
          exact .reload hw hc ‹_›
        · split at h
          · rename_i t ht
            split at h
            · obtain rfl := Option.some.inj h
              exact .retry hw hc ht ‹_›
            · cases h
          · cases h

/-- A step of the worker is one of those in the list. -/
theorem works_of_stepWorker (h : s.stepWorker now = some s') : Works now s s' := by
  unfold stepWorker at h
  split at h
  · obtain rfl := Option.some.inj h
    exact .begin ‹_›
  · exact works_of_select ‹_› h
  · rename_i hw
    split at h
    · rename_i ha
      cases h
      refine .halt (.inr hw) ?_
      intro e he
      rw [Option.mem_def.1 he] at ha
      simpa using ha
    · cases h
  all_goals cases h

/-- A launch has an execution go, or is to be made again after the pause. -/
theorem launch_cases (s : Supervisor) (now : Nat) :
    (∃ address, s.launch now = s.spawn address) ∨
      ∃ statistics effects, s.launch now =
        ({ s with statistics := statistics, effects := effects }).armRetry now := by
  unfold launch
  simp only
  split
  · exact .inl ⟨_, rfl⟩
  · exact .inr ⟨_, _, rfl⟩

/-- The request that is passed on is an announcement of media if there is one, else one of a loss. -/
theorem takeRequest?_cases {t : Supervisor} {r : Request} (h : s.takeRequest? = some (t, r)) :
    (∃ b next, s.readyBox.take? = some (r, b, next) ∧
      t = ({ s with readyBox := b }).wakeAny (next.map Task.execution)) ∨
    s.readyBox.content = none ∧ ∃ b next, s.notReadyBox.take? = some (r, b, next) ∧
      t = ({ s with notReadyBox := b }).wakeAny (next.map Task.execution) := by
  unfold takeRequest? at h
  split at h
  · rename_i hb
    cases h
    exact .inl ⟨_, _, hb, rfl⟩
  · rename_i hb
    split at h
    · rename_i hb'
      cases h
      refine .inr ⟨?_, _, _, hb', rfl⟩
      simpa [Mailbox.take?] using hb
    · cases h

theorem frame_takeRequest? {t : Supervisor} {r : Request} (h : s.takeRequest? = some (t, r)) :
    t.frame = s.frame := by
  rcases takeRequest?_cases h with ⟨b, next, -, rfl⟩ | ⟨-, b, next, -, rfl⟩
  · rw [frame_wakeAny]
    rfl
  · rw [frame_wakeAny]
    rfl

/-- What replies and the mailboxes of announcements leave alone stays as it is when the rest of them is
answered. -/
theorem discardRequests_eq {α : Type} (g : Supervisor → α)
    (hreply : ∀ s number answer (next : Option Nat),
      g ((reply s number answer).wakeAny (next.map Task.execution)) = g s)
    (hready : ∀ (s : Supervisor) b, g { s with readyBox := b } = g s)
    (hnotReady : ∀ (s : Supervisor) b, g { s with notReadyBox := b } = g s) (s : Supervisor) :
    g s.discardRequests = g s := by
  unfold discardRequests
  cases s.readyBox.take? with
  | some x =>
    simp only
    split
    · rw [hreply, hnotReady, hreply, hready]
    · rw [hreply, hready]
  | none =>
    simp only
    split
    · rw [hreply, hnotReady]
    · rfl

theorem frame_discardRequests (s : Supervisor) : s.discardRequests.frame = s.frame :=
  discardRequests_eq frame (fun s number answer next => by rw [frame_wakeAny, frame_reply])
    (fun _ _ => rfl) (fun _ _ => rfl) s

/-! ## What a supervisor was told -/

/-- What whoever operates a supervisor has told it. -/
structure Brief where
  /-- The entry with which it will be started or was changed last. -/
  entry : Entry
  /-- The texts of the groups that the name of the path has matched. -/
  groups : List String
  /-- The kind of the source. -/
  kind : SourceKind
  /-- The settings with which the source was made. -/
  options : SourceOptions
  /-- The source. -/
  source : Source
  /-- The pause between a failure and the next launch, in milliseconds. -/
  pause : Nat
  /-- The query with which it was started. -/
  query : String

/-- What whoever operates the supervisor has told it. -/
def brief (s : Supervisor) : Brief :=
  ⟨s.entry, s.groups, s.kind, s.options, s.source, s.pause, s.query⟩

theorem brief_of_frame {t : Supervisor} (h : t.frame = s.frame) : t.brief = s.brief := by
  have hb : ∀ p : Supervisor, p.brief = p.frame.1.brief := fun _ => rfl
  rw [hb t, hb s, h]

theorem brief_of_courierFrame {t : Supervisor} (h : t.courierFrame = s.courierFrame) :
    t.brief = s.brief := by
  have hb : ∀ p : Supervisor, p.brief = p.courierFrame.brief := fun _ => rfl
  rw [hb t, hb s, h]

theorem brief_launch (s : Supervisor) (now : Nat) : (s.launch now).brief = s.brief := by
  rcases launch_cases s now with ⟨address, h⟩ | ⟨statistics, effects, h⟩ <;> rw [h] <;> rfl

theorem brief_of_works (h : Works now s s') : s'.brief = s.brief := by
  cases h with
  | begin | retry => exact brief_launch _ _
  | join | halt => rfl
  | handleEnd =>
    refine (brief_of_frame (frame_discardRequests _)).trans ?_
    rfl
  | serve _ _ _ ht =>
    have hb := brief_of_frame (frame_takeRequest? ht)
    exact hb
  | reload =>
    unfold handleReload
    simp only [wakeAny_eq]
    split <;> rfl

/-- No task changes what a supervisor was told. -/
theorem brief_step {t : Task} (h : s.step now t = some s') : s'.brief = s.brief := by
  cases t with
  | worker => exact brief_of_works (works_of_stepWorker h)
  | execution n => exact brief_of_frame (frame_stepExecution h)
  | courier n => exact brief_of_courierFrame (courierFrame_stepCourier h)

/-! ## What a supervisor was made with -/

/-- The kind of the source and the settings with which it was made. -/
def made (s : Supervisor) : SourceKind × SourceOptions := (s.kind, s.options)

theorem made_of_brief {t : Supervisor} (h : t.brief = s.brief) : t.made = s.made := by
  have hm : ∀ p : Supervisor, p.made = (p.brief.kind, p.brief.options) := fun _ => rfl
  rw [hm t, hm s, h]

theorem made_of_frame {t : Supervisor} (h : t.frame = s.frame) : t.made = s.made :=
  made_of_brief (brief_of_frame h)

/-- No task changes what a supervisor was made with. -/
theorem made_step {t : Task} (h : s.step now t = some s') : s'.made = s.made :=
  made_of_brief (brief_step h)

/-- What a supervisor is like that was just made. -/
theorem create_eq {pause : Nat} {entry : Entry} {groups : Option (List String)}
    {options : SourceOptions} {factory : Factory}
    (h : create now entry groups options factory pause = .ok s) :
    ∃ kind source, entry.settings.sourceKind? = some kind ∧ s =
      { entry := entry
        groups := groups.getD []
        kind := kind
        options := options
        source := source
        pause := pause
        events := [⟨now, .built kind options⟩] } := by
  unfold create at h
  split at h
  · cases h
  · rename_i kind hk
    cases hf : factory kind entry options with
    | error e => simp [hf, Except.map] at h
    | ok source =>
      rw [hf] at h
      cases h
      exact ⟨kind, source, hk, rfl⟩

/-- A supervisor is made for the kind of the source of its entry, with the settings given. -/
theorem made_create {pause : Nat} {entry : Entry} {groups : Option (List String)}
    {options : SourceOptions} {factory : Factory}
    (h : create now entry groups options factory pause = .ok s) :
    ∃ kind, entry.settings.sourceKind? = some kind ∧ s.made = (kind, options) := by
  obtain ⟨kind, source, hk, rfl⟩ := create_eq h
  exact ⟨kind, hk, rfl⟩

end Supervisor

end MediaPaths
