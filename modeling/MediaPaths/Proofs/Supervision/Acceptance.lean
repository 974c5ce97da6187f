import MediaPaths.Proofs.Supervision.Order
import MediaPaths.Proofs.Supervision.Roster

/-!
# What the owner has accepted

The owner answers requests that it was called with, and these were put in mailboxes before. `known`
gives the media of the announcement that the owner accepted last.
-/

namespace MediaPaths

/-- The media that are announced; a loss has none. -/
def Announcement.medias? : Announcement → Option (List Media)
  | .ready medias => some medias
  | .notReady => none

namespace Supervisor

/-- The media of the announcement accepted last, after one more thing was told. -/
def knownAfter (medias : Option (List Media)) : Happening → Option (List Media)
  | .answered r (some .accepted) => r.announcement.medias?
  | _ => medias

/-- The media of the announcement that the owner accepted last. -/
def known (h : List Happening) : Option (List Media) := h.foldl knownAfter none

variable {s t : Supervisor} {m : Move} {h hs : List Happening} {r : Request}
  {answer : Option Answer}

theorem known_append (h hs : List Happening) : known (h ++ hs) = hs.foldl knownAfter (known h) :=
  List.foldl_append

/-- What tells of no answer changes nothing. -/
theorem foldl_knownAfter_of_unanswered (hh : ∀ r a, .answered r a ∉ hs)
    (medias : Option (List Media)) : hs.foldl knownAfter medias = medias := by
  induction hs generalizing medias with
  | nil => rfl
  | cons x hs ih =>
    rw [List.foldl_cons, ih fun r a hm => hh r a (List.mem_cons_of_mem _ hm)]
    cases x with
    | answered r a => exact absurd (List.mem_cons_self ..) (hh r a)
    | _ => rfl

/-- The media that are known are those of an announcement that was accepted, and nothing was accepted
since. -/
theorem known_eq_some {medias : List Media} (hk : known h = some medias) :
    ∃ h₁ r h₂, h = h₁ ++ .answered r (some .accepted) :: h₂ ∧ r.announcement = .ready medias ∧
      ∀ q, .answered q (some .accepted) ∉ h₂ := by
  induction h using List.reverseRecOn with
  | nil => cases hk
  | append_singleton h x ih =>
    have hx : known (h ++ [x]) = knownAfter (known h) x := by
      rw [known_append, List.foldl_cons, List.foldl_nil]
    rw [hx] at hk
    unfold knownAfter at hk
    split at hk
    · rename_i r
      refine ⟨h, r, [], rfl, ?_, by simp⟩
      cases ha : r.announcement with
      | ready ms =>
        rw [ha] at hk
        rw [Option.some.inj hk]
      | notReady =>
        rw [ha] at hk
        cases hk
    · rename_i hno
      obtain ⟨h₁, r, h₂, rfl, hr, hl⟩ := ih hk
      refine ⟨h₁, r, h₂ ++ [x], by simp, hr, fun q hq => ?_⟩
      rw [List.mem_append, List.mem_singleton] at hq
      rcases hq with hq | hq
      · exact hl q hq
      · exact hno q hq.symm

/-! ## Answers follow calls -/

/-- How the chronicle tells of the calls of the owner. -/
structure Attends (h : List Happening) (s : Supervisor) : Prop where
  /-- It is told that the owner is called with the request that it is at. -/
  serving : ∀ r, s.worker = .serving r → .begun r ∈ h
  /-- The owner only answers what it was called with. -/
  answered : ∀ r a, .answered r a ∈ h → .begun r ∈ h

theorem serving_of_answered (hm : .answered r answer ∈ s.happenings m t) :
    s.worker = .serving r := by
  have hposted : ∀ n, .answered r answer ∉ s.posted t n := fun n => by simp [posted]
  unfold happenings at hm
  split at hm
  · rw [List.mem_append] at hm
    rcases hm with hm | hm
    · exact absurd hm (hposted _)
    · split at hm <;> simp at hm
  · exact absurd hm (hposted _)
  · split at hm <;> simp at hm
  · split at hm
    · rename_i q hq
      split at hm
      · rw [List.mem_singleton] at hm
        cases hm
        exact hq
      · cases hm
    · cases hm
  · cases hm

theorem Attends.move (ha : Attends h s) (hm : s.move m = some t) :
    Attends (h ++ s.happenings m t) t := by
  have hw : ∀ c : Supervisor, c.worker = c.control.worker := fun _ => rfl
  refine ⟨fun r hr => ?_, fun r a hmem => ?_⟩
  · have hkeep : s.worker = .serving r → .begun r ∈ h ++ s.happenings m t := fun hs =>
      List.mem_append_left _ (ha.serving r hs)
    cases steers_of_move hm with
    | serve =>
      refine List.mem_append_right _ ?_
      simp [happenings, hr]
    | still _ ht | cancel ht =>
      rw [hw, ht] at hr
      exact hkeep hr
    | handleEnd hsel _ _ ht =>
      rw [hw, ht] at hr
      exact absurd (hsel.symm.trans hr) (by simp)
    | start _ ht | rest ht | launch _ ht | fail _ ht | join _ _ _ ht | halt _ _ ht | resume _ ht
    | crash _ ht =>
      rw [hw, ht] at hr
      cases hr
  · rw [List.mem_append] at hmem
    rcases hmem with hmem | hmem
    · exact List.mem_append_left _ (ha.answered r a hmem)
    · exact List.mem_append_left _ (ha.serving r (serving_of_answered hmem))

/-- The owner answers only what was put in a mailbox. -/
theorem queued_of_answered {ms : List Move} (hl : Ledger [] s) (ha : Attends [] s)
    (hs : s.run ms = some t) (hr : .answered r answer ∈ s.chronicle ms) :
    ∃ n, .queued n r ∈ s.chronicle ms := by
  have hat : Attends (s.chronicle ms) t := by
    refine run_induction (P := fun ms t => Attends (s.chronicle ms) t) ha ?_ hs
    intro ms u m v hu hau hm
    rw [chronicle_concat hu hm]
    exact hau.move hm
  exact (ledger_run hl hs).begun r (hat.answered r answer hr)

/-! ## Announcements reach the owner -/

/-- What an execution has put in a mailbox lies there, or the owner was called with it, or the execution
has ended. -/
def Heard (h : List Happening) (s : Supervisor) : Prop :=
  ∀ n r, .queued n r ∈ h → .ended n ∈ h ∨ r ∈ s.letters ∨ .begun r ∈ h

theorem Heard.of_traffic (hh : Heard h s) (ht : Traffic s t hs)
    (hr : Roster (h ++ hs) t) : Heard (h ++ hs) t := by
  -- what was heard of stays so, except for a request that lies in a mailbox no longer
  have hold : ∀ n r, .queued n r ∈ h → (r ∈ s.letters → r ∈ t.letters ∨ .begun r ∈ hs) →
      .ended n ∈ h ++ hs ∨ r ∈ t.letters ∨ .begun r ∈ h ++ hs := by
    intro n r hq hl
    simp only [List.mem_append]
    rcases hh n r hq with he | hm | hb
    · exact .inl (.inl he)
    · exact .inr ((hl hm).imp_right .inr)
    · exact .inr (.inr (.inl hb))
  intro n r hq
  cases ht with
  | quiet hquiet hside =>
    rcases List.mem_append.1 hq with hq | hq
    · exact hold n r hq fun hm => .inl (hquiet.mem_letters.2 hm)
    · have := hside _ hq
      cases this
  | clears hc =>
    -- no execution is held any longer, so each one that was launched has ended
    refine (hr.live n (hr.queued n r hq)).imp_right fun hheld => ?_
    simp [held, hc.execution] at hheld
  | @posts k q hs hp hside =>
    have hmem : ∀ x, x ∈ t.letters ↔ ∃ a, t.letter a = some x := fun _ => mem_letters
    rcases List.mem_append.1 hq with hq | hq
    · refine hold n r hq fun hm => .inl ((hmem r).2 ?_)
      obtain ⟨a, ha⟩ := mem_letters.1 hm
      refine ⟨a, ?_⟩
      rw [hp.letter, if_neg, ha]
      intro hk
      have hroom := hp.room
      rw [letter, ← box_congr s hk] at hroom
      rw [letter, hroom] at ha
      cases ha
    · rcases List.mem_cons.1 hq with hq | hq
      · cases hq
        exact .inr (.inl ((hmem r).2 ⟨r.announcement, by rw [hp.letter, if_pos rfl]⟩))
      · have := hside _ hq
        cases this
  | @begins q hb =>
    rcases List.mem_append.1 hq with hq | hq
    · refine hold n r hq fun hm => ?_
      obtain ⟨a, ha⟩ := mem_letters.1 hm
      by_cases hk : a.isReady = q.announcement.isReady
      · have hlay := hb.lay
        rw [letter, ← box_congr s hk] at hlay
        rw [letter, hlay] at ha
        cases ha
        exact .inr (List.mem_singleton_self _)
      · exact .inl (mem_letters.2 ⟨a, by rw [hb.letter, if_neg hk, ha]⟩)
    · cases List.mem_singleton.1 hq

/-- As long as the owner does not crash, what an execution announces reaches it. -/
theorem heard_run {ms : List Move} (hl : Ledger [] s) (hs : s.Sound) (hr : Roster [] s)
    (hms : .crash ∉ ms) (hrun : s.run ms = some t) : Heard (s.chronicle ms) t := by
  refine run_induction (P := fun ms t => .crash ∉ ms → Heard (s.chronicle ms) t)
    (fun _ _ _ hq => by cases hq) ?_ hrun hms
  intro ms u m v hu ih hm hms
  have hroster := (roster_run hs hr hms (run_concat.2 ⟨u, hu, hm⟩)).2
  rw [List.mem_append, not_or] at hms
  rw [chronicle_concat hu hm] at hroster ⊢
  exact (ih hms.1).of_traffic (traffic_move (ledger_run hl hu).sorted hm) hroster

/-- A loss with which the owner was called was accepted, unless the owner is at it. -/
def Yields (h : List Happening) (s : Supervisor) : Prop :=
  ∀ r, .begun r ∈ h → r.announcement = .notReady →
    s.worker = .serving r ∨ .answered r (some .accepted) ∈ h

/-- While the owner is at a request, no task changes that. -/
theorem worker_step {now : Nat} {k : Task} (hw : s.worker = .serving r)
    (hs : s.step now k = some t) : t.worker = .serving r := by
  have hc : ∀ v : Supervisor, v.worker = v.control.worker := fun _ => rfl
  cases k with
  | worker => simp [step, stepWorker, hw] at hs
  | execution n => rw [hc, control_of_frame (frame_stepExecution hs), ← hc, hw]
  | courier n => rw [hc, control_of_courierFrame (courierFrame_stepCourier hs), ← hc, hw]

theorem begun_of_task {now : Nat} {k : Task} (hb : .begun r ∈ s.happenings (.task now k) t) :
    t.worker = .serving r := by
  cases k with
  | worker =>
    simp only [happenings] at hb
    split at hb
    · rename_i q hq
      cases List.mem_singleton.1 hb
      exact hq
    · cases hb
  | execution n =>
    simp only [happenings, posted] at hb
    split at hb <;> simp at hb
  | courier n => cases hb

theorem Yields.task {now : Nat} {k : Task} (hy : Yields h s) (hs : s.step now k = some t) :
    Yields (h ++ s.happenings (.task now k) t) { t with effects := [] } := by
  intro r hb hr
  rw [List.mem_append] at hb
  rcases hb with hb | hb
  · refine (hy r hb hr).imp (fun hw => ?_) (List.mem_append_left _)
    exact (worker_step hw hs :)
  · exact .inl (begun_of_task hb)

/-- An owner that accepts losses goes on to. -/
theorem Yields.answered (hy : Yields h s) (hw : s.worker = .serving r)
    (ha : r.announcement = .notReady → answer = some .accepted) :
    Yields (h ++ [.answered r answer]) t := by
  intro q hb hq
  have hb : .begun q ∈ h := by simpa using hb
  refine .inr ?_
  rcases hy q hb hq with hs | hm
  · obtain rfl : r = q := by simpa [hw] using hs
    simp [ha hq]
  · exact List.mem_append_left _ hm

/-- No task answers a request. -/
theorem unanswered_task (s t : Supervisor) (now : Nat) (k : Task) (r : Request)
    (answer : Option Answer) : .answered r answer ∉ s.happenings (.task now k) t := by
  cases k with
  | worker =>
    simp only [happenings]
    split <;> simp
  | execution n =>
    simp only [happenings, posted]
    split <;> simp
  | courier n => simp [happenings]

theorem isIdle_create {now pause : Nat} {entry : Entry} {groups : Option (List String)}
    {options : SourceOptions} {factory : Factory}
    (hs : create now entry groups options factory pause = .ok s) : s.isIdle = true := by
  obtain ⟨kind, source, -, rfl⟩ := create_eq hs
  rfl

/-- A supervisor that is not started is started, and nothing is told. -/
theorem run_start (hs : s.isIdle = true) (onDemand : Bool) (query : String) :
    s.run [.start onDemand query, .flush] = some { s.start onDemand query with effects := [] } ∧
      s.chronicle [.start onDemand query, .flush] = [] := by
  constructor
  · simp only [run_cons, move, hs, if_true, Option.bind_some, run_nil]
  · simp [chronicle, move, hs, happenings]

/-- Of other settings that a supervisor is handed nothing is told. -/
theorem run_inform {ms : List Move} {entry : Entry}
    (hm : ms = [.flush] ∨ ms = [.reload entry, .flush]) (hs : s.run ms = some t) :
    (∀ m ∈ ms, m.isGentle = true) ∧ s.chronicle ms = [] ∧ t.worker = s.worker := by
  rcases hm with rfl | rfl
  · cases hs
    exact ⟨by simp [Move.isGentle], rfl, rfl⟩
  · simp only [run_cons, run_nil, move] at hs
    split at hs
    · cases hs
    · rename_i hi
      cases hs
      refine ⟨by simp [Move.isGentle], by simp [chronicle, move, happenings, hi], ?_⟩
      rw [reload, if_neg hi]
      rfl

/-- A task takes a step, and what is told of that is told. -/
theorem run_task {now : Nat} {k : Task} (hs : s.step now k = some t) :
    s.run [.task now k, .flush] = some { t with effects := [] } ∧
      s.chronicle [.task now k, .flush] = s.happenings (.task now k) t := by
  have hflush : ∀ u : Supervisor, t.happenings .flush u = [] := fun _ => rfl
  constructor
  · simp only [run_cons, move, hs, Option.bind_some, run_nil]
  · simp [chronicle, move, hs, hflush]

/-- The owner answers a request and is done with it, and that is what is told. -/
theorem run_answer (hw : s.worker = .serving r) (answer : Option Answer) :
    s.run [.reply r.number answer, .resume, .flush] =
        some { (s.reply r.number answer).resume with effects := [] } ∧
      s.chronicle [.reply r.number answer, .resume, .flush] = [.answered r answer] := by
  have hworker : (s.reply r.number answer).worker = .serving r :=
    (congrArg Control.worker (control_reply s r.number answer)).trans hw
  constructor
  · simp only [run_cons, move, hworker, Option.bind_some, run_nil]
  · simp [chronicle, move, happenings, hworker, hw]

/-! ## The source of what is known -/

/-- The media that are known come from an execution whose announcement was accepted. No loss was accepted
since, and the execution goes on unless it is told that it has ended. -/
structure Streams (h : List Happening) (s : Supervisor) (medias : List Media) (n : Nat)
    (r : Request) : Prop where
  /-- The execution announced these media. -/
  announced : .queued n r ∈ h ∧ r.announcement = .ready medias
  /-- That was accepted, and nothing was accepted since. -/
  accepted : ∃ h₁ h₂, h = h₁ ++ .answered r (some .accepted) :: h₂ ∧
    ∀ q, .answered q (some .accepted) ∉ h₂
  /-- A loss that it announced was accepted before, or it has not been answered yet: it lies in the
  mailbox, or the owner is at it. Only that of an execution that has ended may be lost. -/
  losses : ∀ q, .queued n q ∈ h → q.announcement = .notReady →
    Before h (.answered q (some .accepted)) (.answered r (some .accepted)) ∨
      q ∈ s.letters ∨ s.worker = .serving q ∨ .ended n ∈ h
  /-- The execution goes on, and the supervisor is running, unless it has ended. -/
  live : (s.held = some (n, true) ∧ s.phase = .running) ↔ .ended n ∉ h

/-- While an execution is held, the supervisor is running. -/
theorem phase_of_held {x : Nat × Bool} (hs : s.Sound) (hx : s.held = some x) :
    s.phase = .running := by
  have hnone : s.control.watched ≠ none := fun hn => by simp [held_eq_none hn] at hx
  have hwaiting : s.control.worker.isWaiting = true := by
    cases hw : s.control.worker with
    | idle => exact absurd (hs.watched (.inl hw)) hnone
    | stopped => exact absurd (hs.watched (.inr hw)) hnone
    | spawned => exact absurd (hs.consistent.spawned hw).1 hnone
    | crashed => exact absurd hw hs.worker
    | selecting | serving _ | joining => rfl
  rcases hs.consistent.waiting hwaiting with ⟨-, -, hp⟩ | ⟨hn, -, -⟩
  · exact hp
  · exact absurd hn hnone

theorem attends_create {now pause : Nat} {entry : Entry} {groups : Option (List String)}
    {options : SourceOptions} {factory : Factory}
    (hs : create now entry groups options factory pause = .ok s) : Attends [] s ∧ Roster [] s := by
  obtain ⟨kind, source, -, rfl⟩ := create_eq hs
  exact ⟨⟨by simp, by simp⟩, ⟨by simp [held], by simp, by simp, by simp⟩⟩

/-- As long as the owner does not crash, what it knows comes from an execution. -/
theorem streams_of_known {now pause : Nat} {entry : Entry} {groups : Option (List String)}
    {options : SourceOptions} {factory : Factory} {ms : List Move} {medias : List Media}
    (hs : create now entry groups options factory pause = .ok s)
    (hms : .crash ∉ ms) (hrun : s.run ms = some t) (hy : Yields (s.chronicle ms) t)
    (hk : known (s.chronicle ms) = some medias) :
    ∃ n r, Streams (s.chronicle ms) t medias n r := by
  obtain ⟨hat, hro⟩ := attends_create hs
  obtain ⟨hsound, hroster⟩ := roster_run (sound_create hs) hro hms hrun
  obtain ⟨h₁, r, h₂, heq, hr, hlast⟩ := known_eq_some hk
  have hmem : .answered r (some .accepted) ∈ s.chronicle ms := by simp [heq]
  obtain ⟨n, hn⟩ := queued_of_answered (ledger_create hs) hat hrun hmem
  refine ⟨n, r, ⟨hn, hr⟩, ⟨h₁, h₂, heq, hlast⟩, fun q hq hloss => ?_, fun ⟨hheld, _⟩ hend => ?_,
    fun hend => ?_⟩
  · rcases heard_run (ledger_create hs) (sound_create hs) hro hms hrun n q hq with
        hend | hlies | hbegun
    · exact .inr (.inr (.inr hend))
    · exact .inr (.inl hlies)
    · rcases hy q hbegun hloss with hw | hans
      · exact .inr (.inr (.inl hw))
      · refine .inl ?_
        have hne : q ≠ r := by
          rintro rfl
          rw [hr] at hloss
          cases hloss
        rw [heq] at hans ⊢
        have hans : .answered q (some .accepted) ∈ h₁ := by simpa [hne, hlast q] using hans
        exact (List.singleton_sublist.2 hans).append
          (List.singleton_sublist.2 (List.mem_cons_self ..))
  · exact (hroster.ended n hend).2 hheld
  · have hheld := (hroster.live n (hroster.queued n r hn)).resolve_left hend
    exact ⟨hheld, phase_of_held hsound hheld⟩

end Supervisor

end MediaPaths
