import MediaPaths.Proofs.Supervision.Launches
import MediaPaths.Proofs.Supervision.Roster
import MediaPaths.Proofs.Supervision.Speech

/-!
# A stop comes to an end

A supervisor that is being stopped has only so much left to do. `Supervisor.toil` bounds the steps that its
worker and its execution can still take: each of them lowers it, and nothing else raises it. Until the
worker has ended, one of them can take a step, at the latest at some time, or the owner is at a request.
-/

namespace MediaPaths

namespace Execution

variable {e : Execution}

/-- A bound of the steps that an execution can take once it is being stopped. It takes no more than two for
each step of its script: it may begin to wait, for a time or for the answer to what it announces, and it goes
on. -/
def toil (e : Execution) : Nat :=
  match e.activity with
  | .ended _ => 0
  | .launched => 2 * e.script.length + 3
  | .resting _ => 2 * e.script.length + if e.announcing?.isSome then 2 else 1
  | .listening _ _ => 2 * e.script.length + if e.announcing?.isSome then 1 else 2
  | .acting | .posting _ => 2 * e.script.length + 2

/-- An execution that is alive has at least the rest of its script before it. -/
theorem toil_of_isAlive (h : e.isAlive = true) : 2 * e.script.length < e.toil := by
  unfold toil
  cases hact : e.activity with
  | ended r => simp [isAlive, result?, hact] at h
  | launched | acting | posting => simp only; omega
  | listening | resting => simp only; split <;> omega

/-- The next step of the script begins afresh. -/
theorem toil_advance (e : Execution) : e.advance.toil = 2 * (e.script.length - 1) + 2 := by
  rw [← List.length_tail]
  rfl

/-- Going on to the next step takes some of the toil away. -/
theorem toil_advance_lt (h : e.isAlive = true) (hs : e.script ≠ []) : e.advance.toil < e.toil := by
  have hpos := List.length_pos_iff.2 hs
  have halive := toil_of_isAlive h
  have hadvance := toil_advance e
  omega

/-- Whoever gives up a call has no more to do. -/
theorem toil_advance_le (h : (∃ r, e.activity = .posting r) ∨ ∃ n x, e.activity = .listening n x) :
    e.advance.toil ≤ e.toil := by
  have hadvance := toil_advance e
  obtain ⟨r, hact⟩ | ⟨n, x, hact⟩ := h
  · simp only [toil, hact] at hadvance ⊢
    omega
  · cases hs : e.script with
    | nil =>
      have hnone : e.announcing? = none := by simp [announcing?, hs]
      rw [hadvance]
      simp [toil, hact, hnone, hs]
    | cons k ks =>
      have halive : e.isAlive = true := by simp [isAlive, result?, hact]
      exact Nat.le_of_lt (toil_advance_lt halive (by simp [hs]))

end Execution

namespace WorkerState

/-- A bound of the steps of a worker once it is being stopped; a launch it may have to make is left out. -/
def toil : WorkerState → Nat
  | spawned => 4
  | serving _ => 3
  | selecting => 2
  | joining => 1
  | idle | stopped | crashed => 0

end WorkerState

namespace Supervisor

variable {s t u : Supervisor} {m : Move} {ms : List Move} {e : Execution} {now number : Nat}

/-- Whether the worker or an execution takes a step by a move, or the owner is done with a request. -/
def Move.isLabour : Move → Bool
  | .task _ .worker | .task _ (.execution _) | .resume => true
  | _ => false

/-- What an execution could do that is still to be launched. -/
def prospect (s : Supervisor) : Nat :=
  if s.worker = .spawned then 2 * (s.source.behaviour s.launches).length + 3 else 0

/-- A bound of what a supervisor can do once it is being stopped. -/
def toil (s : Supervisor) : Nat :=
  s.worker.toil + s.prospect + (s.execution.map (·.toil)).getD 0

/-! ## Steps of the execution -/

/-- What a step does of an execution that was told of the stop. -/
inductive Winds (s : Supervisor) (now : Nat) (e : Execution) : Supervisor → Prop where
  /-- It begins. -/
  | begins (hact : e.activity = .launched) : Winds s now e
      ((s.note now (.launched e.address e.entry)).setExecution { e with activity := .acting })
  /-- It goes on to the next step of its script. -/
  | advances {u : Supervisor} (hu : u.cast = s.cast) (hs : e.script ≠ []) :
      Winds s now e (u.setExecution e.advance)
  /-- It begins to wait for some milliseconds. -/
  | rests {ms : Nat} (ha : e.announcing? = none) (hrest : ∀ till, e.activity ≠ .resting till) :
      Winds s now e (s.setExecution { e with activity := .resting (now + ms) })
  /-- It announces something and begins to wait for the answer. -/
  | announces {u : Supervisor} {n : Nat} (hu : u.cast = s.cast) (ha : e.announcing?.isSome = true)
      (hlisten : ∀ n r, e.activity ≠ .listening n r) :
      Winds s now e ((u.setExecution { e with activity := .listening n none }).wake .worker)
  /-- It ends. -/
  | ends {u : Supervisor} (hu : u.cast = s.cast) (r : SourceError) :
      Winds s now e (u.endExecution e r)

/-- A call that is concluded winds the execution down. -/
theorem winds_conclude (hs : e.script ≠ []) (hu : u.cast = s.cast) (a : Announcement) (must : Bool)
    (answer : Answer) : Winds s now e (u.conclude now e a must answer) := by
  have hl : ((u.logAnswer a answer).note now (.answered a answer)).cast = s.cast := by
    rw [cast_note rfl, cast_logAnswer, hu]
  unfold conclude
  split
  · exact .ends hl _
  · exact .advances hl hs

/-- An execution that is being stopped announces something only if there is room. -/
theorem hasRoom_of_not_deaf {a : Announcement} (hc : e.cancelled = true) (hd : ¬ s.isDeaf e a = true) :
    (s.box a).hasRoom e.number = true := by
  simp only [isDeaf, hc, Bool.true_and, Bool.or_eq_true, Bool.not_eq_true', not_or, Bool.not_eq_false,
    Bool.and_eq_true] at hd
  exact hd.1.2

/-- Where there is room for a request, it is put in its mailbox. -/
theorem post_of_hasRoom {r : Request} (hr : (s.box r.announcement).hasRoom e.number = true) :
    ∃ b, s.post e r = some (((s.setBox r.announcement b).setExecution
      { e with activity := .listening r.number none }).wake .worker) := by
  have hpost : (s.box r.announcement).post? e.number r =
      some { s.box r.announcement with content := some r, promised := none } := if_pos hr
  refine ⟨{ s.box r.announcement with content := some r, promised := none }, ?_⟩
  simp only [post, hpost]

/-- A call that announces something returns at once, or waits for an answer first. -/
theorem winds_stepAnnounce {a : Announcement} {must : Bool} {xs : Script} (hs : e.script = .announce a must :: xs)
    (hc : e.cancelled = true) (h : s.stepAnnounce now e a must = some t) : Winds s now e t := by
  have hne : e.script ≠ [] := by simp [hs]
  have ha : e.announcing?.isSome = true := by simp [Execution.announcing?, hs]
  have post : ∀ {u : Supervisor} {r : Request}, u.cast = s.cast → (u.box r.announcement).hasRoom e.number = true →
      (∀ n x, e.activity ≠ .listening n x) → u.post e r = some t → Winds s now e t := by
    intro u r hu hroom hact ht
    obtain ⟨b, hb⟩ := post_of_hasRoom hroom
    cases hb.symm.trans ht
    exact .announces ((cast_setBox _ _ _).trans hu) ha hact
  unfold stepAnnounce at h
  split at h
  · cases h
    exact winds_conclude hne rfl _ _ _
  · rw [if_pos hc] at h
    cases h
    exact winds_conclude hne rfl _ _ _
  · rename_i hact
    split at h
    · cases h
      exact winds_conclude hne (cast_leaveBox _ _ _) _ _ _
    · exact post rfl (hasRoom_of_not_deaf hc ‹_›) (fun n x hl => by rw [hact] at hl; cases hl) h
  · rename_i hanswered hlistening hposting
    split at h
    · cases h
      exact winds_conclude hne rfl _ _ _
    · refine post (u := { s with nextRequest := s.nextRequest + 1 }) (r := ⟨s.nextRequest, a⟩) rfl ?_ (fun n x hl => ?_) h
      · have hroom := hasRoom_of_not_deaf hc ‹_›
        cases a <;> exact hroom
      · cases x with
        | none => exact hlistening n hl
        | some x => exact hanswered n x hl

/-- A wait begins, or is over. -/
theorem winds_stepRest (hs : e.script ≠ []) (ha : e.announcing? = none) {ms : Nat}
    (h : s.stepRest now ms e = some t) : Winds s now e t := by
  unfold stepRest at h
  split at h
  · split at h <;> cases h
    exact .advances rfl hs
  · rename_i hrest
    cases h
    exact .rests ha fun till hact => hrest till hact

/-- Every step that the script of a cancelled execution takes winds it down. -/
theorem winds_stepScript (hc : e.cancelled = true) (h : s.stepScript now e = some t) :
    Winds s now e t := by
  have obey : Winds s now e ((s.note now .cancelled).endExecution e .exited) := .ends (cast_note rfl) _
  unfold stepScript at h
  cases hs : e.script with
  | nil =>
    simp only [hs, if_pos hc] at h
    cases h
    exact obey
  | cons x xs =>
    have hne : e.script ≠ [] := by simp [hs]
    cases x <;> simp only [hs, if_pos hc] at h
    case announce => exact winds_stepAnnounce hs hc h
    case abandon =>
      cases h
      exact .advances (cast_abandon _ _ _) hne
    case log =>
      cases h
      exact .advances (cast_log _ _ _) hne
    case sleep | awaitReload =>
      cases h
      exact obey
    case linger => exact winds_stepRest hne (by simp [Execution.announcing?, hs]) h
    case awaitStop | inspect =>
      cases h
      exact .advances (cast_note rfl) hne
    case finish =>
      cases h
      exact .ends rfl _

/-- So does every step of the execution. -/
theorem winds_stepExecution (he : s.execution? number = some e) (hc : e.cancelled = true)
    (h : s.stepExecution now number = some t) : e.isAlive = true ∧ Winds s now e t := by
  obtain ⟨f, hf, ha, -⟩ := acts_stepExecution h
  obtain rfl := Option.some.inj (he.symm.trans hf)
  refine ⟨ha, ?_⟩
  simp only [stepExecution, hf] at h
  split at h
  · cases h
  · rename_i hact
    cases h
    exact .begins hact
  · exact winds_stepScript hc h

/-- The present execution is replaced by one of its number. -/
theorem execution_set (he : s.execution = some e) (hu : u.cast = s.cast) {f : Execution}
    (hf : f.number = e.number) : (u.cast.set f).execution = some f := by
  rw [hu]
  simp [Cast.set, cast, he, hf]

/-- The execution that is held waits for an answer. -/
theorem execution_announced (he : s.execution = some e) (hu : u.cast = s.cast) (n : Nat) :
    ((u.setExecution { e with activity := .listening n none }).wake .worker).execution =
      some { e with activity := .listening n none } := by
  change ((u.setExecution { e with activity := .listening n none }).wake .worker).cast.execution = _
  rw [cast_wake_worker]
  exact execution_set he hu rfl

/-- The execution that is held ends for its worker to see. -/
theorem endExecution_held (he : s.execution = some e) (hu : u.cast = s.cast) (r : SourceError) :
    (u.endExecution e r).cast.execution = some { e with activity := .ended r } ∧
      .wake .worker ∈ (u.endExecution e r).effects := by
  have hw : u.watches e.number = true := by
    rw [watches_of_cast hu]
    simp [watches, he]
  simp only [endExecution, if_pos hw, cast_wake_worker, cast_wakeAll_couriers]
  exact ⟨execution_set he hu rfl, List.mem_append_right _ (List.mem_singleton_self _)⟩

/-- The execution that is held has less left to do. -/
def Eases (e : Execution) (t : Supervisor) : Prop :=
  ∃ e', t.cast.execution = some e' ∧ e'.toil < e.toil

/-- To wind down eases the toil. -/
theorem eases_of_winds (he : s.execution = some e) (ha : e.isAlive = true) (h : Winds s now e t) :
    Eases e t := by
  cases h with
  | begins hact =>
    have hu : (s.note now (.launched e.address e.entry)).cast = s.cast := cast_note rfl
    refine ⟨{ e with activity := .acting }, execution_set he hu rfl, ?_⟩
    simp only [Execution.toil, hact]
    omega
  | advances hu hs => exact ⟨e.advance, execution_set he hu rfl, Execution.toil_advance_lt ha hs⟩
  | @rests ms hnone hrest =>
    -- a wait takes one more step
    refine ⟨{ e with activity := .resting (now + ms) }, execution_set he rfl rfl, ?_⟩
    have hannouncing : Execution.announcing? { e with activity := .resting (now + ms) } = none := hnone
    cases hact : e.activity with
    | resting till => exact absurd hact (hrest till)
    | ended r => simp [Execution.isAlive, Execution.result?, hact] at ha
    | launched | acting | posting | listening =>
      simp only [Execution.toil, hact, hannouncing, hnone, Option.isSome_none, Bool.false_eq_true, if_false]
      omega
  | @announces u n hu hsome hlisten =>
    -- so does the wait for an answer
    refine ⟨_, execution_announced he hu n, ?_⟩
    have hannouncing : (Execution.announcing? { e with activity := .listening n none }).isSome = true := hsome
    cases hact : e.activity with
    | listening m x => exact absurd hact (hlisten m x)
    | ended r => simp [Execution.isAlive, Execution.result?, hact] at ha
    | launched | acting | posting | resting =>
      simp only [Execution.toil, hact, hannouncing, hsome, if_true]
      omega
  | ends hu r =>
    refine ⟨_, (endExecution_held he hu r).1, ?_⟩
    exact Nat.lt_of_le_of_lt (Nat.zero_le _) (Execution.toil_of_isAlive ha)

/-- A step of a cancelled execution eases its toil. -/
theorem eases_stepExecution (he : s.execution = some e) (hc : e.cancelled = true)
    (h : s.stepExecution now e.number = some t) : Eases e t :=
  have ⟨ha, hw⟩ := winds_stepExecution (execution?_watched he) hc h
  eases_of_winds he ha hw

/-! ## What raises nothing -/

/-- The toil is told by the worker, the source and what the execution has before it. -/
theorem toil_congr (hw : t.worker = s.worker) (hs : t.source = s.source)
    (hl : t.launches = s.launches)
    (hx : t.execution.map (·.toil) = s.execution.map (·.toil)) : t.toil = s.toil := by
  rw [toil, toil, prospect, prospect, hw, hs, hl, hx]

theorem toil_mapExecutions {f : Execution → Execution} (hf : ∀ e, (f e).toil = e.toil) :
    (s.mapExecutions f).toil = s.toil := by
  refine toil_congr rfl rfl rfl ?_
  simp only [mapExecutions, Option.map_map]
  congr 1
  funext e
  exact hf e

theorem toil_wakeAll (s : Supervisor) (ts : List Task) : (s.wakeAll ts).toil = s.toil := by
  rw [wakeAll_eq]
  rfl

theorem toil_reply (s : Supervisor) (number : Nat) (answer : Option Answer) :
    (s.reply number answer).toil = s.toil := by
  refine (toil_wakeAll _ _).trans (toil_mapExecutions fun e => ?_)
  unfold hear
  split
  · rename_i hw
    have hact : e.activity = .listening number none := by simpa [Execution.awaits] using hw
    simp only [Execution.toil, hact]
    rfl
  · rfl

theorem toil_of_courierFrame (h : t.courierFrame = s.courierFrame) : t.toil = s.toil := by
  have ht : ∀ c : Supervisor, c.toil = c.courierFrame.toil := by
    intro c
    refine toil_congr rfl rfl rfl ?_
    simp only [courierFrame, Option.map_map]
    rfl
  rw [ht t, ht s, h]

/-- A step of an execution changes nothing of the toil but what is left to the execution. -/
theorem toil_of_frame (h : t.frame = s.frame) :
    t.worker.toil + t.prospect = s.worker.toil + s.prospect := by
  have ht : ∀ c : Supervisor, c.worker.toil + c.prospect = c.frame.1.worker.toil + c.frame.1.prospect :=
    fun _ => rfl
  rw [ht t, ht s, h]

/-! ## Moves and runs -/

/-- While a supervisor is being stopped, each step of its worker takes some of the toil away. -/
theorem toil_of_works (hc : s.cancelled = true) (hw : Works now s t) : t.toil < s.toil := by
  cases hw with
  | begin hw =>
    have hs : s.toil = 4 + (2 * (s.source.behaviour s.launches).length + 3) +
        (s.execution.map (·.toil)).getD 0 := by
      rw [toil, prospect, hw, if_pos rfl]
      rfl
    rw [hs]
    rcases launch_cases { s with worker := .selecting } now with ⟨address, hl⟩ | ⟨statistics, effects, hl⟩
    · rw [hl]
      show 2 + 0 + (2 * (s.source.behaviour s.launches).length + 3) < _
      omega
    · rw [hl]
      show 2 + 0 + (s.execution.map (·.toil)).getD 0 < _
      omega
  | join hw =>
    rw [toil, toil, prospect, prospect, hw]
    simp [WorkerState.toil]
  | halt hw =>
    have hpos : 0 < s.worker.toil := by
      rcases hw with ⟨hw, -⟩ | hw <;> rw [hw] <;> simp [WorkerState.toil]
    show 0 < _
    rw [toil]
    omega
  | handleEnd _ hc' | serve _ hc' | reload _ hc' | retry _ hc' => cases hc.symm.trans hc'

/-- So does each step of its execution. -/
theorem toil_stepExecution (hw : ∀ e ∈ s.execution, e.cancelled = true) (ho : s.orphans = [])
    (h : s.stepExecution now number = some t) : t.toil < s.toil := by
  obtain ⟨e, he, -⟩ := acts_stepExecution h
  obtain rfl := number_of_execution? he
  have hx := execution_of_execution? ho he
  obtain ⟨f, hf, hlt⟩ := eases_stepExecution hx (hw e hx) h
  have hrest := toil_of_frame (frame_stepExecution h)
  have hf : t.execution = some f := hf
  rw [toil, toil, hrest, hx, hf]
  exact Nat.add_lt_add_left hlt _

/-- To give an announcement up adds no toil. -/
theorem toil_giveUp (ho : s.orphans = []) (h : s.giveUp number = some t) : t.toil ≤ s.toil := by
  have hrest := toil_of_frame (frame_giveUp h)
  unfold giveUp at h
  split at h
  · cases h
  · rename_i e he
    have hx := execution_of_execution? ho he
    have advance : ∀ u : Supervisor, u.cast = s.cast → e.advance.toil ≤ e.toil →
        (u.setExecution e.advance).worker.toil + (u.setExecution e.advance).prospect =
          s.worker.toil + s.prospect → (u.setExecution e.advance).toil ≤ s.toil := by
      intro u hu htoil hrest
      have hset : (u.setExecution e.advance).execution = some e.advance := execution_set hx hu rfl
      rw [toil, toil, hrest, hset, hx]
      exact Nat.add_le_add_left htoil _
    split at h
    · rename_i hact
      cases h
      exact advance _ (cast_leaveBox _ _ _) (Execution.toil_advance_le (.inl ⟨_, hact⟩)) hrest
    · rename_i hact
      cases h
      exact advance _ rfl (Execution.toil_advance_le (.inr ⟨_, _, hact⟩)) hrest
    · cases h

/-- Nor does an announcement made aside. -/
theorem toil_announceAside {a : Announcement} (h : s.announceAside number a = some t) :
    t.toil = s.toil := by
  have hrest := toil_of_frame (frame_announceAside h)
  unfold announceAside at h
  split at h
  · cases h
  · rename_i e he
    split at h <;> cases h
    have hx : (s.abandon e a).execution = s.execution := congrArg Cast.execution (cast_abandon s e a)
    rw [toil, toil, hrest, hx]

theorem toil_cancel {reason : String} (h : s.move (.cancel reason) = some t) : t.toil = s.toil := by
  simp only [Supervisor.move] at h
  split at h <;> cases h
  rename_i hi
  rw [cancel, if_neg hi]
  exact (toil_wakeAll _ _).trans (toil_mapExecutions fun _ => rfl)

/-- What a supervisor that is being stopped can still do never becomes more, and each step of its worker
and of its execution leaves less to do. -/
theorem toil_move (hc : s.cancelled = true) (hw : ∀ e ∈ s.execution, e.cancelled = true)
    (ho : s.orphans = []) (hstart : m.isStart = false) (hcrash : m ≠ .crash)
    (h : s.move m = some t) : t.toil + (if m.isLabour then 1 else 0) ≤ s.toil := by
  have same : ∀ c : Supervisor, c.worker = s.worker → c.source = s.source →
      c.launches = s.launches → c.execution = s.execution → c.toil ≤ s.toil := fun c hw hs hl hx =>
    Nat.le_of_eq (toil_congr hw hs hl (by rw [hx]))
  cases m with
  | start => cases hstart
  | crash => exact absurd rfl hcrash
  | cancel reason => exact Nat.le_of_eq (toil_cancel h)
  | rest =>
    simp only [Supervisor.move] at h
    split at h <;> cases h
    show 0 + 0 + (s.execution.map (·.toil)).getD 0 ≤ _
    rw [toil]
    omega
  | reload entry =>
    simp only [Supervisor.move] at h
    split at h <;> cases h
    rename_i hi
    rw [reload, if_neg hi]
    exact same _ rfl rfl rfl rfl
  | setPause | flush =>
    cases h
    exact same _ rfl rfl rfl rfl
  | task now k =>
    cases k with
    | worker => exact toil_of_works hc (works_of_stepWorker h)
    | execution n => exact toil_stepExecution hw ho h
    | courier n => exact Nat.le_of_eq (toil_of_courierFrame (courierFrame_stepCourier h))
  | reply number answer =>
    cases h
    exact Nat.le_of_eq (toil_reply s number answer)
  | resume =>
    simp only [Supervisor.move] at h
    split at h <;> cases h
    rename_i hserv
    have hs : s.toil = 3 + 0 + (s.execution.map (·.toil)).getD 0 := by
      rw [toil, prospect, hserv]
      rfl
    rw [hs]
    show 2 + 0 + (s.execution.map (·.toil)).getD 0 + 1 ≤ _
    omega
  | giveUp number => exact toil_giveUp ho h
  | aside number a => exact Nat.le_of_eq (toil_announceAside h)

/-! ## Something can always be done -/

/-- A call that announces something does not wait for room once it was told of the stop. -/
theorem stepAnnounce_of_cancelled (he : e.cancelled = true) (a : Announcement) (must : Bool) :
    ∃ t, s.stepAnnounce now e a must = some t := by
  have post : ∀ {u : Supervisor} {r : Request}, (u.box r.announcement).hasRoom e.number = true →
      ∃ t, u.post e r = some t := fun hroom =>
    have ⟨_, hb⟩ := post_of_hasRoom hroom
    ⟨_, hb⟩
  unfold stepAnnounce
  split
  · exact ⟨_, rfl⟩
  · exact ⟨_, if_pos he⟩
  · split
    · exact ⟨_, rfl⟩
    · exact post (hasRoom_of_not_deaf he ‹_›)
  · split
    · exact ⟨_, rfl⟩
    · have hroom := hasRoom_of_not_deaf he ‹_›
      exact post (by cases a <;> exact hroom)

/-- An execution that was told of the stop goes on, unless it sits out a time. -/
theorem stepScript_or_rests (s : Supervisor) (now : Nat) (he : e.cancelled = true) :
    (∃ t, s.stepScript now e = some t) ∨ ∃ till, e.activity = .resting till ∧ now < till := by
  have hrest : ∀ ms, (∃ t, s.stepRest now ms e = some t) ∨
      ∃ till, e.activity = .resting till ∧ now < till := by
    intro ms
    unfold stepRest
    cases hact : e.activity with
    | resting till =>
      by_cases htill : till ≤ now
      · exact .inl ⟨_, if_pos htill⟩
      · exact .inr ⟨till, rfl, Nat.lt_of_not_le htill⟩
    | _ => exact .inl ⟨_, rfl⟩
  unfold stepScript
  cases hsc : e.script with
  | nil => exact .inl ⟨_, if_pos he⟩
  | cons x xs =>
    cases x with
    | announce a must =>
      exact .inl (stepAnnounce_of_cancelled he a must)
    | linger ms => exact hrest ms
    | sleep | awaitStop | awaitReload => exact .inl ⟨_, if_pos he⟩
    | abandon | log | inspect | finish => exact .inl ⟨_, rfl⟩

/-- A cancelled execution goes on, unless it rests till a time that is still to come. -/
theorem stepExecution_or_rests (now : Nat) (hx : s.execution? number = some e) (ha : e.isAlive = true)
    (he : e.cancelled = true) : (∃ t, s.stepExecution now number = some t) ∨
      ∃ till, e.activity = .resting till ∧ now < till := by
  simp only [stepExecution, hx]
  cases hact : e.activity with
  | ended r => simp [Execution.isAlive, Execution.result?, hact] at ha
  | launched => exact .inl ⟨_, rfl⟩
  | acting | posting | listening | resting =>
    have hscript := stepScript_or_rests s now he
    rw [hact] at hscript
    exact hscript

/-- At the latest when that time has come it goes on, too. -/
theorem exists_stepExecution (hx : s.execution? number = some e) (ha : e.isAlive = true)
    (he : e.cancelled = true) : ∃ now t, s.stepExecution now number = some t := by
  rcases stepExecution_or_rests 0 hx ha he with ht | ⟨till, hact, -⟩
  · exact ⟨0, ht⟩
  · refine ⟨till, (stepExecution_or_rests till hx ha he).resolve_right ?_⟩
    rintro ⟨till', hact', hlt⟩
    cases hact.symm.trans hact'
    exact Nat.lt_irrefl _ hlt

/-- The execution that is held was told of the stop. -/
def Warned (s : Supervisor) : Prop := s.cancelled = true → ∀ e ∈ s.execution, e.cancelled = true

/-- An execution is cancelled if what it does shows that. -/
theorem warned_of_deed (h : ∀ e ∈ s.deed, e.cancelled = true) : ∀ e ∈ s.execution, e.cancelled = true :=
  fun e he => h e.fixed (by rw [deed, Option.mem_def.1 he]; rfl)

/-- In a supervisor that is being stopped every execution is cancelled, and stays so. -/
theorem Warned.move (hw : s.Warned) (hm : s.move m = some t) : t.Warned := by
  intro hc
  have hcan := cancelled_move hm
  by_cases hask : ∃ reason, m = .cancel reason
  · obtain ⟨reason, rfl⟩ := hask
    simp only [Supervisor.move] at hm
    split at hm <;> cases hm
    rename_i hi
    rw [cancel, if_neg hi]
    simp only [wakeAll_eq]
    simp [mapExecutions]
  · have hs : s.cancelled = true := by
      cases m with
      | start => cases hcan.symm.trans hc
      | cancel reason => exact absurd ⟨reason, rfl⟩ hask
      | _ => exact hcan.symm.trans hc
    have hold : ∀ e ∈ s.deed, e.cancelled = true := by
      intro e he
      obtain ⟨f, hf, rfl⟩ := Option.map_eq_some_iff.1 he
      exact hw hs f hf
    cases lays_move hm with
    | keeps hd => exact warned_of_deed (hd ▸ hold)
    | loses hx => simp [hx]
    | warns _ hd =>
      refine warned_of_deed fun e he => ?_
      rw [hd] at he
      obtain ⟨f, -, rfl⟩ := Option.map_eq_some_iff.1 he
      rfl
    | launches hx _ _ hc' =>
      intro e he
      rw [hx] at he
      cases he
      exact hc'.trans hs

/-- Whatever becomes of a supervisor, its execution knows that it is being stopped if it is. -/
theorem warned_run {pause : Nat} {entry : Entry} {groups : Option (List String)}
    {options : SourceOptions} {factory : Factory}
    (hs : create now entry groups options factory pause = .ok s) (h : s.run ms = some t) :
    t.Warned := by
  have hinit : s.Warned := by
    obtain ⟨kind, source, -, rfl⟩ := create_eq hs
    exact fun hc => by cases hc
  exact run_induction (P := fun _ t => t.Warned) hinit (fun _ _ _ _ _ hw hm => hw.move hm) h

/-- While the worker of a supervisor that is being stopped has not ended, it or its execution can take a
step, or the owner can be done with a request. -/
theorem exists_labour (hw : s.Warned) (hc : s.cancelled = true) (hd : s.isDone = false) :
    ∃ m t, m.isLabour = true ∧ s.move m = some t := by
  cases hwork : s.worker with
  | idle | stopped | crashed => simp [isDone, hwork, WorkerState.isAlive] at hd
  | serving r => exact ⟨.resume, s.resume, rfl, by simp [Supervisor.move, hwork]⟩
  | spawned =>
    obtain ⟨t, ht⟩ : ∃ t, s.stepWorker 0 = some t := ⟨_, by simp only [stepWorker, hwork]; rfl⟩
    exact ⟨.task 0 .worker, t, rfl, ht⟩
  | selecting =>
    obtain ⟨t, ht⟩ : ∃ t, s.stepWorker 0 = some t :=
      ⟨_, by simp only [stepWorker, hwork, select, hc, if_true]; rfl⟩
    exact ⟨.task 0 .worker, t, rfl, ht⟩
  | joining =>
    cases hall : s.execution.all (!·.isAlive) with
    | true =>
      refine ⟨.task 0 .worker, s.halt, rfl, ?_⟩
      simp only [Supervisor.move, step, stepWorker, hwork, hall, if_true]
    | false =>
      obtain ⟨e, he, ha⟩ : ∃ e, s.execution = some e ∧ e.isAlive = true := by
        cases hx : s.execution with
        | none => simp [hx] at hall
        | some e => exact ⟨e, rfl, by simpa [hx] using hall⟩
      obtain ⟨now, t, ht⟩ := exists_stepExecution (execution?_watched he) ha (hw hc e he)
      exact ⟨.task now (.execution e.number), t, rfl, ht⟩

/-! ## Runs -/

/-- Only a start takes a cancellation back. -/
theorem cancelled_of_run (hc : s.cancelled = true) (hms : ∀ m ∈ ms, m.isStart = false)
    (h : s.run ms = some t) : t.cancelled = true := by
  refine run_induction
    (P := fun ms t => (∀ m ∈ ms, m.isStart = false) → t.cancelled = true) (fun _ => hc) ?_ h hms
  intro ms u m v _ hu hm hms
  have hcan := cancelled_move hm
  have hnot : m.isStart = false := hms m (by simp)
  have hu := hu fun m hm => hms m (List.mem_append_left _ hm)
  cases m with
  | start => cases hnot
  | cancel => exact hcan
  | _ => exact hcan.trans hu

/-- So it lasts for as long as there is none. -/
theorem cancelled_of_cancel {reason : String} {ls : List Move} (hls : ∀ m ∈ ls, m.isStart = false)
    (h : s.run (.cancel reason :: ls) = some t) : t.cancelled = true := by
  obtain ⟨u, hu, ht⟩ := Option.bind_eq_some_iff.1 h
  exact cancelled_of_run (cancelled_move hu) hls ht

/-- What is done after a stop was asked for is bounded by what there is to do. -/
theorem labour_run (hw : s.Warned) (ho : s.orphans = []) (hc : s.cancelled = true)
    (hstart : ∀ m ∈ ms, m.isStart = false) (hcrash : .crash ∉ ms) (h : s.run ms = some t) :
    ms.countP (·.isLabour) + t.toil ≤ s.toil := by
  have hrun : (∀ m ∈ ms, m.isStart = false) → .crash ∉ ms →
      t.Warned ∧ t.orphans = [] ∧ ms.countP (·.isLabour) + t.toil ≤ s.toil := by
    refine run_induction (P := fun ms t => (∀ m ∈ ms, m.isStart = false) → .crash ∉ ms →
      t.Warned ∧ t.orphans = [] ∧ ms.countP (·.isLabour) + t.toil ≤ s.toil)
      (fun _ _ => ⟨hw, ho, by simp⟩) ?_ h
    intro ms u m v hu ih hm hstart hcrash
    rw [List.mem_append, List.mem_singleton, not_or] at hcrash
    have hms : ∀ m ∈ ms, m.isStart = false := fun m hm => hstart m (List.mem_append_left _ hm)
    obtain ⟨hwu, hou, hle⟩ := ih hms hcrash.1
    have hcu := cancelled_of_run hc hms hu
    have hstep := toil_move hcu (hwu hcu) hou (hstart m (by simp)) (Ne.symm hcrash.2) hm
    refine ⟨hwu.move hm, orphans_move hou (Ne.symm hcrash.2) hm, ?_⟩
    rw [List.countP_append, List.countP_singleton]
    omega
  exact (hrun hstart hcrash).2.2

end Supervisor

end MediaPaths
