import MediaPaths.Proofs.Supervision.Conduct
import MediaPaths.Proofs.Supervision.Traffic

/-!
# What is laid down when an execution is launched

The number, the address and the entry of an execution never change, and it is only told that it is being
stopped when its supervisor is. `Lays` lists what a move does to the execution that is held as far as that
was laid down, and `brief_move` what a move changes of what the supervisor was told.
-/

namespace MediaPaths

namespace Supervisor

variable {s t : Supervisor} {m : Move} {ms : List Move} {now number : Nat}

/-- What was laid down when the execution that is held was launched. -/
def deed (s : Supervisor) : Option Execution := s.execution.map Execution.fixed

/-- What a move does to the execution that is held. -/
inductive Lays (s t : Supervisor) : Prop where
  /-- It is the same. -/
  | keeps (h : t.deed = s.deed)
  /-- None is held any longer. -/
  | loses (h : t.execution = none)
  /-- It is told that the supervisor is being stopped. -/
  | warns (hc : t.cancelled = true)
      (h : t.deed = s.deed.map fun e => { e with cancelled := true })
  /-- The next one is launched. -/
  | launches {e : Execution} (h : t.execution = some e) (hn : e.number = s.launches)
      (he : e.entry = s.launchEntry) (hc : e.cancelled = s.cancelled)
      (ha : Template.resolve s.launchEntry.settings.source s.groups s.query
        s.launchEntry.settings.username s.launchEntry.settings.password = .ok e.address)

theorem deed_of_courierFrame (h : t.courierFrame = s.courierFrame) : t.deed = s.deed := by
  have hd : ∀ c : Supervisor, c.deed = c.courierFrame.deed := by
    intro c
    simp only [deed, courierFrame, Option.map_map]
    rfl
  rw [hd t, hd s, h]

theorem fixed_hear (answer : Option Answer) (e : Execution) :
    (hear number answer e).fixed = e.fixed := by
  unfold hear
  split <;> rfl

theorem deed_reply (s : Supervisor) (number : Nat) (answer : Option Answer) :
    (s.reply number answer).deed = s.deed := by
  simp only [reply, wakeAll_eq, deed, mapExecutions, Option.map_map]
  congr 1
  funext e
  exact fixed_hear answer e

theorem deed_set {e e' : Execution} (he : s.execution? number = some e)
    (hf : e'.fixed = e.fixed) : (s.cast.set e').execution.map Execution.fixed = s.deed := by
  have hn : e'.number = e.number := Execution.number_of_fixed hf
  cases hx : s.execution with
  | none => simp [Cast.set, cast, deed, hx]
  | some f =>
    simp only [Cast.set, cast, deed, hx, Option.map_some, Option.some.injEq]
    by_cases hnum : f.number = e'.number
    · have hw := execution?_watched hx
      rw [hnum, hn, number_of_execution? he, he] at hw
      rw [if_pos hnum, hf, Option.some.inj hw]
    · rw [if_neg hnum]

theorem deed_stepExecution (h : s.stepExecution now number = some t) : t.deed = s.deed := by
  obtain ⟨e, he, -, ha⟩ := acts_stepExecution h
  have hd : ∀ c : Supervisor, c.deed = c.cast.execution.map Execution.fixed := fun _ => rfl
  cases ha with
  | goes _ hf _ _ ht | takes _ hf _ _ ht | ends _ hf _ _ _ ht =>
    rw [hd, ht]
    exact deed_set he hf
  | leaves _ ht =>
    rw [hd, ht]
    rfl

theorem deed_giveUp (h : s.giveUp number = some t) : t.deed = s.deed := by
  unfold giveUp at h
  split at h
  · cases h
  · rename_i e he
    have hd : ∀ u : Supervisor, u.cast = s.cast → (u.setExecution e.advance).deed = s.deed := by
      intro u hu
      have hset := deed_set he e.fixed_advance
      rwa [← hu] at hset
    split at h <;> cases h
    · exact hd _ (cast_leaveBox _ _ _)
    · exact hd s rfl

theorem deed_announceAside {a : Announcement} (h : s.announceAside number a = some t) :
    t.deed = s.deed := by
  unfold announceAside at h
  split at h
  · cases h
  · split at h <;> cases h
    exact congrArg (fun c : Cast => c.execution.map Execution.fixed) (cast_abandon _ _ _)

/-- A launch goes to the address for which the entry of the worker stands. -/
theorem lays_launch {u : Supervisor} (hx : u.execution = s.execution)
    (hn : u.launches = s.launches) (he : u.launchEntry = s.launchEntry) (hb : u.brief = s.brief)
    (hc : u.cancelled = s.cancelled) : Lays s (u.launch now) := by
  have hg : u.groups = s.groups := congrArg Brief.groups hb
  have hq : u.query = s.query := congrArg Brief.query hb
  unfold launch
  simp only
  split
  · rename_i address ha
    rw [he, hg, hq] at ha
    exact .launches rfl hn he hc ha
  · exact .keeps (congrArg (·.map Execution.fixed) hx)

theorem execution_handleEnd (s : Supervisor) (now : Nat) (r : SourceError) :
    (s.handleEnd now r).execution = none := (clears_handleEnd s now r).execution

theorem lays_of_works (hw : Works now s t) : Lays s t := by
  cases hw with
  | begin | retry => exact lays_launch rfl rfl rfl rfl rfl
  | join => exact .keeps rfl
  | halt => exact .loses rfl
  | handleEnd => exact .loses (execution_handleEnd _ _ _)
  | serve _ _ _ ht =>
    rcases takeRequest?_cases ht with ⟨b, next, -, rfl⟩ | ⟨-, b, next, -, rfl⟩ <;>
      rw [wakeAny_eq] <;> exact .keeps rfl
  | reload =>
    refine .keeps ?_
    unfold handleReload
    simp only [wakeAny_eq]
    split <;> rfl

/-- Every move does one of these things. -/
theorem lays_move (h : s.move m = some t) : Lays s t := by
  cases m with
  | start onDemand query =>
    simp only [move] at h
    split at h <;> cases h
    rename_i hi
    rw [start, if_pos hi]
    exact .loses rfl
  | cancel reason =>
    simp only [move] at h
    split at h <;> cases h
    rename_i hi
    rw [cancel, if_neg hi]
    simp only [wakeAll_eq]
    refine .warns rfl ?_
    simp only [deed, mapExecutions, log, emit, Option.map_map]
    rfl
  | reload entry =>
    simp only [move] at h
    split at h <;> cases h
    rename_i hi
    rw [reload, if_neg hi]
    exact .keeps rfl
  | task now k =>
    cases k with
    | worker => exact lays_of_works (works_of_stepWorker h)
    | execution n => exact .keeps (deed_stepExecution h)
    | courier n => exact .keeps (deed_of_courierFrame (courierFrame_stepCourier h))
  | reply number answer =>
    cases h
    exact .keeps (deed_reply _ _ _)
  | rest | resume =>
    simp only [move] at h
    split at h <;> cases h
    exact .keeps rfl
  | crash =>
    simp only [move] at h
    split at h <;> cases h
    exact .loses (clears_crash _ _).execution
  | setPause | flush =>
    cases h
    exact .keeps rfl
  | giveUp number => exact .keeps (deed_giveUp h)
  | aside number a => exact .keeps (deed_announceAside h)

/-! ## What a supervisor is told -/

theorem brief_replies (s : Supervisor) (rs : List Request) :
    (rs.foldl (fun s r => s.reply r.number none) s).brief = s.brief :=
  replies_eq brief (fun _ _ _ => brief_of_frame (frame_reply _ _ _)) s rs

/-- What a supervisor was told after a move: of a query when it is started, of other settings and of
another pause. -/
def Brief.after (b : Brief) : Move → Brief
  | .start _ query => { b with query := query }
  | .reload entry => { b with entry := entry }
  | .setPause ms => { b with pause := ms }
  | _ => b

theorem brief_move (h : s.move m = some t) : t.brief = s.brief.after m := by
  cases m with
  | start onDemand query =>
    simp only [move] at h
    split at h <;> cases h
    rename_i hi
    rw [start, if_pos hi]
    rfl
  | cancel reason =>
    simp only [move] at h
    split at h <;> cases h
    rename_i hi
    rw [cancel, if_neg hi]
    exact (brief_of_frame (frame_wakeAll _ _)).trans rfl
  | reload entry =>
    simp only [move] at h
    split at h <;> cases h
    rename_i hi
    rw [reload, if_neg hi]
    rfl
  | task now k => exact brief_step h
  | reply number answer =>
    cases h
    exact brief_of_frame (frame_reply _ _ _)
  | rest | resume =>
    simp only [move] at h
    split at h <;> cases h
    rfl
  | crash =>
    simp only [move] at h
    split at h <;> cases h
    unfold crash
    simp only
    refine (brief_of_frame (frame_wakeAll _ _)).trans ?_
    exact brief_replies _ _
  | setPause | flush =>
    cases h
    rfl
  | giveUp number => exact brief_of_frame (frame_giveUp h)
  | aside number a => exact brief_of_frame (frame_announceAside h)

/-- The settings that a supervisor is handed. -/
def Move.change? : Move → Option Entry
  | .reload entry => some entry
  | _ => none

/-- The settings that a supervisor is handed in some moves, in this order. -/
def handed (ms : List Move) : List Entry := ms.filterMap (·.change?)

/-- A supervisor has the settings that it was handed last. -/
theorem entry_run (h : s.run ms = some t) : t.entry = (handed ms).getLast?.getD s.entry := by
  refine run_induction (P := fun ms t => t.entry = (handed ms).getLast?.getD s.entry) rfl ?_ h
  intro ms u m v _ hu hm
  have he : ∀ c : Supervisor, c.entry = c.brief.entry := fun _ => rfl
  rw [he v, brief_move hm]
  cases m with
  | reload entry => simp [handed, Move.change?, Brief.after]
  | _ =>
    have hms : ∀ m : Move, m.change? = none → handed (ms ++ [m]) = handed ms := fun m hm => by
      simp [handed, hm]
    rw [hms _ rfl]
    exact hu

end Supervisor

end MediaPaths
