import Mathlib.Data.List.Nodup
import MediaPaths.Proofs.Supervision.Calls

/-!
# Executions that a crash leaves to themselves

When its owner crashes, the worker of a supervisor is gone at once, and the execution that it held goes on
without anyone to wait for it. The supervisor can then be laid to rest and started again while that
execution goes on beside the next one. This is the only way in which executions overlap: any other
execution is held until it has ended, and no other one is launched meanwhile.

`Turns` lists what a move can do to the executions, those included that nobody watches, and `Census`
compares them with the chronicle.
-/

namespace MediaPaths

/-- The number of an execution, and whether it has not ended. -/
def Execution.mark (e : Execution) : Nat × Bool := (e.number, e.isAlive)

namespace Supervisor

variable {s t u : Supervisor} {now number n : Nat} {m : Move} {ms : List Move}
  {h hs : List Happening} {e e' f : Execution}

/-! ## Workers that are gone -/

/-- What decides about launches agrees, and no execution is held unless a worker goes on. -/
structure Coherent (c : Control) : Prop where
  /-- The fields agree with each other. -/
  consistent : c.Consistent
  /-- Without a worker that goes on, no execution is held. -/
  unwatched : c.worker.isAlive = false → c.watched = none

/-- Every move keeps what decides about launches coherent, a crash of the owner included. -/
theorem coherent_move (hc : Coherent s.control) (h : s.move m = some t) : Coherent t.control := by
  by_cases hm : m = .crash
  · subst hm
    simp only [move] at h
    split at h <;> cases h
    rename_i r hw
    have hp := phase_ne_stopped hc.consistent (by simp [hw])
    rw [control_crash]
    exact ⟨⟨by simp, by simp [WorkerState.isWaiting], by simp, fun h => absurd h hp⟩, fun _ => rfl⟩
  · refine ⟨consistent_move hc.consistent hm h, ?_⟩
    have hdone : m = .rest → s.control.worker.isAlive = false := by
      rintro rfl
      simp only [move] at h
      split at h
      · rename_i hd
        have hdone : s.worker.isAlive = false := by
          simpa [isDone] using (Bool.and_eq_true_iff.1 hd).1
        exact hdone
      · cases h
    cases steers_of_move h with
    | still _ ht => exact ht ▸ hc.unwatched
    | cancel ht => exact ht ▸ hc.unwatched
    | rest ht => exact ht ▸ fun _ => hc.unwatched (hdone rfl)
    | halt _ _ ht => exact ht ▸ fun _ => rfl
    | handleEnd hw _ _ ht => exact ht ▸ fun _ => rfl
    | crash => exact absurd rfl hm
    | start _ ht | launch _ ht | fail _ ht | join _ _ _ ht | serve _ ht | resume _ ht =>
      intro halive
      rw [ht] at halive
      cases halive

/-- A new supervisor is coherent. -/
theorem coherent_create {pause : Nat} {entry : Entry} {groups : Option (List String)}
    {options : SourceOptions} {factory : Factory}
    (h : create now entry groups options factory pause = .ok s) : Coherent s.control := by
  refine ⟨(consistent_create h).1, fun _ => ?_⟩
  obtain ⟨kind, source, -, rfl⟩ := create_eq h
  rfl

/-! ## What becomes of the executions -/

/-- The executions that nobody watches: their numbers, and whether they have not ended. -/
def strays (s : Supervisor) : List (Nat × Bool) := s.orphans.map (·.mark)

/-- All executions: their numbers, and whether they have not ended. -/
def roll (s : Supervisor) : List (Nat × Bool) := s.held.toList ++ s.strays

/-- The roll is the list of all executions with their marks. -/
theorem roll_eq (s : Supervisor) : s.roll = s.executions.map (·.mark) := by
  rw [roll, executions, List.map_append, strays, held]
  cases s.execution <;> rfl

/-- What a move does to the executions, and what is told of their ends. -/
inductive Turns (m : Move) (s t : Supervisor) : List Happening → Prop where
  /-- They go on as they did. -/
  | still {hs : List Happening} (hh : t.held = s.held) (ho : t.strays = s.strays)
      (hl : t.launches = s.launches) (he : ∀ n, .ended n ∉ hs) : Turns m s t hs
  /-- The one that is held ends. -/
  | ends {n : Nat} {hs : List Happening} (hs' : s.held = some (n, true))
      (hh : t.held = some (n, false)) (ho : t.strays = s.strays) (hl : t.launches = s.launches)
      (he : ∀ k, .ended k ∈ hs ↔ k = n) : Turns m s t hs
  /-- One that nobody watches ends, and is no more. -/
  | leaves {n : Nat} {hs : List Happening} (hs' : (n, true) ∈ s.strays) (hh : t.held = s.held)
      (ho : t.strays = s.strays.filter (·.1 != n)) (hl : t.launches = s.launches)
      (he : ∀ k, .ended k ∈ hs ↔ k = n) : Turns m s t hs
  /-- The next one is launched. -/
  | launch (hs : s.held = none) (hh : t.held = some (s.launches, true)) (ho : t.strays = s.strays)
      (hl : t.launches = s.launches + 1) : Turns m s t []
  /-- The worker is done with one that has ended, and with what is left in the mailboxes. -/
  | reap {n : Nat} (hs : s.held = some (n, false)) (hh : t.held = none) (ho : t.strays = s.strays)
      (hl : t.launches = s.launches) (hb : t.letters = []) : Turns m s t []
  /-- The worker is gone, and with it what lay in the mailboxes. Nobody watches the one that it held. -/
  | forsakes (hm : m = .crash) (hh : t.held = none) (ho : t.strays = s.strays ++ s.held.toList)
      (hl : t.launches = s.launches) (hb : t.letters = []) : Turns m s t []

/-- Executions of different numbers. -/
def Distinct (s : Supervisor) : Prop := (s.executions.map (·.number)).Nodup

/-- A number belongs to one execution only. -/
theorem Distinct.eq_of_number (hd : s.Distinct) (he : s.execution? number = some e)
    (hf : f ∈ s.executions) (hn : f.number = number) : f = e :=
  List.inj_on_of_nodup_map hd hf (List.mem_of_find?_eq_some he)
    (hn.trans (number_of_execution? he).symm)

/-- An execution that was left behind does not have the number of the present one. -/
theorem Distinct.number_ne (hd : s.Distinct) (hx : s.execution = some e) (hf : f ∈ s.orphans) :
    f.number ≠ e.number := by
  intro heq
  rw [Distinct, executions, hx, Option.toList_some, List.singleton_append, List.map_cons,
    List.nodup_cons] at hd
  exact hd.1 (List.mem_map.2 ⟨f, hf, heq⟩)

/-- A move that changes nothing about the roll leaves no entry. -/
theorem Turns.silent (hh : t.held = s.held) (ho : t.strays = s.strays)
    (hl : t.launches = s.launches) : Turns m s t [] := .still hh ho hl nofun

/-- Those that were left behind stay as they are where the marks are kept. -/
theorem strays_mapExecutions {g : Execution → Execution} (hg : ∀ e ∈ s.orphans, (g e).mark = e.mark) :
    (s.mapExecutions g).strays = s.strays := by
  rw [strays, mapExecutions, List.map_map]
  exact List.map_congr_left hg

/-- The present execution stays as it is where its mark is kept. -/
theorem held_mapExecutions {g : Execution → Execution} (hg : ∀ e ∈ s.execution, (g e).mark = e.mark) :
    (s.mapExecutions g).held = s.held := by
  cases hx : s.execution with
  | none => simp [held, mapExecutions, hx]
  | some e =>
    have he := hg e hx
    simpa [held, mapExecutions, hx, Execution.mark] using he

/-- Hearing an answer ends no execution. -/
theorem mark_hear (number : Nat) (answer : Option Answer) (e : Execution) :
    (hear number answer e).mark = e.mark := by
  unfold hear
  split
  · rename_i ha
    have hact : e.activity = .listening number none := by simpa [Execution.awaits] using ha
    simp [Execution.mark, Execution.isAlive, Execution.result?, hact]
  · rfl

theorem strays_reply (s : Supervisor) (number : Nat) (answer : Option Answer) :
    (s.reply number answer).strays = s.strays := by
  simp only [reply, wakeAll_eq]
  exact strays_mapExecutions fun e _ => mark_hear number answer e

theorem strays_replies (s : Supervisor) (rs : List Request) :
    (rs.foldl (fun s r => s.reply r.number none) s).strays = s.strays :=
  replies_eq strays strays_reply s rs

theorem strays_discardRequests (s : Supervisor) : s.discardRequests.strays = s.strays :=
  discardRequests_eq strays (fun s _ _ _ => by rw [wakeAny_eq]; exact strays_reply s _ _)
    (fun _ _ => rfl) (fun _ _ => rfl) s

theorem held_replies (s : Supervisor) (rs : List Request) :
    (rs.foldl (fun s r => s.reply r.number none) s).held = s.held :=
  replies_eq held held_reply s rs

/-- Replacing an execution that stays alive keeps all marks. -/
theorem mark_set (hd : s.Distinct) (he : s.execution? number = some e) (hn : e'.number = e.number)
    (ha : e'.isAlive = e.isAlive) (hf : f ∈ s.executions) :
    (if f.number = e'.number then e' else f).mark = f.mark := by
  split
  · rename_i heq
    obtain rfl := hd.eq_of_number he hf (heq.trans (hn.trans (number_of_execution? he)))
    exact Prod.ext hn ha
  · rfl

/-- Putting an execution back keeps the roll, if it stays alive. -/
theorem marks_setExecution (hd : s.Distinct) (he : s.execution? number = some e)
    (hn : f.number = e.number) (ha : f.isAlive = e.isAlive) :
    (s.setExecution f).held = s.held ∧ (s.setExecution f).strays = s.strays := by
  refine ⟨held_mapExecutions fun g hg => mark_set hd he hn ha ?_,
    strays_mapExecutions fun g hg => mark_set hd he hn ha (List.mem_append_right _ hg)⟩
  exact List.mem_append_left _ (by simpa using hg)

/-- Replacing an execution by one of its number keeps all numbers. -/
theorem number_set (e f : Execution) :
    (if f.number = e.number then e else f).number = f.number := by
  split
  · rename_i hn
    exact hn.symm
  · rfl

/-- After a change to every execution the one of a number is the changed one. -/
theorem execution?_mapExecutions {g : Execution → Execution} (hg : ∀ e, (g e).number = e.number)
    (hx : t.execution = s.execution.map g) (ho : t.orphans = s.orphans.map g) (number : Nat) :
    t.execution? number = (s.execution? number).map g := by
  have ht : t.executions = s.executions.map g := by
    rw [← executions_mapExecutions, executions, hx, ho]
    rfl
  rw [execution?, ht, List.find?_map, execution?]
  congr 2
  funext e
  exact congrArg (· == number) (hg e)

/-- The execution that is held is the one that the worker watches. -/
theorem execution_of_watches (he : s.execution? number = some e) (hw : s.watches e.number = true) :
    s.execution = some e := by
  unfold watches at hw
  split at hw
  · rename_i f hf
    have hn : f.number = number := (eq_of_beq hw).trans (number_of_execution? he)
    rw [← hn, execution?_watched hf] at he
    rw [hf, ← he]
  · cases hw

/-- One that it does not watch is left to itself. -/
theorem mem_orphans_of_watches (he : s.execution? number = some e)
    (hw : s.watches e.number = false) : e ∈ s.orphans := by
  refine (List.mem_append.1 (List.mem_of_find?_eq_some he)).resolve_left fun hx => ?_
  simp [watches, Option.mem_toList.1 hx] at hw

/-- In a step, an execution goes on or ends. -/
theorem turns_stepExecution (hd : s.Distinct) (hs : s.stepExecution now number = some t) :
    Turns m s t (s.happenings (.task now (.execution number)) t) := by
  obtain ⟨e, he, halive, ha⟩ := acts_stepExecution hs
  have hn := number_of_execution? he
  have hl := launches_of_frame (frame_stepExecution hs)
  have hlive : s.isLive number = true := by simp [isLive, he, halive]
  -- what is told of the end is told if and only if the execution is not alive afterwards
  have htold : ∀ k, .ended k ∈ s.happenings (.task now (.execution number)) t ↔
      t.isLive number = false ∧ k = number := by
    intro k
    simp only [happenings, hlive, Bool.true_and, List.mem_append, ended_not_mem_posted, false_or]
    cases t.isLive number <;> simp
  -- another execution takes its place
  have hset : ∀ e' : Execution, e'.number = e.number → t.execution = (s.setExecution e').execution →
      t.orphans = (s.setExecution e').orphans → t.isLive number = e'.isAlive := by
    intro e' hn' hx ho
    rw [isLive, execution?_mapExecutions (number_set e') hx ho, he, Option.map_some, Option.any_some,
      if_pos hn'.symm]
  have hgoes : ∀ e' : Execution, e'.fixed = e.fixed → e'.isAlive = true →
      t.execution = (s.setExecution e').execution → t.orphans = (s.setExecution e').orphans →
      Turns m s t (s.happenings (.task now (.execution number)) t) := by
    intro e' hfix ha' hx ho
    have hn' := Execution.number_of_fixed hfix
    obtain ⟨hheld, hstrays⟩ := marks_setExecution hd he hn' (ha'.trans halive.symm)
    refine .still ?_ ?_ hl fun k hk => ?_
    · rw [held, hx, ← hheld]
      rfl
    · rw [strays, ho, ← hstrays]
      rfl
    · have hend := ((htold k).1 hk).1
      rw [hset e' hn' hx ho, ha'] at hend
      cases hend
  cases ha with
  | goes e' hfix _ ha' ht | takes e' hfix _ ha' ht =>
    exact hgoes e' hfix ha' (congrArg Cast.execution ht) (congrArg Cast.orphans ht)
  | ends e' hfix _ ha' hw ht =>
    have hn' := Execution.number_of_fixed hfix
    have hx : t.execution = (s.setExecution e').execution := congrArg Cast.execution ht
    have ho : t.orphans = (s.setExecution e').orphans := congrArg Cast.orphans ht
    have hheld := execution_of_watches he hw
    refine .ends (n := number) ?_ ?_ ?_ hl fun k => ?_
    · rw [held, hheld, Option.map_some, hn, halive]
    · have hheld' := held_setExecution hheld hn'.symm
      rw [ha', hn', hn] at hheld'
      rw [held, hx, ← hheld']
      rfl
    · -- those that nobody watches have other numbers
      rw [strays, ho]
      refine strays_mapExecutions fun f hf => ?_
      split
      · rename_i heq
        exact absurd (heq.trans hn') (hd.number_ne hheld hf)
      · rfl
    · rw [htold, hset e' hn' hx ho, ha']
      simp
  | leaves hw ht =>
    have hx : t.execution = s.execution := congrArg Cast.execution ht
    have ho : t.orphans = s.orphans.filter (·.number != e.number) := congrArg Cast.orphans ht
    have hgone : t.execution? number = none := by
      rw [execution?, List.find?_eq_none]
      intro f hf
      rw [executions, hx, ho, List.mem_append] at hf
      rcases hf with hf | hf
      · have hf := Option.mem_toList.1 hf
        simpa [watches, hf, hn] using hw
      · simpa [hn] using (List.mem_filter.1 hf).2
    refine .leaves (n := number) ?_ ?_ ?_ hl fun k => ?_
    · exact List.mem_map.2 ⟨e, mem_orphans_of_watches he hw, Prod.ext hn halive⟩
    · rw [held, held, hx]
    · rw [strays, ho, strays, List.filter_map, hn]
      rfl
    · rw [htold, isLive, hgone]
      simp

/-- The worker launches an execution only when it holds none, and it holds one until that has ended. -/
theorem turns_of_works (hc : s.control.Consistent) (hw : Works now s t) :
    Turns m s t (s.happenings (.task now .worker) t) := by
  have htold : ∀ v : Supervisor, ∀ n, .ended n ∉ s.happenings (.task now .worker) v := by
    intro v
    simp only [happenings]
    split <;> simp
  have hstrays : ∀ v : Supervisor, (v.launch now).strays = v.strays := by
    intro v
    rcases launch_cases v now with ⟨address, h⟩ | ⟨statistics, effects, h⟩ <;> rw [h] <;> rfl
  have hlaunch : ∀ v : Supervisor, v.held = none ∧ s.held = none → v.strays = s.strays →
      v.launches = s.launches → Turns m s (v.launch now) [] := by
    intro v hv ho hl
    rcases held_launch v now with ⟨hh, hn⟩ | ⟨hh, hn⟩
    · exact .launch hv.2 (by rw [hh, hl]) ((hstrays v).trans ho) (by rw [hn, hl])
    · exact .silent (by rw [hh, hv.1, hv.2]) ((hstrays v).trans ho) (hn.trans hl)
  cases hw with
  | begin hwork =>
    have hn := held_eq_none (hc.spawned hwork).1
    rw [happenings_worker (by simp [worker_launch])]
    exact hlaunch _ ⟨hn, hn⟩ rfl rfl
  | join => exact .still rfl rfl rfl (htold _)
  | halt hwork he =>
    rw [happenings_worker (by simp [Supervisor.halt])]
    cases hx : s.execution with
    | none => exact .silent (by rw [held, held, hx]; rfl) rfl rfl
    | some e => exact .reap (by rw [held, hx, Option.map_some, he e hx]) rfl rfl rfl rfl
  | handleEnd hwork hcan he hr =>
    rename_i e r
    have hcontrol := control_handleEnd s now r
    have hl : ∀ c : Supervisor, c.launches = c.control.launches := fun _ => rfl
    rw [happenings_worker (by simp [worker_handleEnd, hwork])]
    refine .reap (n := e.number) ?_ (held_eq_none (by rw [hcontrol])) ?_ ?_ ?_
    · rw [held, he, Option.map_some, isAlive_of_result? hr]
    · exact strays_discardRequests _
    · rw [hl, hcontrol]
      rfl
    · exact (clears_handleEnd s now r).letters
  | serve _ _ _ ht =>
    rcases takeRequest?_cases ht with ⟨b, next, -, rfl⟩ | ⟨-, b, next, -, rfl⟩ <;>
      rw [wakeAny_eq] <;> exact .still rfl rfl rfl (htold _)
  | reload =>
    refine .still ?_ ?_ ?_ (htold _) <;>
    · unfold handleReload
      simp only [wakeAny_eq]
      split <;> rfl
  | retry hwork _ hr _ =>
    have hn := held_eq_none (watched_eq_none_of_launching hc (.inr ⟨hwork, by simp [hr]⟩))
    rw [happenings_worker (by simp [worker_launch, hwork])]
    exact hlaunch _ ⟨hn, hn⟩ rfl rfl

/-- Couriers begin and end no execution. -/
theorem turns_stepCourier (hd : s.Distinct) (h : s.stepCourier number = some t) : Turns m s t [] := by
  have hf := courierFrame_stepCourier h
  have hl : t.launches = s.launches := congrArg (·.control.launches) hf
  refine .silent (held_of_courierFrame hf) ?_ hl
  unfold stepCourier at h
  split at h
  · cases h
  · split at h
    · unfold deliver at h
      split at h
      · cases h
        rfl
      · split at h
        · cases h
          rfl
        · split at h <;> cases h
          rfl
    · split at h
      · rename_i e he
        have hset : ∀ b, (s.setExecution { e with inbox := b }).strays = s.strays := fun b =>
          (marks_setExecution (f := { e with inbox := b }) hd he rfl rfl).2
        unfold forward at h
        split at h
        · cases h
          rfl
        · split at h
          · cases h
            exact hset _
          · split at h <;> cases h
            exact hset _
      · cases h
        rfl

/-- A call that is given up begins and ends no execution. -/
theorem turns_giveUp (hd : s.Distinct) (h : s.giveUp number = some t) : Turns m s t [] := by
  have hl := launches_of_frame (frame_giveUp h)
  unfold giveUp at h
  split at h
  · cases h
  · rename_i e he
    have hadv : ∀ v : Supervisor, v.cast = s.cast → e.isAlive = true →
        (v.setExecution e.advance).held = s.held ∧ (v.setExecution e.advance).strays = s.strays := by
      intro v hv ha
      obtain ⟨hheld, hstrays⟩ := marks_setExecution (f := e.advance) hd he rfl ha.symm
      have hx : v.execution = s.execution := congrArg Cast.execution hv
      have ho : v.orphans = s.orphans := congrArg Cast.orphans hv
      rw [← hheld, ← hstrays, held, strays, setExecution, mapExecutions, hx, ho]
      exact ⟨rfl, rfl⟩
    split at h <;> cases h
    · rename_i r hact
      obtain ⟨hheld, hstrays⟩ := hadv _ (cast_leaveBox s e r.announcement)
        (by simp [Execution.isAlive, Execution.result?, hact])
      exact .silent hheld hstrays hl
    · rename_i hact
      obtain ⟨hheld, hstrays⟩ := hadv s rfl (by simp [Execution.isAlive, Execution.result?, hact])
      exact .silent hheld hstrays hl

/-- When the owner crashes, the present execution joins those that were left behind. -/
theorem strays_crash (s : Supervisor) (r : Request) :
    (s.crash r).strays = s.strays ++ s.held.toList := by
  let lost := r :: (s.readyBox.content.toList ++ s.notReadyBox.content.toList)
  let v := lost.foldl (fun s r => s.reply r.number none) s
  have hv : (s.crash r).strays = v.strays ++ v.held.toList := by
    unfold crash
    simp only [wakeAll_eq, strays, held, List.map_append]
    cases v.execution <;> rfl
  rw [hv, strays_replies, held_replies]

/-- A crash begins and ends no execution. -/
theorem turns_crash (s : Supervisor) (r : Request) : Turns .crash s (s.crash r) [] :=
  .forsakes rfl (held_eq_none (by rw [control_crash])) (strays_crash s r)
    (congrArg Control.launches (control_crash s r)) (clears_crash s r).letters

/-- Every move does one of these things. -/
theorem turns_move (hc : Coherent s.control) (hd : s.Distinct) (h : s.move m = some t) :
    Turns m s t (s.happenings m t) := by
  cases m with
  | start onDemand query =>
    simp only [move] at h
    split at h <;> cases h
    rename_i hi
    have hidle : s.worker = .idle := by simpa [isIdle] using hi
    have hn := held_eq_none (hc.unwatched (by simp [control, hidle, WorkerState.isAlive]))
    rw [start, if_pos hi]
    exact .silent hn.symm rfl rfl
  | cancel reason =>
    simp only [move] at h
    split at h <;> cases h
    rename_i hi
    refine .silent (held_cancel s reason) ?_ (launches_cancel s reason)
    rw [cancel, if_neg hi]
    simp only [wakeAll_eq]
    exact strays_mapExecutions fun _ _ => rfl
  | reload entry =>
    simp only [move] at h
    split at h <;> cases h
    rename_i hi
    rw [reload, if_neg hi]
    exact .silent rfl rfl rfl
  | task now k =>
    cases k with
    | worker => exact turns_of_works hc.consistent (works_of_stepWorker h)
    | execution n => exact turns_stepExecution hd h
    | courier n => exact turns_stepCourier hd h
  | reply number answer =>
    cases h
    refine .still (held_reply _ _ _) (strays_reply _ _ _) (launches_of_frame (frame_reply _ _ _)) ?_
    simp only [happenings]
    split
    · split <;> simp
    · simp
  | rest | resume =>
    simp only [move] at h
    split at h <;> cases h
    exact .silent rfl rfl rfl
  | crash =>
    simp only [move] at h
    split at h <;> cases h
    exact turns_crash s _
  | setPause | flush =>
    cases h
    exact .silent rfl rfl rfl
  | giveUp number => exact turns_giveUp hd h
  | aside number a =>
    have hl := launches_of_frame (frame_announceAside h)
    simp only [move, announceAside] at h
    split at h
    · cases h
    · split at h <;> cases h
      rename_i e _ _
      have hcast := cast_abandon s e a
      refine .still ?_ ?_ hl fun n => ended_not_mem_posted _ _ _ _
      · exact congrArg (fun c : Cast => c.execution.map Execution.mark) hcast
      · exact congrArg (fun c : Cast => c.orphans.map Execution.mark) hcast

/-! ## The census -/

/-- The execution that a move leaves to itself. -/
def forsakenIn (s : Supervisor) : Move → Option Nat
  | .crash => s.control.watched
  | _ => none

/-- The executions that some moves leave to themselves. -/
def forsaken (s : Supervisor) : List Move → List Nat
  | [] => []
  | m :: ms =>
    match s.move m with
    | some t => (s.forsakenIn m).toList ++ t.forsaken ms
    | none => []

/-- The executions that a run forsakes are those that its moves forsake. -/
theorem forsaken_concat (hs : s.run ms = some t) (hm : t.move m = some u) :
    s.forsaken (ms ++ [m]) = s.forsaken ms ++ (t.forsakenIn m).toList := by
  induction ms generalizing s with
  | nil =>
    cases hs
    simp [forsaken, hm]
  | cons m' ms ih =>
    obtain ⟨v, hv, hs⟩ := Option.bind_eq_some_iff.1 hs
    simp [forsaken, hv, ih hs]

/-- Only a crash of the owner leaves an execution to itself. -/
theorem forsaken_eq_nil (hms : .crash ∉ ms) : s.forsaken ms = [] := by
  induction ms generalizing s with
  | nil => rfl
  | cons m ms ih =>
    rw [List.mem_cons, not_or] at hms
    have hm : s.forsakenIn m = none := by
      cases m with
      | crash => exact absurd rfl hms.1
      | _ => rfl
    unfold forsaken
    split
    · rw [hm, ih hms.2]
      rfl
    · rfl

/-- How the chronicle tells of the executions that were launched. -/
structure Census (h : List Happening) (fs : List Nat) (s : Supervisor) : Prop where
  /-- Executions have different numbers. -/
  distinct : (s.roll.map (·.1)).Nodup
  /-- All of them were launched. -/
  below : ∀ p ∈ s.roll, p.1 < s.launches
  /-- Those that were launched have ended or are alive. -/
  ended : ∀ n, .ended n ∈ h ↔ n < s.launches ∧ (n, true) ∉ s.roll
  /-- Those that nobody watches were left to themselves. -/
  forsaken : ∀ p ∈ s.strays, p.1 ∈ fs

/-- The census knows every execution by its number. -/
theorem Census.distinct' {fs : List Nat} (hc : Census h fs s) : s.Distinct := by
  have hd := hc.distinct
  rw [roll_eq, List.map_map] at hd
  exact hd

/-- Those that stay on the roll of the left behind were forsaken before. -/
theorem Census.keeps {fs : List Nat} (hc : Census h fs s) (ho : t.strays = s.strays)
    (gone : List Nat) : ∀ p ∈ t.strays, p.1 ∈ fs ++ gone := fun p hp =>
  List.mem_append_left _ (hc.forsaken p (ho ▸ hp))

/-- When the present execution ends, it is noted and no other. -/
theorem Census.ends {fs : List Nat} (hc : Census h fs s) (hs' : s.held = some (n, true))
    (hh : t.held = some (n, false)) (ho : t.strays = s.strays) (hl : t.launches = s.launches)
    (he : ∀ k, .ended k ∈ hs ↔ k = n) (gone : List Nat) : Census (h ++ hs) (fs ++ gone) t := by
  obtain ⟨hdistinct, hbelow, hended, -⟩ := id hc
  have hr : s.roll = (n, true) :: s.strays := by rw [roll, hs']; rfl
  have hr' : t.roll = (n, false) :: s.strays := by rw [roll, hh, ho]; rfl
  rw [hr, List.map_cons, List.nodup_cons] at hdistinct
  rw [hr, List.forall_mem_cons] at hbelow
  refine ⟨?_, ?_, fun k => ?_, hc.keeps ho gone⟩
  · rw [hr', List.map_cons, List.nodup_cons]
    exact hdistinct
  · rw [hr', hl, List.forall_mem_cons]
    exact hbelow
  · have hn : (n, true) ∉ s.strays := fun hm => hdistinct.1 (List.mem_map.2 ⟨_, hm, rfl⟩)
    rw [List.mem_append, he, hended, hr, hr', hl]
    simp only [List.mem_cons, Prod.mk.injEq, and_true, not_or, reduceCtorEq, and_false,
      not_false_eq_true, true_and]
    refine ⟨?_, fun ⟨hk, hm⟩ => ?_⟩
    · rintro (⟨hk, -, hm⟩ | rfl)
      · exact ⟨hk, hm⟩
      · exact ⟨hbelow.1, hn⟩
    · by_cases hkn : k = n
      · exact .inr hkn
      · exact .inl ⟨hk, hkn, hm⟩

/-- When one that was left behind ends, it is struck off. -/
theorem Census.leaves {fs : List Nat} (hc : Census h fs s) (hs' : (n, true) ∈ s.strays)
    (hh : t.held = s.held) (ho : t.strays = s.strays.filter (·.1 != n))
    (hl : t.launches = s.launches) (he : ∀ k, .ended k ∈ hs ↔ k = n) (gone : List Nat) :
    Census (h ++ hs) (fs ++ gone) t := by
  obtain ⟨hdistinct, hbelow, hended, hforsaken⟩ := hc
  have hr : t.roll = s.held.toList ++ s.strays.filter (·.1 != n) := by rw [roll, hh, ho]
  have hsub : t.roll.Sublist s.roll := by
    rw [hr, roll]
    exact (List.Sublist.refl _).append List.filter_sublist
  have hmem : (n, true) ∈ s.roll := List.mem_append_right _ hs'
  have hn : (n, true) ∉ t.roll := by
    intro hm
    rw [hr, List.mem_append] at hm
    rcases hm with hm | hm
    · rw [roll, List.map_append, List.nodup_append] at hdistinct
      exact hdistinct.2.2 n (List.mem_map.2 ⟨_, hm, rfl⟩) n (List.mem_map.2 ⟨_, hs', rfl⟩) rfl
    · simp at hm
  refine ⟨(hsub.map _).nodup hdistinct, fun p hp => hl ▸ hbelow p (hsub.subset hp), fun k => ?_,
    fun p hp => ?_⟩
  · rw [List.mem_append, he, hended, hl]
    refine ⟨?_, fun ⟨hk, hm⟩ => ?_⟩
    · rintro (⟨hk, hm⟩ | rfl)
      · exact ⟨hk, fun hm' => hm (hsub.subset hm')⟩
      · exact ⟨hbelow _ hmem, hn⟩
    · by_cases hkn : k = n
      · exact .inr hkn
      · refine .inl ⟨hk, fun hm' => hm ?_⟩
        rw [hr, List.mem_append]
        exact (List.mem_append.1 hm').imp id fun hm' => List.mem_filter.2 ⟨hm', by simpa using hkn⟩
  · rw [ho] at hp
    exact List.mem_append_left _ (hforsaken p (List.mem_filter.1 hp).1)

/-- A launch takes a number that no execution had. -/
theorem Census.launch {fs : List Nat} (hc : Census h fs s) (hs' : s.held = none)
    (hh : t.held = some (s.launches, true)) (ho : t.strays = s.strays)
    (hl : t.launches = s.launches + 1) (gone : List Nat) : Census h (fs ++ gone) t := by
  obtain ⟨hdistinct, hbelow, hended, -⟩ := id hc
  have hr : s.roll = s.strays := by rw [roll, hs']; rfl
  have hr' : t.roll = (s.launches, true) :: s.strays := by rw [roll, hh, ho]; rfl
  rw [hr] at hdistinct hbelow
  refine ⟨?_, ?_, fun k => ?_, hc.keeps ho gone⟩
  · rw [hr', List.map_cons, List.nodup_cons]
    refine ⟨fun hm => ?_, hdistinct⟩
    obtain ⟨p, hp, hpn⟩ := List.mem_map.1 hm
    exact absurd hpn (Nat.ne_of_lt (hbelow p hp))
  · rw [hr', hl, List.forall_mem_cons]
    exact ⟨Nat.lt_succ_self _, fun p hp => Nat.lt_succ_of_lt (hbelow p hp)⟩
  · rw [hended, hr, hr', hl]
    simp only [List.mem_cons, Prod.mk.injEq, and_true, not_or]
    exact ⟨fun ⟨hk, hm⟩ => ⟨by omega, by omega, hm⟩, fun ⟨hk, hne, hm⟩ => ⟨by omega, hm⟩⟩

/-- Every move keeps the census, with those that it leaves to themselves. -/
theorem Census.turns {fs gone : List Nat} (hc : Census h fs s) (ht : Turns m s t hs)
    (hgone : m = .crash → ∀ p ∈ s.held, p.1 ∈ gone) : Census (h ++ hs) (fs ++ gone) t := by
  obtain ⟨hdistinct, hbelow, hended, hforsaken⟩ := id hc
  cases ht with
  | still hh ho hl he =>
    have hr : t.roll = s.roll := by rw [roll, hh, ho, roll]
    refine ⟨hr ▸ hdistinct, by rw [hr, hl]; exact hbelow, fun n => ?_, hc.keeps ho gone⟩
    rw [hr, hl, ← hended, List.mem_append, or_iff_left (he n)]
  | ends hs' hh ho hl he => exact hc.ends hs' hh ho hl he gone
  | leaves hs' hh ho hl he => exact hc.leaves hs' hh ho hl he gone
  | launch hs' hh ho hl => exact (List.append_nil h).symm ▸ hc.launch hs' hh ho hl gone
  | @reap n hs' hh ho hl =>
    have hr : s.roll = (n, false) :: s.strays := by rw [roll, hs']; rfl
    have hr' : t.roll = s.strays := by rw [roll, hh, ho]; rfl
    rw [hr, List.map_cons, List.nodup_cons] at hdistinct
    rw [hr, List.forall_mem_cons] at hbelow
    refine ⟨hr' ▸ hdistinct.2, by rw [hr', hl]; exact hbelow.2, fun k => ?_, hc.keeps ho gone⟩
    rw [List.append_nil, hended, hr, hr', hl]
    simp
  | forsakes hm hh ho hl =>
    have hr : t.roll.Perm s.roll := by
      rw [roll, hh, ho, roll, Option.toList_none, List.nil_append]
      exact List.perm_append_comm
    refine ⟨(hr.map _).nodup_iff.2 hdistinct, fun p hp => hl ▸ hbelow p (hr.mem_iff.1 hp),
      fun k => ?_, fun p hp => ?_⟩
    · rw [List.append_nil, hended, hl, hr.mem_iff]
    · rw [ho, List.mem_append] at hp
      rcases hp with hp | hp
      · exact List.mem_append_left _ (hforsaken p hp)
      · exact List.mem_append_right _ (hgone hm p (by simpa using hp))

/-- What every run keeps, however often the owner crashes. -/
theorem census_run (hs₀ : Coherent s.control) (hc₀ : Census [] [] s) (h : s.run ms = some t) :
    Coherent t.control ∧ Census (s.chronicle ms) (s.forsaken ms) t := by
  -- what decides about launches must be coherent for the worker to launch only when it holds nothing
  refine run_induction
    (P := fun ms t => Coherent t.control ∧ Census (s.chronicle ms) (s.forsaken ms) t)
    ⟨hs₀, hc₀⟩ ?_ h
  intro ms u m v hu ih hm
  obtain ⟨hcoherent, hcensus⟩ := ih
  rw [chronicle_concat hu hm, forsaken_concat hu hm]
  refine ⟨coherent_move hcoherent hm,
    hcensus.turns (turns_move hcoherent hcensus.distinct' hm) fun hcrash p hp => ?_⟩
  subst hcrash
  obtain ⟨e, he, rfl⟩ := Option.map_eq_some_iff.1 hp
  simp [forsakenIn, control, he]

/-- The census of a new supervisor is empty. -/
theorem census_create {pause : Nat} {entry : Entry} {groups : Option (List String)}
    {options : SourceOptions} {factory : Factory}
    (h : create now entry groups options factory pause = .ok s) : Census [] [] s := by
  obtain ⟨kind, source, -, rfl⟩ := create_eq h
  exact ⟨.nil, nofun, by simp, nofun⟩

/-! ## Overlaps -/

/-- Alive are those that the roll marks so. -/
theorem isLive_iff {fs : List Nat} (hc : Census h fs s) : s.isLive n = true ↔ (n, true) ∈ s.roll := by
  rw [roll_eq, List.mem_map, isLive, Option.any_eq_true]
  constructor
  · rintro ⟨e, he, ha⟩
    exact ⟨e, List.mem_of_find?_eq_some he, Prod.ext (number_of_execution? he) ha⟩
  · rintro ⟨e, he, hm⟩
    obtain ⟨hn, ha⟩ : e.number = n ∧ e.isAlive = true := Prod.mk.injEq .. ▸ hm
    cases hx : s.execution? n with
    | none => simpa [hn] using List.find?_eq_none.1 hx e he
    | some f => exact ⟨f, rfl, hc.distinct'.eq_of_number hx he hn ▸ ha⟩

/-- An execution that is alive is held, or it was left to itself. -/
theorem Census.held_or_forsaken {fs : List Nat} (hc : Census h fs s) (hn : s.isLive n = true) :
    s.control.watched = some n ∨ n ∈ fs := by
  rcases List.mem_append.1 ((isLive_iff hc).1 hn) with hm | hm
  · obtain ⟨e, he, hp⟩ := Option.map_eq_some_iff.1 (Option.mem_toList.1 hm)
    exact .inl (by simp [control, he, (Prod.mk.inj hp).1])
  · exact .inr (hc.forsaken _ hm)

/-- While no execution is held, all have ended but those that were left to themselves. -/
theorem Census.ended_or_forsaken {fs : List Nat} (hc : Census h fs s)
    (hw : s.control.watched = none) (hn : n < s.launches) : .ended n ∈ h ∨ n ∈ fs := by
  by_cases hlive : s.isLive n = true
  · refine .inr ((hc.held_or_forsaken hlive).resolve_left fun hx => ?_)
    rw [hw] at hx
    cases hx
  · rw [isLive_iff hc] at hlive
    exact .inl ((hc.ended n).2 ⟨hn, hlive⟩)

/-- When the owner crashes, the worker is gone at once, while the execution that it held goes on. -/
theorem isLive_crash {fs : List Nat} (ht : Census h fs t)
    (hcrash : s.move .crash = some t) (hw : s.control.watched = some n) (hn : s.isLive n = true) :
    t.isDone = true ∧ t.isLive n = true := by
  obtain ⟨e, he, rfl⟩ := Option.map_eq_some_iff.1 (show s.execution.map (·.number) = some n from hw)
  have halive : e.isAlive = true := by
    rw [isLive, execution?_watched he] at hn
    exact hn
  simp only [move] at hcrash
  split at hcrash <;> cases hcrash
  rename_i r hwork
  have hworker : (s.crash r).worker = .crashed := congrArg Control.worker (control_crash s r)
  refine ⟨by simp [isDone, hworker, WorkerState.isAlive], (isLive_iff ht).2 ?_⟩
  have hheld : s.held = some (e.number, true) := by rw [held, he, Option.map_some, halive]
  rw [roll, strays_crash, hheld]
  simp

/-- What holds of the executions after any moves, crashes of the owner included, in any order. One that was
launched is alive until it is told to have ended. One that is alive is held by the worker, unless a crash
has left it to itself. When an execution is launched, and when the worker has ended so that whoever stops
the supervisor goes on, all that were launched have ended but those that were left to themselves. For
these it does not hold: if the owner crashes while an execution is held and alive, the worker has ended
at once and the execution is alive. Without a crash, there are none. -/
theorem overlaps_forsaken {now pause : Nat} {entry : Entry} {groups : Option (List String)}
    {options : SourceOptions} {factory : Factory} {s₀ s : Supervisor} {ms : List Move}
    (hs₀ : create now entry groups options factory pause = .ok s₀) (hs : s₀.run ms = some s) :
    (∀ n, s.isLive n = true ↔ n < s.launches ∧ .ended n ∉ s₀.chronicle ms) ∧
    (∀ n, s.isLive n = true → s.control.watched = some n ∨ n ∈ s₀.forsaken ms) ∧
    (∀ m t, s.move m = some t → t.launches ≠ s.launches →
      ∀ n < s.launches, .ended n ∈ s₀.chronicle ms ∨ n ∈ s₀.forsaken ms) ∧
    (s.isDone = true → ∀ n < s.launches, .ended n ∈ s₀.chronicle ms ∨ n ∈ s₀.forsaken ms) ∧
    (∀ t n, s.move .crash = some t → s.control.watched = some n → s.isLive n = true →
      n ∈ s₀.forsaken (ms ++ [.crash]) ∧ t.isDone = true ∧ t.isLive n = true) ∧
    (.crash ∉ ms → s₀.forsaken ms = []) := by
  obtain ⟨hcoherent, hc⟩ := census_run (coherent_create hs₀) (census_create hs₀) hs
  refine ⟨fun n => ?_, fun n => hc.held_or_forsaken, fun m t hm hl n hn => ?_, fun hdone n hn => ?_,
    fun t n hm hw hn => ?_, forsaken_eq_nil⟩
  · rw [isLive_iff hc, hc.ended, not_and_not_right]
    refine ⟨fun hm => ⟨hc.below _ hm, fun _ => hm⟩, fun ⟨hlt, hm⟩ => hm hlt⟩
  · obtain ⟨hx, -⟩ := (launches_move hcoherent.consistent hm).resolve_left hl
    exact hc.ended_or_forsaken (by simp [control, hx]) hn
  · have hgone : s.worker.isAlive = false := by simpa [isDone] using hdone
    exact hc.ended_or_forsaken (hcoherent.unwatched hgone) hn
  · obtain ⟨-, ht⟩ := census_run (coherent_create hs₀) (census_create hs₀) (run_concat.2 ⟨s, hs, hm⟩)
    refine ⟨?_, isLive_crash ht hm hw hn⟩
    rw [forsaken_concat hs hm]
    simp [forsakenIn, hw]

/-- The owner crashes when a source announces media that waits for a second before it ends. The supervisor
is stopped, laid to rest and started again at once: two executions are alive. -/
theorem overlaps_forsaken_restarted :
    let factory : Factory := fun _ _ _ =>
      .ok (.ofScripts "" [[.announce (.ready []) false, .linger 1000], []])
    let ms : List Move := [.start false "", .task 0 .worker, .task 0 (.execution 0),
      .task 0 (.execution 0), .task 0 .worker]
    let ns : List Move := [.crash, .task 0 (.execution 0), .task 0 (.execution 0), .cancel "done",
      .rest, .start false "", .task 0 .worker]
    ∃ s₀ s t, create 0 { settings := { source := "rtsp://h/x" } } none {} factory 5000 = .ok s₀ ∧
      s₀.run ms = some s ∧ s.run ns = some t ∧ t.isLive 0 = true ∧ t.isLive 1 = true ∧
      t.control.watched = some 1 ∧ .ended 0 ∉ s₀.chronicle (ms ++ ns) ∧
      0 ∈ s₀.forsaken (ms ++ ns) := by
  intro factory ms ns
  obtain ⟨s₀, hs₀, hrun, hlive, hwatched⟩ : ∃ s₀,
      create 0 { settings := { source := "rtsp://h/x" } } none {} factory 5000 = .ok s₀ ∧
        (s₀.run ms).isSome ∧
        (s₀.run (ms ++ ns)).map (fun s => (s.isLive 0, s.isLive 1)) = some (true, true) ∧
        (s₀.run (ms ++ ns)).map (fun s => s.control.watched) = some (some 1) :=
    ⟨_, rfl, by decide +kernel, by decide +kernel, by decide +kernel⟩
  obtain ⟨t, ht, hlive⟩ := Option.map_eq_some_iff.1 hlive
  obtain ⟨s, hs, hst⟩ := run_append.1 ht
  obtain ⟨h0, h1⟩ := Prod.mk.inj hlive
  rw [ht, Option.map_some, Option.some.injEq] at hwatched
  obtain ⟨halive, hheld, -⟩ := overlaps_forsaken hs₀ ht
  refine ⟨s₀, s, t, hs₀, hs, hst, h0, h1, hwatched, ((halive 0).1 h0).2, ?_⟩
  refine (hheld 0 h0).resolve_left fun hx => ?_
  rw [hwatched] at hx
  cases hx

end Supervisor

end MediaPaths
