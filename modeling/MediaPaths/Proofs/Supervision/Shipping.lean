import MediaPaths.Proofs.Supervision.Depot
import MediaPaths.Proofs.Supervision.Traffic

/-!
# What moves do to changes on their way

`ships_move` sorts the moves of a supervisor by what they do to changes of its settings that are on their
way: most leave them alone, and the others are the cases of `Ships`.
-/

namespace MediaPaths

namespace Supervisor

variable {s t : Supervisor} {m : Move} {now number : Nat} {e : Execution}

/-! ## Moves that leave it alone -/

/-- What executions leave alone of the depot, with the executions. -/
def Depot.of (s : Supervisor) (c : Cast) : Depot :=
  { s.depot with
    watched := c.execution.map (·.slot)
    orphans := c.orphans.map (·.slot)
    summoned := c.summoned }

/-- The depot is read off the frame and the cast. -/
theorem depot_eq (h : t.frame = s.frame) : t.depot = .of s t.cast := by
  have hf : ∀ c : Supervisor, c.depot = .of c.frame.1 c.cast := fun _ => rfl
  have hg : ∀ c : Cast, Depot.of s c = .of s.frame.1 c := fun _ => rfl
  rw [hf t, hg, h]

theorem depot_of_cast (hf : t.frame = s.frame) (hc : t.cast = s.cast) : t.depot = s.depot := by
  rw [depot_eq hf, hc]
  rfl

/-- A slot of the depot is found where the execution of its number is found. -/
theorem slot?_depot (s : Supervisor) (n : Nat) : s.depot.slot? n = (s.execution? n).map (·.slot) := by
  have hs : s.depot.slots = s.executions.map (·.slot) := by
    simp only [Depot.slots, depot, executions, List.map_append]
    cases s.execution <;> rfl
  rw [Depot.slot?, hs, List.find?_map]
  rfl

/-- An execution that hears an answer keeps its slot: its number, its life and its box. -/
theorem slot_hear (number : Nat) (answer : Option Answer) (e : Execution) :
    (hear number answer e).slot = e.slot := by
  unfold hear
  split
  · rename_i ha
    have hact : e.activity = .listening number none := by simpa [Execution.awaits] using ha
    simp [Execution.slot, Execution.isAlive, Execution.result?, hact]
  · rfl

/-- Answers to requests never touch the settings under way. -/
theorem depot_reply (s : Supervisor) (number : Nat) (answer : Option Answer) :
    (s.reply number answer).depot = s.depot := by
  have hcast := cast_wakeAll (s.mapExecutions (hear number answer))
    (((s.executions.filter (·.awaits number)).map (·.number)).map Task.execution)
  rw [courier?_executions, Cast.summon_nil, List.map_map] at hcast
  rw [depot_eq (frame_reply s number answer), reply]
  simp only [Depot.of]
  rw [show (fun e : Execution => Task.execution e.number) = Task.execution ∘ (·.number) from rfl,
    hcast]
  simp only [cast, mapExecutions, Option.map_map, List.map_map, Function.comp_def, slot_hear]
  rfl

theorem depot_replies (s : Supervisor) (rs : List Request) :
    (rs.foldl (fun s r => s.reply r.number none) s).depot = s.depot :=
  replies_eq depot depot_reply s rs

theorem depot_wakeAny_execution (s : Supervisor) (n : Option Nat) :
    (s.wakeAny (n.map Task.execution)).depot = s.depot :=
  depot_of_cast (frame_wakeAny _ _) (cast_wakeAny_execution s n)

/-- Requests that are thrown away carry no settings. -/
theorem depot_discardRequests (s : Supervisor) : s.discardRequests.depot = s.depot :=
  discardRequests_eq depot (fun s _ _ _ => by rw [depot_wakeAny_execution, depot_reply])
    (fun _ _ => rfl) (fun _ _ => rfl) s

/-! ## Steps of executions -/

/-- Where an execution is replaced by one of its number, the new one is found in its place. -/
theorem find?_map_set {es : List Execution} {e f : Execution} (hn : f.number = e.number)
    (he : es.find? (·.number == number) = some e) :
    (es.map fun g => if g.number = f.number then f else g).find? (·.number == number) = some f := by
  induction es with
  | nil => cases he
  | cons g es ih =>
    have hnum : e.number = number := by simpa using List.find?_some he
    rw [List.map_cons, List.find?_cons]
    rw [List.find?_cons] at he
    by_cases hg : g.number = f.number
    · simp [hg, hn, hnum]
    · have hgn : (g.number == number) = false := by simpa [hn, hnum] using hg
      rw [hgn] at he
      rw [if_neg hg, hgn]
      exact ih he

/-- An execution is looked up in the cast: the present one first, then those that were left behind. -/
theorem execution?_of_cast {c : Cast} (hc : t.cast = c) (n : Nat) :
    t.execution? n = (c.execution.toList ++ c.orphans).find? (·.number == n) := by
  subst hc
  rfl

/-- Once the execution of a number was replaced, the one of that number is the other one. -/
theorem execution?_of_set {f : Execution} (hn : f.number = e.number)
    (he : s.execution? number = some e) {k : List Nat} {us : List Entry}
    (hc : t.cast = { s.cast.set f with summoned := k, takenUp := us }) :
    t.execution? number = some f := by
  rw [execution?_of_cast hc]
  have hmap : (s.cast.set f).execution.toList ++ (s.cast.set f).orphans =
      s.executions.map fun g => if g.number = f.number then f else g := by
    simp only [Cast.set, cast, executions, List.map_append]
    cases s.execution <;> rfl
  refine (congrArg (·.find? fun g => g.number == number) hmap).trans ?_
  exact find?_map_set hn he

/-- What a step of an execution can change of its slot is its life and its box. -/
theorem slot_eq {f : Execution} (hf : f.fixed = e.fixed) :
    f.slot = { e.slot with isAlive := f.isAlive, inbox := f.inbox } := by
  have hn := Execution.number_of_fixed hf
  have hc := Execution.cancelled_of_fixed hf
  simp [Execution.slot, hn, hc]

/-- Replacing an execution replaces its slot. -/
theorem map_slot_set (es : List Execution) (f : Execution) :
    (es.map fun g => if g.number = f.number then f else g).map (·.slot) =
      (es.map (·.slot)).map fun x => if x.number = f.slot.number then f.slot else x := by
  simp only [List.map_map]
  refine List.map_congr_left fun g _ => ?_
  simp only [Function.comp_apply]
  split
  · exact (if_pos (by assumption)).symm
  · exact (if_neg (by assumption)).symm

/-- Putting an execution into the cast sets its slot in the depot. -/
theorem depot_set (f : Execution) : Depot.of s (s.cast.set f) = s.depot.setSlot f.slot := by
  have ho := map_slot_set s.orphans f
  simp only [Depot.of, Cast.set, cast, Depot.setSlot, Depot.mapSlots, depot, ho, Option.map_map]
  congr 1
  cases s.execution with
  | none => rfl
  | some g =>
    simp only [Option.map_some, Function.comp_apply]
    split
    · exact congrArg some (if_pos (by assumption)).symm
    · exact congrArg some (if_neg (by assumption)).symm

/-- Where executions have different numbers, one that is put in its own place changes nothing. -/
theorem Depot.setSlot_self {d : Depot} (hn : (d.slots.map (·.number)).Nodup) {x : Slot}
    (hx : d.slot? x.number = some x) : d.setSlot x = d := by
  have hmem : x ∈ d.slots := List.mem_of_find?_eq_some hx
  have hsame : ∀ y ∈ d.slots, (if y.number = x.number then x else y) = y := by
    intro y hy
    by_cases hyx : y.number = x.number
    · rw [if_pos hyx]
      exact List.inj_on_of_nodup_map hn hmem hy hyx.symm
    · exact if_neg hyx
  have hwatched : (d.watched.map fun y => if y.number = x.number then x else y) = d.watched := by
    cases hw : d.watched with
    | none => rfl
    | some y => exact congrArg some (hsame y (by simp [slots, hw]))
  have horphans : (d.orphans.map fun y => if y.number = x.number then x else y) = d.orphans := by
    rw [List.map_congr_left fun y hy => hsame y (List.mem_append_right _ hy), List.map_id']
  simp only [setSlot, mapSlots, hwatched, horphans]

/-- An execution that is found has its slot in the depot. -/
theorem slot?_of_execution? (he : s.execution? number = some e) :
    s.depot.slot? e.slot.number = some e.slot := by
  have hnum : e.slot.number = number := number_of_execution? he
  rw [slot?_depot, hnum, he, Option.map_some]

theorem isLive_of_execution? (he : s.execution? number = some e) : s.isLive number = e.isAlive := by
  rw [isLive, he, Option.any_some]

/-- An execution that nobody watches is no more once it has ended. -/
theorem isLive_of_drop (hw : s.watches number = false) {k : List Nat}
    (hc : t.cast = (s.cast.drop number).summon k) : t.isLive number = false := by
  have hnone : t.execution? number = none := by
    rw [execution?_of_cast hc]
    refine List.find?_eq_none.2 fun e he => ?_
    rcases List.mem_append.1 he with he | he
    · cases hx : s.execution with
      | none => simp [Cast.drop, Cast.summon, cast, hx] at he
      | some f =>
        obtain rfl : e = f := by simpa [Cast.drop, Cast.summon, cast, hx] using he
        simpa [watches, hx] using hw
    · have he := (List.mem_filter.1 he).2
      simpa using he
  rw [isLive, hnone, Option.any_none]

/-- What a step of an execution does to changes on their way. -/
theorem ships_stepExecution (hn : (s.depot.slots.map (·.number)).Nodup)
    (h : s.stepExecution now number = some t) :
    Ships s.depot (.task now (.execution number)) (s.tidings (.task now (.execution number)) t)
      t.depot := by
  obtain ⟨e, he, halive, hacts⟩ := acts_stepExecution h
  have hx := slot?_of_execution? he
  have hnum := number_of_execution? he
  have hlive := isLive_of_execution? he
  have hdepot := depot_eq (frame_stepExecution h)
  have htaken : ∀ c : Supervisor, c.takenUp = c.cast.takenUp := fun _ => rfl
  cases hacts with
  | goes f hf hi ha ht =>
    have hslot : f.slot = e.slot := by rw [slot_eq hf, ha, hi, ← halive]; rfl
    have hlive' : t.isLive number = true :=
      (isLive_of_execution? (execution?_of_set (Execution.number_of_fixed hf) he ht)).trans ha
    have hsame : t.depot = s.depot := by
      rw [hdepot, ht, depot_set, hslot, Depot.setSlot_self hn hx]
    have htold : s.tidings (.task now (.execution number)) t = [] := by
      have hup : t.takenUp = s.takenUp := by rw [htaken, ht]; rfl
      simp [tidings, hup, hlive']
    rw [hsame, htold]
    exact .still _
  | @takes f entry next hf hi ha ht =>
    have hslot : f.slot = { e.slot with inbox := f.inbox } := by rw [slot_eq hf, ha, ← halive]; rfl
    have hlive' : t.isLive number = true :=
      (isLive_of_execution? (execution?_of_set (Execution.number_of_fixed hf) he ht)).trans ha
    have hnext : t.depot = (s.depot.setSlot { e.slot with inbox := f.inbox }).summon next.toList := by
      rw [hdepot, ht, ← hslot, ← depot_set]
      rfl
    have htold : s.tidings (.task now (.execution number)) t =
        [.received e.slot.number entry] := by
      have hup : t.takenUp = entry :: s.takenUp := by rw [htaken, ht]; rfl
      simp [tidings, hup, hlive', Execution.slot, hnum]
    rw [hnext, htold, ← hnum]
    exact .receive hx halive hi
  | ends f hf hi ha hw ht =>
    have hslot : f.slot = { e.slot with isAlive := false } := by rw [slot_eq hf, ha, hi]; rfl
    have hlive' : t.isLive number = false :=
      (isLive_of_execution? (execution?_of_set (Execution.number_of_fixed hf) he ht)).trans ha
    have hnext : t.depot =
        (s.depot.setSlot { e.slot with isAlive := false }).summon e.slot.inbox.senders := by
      rw [hdepot, ht, ← hslot, ← depot_set]
      rfl
    have htold : s.tidings (.task now (.execution number)) t = [.ended e.slot.number] := by
      have hup : t.takenUp = s.takenUp := by rw [htaken, ht]; rfl
      simp [tidings, hup, hlive, hlive', halive, Execution.slot, hnum]
    rw [hnext, htold, ← hnum]
    exact .ends hx halive
  | leaves hw ht =>
    have hlive' : t.isLive number = false := isLive_of_drop (hnum ▸ hw) (hnum ▸ ht)
    have hnext : t.depot = ({ s.depot with
        orphans := s.depot.orphans.filter (·.number != e.slot.number) }).summon
          e.slot.inbox.senders := by
      rw [hdepot, ht]
      simp only [Depot.of, Cast.drop, Cast.summon, cast, depot, Depot.summon, List.filter_map]
      rfl
    have htold : s.tidings (.task now (.execution number)) t = [.ended e.slot.number] := by
      have hup : t.takenUp = s.takenUp := by rw [htaken, ht]; rfl
      simp [tidings, hup, hlive, hlive', halive, Execution.slot, hnum]
    rw [hnext, htold, ← hnum]
    refine .leaves hx halive fun y hy => ?_
    obtain ⟨f, hf, rfl⟩ := Option.map_eq_some_iff.1 hy
    have hne : f.number ≠ e.number := by simpa [watches, hf] using hw
    exact hne

/-! ## Steps of the worker -/

theorem depot_log (s : Supervisor) (level : LogLevel) (message : String) :
    (s.log level message).depot = s.depot :=
  depot_of_cast rfl (cast_log _ _ _)

theorem depot_wake_execution (s : Supervisor) (n : Nat) : (s.wake (.execution n)).depot = s.depot :=
  depot_of_cast rfl (cast_wake_execution _ _)

/-- Of the worker the depot only shows whether it is alive. -/
theorem depot_of_worker (s : Supervisor) {w : WorkerState} (hw : w.isAlive = s.worker.isAlive) :
    ({ s with worker := w } : Supervisor).depot = s.depot := by
  simp only [depot, hw]
  rfl

/-- A launch opens a new slot, with an empty box. -/
theorem depot_spawn (s : Supervisor) (address : String) :
    (s.spawn address).depot =
      { s.depot with
        watched := some ⟨s.launches, s.cancelled, true, {}⟩
        launches := s.launches + 1 } := by
  simp only [spawn, depot_wake_execution]
  rfl

/-- A courier sets out in the depot as it does in the supervisor. -/
theorem depot_dispatch (s : Supervisor) (entry : Entry) (place : Option Nat) :
    (s.dispatch entry place).depot = s.depot.dispatch entry place := by
  simp only [dispatch, depot, Depot.dispatch, wake, emit, summoned, List.filterMap_append]
  rfl

/-- The worker that handles new settings stores them in the depot. -/
theorem depot_handleReload (s : Supervisor) (entry : Entry) :
    (s.handleReload entry).depot = s.depot.store entry := by
  let u : Supervisor := { s with launchEntry := entry }
  have hstore : s.depot.store entry = (s.execution.map (·.slot)).elim u.depot fun x =>
    u.depot.dispatch entry (some x.number) := rfl
  rw [hstore]
  cases he : s.execution with
  | none =>
    have hs : s.handleReload entry = u := by simp [handleReload, he, u]
    rw [hs]
    rfl
  | some e =>
    have hs : s.handleReload entry = u.dispatch entry (some e.number) := by
      simp [handleReload, he, u]
    rw [hs]
    exact depot_dispatch u entry (some e.number)

/-- Where nothing is launched, and nothing is taken out of the mailbox, there is nothing to be told. -/
theorem tidings_worker (hl : t.launches = s.launches) (hb : t.worker.isAlive = true →
    t.reloadBox = s.reloadBox) : s.tidings (.task now .worker) t = [] := by
  simp only [tidings, hl, if_true, List.nil_append]
  split
  · rename_i hc
    obtain ⟨ha, hn⟩ := Bool.and_eq_true_iff.1 hc
    rw [hb ha] at hn
    rw [Option.isNone_iff_eq_none.1 hn]
    rfl
  · rfl

/-- The worker brings no tidings where it leaves the settings alone. -/
theorem tidings_worker_of_depot {w : Option Slot} (h : t.depot = { s.depot with watched := w }) :
    s.tidings (.task now .worker) t = [] :=
  tidings_worker (congrArg Depot.launches h) fun _ => congrArg Depot.reloadBox h

/-- A launch that fails changes nothing. -/
theorem depot_launch (s : Supervisor) (now : Nat) :
    (∃ address, s.launch now = s.spawn address) ∨ (s.launch now).depot = s.depot := by
  unfold launch
  simp only
  split
  · exact .inl ⟨_, rfl⟩
  · exact .inr (depot_log { s with statistics := _ } _ _)

/-- A launch ships the stored settings: they are those that the new execution starts with. -/
theorem ships_launch {u : Supervisor} (hu : u.depot = s.depot) (ho : s.depot.isOpen = true) :
    Ships s.depot (.task now .worker) (s.tidings (.task now .worker) (u.launch now))
      (u.launch now).depot := by
  rcases depot_launch u now with ⟨address, h⟩ | h
  · have hl : u.launches = s.launches := congrArg Depot.launches hu
    have he : u.launchEntry = s.launchEntry := congrArg Depot.launchEntry hu
    have hc : u.cancelled = s.cancelled := congrArg Depot.cancelled hu
    have hb : (u.spawn address).reloadBox = s.reloadBox := congrArg Depot.reloadBox hu
    have hlaunches : (u.spawn address).launches = s.launches + 1 := congrArg (· + 1) hl
    have hexec : (u.spawn address).execution.toList.map
        (fun e => Tiding.launched e.number e.entry) = [.launched s.launches s.launchEntry] := by
      rw [← hl, ← he]
      rfl
    have htold : s.tidings (.task now .worker) (u.spawn address) =
        [.launched s.launches s.launchEntry] := by
      simp only [tidings, hlaunches, hb, hexec]
      rw [if_neg (Nat.succ_ne_self _)]
      cases s.reloadBox.content <;> simp
    rw [h, htold, depot_spawn, hu, hl, hc]
    exact .launch ho
  · rw [tidings_worker_of_depot (h.trans hu), h, hu]
    exact .still _

/-- The worker that sees the end of an execution closes its slot. -/
theorem depot_handleEnd (s : Supervisor) (now : Nat) (r : SourceError) :
    (s.handleEnd now r).depot = { s.depot with watched := none } := by
  let u : Supervisor := { s with
    execution := none
    statistics := s.statistics.countFailure r.message }
  have hu : ((u.log .error r.message).discardRequests).depot = u.depot := by
    rw [depot_discardRequests, depot_log]
  exact hu

/-- What the worker does to changes on their way. -/
theorem ships_of_works (hj : s.worker = .joining → s.cancelled = true) (hw : Works now s t) :
    Ships s.depot (.task now .worker) (s.tidings (.task now .worker) t) t.depot := by
  have still : ∀ v : Supervisor, v.depot = s.depot →
      Ships s.depot (.task now .worker) (s.tidings (.task now .worker) v) v.depot := by
    intro v hv
    rw [tidings_worker_of_depot hv, hv]
    exact .still _
  cases hw with
  | begin hwork =>
    exact ships_launch (depot_of_worker s (by rw [hwork]; rfl))
      (by simp [depot, hwork, WorkerState.isAlive])
  | join hwork => exact still _ (depot_of_worker s (by rw [hwork]; rfl))
  | halt hwork he =>
    have hc : s.cancelled = true := hwork.elim (·.2.1) hj
    have htold : s.tidings (.task now .worker) s.halt = [] := tidings_worker rfl fun ha => by cases ha
    rw [htold]
    refine .halt hc fun x hx => ?_
    obtain ⟨e, he', rfl⟩ := Option.map_eq_some_iff.1 hx
    exact he e he'
  | handleEnd hwork hc he hr =>
    rename_i e r
    have hd := depot_handleEnd s now r
    rw [tidings_worker_of_depot hd, hd]
    refine .reap fun x hx => ?_
    obtain ⟨f, hf, rfl⟩ := Option.map_eq_some_iff.1 hx
    obtain rfl := Option.some.inj (he.symm.trans hf)
    exact isAlive_of_result? hr
  | @serve u r hwork _ _ ht =>
    have hu : u.depot = s.depot := by
      rcases takeRequest?_cases ht with ⟨b, next, -, rfl⟩ | ⟨-, b, next, -, rfl⟩ <;>
        exact depot_wakeAny_execution _ _
    have hopen : u.worker.isAlive = s.worker.isAlive := congrArg Depot.isOpen hu
    refine still _ (Eq.trans ?_ hu)
    exact depot_of_worker { u with statistics := _ } (by rw [hopen, hwork]; rfl)
  | @reload entry b next hwork hc hb =>
    let u : Supervisor := { s with reloadBox := b }
    have hd : ((u.wakeAny (next.map Task.courier)).handleReload entry).depot =
        (({ s.depot with reloadBox := b }).summon next.toList).store entry := by
      rw [depot_handleReload, depot_eq (frame_wakeAny _ _), cast_wakeAny_courier]
      rfl
    have hbox : ((u.wakeAny (next.map Task.courier)).handleReload entry).reloadBox = b := by
      unfold handleReload
      simp only [wakeAny_eq]
      split <;> rfl
    have hl : ((u.wakeAny (next.map Task.courier)).handleReload entry).launches = s.launches := by
      unfold handleReload
      simp only [wakeAny_eq]
      split <;> rfl
    have hopen : ((u.wakeAny (next.map Task.courier)).handleReload entry).worker.isAlive = true := by
      rw [worker_handleReload, wakeAny_eq]
      show s.worker.isAlive = true
      rw [hwork]
      rfl
    obtain ⟨hcontent, hempty⟩ := Mailbox.content_of_take? hb
    have htold : s.tidings (.task now .worker)
        ((u.wakeAny (next.map Task.courier)).handleReload entry) = [.stored entry] := by
      simp only [tidings, hl, hbox, hopen, hempty, hcontent]
      rfl
    rw [htold, hd]
    exact .store (by simp [depot, hwork, WorkerState.isAlive]) hb
  | retry hwork => exact ships_launch rfl (by simp [depot, hwork, WorkerState.isAlive])

/-! ## Steps of couriers -/

theorem depot_wake_worker (s : Supervisor) : (s.wake .worker).depot = s.depot :=
  depot_of_cast rfl (cast_wake_worker s)

theorem depot_setExecution (s : Supervisor) (e : Execution) :
    (s.setExecution e).depot = s.depot.setSlot e.slot := by
  rw [← depot_set]
  rfl

/-- What a courier gives up has become pointless. -/
theorem stopped_of_isPointless {c : Courier} {stopped alive : Bool} {b : Mailbox Entry}
    (h : (s.isPointless c stopped b || !alive) = true) : (stopped || !alive) = true := by
  rw [Bool.or_eq_true] at h ⊢
  exact h.imp_left fun h => (Bool.and_eq_true_iff.1 h).1

/-- A courier that does not give up finds somebody alive. -/
theorem alive_of_not_pointless {c : Courier} {stopped alive : Bool} {b : Mailbox Entry}
    (h : ¬ (s.isPointless c stopped b || !alive) = true) : alive = true := by
  simp only [Bool.or_eq_true, Bool.not_eq_true', not_or, Bool.not_eq_false] at h
  exact h.2

/-- What a step of a courier does. -/
theorem ships_stepCourier (h : s.stepCourier number = some t) :
    Ships s.depot (.task now (.courier number)) [] t.depot := by
  unfold stepCourier at h
  split at h
  · cases h
  · rename_i c hc
    obtain rfl : c.number = number := by simpa using List.find?_some hc
    have hfind : s.depot.couriers.find? (·.number == c.number) = some c := hc
    split at h
    · rename_i hplace
      unfold deliver at h
      split at h
      · rename_i hgone
        cases h
        refine .dismiss now hfind ?_
        rw [hplace]
        exact if_pos (stopped_of_isPointless hgone)
      · rename_i hopen
        have hdesk : s.depot.drawer c.execution = some s.reloadBox := by
          rw [hplace]
          exact if_pos (alive_of_not_pointless hopen)
        split at h
        · rename_i b hp
          cases h
          rw [depot_wake_worker]
          have hput := Ships.put now hfind hdesk hp
          rw [hplace] at hput
          exact hput
        · rename_i hp
          split at h
          · cases h
          · rename_i ha
            cases h
            have hwait := Ships.wait now hfind hdesk hp (by simpa using ha)
            rw [hplace] at hwait
            exact hwait
    · rename_i n hplace
      split at h
      · rename_i e he
        have hslot : s.depot.slot? n = some e.slot := by rw [slot?_depot, he, Option.map_some]
        have hset : ∀ b, (s.setExecution { e with inbox := b }).depot =
            s.depot.setDesk c.execution b := by
          intro b
          rw [depot_setExecution, hplace]
          simp only [Depot.setDesk, hslot, Option.elim_some]
          rfl
        unfold forward at h
        split at h
        · rename_i hgone
          cases h
          refine .dismiss now hfind ?_
          rw [hplace, Depot.desk, hslot]
          exact if_pos (stopped_of_isPointless hgone)
        · rename_i hopen
          have hdesk : s.depot.drawer c.execution = some e.inbox := by
            rw [hplace, Depot.drawer, hslot]
            exact if_pos (alive_of_not_pointless hopen)
          split at h
          · rename_i b hp
            cases h
            rw [depot_wake_execution]
            have hput := Ships.put now hfind hdesk hp
            rw [← hset] at hput
            exact hput
          · rename_i hp
            split at h
            · cases h
            · rename_i ha
              cases h
              rw [hset]
              exact .wait now hfind hdesk hp (by simpa using ha)
      · rename_i hnone
        cases h
        refine .dismiss now hfind ?_
        rw [hplace, Depot.desk, slot?_depot, hnone]
        rfl

/-! ## All moves -/

/-- An execution that goes on with its script is, to couriers, the same. -/
theorem depot_advance {u : Supervisor} (hn : (s.depot.slots.map (·.number)).Nodup)
    (he : s.execution? number = some e) (ha : e.isAlive = true) (hf : u.frame = s.frame)
    (hc : u.cast = s.cast) : (u.setExecution e.advance).depot = s.depot := by
  have hu : u.depot = s.depot := depot_of_cast hf hc
  have hslot : e.advance.slot = e.slot := by
    rw [slot_eq e.fixed_advance, show e.advance.isAlive = e.isAlive from ha.symm]
    rfl
  rw [depot_setExecution, hu, hslot, Depot.setSlot_self hn (slot?_of_execution? he)]

/-- Giving an announcement up leaves the settings under way alone. -/
theorem depot_giveUp (hn : (s.depot.slots.map (·.number)).Nodup)
    (h : s.giveUp number = some t) : t.depot = s.depot := by
  unfold giveUp at h
  split at h
  · cases h
  · rename_i e he
    split at h
    · rename_i r hact
      have ha : e.isAlive = true := by simp [Execution.isAlive, Execution.result?, hact]
      cases h
      exact depot_advance hn he ha (frame_leaveBox _ _ _) (cast_leaveBox _ _ _)
    · rename_i hact
      have ha : e.isAlive = true := by simp [Execution.isAlive, Execution.result?, hact]
      cases h
      exact depot_advance hn he ha rfl rfl
    · cases h

/-- An announcement made aside leaves the settings under way alone. -/
theorem depot_announceAside {a : Announcement} (h : s.announceAside number a = some t) :
    t.depot = s.depot := by
  have hf := frame_announceAside h
  unfold announceAside at h
  split at h
  · cases h
  · split at h <;> cases h
    exact depot_of_cast hf (cast_abandon _ _ _)

/-- A start renews the depot. -/
theorem depot_start (hi : s.isIdle = true) (onDemand : Bool) (query : String) :
    (s.start onDemand query).depot = s.depot.renew := by
  have hlog := depot_log s .info (if onDemand then "started on demand" else "started")
  rw [start, if_pos hi]
  simp only [depot_wake_worker]
  rw [← hlog]
  rfl

/-- Of those that are woken only the couriers are seen in the depot. -/
theorem depot_wakeAll (s : Supervisor) (ts : List Task) :
    (s.wakeAll ts).depot = s.depot.summon ((ts.map Effect.wake).filterMap (·.courier?)) := by
  rw [depot_eq (frame_wakeAll s ts), cast_wakeAll]
  rfl

/-- A cancellation reaches every slot and wakes all couriers. -/
theorem depot_cancel (hi : s.isIdle = false) (reason : String) :
    (s.cancel reason).depot = ({ s.depot with cancelled := true }.mapSlots fun x =>
      { x with cancelled := true }).summon (s.depot.couriers.map Courier.number) := by
  let u : Supervisor := { s.log .info s!"stopped: {reason}" with cancelled := true }
  have hu : u.depot = { s.depot with cancelled := true } := by
    rw [← depot_log s .info s!"stopped: {reason}"]
    rfl
  have hmap : (u.mapExecutions fun e => { e with cancelled := true }).depot =
      u.depot.mapSlots fun x => { x with cancelled := true } := by
    simp only [depot, mapExecutions, Depot.mapSlots, Option.map_map, List.map_map]
    rfl
  have haudience : (u.audience.map Effect.wake).filterMap (·.courier?) =
      s.depot.couriers.map Courier.number := by
    simp [audience, Effect.courier?, List.filterMap_map, Function.comp_def]
    rfl
  rw [cancel, if_neg (by simp [hi])]
  refine (depot_wakeAll _ _).trans ?_
  rw [haudience]
  show (u.mapExecutions fun e => { e with cancelled := true }).depot.summon _ = _
  rw [hmap, hu]

/-- When the owner crashes the depot is closed, and the watched slot is left to itself. -/
theorem depot_crash (s : Supervisor) (r : Request) :
    (s.crash r).depot = { s.depot with
        isOpen := false
        reloadBox := {}
        watched := none
        orphans := s.depot.orphans ++ s.depot.watched.toList }.summon s.depot.reloadBox.senders := by
  let lost := r :: (s.readyBox.content.toList ++ s.notReadyBox.content.toList)
  let u : Supervisor := lost.foldl (fun s r => s.reply r.number none) s
  have hu : u.depot = s.depot := depot_replies s lost
  have hcouriers : ((((s.readyBox.senders ++ s.notReadyBox.senders).map Task.execution ++
      s.reloadBox.senders.map Task.courier).map Effect.wake).filterMap (·.courier?)) =
        s.reloadBox.senders := by
    rw [List.map_append, List.filterMap_append, courier?_executions, courier?_couriers,
      List.nil_append]
  have horphans : (u.orphans ++ u.execution.toList).map (·.slot) =
      u.depot.orphans ++ u.depot.watched.toList := by
    rw [List.map_append]
    simp only [depot]
    cases u.execution <;> rfl
  let v : Supervisor := { u with
    worker := .crashed
    orphans := u.orphans ++ u.execution.toList
    execution := none
    retryAt := none
    readyBox := {}
    notReadyBox := {}
    reloadBox := {} }
  have hv : v.depot = { u.depot with
      isOpen := false
      reloadBox := {}
      watched := none
      orphans := u.depot.orphans ++ u.depot.watched.toList } := by
    rw [← horphans]
    rfl
  unfold crash
  refine (depot_wakeAll _ _).trans ?_
  rw [hcouriers]
  show v.depot.summon s.reloadBox.senders = _
  rw [hv, hu]
  rfl

/-- What any move does to changes on their way, where executions have different numbers and a worker
waits for an execution to end only because the supervisor is being stopped. -/
theorem ships_move (hn : (s.depot.slots.map (·.number)).Nodup)
    (hj : s.worker = .joining → s.cancelled = true) (h : s.move m = some t) :
    Ships s.depot m (s.tidings m t) t.depot := by
  have still : t.depot = s.depot → Ships s.depot m [] t.depot := by
    intro hd
    rw [hd]
    exact .still _
  cases m with
  | start onDemand query =>
    simp only [move] at h
    split at h <;> cases h
    rename_i hi
    rw [depot_start hi]
    have hidle : s.worker = .idle := by simpa [isIdle] using hi
    exact .start (by simp [depot, hidle, WorkerState.isAlive])
  | cancel reason =>
    simp only [move] at h
    split at h <;> cases h
    rename_i hi
    rw [depot_cancel (by simpa using hi)]
    exact .cancel
  | rest =>
    simp only [move] at h
    split at h <;> cases h
    rename_i hd
    refine still (depot_of_worker s ?_)
    have hdone : s.isDone = true := (Bool.and_eq_true_iff.1 hd).1
    simpa [isDone, WorkerState.isAlive] using hdone
  | reload entry =>
    simp only [move] at h
    split at h <;> cases h
    rename_i hi
    rw [reload, if_neg hi, depot_dispatch]
    exact .hand entry
  | setPause | flush =>
    cases h
    first | exact .still _ | exact .flush
  | task now k =>
    cases k with
    | worker => exact ships_of_works hj (works_of_stepWorker h)
    | execution n => exact ships_stepExecution hn h
    | courier n => exact ships_stepCourier h
  | reply number answer =>
    cases h
    exact still (depot_reply s number answer)
  | resume =>
    simp only [move] at h
    split at h <;> cases h
    rename_i hw
    exact still (depot_of_worker s (by rw [hw]; rfl))
  | crash =>
    simp only [move] at h
    split at h <;> cases h
    rw [depot_crash]
    exact .crash
  | giveUp number => exact still (depot_giveUp hn h)
  | aside number a => exact still (depot_announceAside h)

/-! ## Any state of a supervisor -/

/-- A worker waits for an execution to end only because the supervisor is being stopped, and executions and
couriers are told apart by their numbers. -/
structure Orderly (s : Supervisor) : Prop where
  joining : s.worker = .joining → s.cancelled = true
  numbered : s.depot.Numbered

/-- Every move ships settings in order. -/
theorem Orderly.ships (hs : s.Orderly) (h : s.move m = some t) :
    Ships s.depot m (s.tidings m t) t.depot :=
  ships_move hs.numbered.slots hs.joining h

/-- Every move keeps the supervisor in order. -/
theorem Orderly.move (hs : s.Orderly) (h : s.move m = some t) : t.Orderly := by
  refine ⟨fun hw => ?_, hs.numbered.ships (hs.ships h)⟩
  have hj : s.control.worker = .joining → s.control.cancelled = true := hs.joining
  have hw : t.control.worker = .joining := hw
  show t.control.cancelled = true
  cases steers_of_move h with
  | still _ ht =>
    rw [ht] at hw ⊢
    exact hj hw
  | cancel ht => rw [ht]
  | join _ hc _ ht =>
    rw [ht]
    exact hc
  | handleEnd hwork _ _ ht =>
    rw [ht] at hw
    cases hw.symm.trans hwork
  | start _ ht | rest ht | launch _ ht | fail _ ht | halt _ _ ht | serve _ ht | resume _ ht
  | crash _ ht =>
    rw [ht] at hw
    cases hw

/-- A supervisor is made in order. -/
theorem orderly_create {pause : Nat} {entry : Entry} {groups : Option (List String)}
    {options : SourceOptions} {factory : Factory}
    (hs : create now entry groups options factory pause = .ok s) : s.Orderly := by
  obtain ⟨kind, source, -, rfl⟩ := create_eq hs
  refine ⟨nofun, ?_⟩
  constructor <;> simp [depot, Depot.slots, summoned, Mailbox.senders]

/-- So it is in order after any run. -/
theorem orderly_run {ms : List Move} (hs : s.Orderly) (h : s.run ms = some t) : t.Orderly :=
  run_induction (P := fun _ t => t.Orderly) hs (fun _ _ _ _ _ hs hm => hs.move hm) h

end Supervisor

end MediaPaths
