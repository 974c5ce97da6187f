import MediaPaths.Proofs.Supervision.Frame

/-!
# What a step of an execution does to executions

An execution changes no other execution than itself, and nothing of itself that was laid down when it
was launched. `Acts` lists the outcomes of a step: the execution goes on, takes up a change of its
settings, or ends, and each outcome tells which couriers are woken.
-/

namespace MediaPaths

/-- The change of the settings that is noted. -/
def SourceEvent.change? : SourceEvent → Option Entry
  | .reloaded entry => some entry
  | _ => none

/-- The courier that is woken. -/
def Effect.courier? : Effect → Option Nat
  | .wake (.courier n) => some n
  | _ => none

namespace Execution

/-- All of an execution that its own steps and its couriers leave alone. -/
def fixed (e : Execution) : Execution := { e with script := [], activity := .launched, inbox := {} }

theorem fixed_advance (e : Execution) : e.advance.fixed = e.fixed := rfl

/-- What is fixed about an execution includes its number. -/
theorem number_of_fixed {e f : Execution} (h : e.fixed = f.fixed) : e.number = f.number := by
  have hn : ∀ c : Execution, c.number = c.fixed.number := fun _ => rfl
  rw [hn e, hn f, h]

/-- A step of an execution never cancels it. -/
theorem cancelled_of_fixed {e f : Execution} (h : e.fixed = f.fixed) : e.cancelled = f.cancelled := by
  have hn : ∀ c : Execution, c.cancelled = c.fixed.cancelled := fun _ => rfl
  rw [hn e, hn f, h]

/-- The address of an execution is fixed when it is launched. -/
theorem address_of_fixed {e f : Execution} (h : e.fixed = f.fixed) : e.address = f.address := by
  have hn : ∀ c : Execution, c.address = c.fixed.address := fun _ => rfl
  rw [hn e, hn f, h]

end Execution

namespace Supervisor

/-- The changes of the settings that executions took up, the latest first. -/
def takenUp (s : Supervisor) : List Entry := s.events.filterMap (·.what.change?)

/-- The couriers that were woken. -/
def summoned (s : Supervisor) : List Nat := s.effects.filterMap (·.courier?)

/-- The executions of a supervisor and what bears on changes of their settings. -/
structure Cast where
  /-- The execution that the worker watches. -/
  execution : Option Execution
  /-- Executions that nobody watches. -/
  orphans : List Execution
  /-- The changes of the settings that executions took up, the latest first. -/
  takenUp : List Entry
  /-- The couriers that were woken. -/
  summoned : List Nat

/-- The executions of a supervisor. -/
def cast (s : Supervisor) : Cast := ⟨s.execution, s.orphans, s.takenUp, s.summoned⟩

namespace Cast

/-- Puts an execution in the place of the one of its number. -/
def set (c : Cast) (e : Execution) : Cast :=
  let f := fun f : Execution => if f.number = e.number then e else f
  { c with execution := c.execution.map f, orphans := c.orphans.map f }

/-- Wakes some couriers. -/
def summon (c : Cast) (ns : List Nat) : Cast := { c with summoned := c.summoned ++ ns }

/-- An execution that nobody watches is no more. -/
def drop (c : Cast) (number : Nat) : Cast :=
  { c with orphans := c.orphans.filter (·.number != number) }

/-- A change of the settings is taken up. -/
def take (c : Cast) (entry : Entry) : Cast := { c with takenUp := entry :: c.takenUp }

end Cast

/-- Of two executions of one number, the one that is put there last stays. -/
theorem Cast.set_set (c : Cast) {e f : Execution} (h : f.number = e.number) :
    (c.set e).set f = c.set f := by
  have hf : ∀ g : Execution, (if (if g.number = e.number then e else g).number = f.number then f
      else if g.number = e.number then e else g) = if g.number = f.number then f else g := by
    intro g
    by_cases hg : g.number = e.number
    · rw [if_pos hg, if_pos h.symm, if_pos (hg.trans h.symm)]
    · rw [if_neg hg]
  simp only [set, Option.map_map, List.map_map, Function.comp_def, hf]

variable {s t : Supervisor} {now number : Nat} {e : Execution}

/-! ## Effects, notes and mailboxes -/

/-- Of those that are woken the cast only shows the couriers. -/
theorem cast_wakeAll (s : Supervisor) (ts : List Task) :
    (s.wakeAll ts).cast = s.cast.summon ((ts.map Effect.wake).filterMap (·.courier?)) := by
  rw [wakeAll_eq]
  simp only [cast, Cast.summon, summoned, List.filterMap_append]
  rfl

theorem cast_wakeAny (s : Supervisor) (t : Option Task) :
    (s.wakeAny t).cast = s.cast.summon ((t.toList.map Effect.wake).filterMap (·.courier?)) := by
  rw [wakeAny_eq]
  simp only [cast, Cast.summon, summoned, List.filterMap_append]
  rfl

/-- Nobody is summoned by an empty list. -/
@[simp] theorem Cast.summon_nil (c : Cast) : c.summon [] = c := by
  simp [Cast.summon]

/-- Executions that are woken are no couriers. -/
theorem courier?_executions (ns : List Nat) :
    ((ns.map Task.execution).map Effect.wake).filterMap (·.courier?) = [] := by
  simp [Effect.courier?]

/-- Couriers that are woken are all couriers. -/
theorem courier?_couriers (ns : List Nat) :
    ((ns.map Task.courier).map Effect.wake).filterMap (·.courier?) = ns := by
  simp [List.filterMap_map, Function.comp_def, Effect.courier?]

/-- An effect that wakes no courier is not seen in the cast. -/
theorem cast_emit {x : Effect} (hx : x.courier? = none) : (s.emit x).cast = s.cast := by
  simp [cast, emit, takenUp, summoned, hx]

@[simp] theorem cast_log (s : Supervisor) (level : LogLevel) (message : String) :
    (s.log level message).cast = s.cast := cast_emit rfl

@[simp] theorem cast_wake_worker (s : Supervisor) : (s.wake .worker).cast = s.cast := cast_emit rfl

@[simp] theorem cast_wake_execution (s : Supervisor) (n : Nat) :
    (s.wake (.execution n)).cast = s.cast := cast_emit rfl

@[simp] theorem cast_wakeAny_execution (s : Supervisor) (n : Option Nat) :
    (s.wakeAny (n.map Task.execution)).cast = s.cast := by
  cases n
  · rfl
  · exact cast_wake_execution s _

theorem cast_wakeAny_courier (s : Supervisor) (n : Option Nat) :
    (s.wakeAny (n.map Task.courier)).cast = s.cast.summon n.toList := by
  cases n <;> simp [cast_wakeAny, Effect.courier?]

theorem cast_wakeAll_couriers (s : Supervisor) (ns : List Nat) :
    (s.wakeAll (ns.map Task.courier)).cast = s.cast.summon ns := by
  rw [cast_wakeAll, courier?_couriers]

/-- An event that brings no change of the settings is not seen in the cast. -/
theorem cast_note {x : SourceEvent} (hx : x.change? = none) : (s.note now x).cast = s.cast := by
  simp [cast, note, takenUp, summoned, hx]

/-- That an execution took note of settings is seen in the cast. -/
theorem cast_note_reloaded (s : Supervisor) (now : Nat) (entry : Entry) :
    (s.note now (.reloaded entry)).cast = s.cast.take entry := rfl

@[simp] theorem cast_setBox (s : Supervisor) (a : Announcement) (b : Mailbox Request) :
    (s.setBox a b).cast = s.cast := by
  cases a <;> rfl

theorem cast_setExecution (s : Supervisor) (e : Execution) :
    (s.setExecution e).cast = s.cast.set e := rfl

@[simp] theorem cast_logAnswer (s : Supervisor) (a : Announcement) (answer : Answer) :
    (s.logAnswer a answer).cast = s.cast := by
  cases answer
  · exact cast_log _ _ _
  · rfl

/-- Those who wait for room to announce are executions, so the cast is not concerned when one leaves. -/
@[simp] theorem cast_leaveBox (s : Supervisor) (e : Execution) (a : Announcement) :
    (s.leaveBox e a).cast = s.cast := by
  simp [leaveBox]

@[simp] theorem cast_abandon (s : Supervisor) (e : Execution) (a : Announcement) :
    (s.abandon e a).cast = s.cast := by
  unfold abandon
  split
  · rfl
  · split
    · rw [cast_wake_worker, cast_setBox]
      rfl
    · rfl

/-- Which execution the worker watches is told by the cast. -/
theorem watches_of_cast (h : t.cast = s.cast) (number : Nat) : t.watches number = s.watches number := by
  have hw : ∀ c : Supervisor, c.watches number = c.cast.execution.any (·.number == number) := by
    intro c
    cases hc : c.execution <;> simp [watches, cast, hc]
  rw [hw t, hw s, h]

/-! ## Steps of executions -/

/-- What a step of an execution does to the executions. -/
inductive Acts (s : Supervisor) (e : Execution) (t : Supervisor) : Prop where
  /-- It goes on. -/
  | goes (e' : Execution) (hf : e'.fixed = e.fixed) (hi : e'.inbox = e.inbox)
      (ha : e'.isAlive = true) (ht : t.cast = s.cast.set e') : Acts s e t
  /-- It goes on and takes up a change of its settings. -/
  | takes (e' : Execution) {entry : Entry} {next : Option Nat} (hf : e'.fixed = e.fixed)
      (hi : e.inbox.take? = some (entry, e'.inbox, next)) (ha : e'.isAlive = true)
      (ht : t.cast = ((s.cast.set e').take entry).summon next.toList) : Acts s e t
  /-- It ends, and the worker learns of it. -/
  | ends (e' : Execution) (hf : e'.fixed = e.fixed) (hi : e'.inbox = e.inbox)
      (ha : e'.isAlive = false) (hw : s.watches e.number = true)
      (ht : t.cast = (s.cast.set e').summon e.inbox.senders) : Acts s e t
  /-- It ends, and nobody learns of it. -/
  | leaves (hw : s.watches e.number = false)
      (ht : t.cast = (s.cast.drop e.number).summon e.inbox.senders) : Acts s e t

/-- An execution that ends acts on itself alone. -/
theorem acts_endExecution {u : Supervisor} (hu : u.cast = s.cast) (e : Execution) (r : SourceError) :
    Acts s e (u.endExecution e r) := by
  unfold endExecution
  simp only
  split
  · rename_i hw
    refine .ends { e with activity := .ended r } rfl rfl rfl
      ((watches_of_cast hu _).symm.trans hw) ?_
    rw [cast_wake_worker, cast_wakeAll_couriers, cast_setExecution, hu]
  · rename_i hw
    refine .leaves ((watches_of_cast hu _).symm.trans (by simpa using hw)) ?_
    rw [cast_wakeAll_couriers, ← hu]
    rfl

/-- An execution that goes on to its next step acts on itself alone. -/
theorem acts_advance {u : Supervisor} (hu : u.cast = s.cast) (e : Execution) :
    Acts s e (u.setExecution e.advance) :=
  .goes e.advance e.fixed_advance rfl rfl (by rw [cast_setExecution, hu])

/-- An execution that gives in to its cancellation acts on itself alone. -/
theorem acts_obey (s : Supervisor) (now : Nat) (e : Execution) : Acts s e (s.obey now e) :=
  acts_endExecution (cast_note rfl) e .exited

/-- An execution that learns the answer acts on itself alone. -/
theorem acts_conclude {u : Supervisor} (hu : u.cast = s.cast) (now : Nat) (e : Execution)
    (a : Announcement) (must : Bool) (answer : Answer) :
    Acts s e (u.conclude now e a must answer) := by
  have hl : ((u.logAnswer a answer).note now (.answered a answer)).cast = s.cast := by
    rw [cast_note rfl, cast_logAnswer, hu]
  unfold conclude
  split
  · exact acts_endExecution hl e _
  · exact acts_advance hl e

/-- An execution that posts something acts on itself alone. -/
theorem acts_post {u : Supervisor} (hu : u.cast = s.cast) {r : Request}
    (hp : u.post e r = some t) : Acts s e t := by
  unfold post at hp
  split at hp
  · cases hp
    refine .goes { e with activity := .listening r.number none } rfl rfl rfl ?_
    rw [cast_wake_worker, cast_setExecution, cast_setBox, hu]
  · split at hp
    · cases hp
    · cases hp
      refine .goes { e with activity := .posting r } rfl rfl rfl ?_
      rw [cast_setExecution, cast_setBox, hu]

/-- A call acts on its own execution alone, however it goes on. -/
theorem acts_stepAnnounce {a : Announcement} {must : Bool}
    (h : s.stepAnnounce now e a must = some t) : Acts s e t := by
  unfold stepAnnounce at h
  split at h
  · cases h
    exact acts_conclude rfl _ _ _ _ _
  · split at h <;> cases h
    exact acts_conclude rfl _ _ _ _ _
  · split at h
    · cases h
      exact acts_conclude (cast_leaveBox _ _ _) _ _ _ _ _
    · exact acts_post rfl h
  · split at h
    · cases h
      exact acts_conclude rfl _ _ _ _ _
    · exact acts_post (u := { s with nextRequest := s.nextRequest + 1 }) rfl h

/-- A wait acts on the execution that waits alone. -/
theorem acts_stepRest {ms : Nat} (h : s.stepRest now ms e = some t) : Acts s e t := by
  unfold stepRest at h
  split at h
  · split at h <;> cases h
    exact acts_advance rfl e
  · cases h
    exact .goes { e with activity := .resting (now + ms) } rfl rfl rfl rfl

/-- An execution that takes up a change of its settings goes on afterwards as it did, or with the next
step. -/
theorem acts_receive {u : Supervisor} {e' : Execution} (he : e.isAlive = true)
    (h : s.receive now e = some (u, e')) : Acts s e u ∧ Acts s e (u.setExecution e'.advance) := by
  unfold receive at h
  obtain ⟨⟨entry, b, next⟩, ht, h⟩ := Option.map_eq_some_iff.1 h
  cases h
  have hcast := cast_wakeAny_courier
    ((s.setExecution { e with inbox := b }).note now (.reloaded entry)) next
  rw [cast_note_reloaded, cast_setExecution] at hcast
  let f : Execution := { e with inbox := b }
  have hset : (s.cast.set f).set f.advance = s.cast.set f.advance := s.cast.set_set rfl
  refine ⟨.takes f rfl ht he hcast, .takes f.advance rfl ht rfl ?_⟩
  rw [cast_setExecution, hcast, ← hset]
  rfl

/-- Every step of the script acts on its own execution alone. -/
theorem acts_stepScript (he : e.isAlive = true) (h : s.stepScript now e = some t) : Acts s e t := by
  unfold stepScript at h
  split at h
  case h_1 =>
    split at h
    · cases h
      exact acts_obey _ _ _
    · obtain ⟨⟨u, e'⟩, hr, rfl⟩ := Option.map_eq_some_iff.1 h
      exact (acts_receive he hr).1
  case h_2 => exact acts_stepAnnounce h
  case h_3 =>
    cases h
    exact acts_advance (cast_abandon _ _ _) e
  case h_4 =>
    cases h
    exact acts_advance (cast_log _ _ _) e
  case h_5 =>
    split at h
    · cases h
      exact acts_obey _ _ _
    · exact acts_stepRest h
  case h_6 => exact acts_stepRest h
  case h_7 =>
    split at h <;> cases h
    exact acts_advance (cast_note rfl) e
  case h_8 =>
    split at h
    · cases h
      exact acts_obey _ _ _
    · obtain ⟨⟨u, e'⟩, hr, rfl⟩ := Option.map_eq_some_iff.1 h
      exact (acts_receive he hr).2
  case h_9 =>
    cases h
    exact acts_advance (cast_note rfl) e
  case h_10 =>
    cases h
    exact acts_endExecution rfl e _

/-- A step is one of an execution that has not ended, and it has one of these outcomes. -/
theorem acts_stepExecution (h : s.stepExecution now number = some t) :
    ∃ e, s.execution? number = some e ∧ e.isAlive = true ∧ Acts s e t := by
  unfold stepExecution at h
  split at h
  · cases h
  · rename_i e he
    refine ⟨e, he, ?_⟩
    split at h
    · cases h
    · rename_i hact
      cases h
      refine ⟨by simp [Execution.isAlive, Execution.result?, hact], ?_⟩
      refine .goes { e with activity := .acting } rfl rfl rfl ?_
      rw [cast_setExecution, cast_note rfl]
    · rename_i hend _
      have ha : e.isAlive = true := by
        cases hact : e.activity with
        | ended r => exact absurd hact (hend r)
        | _ => simp [Execution.isAlive, Execution.result?, hact]
      exact ⟨ha, acts_stepScript ha h⟩

end Supervisor

end MediaPaths
