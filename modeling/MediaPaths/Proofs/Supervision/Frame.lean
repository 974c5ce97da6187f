import MediaPaths.Supervision.Control

/-!
# What a step of a supervisor leaves alone

Executions, couriers and owners change only parts of a supervisor. `frame` blanks the parts that
executions and owners change and keeps all else, with the number of the execution that the worker
watches: a step of an execution and a reply of an owner leave it as it is. `courierFrame` does the same
for couriers, which change nothing of an execution but its inbox.
-/

namespace MediaPaths

namespace Supervisor

/-- All of a supervisor that executions and owners leave alone. -/
def frame (s : Supervisor) : Supervisor × Option Nat :=
  ({ s with
      execution := none
      orphans := []
      readyBox := {}
      notReadyBox := {}
      nextRequest := 0
      events := []
      effects := [] },
    s.execution.map (·.number))

/-! ## Effects, notes and executions -/

@[simp] theorem frame_wake (s : Supervisor) (t : Task) : (s.wake t).frame = s.frame := rfl

theorem wakeAny_eq (s : Supervisor) (t : Option Task) :
    s.wakeAny t = { s with effects := s.effects ++ t.toList.map Effect.wake } := by
  cases t with
  | none => simp [wakeAny]
  | some t => rfl

theorem wakeAll_eq (s : Supervisor) (ts : List Task) :
    s.wakeAll ts = { s with effects := s.effects ++ ts.map Effect.wake } := by
  unfold wakeAll
  induction ts generalizing s with
  | nil => simp
  | cons t ts ih =>
    rw [List.foldl_cons, ih]
    simp [wake, emit]

@[simp] theorem frame_wakeAny (s : Supervisor) (t : Option Task) :
    (s.wakeAny t).frame = s.frame := by
  rw [wakeAny_eq]
  rfl

@[simp] theorem frame_wakeAll (s : Supervisor) (ts : List Task) :
    (s.wakeAll ts).frame = s.frame := by
  rw [wakeAll_eq]
  rfl

@[simp] theorem frame_setBox (s : Supervisor) (a : Announcement) (b : Mailbox Request) :
    (s.setBox a b).frame = s.frame := by
  cases a <;> rfl

theorem frame_mapExecutions (s : Supervisor) {f : Execution → Execution}
    (hf : ∀ e, (f e).number = e.number) : (s.mapExecutions f).frame = s.frame := by
  simp only [frame, mapExecutions, Option.map_map]
  congr 2
  funext e
  exact hf e

@[simp] theorem frame_setExecution (s : Supervisor) (e : Execution) :
    (s.setExecution e).frame = s.frame := by
  refine frame_mapExecutions s fun f => ?_
  split
  · rename_i h
    exact h.symm
  · rfl

theorem number_hear (number : Nat) (answer : Option Answer) (e : Execution) :
    (hear number answer e).number = e.number := by
  unfold hear
  split <;> rfl

@[simp] theorem frame_reply (s : Supervisor) (number : Nat) (answer : Option Answer) :
    (s.reply number answer).frame = s.frame := by
  simp only [reply, frame_wakeAll]
  exact frame_mapExecutions s (number_hear number answer)

theorem executions_mapExecutions (s : Supervisor) (f : Execution → Execution) :
    (s.mapExecutions f).executions = s.executions.map f := by
  rw [executions, executions, List.map_append, mapExecutions]
  cases s.execution <;> rfl

/-- The execution that is put in the place of another one is there, and others of other numbers. -/
theorem mem_setExecution {s : Supervisor} {e f : Execution} (hf : f ∈ (s.setExecution e).executions) :
    f = e ∨ f ∈ s.executions ∧ f.number ≠ e.number := by
  rw [setExecution, executions_mapExecutions] at hf
  obtain ⟨g, hg, rfl⟩ := List.mem_map.1 hf
  by_cases hn : g.number = e.number
  · exact .inl (if_pos hn)
  · rw [if_neg hn]
    exact .inr ⟨hg, hn⟩

/-- What replies leave alone stays as it is when some requests are thrown away. -/
theorem replies_eq {α : Type} (g : Supervisor → α)
    (hg : ∀ s number answer, g (reply s number answer) = g s) (s : Supervisor) (rs : List Request) :
    g (rs.foldl (fun s r => s.reply r.number none) s) = g s := by
  induction rs generalizing s with
  | nil => rfl
  | cons r rs ih => rw [List.foldl_cons, ih, hg]

/-! ## Steps of executions -/

@[simp] theorem frame_endExecution (s : Supervisor) (e : Execution) (r : SourceError) :
    (s.endExecution e r).frame = s.frame := by
  unfold endExecution
  simp only
  split
  · simp
  · rw [frame_wakeAll]
    rfl

@[simp] theorem frame_obey (s : Supervisor) (now : Nat) (e : Execution) :
    (s.obey now e).frame = s.frame := by
  rw [obey, frame_endExecution]
  rfl

@[simp] theorem frame_conclude (s : Supervisor) (now : Nat) (e : Execution) (a : Announcement)
    (must : Bool) (answer : Answer) : (s.conclude now e a must answer).frame = s.frame := by
  have hl : ((s.logAnswer a answer).note now (.answered a answer)).frame = s.frame := by
    cases answer <;> rfl
  unfold conclude
  split <;> simp [hl]

theorem frame_post {s s' : Supervisor} {e : Execution} {r : Request} (h : s.post e r = some s') :
    s'.frame = s.frame := by
  unfold post at h
  split at h
  · cases h
    simp
  · split at h
    · cases h
    · cases h
      simp

@[simp] theorem frame_leaveBox (s : Supervisor) (e : Execution) (a : Announcement) :
    (s.leaveBox e a).frame = s.frame := by
  simp [leaveBox]

@[simp] theorem frame_abandon (s : Supervisor) (e : Execution) (a : Announcement) :
    (s.abandon e a).frame = s.frame := by
  unfold abandon
  split
  · rfl
  · split
    · rw [frame_wake, frame_setBox]
      rfl
    · rfl

theorem frame_stepAnnounce {s s' : Supervisor} {now : Nat} {e : Execution} {a : Announcement}
    {must : Bool} (h : s.stepAnnounce now e a must = some s') : s'.frame = s.frame := by
  unfold stepAnnounce at h
  split at h
  · cases h
    simp
  · split at h <;> cases h
    simp
  · split at h
    · cases h
      simp
    · exact frame_post h
  · split at h
    · cases h
      simp
    · exact (frame_post h).trans rfl

theorem frame_receive {s s' : Supervisor} {now : Nat} {e e' : Execution}
    (h : s.receive now e = some (s', e')) : s'.frame = s.frame := by
  unfold receive at h
  obtain ⟨⟨entry, b, next⟩, -, h⟩ := Option.map_eq_some_iff.1 h
  cases h
  rw [frame_wakeAny]
  exact frame_setExecution s { e with inbox := b }

theorem frame_stepRest {s s' : Supervisor} {now ms : Nat} {e : Execution}
    (h : s.stepRest now ms e = some s') : s'.frame = s.frame := by
  unfold stepRest at h
  split at h
  · split at h <;> cases h
    simp
  · cases h
    simp

theorem frame_stepScript {s s' : Supervisor} {now : Nat} {e : Execution}
    (h : s.stepScript now e = some s') : s'.frame = s.frame := by
  unfold stepScript at h
  split at h
  case h_1 =>
    split at h
    · cases h
      simp
    · obtain ⟨⟨t, e'⟩, hr, rfl⟩ := Option.map_eq_some_iff.1 h
      exact frame_receive hr
  case h_2 => exact frame_stepAnnounce h
  case h_5 =>
    split at h
    · cases h
      simp
    · exact frame_stepRest h
  case h_6 => exact frame_stepRest h
  case h_7 =>
    split at h <;> cases h
    rw [frame_setExecution]
    rfl
  case h_8 =>
    split at h
    · cases h
      simp
    · obtain ⟨⟨t, e'⟩, hr, rfl⟩ := Option.map_eq_some_iff.1 h
      rw [frame_setExecution]
      exact frame_receive hr
  case h_3 =>
    cases h
    simp
  case h_4 | h_9 =>
    cases h
    rw [frame_setExecution]
    rfl
  case h_10 =>
    cases h
    simp

/-- A step of an execution changes nothing but executions, requests, notes and effects. -/
theorem frame_stepExecution {s s' : Supervisor} {now number : Nat}
    (h : s.stepExecution now number = some s') : s'.frame = s.frame := by
  unfold stepExecution at h
  split at h
  · cases h
  · split at h
    · cases h
    · cases h
      rw [frame_setExecution]
      rfl
    · exact frame_stepScript h

/-! ## Steps of couriers -/

/-- An execution with an empty inbox. -/
def emptied (e : Execution) : Execution := { e with inbox := {} }

/-- All of a supervisor that couriers leave alone. -/
def courierFrame (s : Supervisor) : Supervisor :=
  { s with
    execution := s.execution.map emptied
    orphans := []
    reloadBox := {}
    couriers := []
    effects := [] }

/-- The execution of the number of the one that is watched is the one that is watched. -/
theorem execution?_watched {s : Supervisor} {e : Execution} (h : s.execution = some e) :
    s.execution? e.number = some e := by
  simp [execution?, executions, h]

theorem number_of_execution? {s : Supervisor} {number : Nat} {e : Execution}
    (h : s.execution? number = some e) : e.number = number := by
  have := List.find?_some h
  simpa using this

/-- Putting something else in the inbox of an execution is what couriers may do. -/
theorem courierFrame_setExecution {s : Supervisor} {number : Nat} {e : Execution}
    (he : s.execution? number = some e) (b : Mailbox Entry) :
    (s.setExecution { e with inbox := b }).courierFrame = s.courierFrame := by
  have hn := number_of_execution? he
  cases hx : s.execution with
  | none => simp [courierFrame, setExecution, mapExecutions, hx]
  | some f =>
    by_cases hf : f.number = e.number
    · have : f = e := by
        have hw := execution?_watched hx
        rw [hf, hn, he] at hw
        exact (Option.some.inj hw).symm
      subst this
      simp [courierFrame, setExecution, mapExecutions, hx, emptied]
    · simp [courierFrame, setExecution, mapExecutions, hx, hf]

/-- A step of a courier changes nothing but couriers, mailboxes of settings and effects. -/
theorem courierFrame_stepCourier {s s' : Supervisor} {number : Nat}
    (h : s.stepCourier number = some s') : s'.courierFrame = s.courierFrame := by
  unfold stepCourier at h
  split at h
  · cases h
  · split at h
    · -- to the worker
      unfold deliver at h
      split at h
      · cases h
        rfl
      · split at h
        · cases h
          rfl
        · split at h
          · cases h
          · cases h
            rfl
    · -- to an execution
      split at h
      · rename_i he
        unfold forward at h
        split at h
        · cases h
          rfl
        · split at h
          · cases h
            exact courierFrame_setExecution he _
          · split at h
            · cases h
            · cases h
              exact courierFrame_setExecution he _
      · cases h
        rfl

end Supervisor

end MediaPaths
