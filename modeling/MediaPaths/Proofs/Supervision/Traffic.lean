import MediaPaths.Proofs.Supervision.Control

/-!
# What a move does to the requests

A move puts at most one request in a mailbox or passes one on, or it empties the mailboxes: `Quiet`,
`Posts`, `Begins` and `Clears` are the things that can become of the requests, and `traffic_move` tells
what the chronicle says of each.
The number of a request that is put in a mailbox is new, or it is that of the request for which the
execution waited for room.
-/

namespace MediaPaths

namespace Execution

/-- The request for which it waits for room. -/
def pending? (e : Execution) : Option Request :=
  match e.activity with
  | .posting r => some r
  | _ => none

/-- An execution that goes on to its next step has nothing left to post. -/
theorem pending?_advance (e : Execution) : e.advance.pending? = none := rfl

end Execution

namespace Supervisor

/-- The request for which the execution that is watched waits for room. -/
def pending (s : Supervisor) : Option Request := s.execution.bind (·.pending?)

/-- What lies in the mailbox for an announcement. -/
def letter (s : Supervisor) (a : Announcement) : Option Request := (s.box a).content

/-- No request is put in a mailbox or taken out of it. -/
structure Quiet (s t : Supervisor) : Prop where
  /-- Mailboxes are left alone. -/
  letter : ∀ a, t.letter a = s.letter a
  /-- Numbers are only used up. -/
  next : s.nextRequest ≤ t.nextRequest
  /-- A request that begins to wait for room has a new number. -/
  pending : ∀ r, t.pending = some r →
    s.pending = some r ∨ s.nextRequest ≤ r.number ∧ r.number < t.nextRequest

/-- A request is put in its mailbox. -/
structure Posts (r : Request) (s t : Supervisor) : Prop where
  /-- There was room. -/
  room : s.letter r.announcement = none
  /-- It lies there, and the other mailbox is left alone. -/
  letter : ∀ a, t.letter a =
    if a.isReady = r.announcement.isReady then some r else s.letter a
  /-- It was waited for, or it has a new number. -/
  fresh : s.pending = some r ∧ t.pending = none ∧ t.nextRequest = s.nextRequest ∨
    r.number = s.nextRequest ∧ t.nextRequest = s.nextRequest + 1 ∧
      ∀ q, t.pending = some q → s.pending = some q

/-- A request is taken out of its mailbox and passed on. -/
structure Begins (r : Request) (s t : Supervisor) : Prop where
  /-- It lay there. -/
  lay : s.letter r.announcement = some r
  /-- It lies there no longer, and the other mailbox is left alone. -/
  letter : ∀ a, t.letter a = if a.isReady = r.announcement.isReady then none else s.letter a
  /-- A loss is passed on only if no media wait to be announced. -/
  first : r.announcement.isReady = false → ∀ a, a.isReady = true → s.letter a = none
  /-- Nothing else changes. -/
  rest : t.nextRequest = s.nextRequest ∧ t.pending = s.pending

/-- The mailboxes are emptied without anything being passed on. -/
structure Clears (s t : Supervisor) : Prop where
  /-- Nothing lies there any longer. -/
  letter : ∀ a, t.letter a = none
  /-- Numbers are left alone. -/
  next : t.nextRequest = s.nextRequest
  /-- No execution is watched. -/
  execution : t.execution = none

variable {s t u : Supervisor} {now : Nat}

/-- There are only two boxes: which of them an announcement goes to depends on its kind alone. -/
theorem box_congr (s : Supervisor) {a b : Announcement} (h : a.isReady = b.isReady) :
    s.box a = s.box b := by
  cases a <;> cases b <;> first | rfl | cases h

/-! ## Quiet moves -/

/-- A step is quiet if what lies in the boxes stays there and no further request waits for room. -/
theorem Quiet.of_eq (hr : t.readyBox.content = s.readyBox.content)
    (hn : t.notReadyBox.content = s.notReadyBox.content) (hq : t.nextRequest = s.nextRequest)
    (hp : ∀ r, t.pending = some r → s.pending = some r) : Quiet s t := by
  refine ⟨fun a => ?_, Nat.le_of_eq hq.symm, fun r h => .inl (hp r h)⟩
  cases a
  · exact hr
  · exact hn

/-- A step is quiet if it leaves the execution and the boxes alone. -/
theorem Quiet.of_same (hx : t.execution = s.execution) (hr : t.readyBox = s.readyBox)
    (hn : t.notReadyBox = s.notReadyBox) (hq : t.nextRequest = s.nextRequest) : Quiet s t :=
  .of_eq (by rw [hr]) (by rw [hn]) hq fun r h => by rwa [Supervisor.pending, hx] at h

theorem Quiet.refl (s : Supervisor) : Quiet s s := .of_same rfl rfl rfl rfl

/-- Two quiet steps one after the other are quiet. -/
theorem Quiet.trans (h : Quiet s t) (h' : Quiet t u) : Quiet s u := by
  refine ⟨fun a => (h'.letter a).trans (h.letter a), Nat.le_trans h.next h'.next, fun r hr => ?_⟩
  · rcases h'.pending r hr with hr | ⟨h₁, h₂⟩
    · rcases h.pending r hr with hr | ⟨h₁, h₂⟩
      · exact .inl hr
      · exact .inr ⟨h₁, Nat.lt_of_lt_of_le h₂ h'.next⟩
    · exact .inr ⟨Nat.le_trans h.next h₁, h₂⟩

/-- An execution is put back with nothing to post that it did not have before. -/
theorem pending_of_setExecution {e : Execution} {q : Request}
    (h : ∀ f ∈ s.execution, f.number = e.number → ∀ r, e.pending? = some r → f.pending? = some r)
    (hq : (s.setExecution e).pending = some q) : s.pending = some q := by
  cases hf : s.execution with
  | none => simp [pending, setExecution, mapExecutions, hf] at hq
  | some f =>
    simp only [pending, setExecution, mapExecutions, hf, Option.map_some, Option.bind_some] at hq ⊢
    split at hq
    · exact h f hf ‹_› q hq
    · exact hq

/-- Putting an execution back is quiet, if it waits for room for nothing but what it waited for. -/
theorem quiet_setExecution (s : Supervisor) {e : Execution}
    (h : ∀ f ∈ s.execution, f.number = e.number → ∀ r, e.pending? = some r → f.pending? = some r) :
    Quiet s (s.setExecution e) :=
  .of_eq rfl rfl rfl fun _ hq => pending_of_setExecution h hq

theorem quiet_setExecution_of_none (s : Supervisor) {e : Execution} (h : e.pending? = none) :
    Quiet s (s.setExecution e) :=
  quiet_setExecution s fun _ _ _ r hr => by simp [h] at hr

/-- An answer to a request leaves the boxes alone. -/
theorem quiet_reply (s : Supervisor) (number : Nat) (answer : Option Answer) :
    Quiet s (s.reply number answer) := by
  simp only [reply, wakeAll_eq]
  refine .of_eq rfl rfl rfl fun r hr => ?_
  cases hf : s.execution with
  | none => simp [pending, mapExecutions, hf] at hr
  | some f =>
    simp only [pending, mapExecutions, hf, Option.map_some, Option.bind_some, hear] at hr ⊢
    split at hr
    · simp [Execution.pending?] at hr
    · exact hr

/-- An execution that ends leaves the boxes alone, and waits for room no longer. -/
theorem quiet_endExecution (s : Supervisor) (e : Execution) (r : SourceError) :
    Quiet s (s.endExecution e r) := by
  unfold endExecution
  simp only [wakeAll_eq]
  split
  · exact (quiet_setExecution_of_none s rfl).trans (.of_eq rfl rfl rfl fun _ h => h)
  · exact .of_eq rfl rfl rfl fun _ h => h

/-- An execution that gives in to its cancellation leaves the boxes alone. -/
theorem quiet_obey (s : Supervisor) (now : Nat) (e : Execution) : Quiet s (s.obey now e) := by
  have hn : Quiet s (s.note now .cancelled) := .of_same rfl rfl rfl rfl
  exact hn.trans (quiet_endExecution _ e .exited)

/-- An execution that learns the answer leaves the boxes alone. -/
theorem quiet_conclude (s : Supervisor) (now : Nat) (e : Execution) (a : Announcement) (must : Bool)
    (answer : Answer) : Quiet s (s.conclude now e a must answer) := by
  have hl : Quiet s ((s.logAnswer a answer).note now (.answered a answer)) := by
    cases answer <;> exact .of_same rfl rfl rfl rfl
  unfold conclude
  split
  · exact hl.trans (quiet_endExecution _ _ _)
  · exact hl.trans (quiet_setExecution_of_none _ e.pending?_advance)

/-- Who leaves the line at a mailbox leaves what is in it. -/
theorem content_leave {α : Type} (b : Mailbox α) (i : Nat) : (b.leave i).1.content = b.content := by
  unfold Mailbox.leave
  split <;> rfl

/-- An execution that no longer waits for room leaves what lies in the boxes. -/
theorem quiet_leaveBox (s : Supervisor) (e : Execution) (a : Announcement) :
    Quiet s (s.leaveBox e a) := by
  simp only [leaveBox, wakeAny_eq]
  cases a with
  | ready medias => exact .of_eq (content_leave _ _) rfl rfl fun _ h => h
  | notReady => exact .of_eq rfl (content_leave _ _) rfl fun _ h => h

/-- A wait leaves the boxes alone. -/
theorem quiet_stepRest {ms : Nat} {e : Execution} (h : s.stepRest now ms e = some t) :
    Quiet s t := by
  unfold stepRest at h
  split at h
  · split at h <;> cases h
    exact quiet_setExecution_of_none s e.pending?_advance
  · cases h
    exact quiet_setExecution_of_none s rfl

/-- Settings are taken out of another box than requests. -/
theorem quiet_receive {number : Nat} {e e' : Execution} (he : s.execution? number = some e)
    (h : s.receive now e = some (t, e')) : Quiet s t := by
  unfold receive at h
  obtain ⟨⟨entry, b, next⟩, -, h⟩ := Option.map_eq_some_iff.1 h
  cases h
  have hs : Quiet s (s.setExecution { e with inbox := b }) := by
    refine quiet_setExecution s fun f hf hn r hr => ?_
    have hw := execution?_watched hf
    have hf : f.number = number := hn.trans (number_of_execution? (e := e) he)
    rw [hf, he] at hw
    rw [← Option.some.inj hw]
    exact hr
  simp only [wakeAny_eq]
  exact hs.trans (.of_same rfl rfl rfl rfl)

/-! ## Requests are put in mailboxes -/

/-- After one of the boxes was set, it holds the new letter and the other one holds what it held. -/
theorem letter_setBox (s : Supervisor) (a b : Announcement) (x : Mailbox Request) :
    (s.setBox a x).letter b = if b.isReady = a.isReady then x.content else s.letter b := by
  cases a <;> cases b <;> rfl

theorem nextRequest_setBox (s : Supervisor) (a : Announcement) (x : Mailbox Request) :
    (s.setBox a x).nextRequest = s.nextRequest := by
  cases a <;> rfl

theorem execution_setBox (s : Supervisor) (a : Announcement) (x : Mailbox Request) :
    (s.setBox a x).execution = s.execution := by
  cases a <;> rfl

theorem pending_setBox (s : Supervisor) (a : Announcement) (x : Mailbox Request) :
    (s.setBox a x).pending = s.pending := by
  cases a <;> rfl

/-- What is pending after the execution was put back is what that execution waits to post. -/
theorem pending_setExecution {e f : Execution} (hf : s.execution = some f)
    (hn : f.number = e.number) : (s.setExecution e).pending = e.pending? := by
  simp [pending, setExecution, mapExecutions, hf, hn]

/-- A request that is to be put in its mailbox lies there afterwards, or it is waited for. -/
theorem post_cases {e f : Execution} {r : Request} (hf : s.execution = some f)
    (hn : f.number = e.number) (h : s.post e r = some t) :
    t.nextRequest = s.nextRequest ∧
      (s.letter r.announcement = none ∧ t.pending = none ∧
          (∀ a, t.letter a = if a.isReady = r.announcement.isReady then some r else s.letter a) ∨
        t.pending = some r ∧ ∀ a, t.letter a = s.letter a) := by
  have hx : ∀ x, (s.setBox r.announcement x).execution = some f := fun x => by
    rw [execution_setBox, hf]
  unfold post at h
  split at h
  · rename_i b hb
    obtain ⟨hroom, hput⟩ := Mailbox.content_of_post? hb
    cases h
    refine ⟨nextRequest_setBox s _ _, .inl ⟨hroom, pending_setExecution (hx b) hn, fun a => ?_⟩⟩
    rw [← hput]
    exact letter_setBox s _ _ _
  · split at h
    · cases h
    · cases h
      refine ⟨nextRequest_setBox s _ _, .inr ⟨pending_setExecution (hx _) hn, fun a => ?_⟩⟩
      refine (letter_setBox s _ _ _).trans ?_
      split
      · rename_i ha
        show (s.box r.announcement).content = (s.box a).content
        rw [box_congr s ha]
      · rfl

/-- Who still announces something is the execution that the worker watches. -/
theorem watches_of_not_deaf {e : Execution} {a : Announcement} (hd : ¬ s.isDeaf e a = true) :
    s.watches e.number = true := by
  simp only [isDeaf, Bool.or_eq_true, Bool.not_eq_true', not_or, Bool.not_eq_false] at hd
  exact hd.2

/-- Announcing something without waiting puts a new request in its mailbox, or changes nothing. -/
theorem traffic_abandon (s : Supervisor) (e : Execution) (a : Announcement) :
    Quiet s (s.abandon e a) ∨ s.watches e.number = true ∧ ∃ r, Posts r s (s.abandon e a) := by
  unfold abandon
  split
  · exact .inl (.refl s)
  · rename_i hd
    split
    · rename_i b hb
      obtain ⟨hroom, hput⟩ := Mailbox.content_of_post? hb
      refine .inr ⟨watches_of_not_deaf hd, ⟨s.nextRequest, a⟩, hroom, fun a' => ?_,
        .inr ⟨rfl, ?_, fun q hq => ?_⟩⟩
      · refine (letter_setBox _ _ _ _).trans ?_
        rw [hput]
        rfl
      · exact nextRequest_setBox _ _ _
      · rw [← hq]
        exact (pending_setBox { s with nextRequest := s.nextRequest + 1 } a b).symm
    · exact .inl (.refl s)

/-- An execution that still announces something is the present one. -/
theorem execution_of_not_deaf {number : Nat} {e : Execution} {a : Announcement}
    (he : s.execution? number = some e) (hd : ¬ s.isDeaf e a = true) : s.execution = some e := by
  have hd := watches_of_not_deaf hd
  rw [watches] at hd
  cases hf : s.execution with
  | none => simp [hf] at hd
  | some f =>
    have hn : f.number = e.number := by simpa [hf] using hd
    have hw := execution?_watched hf
    rw [hn, number_of_execution? he, he] at hw
    exact hw.symm

/-- A call that announces something puts its request in a mailbox in at most one of its steps. -/
theorem traffic_stepAnnounce {number : Nat} {e : Execution} {a : Announcement} {must : Bool}
    (he : s.execution? number = some e) (h : s.stepAnnounce now e a must = some t) :
    Quiet s t ∨ s.watches e.number = true ∧ ∃ r, Posts r s t := by
  unfold stepAnnounce at h
  split at h
  · cases h
    exact .inl (quiet_conclude _ _ _ _ _ _)
  · split at h <;> cases h
    exact .inl (quiet_conclude _ _ _ _ _ _)
  · rename_i r hact
    split at h
    · cases h
      exact .inl ((quiet_leaveBox _ _ _).trans (quiet_conclude _ _ _ _ _ _))
    · rename_i hd
      have hx := execution_of_not_deaf he hd
      have hp : s.pending = some r := by simp [pending, hx, Execution.pending?, hact]
      obtain ⟨hq, ⟨hroom, hnone, hl⟩ | ⟨hsome, hl⟩⟩ := post_cases hx rfl h
      · exact .inr ⟨watches_of_not_deaf hd, r, hroom, hl, .inl ⟨hp, hnone, hq⟩⟩
      · refine .inl ⟨hl, Nat.le_of_eq hq.symm, fun q hq => .inl ?_⟩
        rw [← hq, hsome, hp]
  · split at h
    · cases h
      exact .inl (quiet_conclude _ _ _ _ _ _)
    · rename_i hd
      have hx := execution_of_not_deaf he hd
      obtain ⟨hq, ⟨hroom, hnone, hl⟩ | ⟨hsome, hl⟩⟩ :=
        post_cases (s := { s with nextRequest := s.nextRequest + 1 }) hx rfl h
      · exact .inr ⟨watches_of_not_deaf hd, _, hroom, hl,
          .inr ⟨rfl, hq, fun q hp => by simp [hnone] at hp⟩⟩
      · refine .inl ⟨hl, by rw [hq]; exact Nat.le_succ _, fun q hp => .inr ?_⟩
        obtain rfl : _ = q := Option.some.inj (hsome.symm.trans hp)
        exact ⟨Nat.le_refl _, by rw [hq]; exact Nat.lt_succ_self _⟩

/-- A step that posts stays one if something is done afterwards that posts nothing. -/
theorem Posts.of_quiet {r : Request} (h : Posts r s t) (hl : ∀ a, u.letter a = t.letter a)
    (hq : u.nextRequest = t.nextRequest) (hp : ∀ q, u.pending = some q → t.pending = some q) :
    Posts r s u := by
  refine ⟨h.room, fun a => (hl a).trans (h.letter a), ?_⟩
  rcases h.fresh with ⟨h₁, h₂, h₃⟩ | ⟨h₁, h₂, h₃⟩
  · refine .inl ⟨h₁, ?_, hq.trans h₃⟩
    cases hu : u.pending with
    | none => rfl
    | some q => simp [h₂] at hp hu; exact absurd hu (hp q)
  · exact .inr ⟨h₁, hq.trans h₂, fun q hu => h₃ q (hp q hu)⟩

/-- A step of a script puts at most one request in a mailbox, and none unless the execution is
watched. -/
theorem traffic_stepScript {number : Nat} {e : Execution} (he : s.execution? number = some e)
    (h : s.stepScript now e = some t) :
    Quiet s t ∨ s.watches e.number = true ∧ ∃ r, Posts r s t := by
  have hadv : ∀ v : Supervisor, Quiet s v → Quiet s (v.setExecution e.advance) := fun v hv =>
    hv.trans (quiet_setExecution_of_none v e.pending?_advance)
  unfold stepScript at h
  split at h
  case h_1 =>
    split at h
    · cases h
      exact .inl (quiet_obey _ _ _)
    · obtain ⟨⟨v, e'⟩, hr, rfl⟩ := Option.map_eq_some_iff.1 h
      exact .inl (quiet_receive he hr)
  case h_2 => exact traffic_stepAnnounce he h
  case h_3 a _ _ =>
    cases h
    rcases traffic_abandon s e a with hq | ⟨hw, r, hr⟩
    · exact .inl (hadv _ hq)
    · refine .inr ⟨hw, r, hr.of_quiet (fun _ => rfl) rfl fun q hq => pending_of_setExecution ?_ hq⟩
      exact fun _ _ _ r hr => by cases hr
  case h_5 =>
    split at h
    · cases h
      exact .inl (quiet_obey _ _ _)
    · exact .inl (quiet_stepRest h)
  case h_6 => exact .inl (quiet_stepRest h)
  case h_8 =>
    split at h
    · cases h
      exact .inl (quiet_obey _ _ _)
    · obtain ⟨⟨v, e'⟩, hr, rfl⟩ := Option.map_eq_some_iff.1 h
      have hp : e'.advance.pending? = none := e'.pending?_advance
      exact .inl ((quiet_receive he hr).trans (quiet_setExecution_of_none _ hp))
  case h_10 =>
    cases h
    exact .inl (quiet_endExecution _ _ _)
  case h_7 =>
    split at h <;> cases h
    exact .inl (hadv _ (.of_same rfl rfl rfl rfl))
  case h_4 =>
    cases h
    exact .inl (hadv _ (.of_same rfl rfl rfl rfl))
  case h_9 =>
    cases h
    exact .inl (hadv _ (.of_same rfl rfl rfl rfl))

/-- A step of an execution is quiet, or the watched execution puts one request in its box. -/
theorem traffic_stepExecution {number : Nat} (h : s.stepExecution now number = some t) :
    Quiet s t ∨ s.watches number = true ∧ ∃ r, Posts r s t := by
  unfold stepExecution at h
  split at h
  · cases h
  · rename_i e he
    split at h
    · cases h
    · cases h
      have hn : Quiet s (s.note now (.launched e.address e.entry)) := .of_same rfl rfl rfl rfl
      exact .inl (hn.trans (quiet_setExecution_of_none _ rfl))
    · rw [← number_of_execution? he]
      exact traffic_stepScript he h

/-- An announcement made aside is quiet, or puts one request of the watched execution in its box. -/
theorem traffic_announceAside {number : Nat} {a : Announcement}
    (h : s.announceAside number a = some t) :
    Quiet s t ∨ s.watches number = true ∧ ∃ r, Posts r s t := by
  unfold announceAside at h
  split at h
  · cases h
  · rename_i e he
    split at h <;> cases h
    rw [← number_of_execution? he]
    exact traffic_abandon _ _ _

/-! ## Other moves -/

/-- Giving an announcement up leaves what lies in the boxes. -/
theorem quiet_giveUp {number : Nat} (h : s.giveUp number = some t) : Quiet s t := by
  unfold giveUp at h
  split at h
  · cases h
  · rename_i e he
    split at h <;> cases h
    · exact (quiet_leaveBox _ _ _).trans (quiet_setExecution_of_none _ e.pending?_advance)
    · exact quiet_setExecution_of_none _ e.pending?_advance

/-- Couriers bring settings and never requests. -/
theorem quiet_stepCourier {number : Nat} (h : s.stepCourier number = some t) : Quiet s t := by
  have hf := courierFrame_stepCourier h
  have hp : ∀ c : Supervisor, c.pending = c.courierFrame.pending := by
    intro c
    cases hc : c.execution with
    | none => simp [pending, courierFrame, hc]
    | some e =>
      simp only [pending, courierFrame, hc, Option.map_some, Option.bind_some]
      rfl
  have hr : t.courierFrame.readyBox = s.courierFrame.readyBox := by rw [hf]
  have hn : t.courierFrame.notReadyBox = s.courierFrame.notReadyBox := by rw [hf]
  have hq : t.courierFrame.nextRequest = s.courierFrame.nextRequest := by rw [hf]
  refine .of_eq (congrArg Mailbox.content hr) (congrArg Mailbox.content hn) hq fun r ht => ?_
  rwa [hp, hf, ← hp] at ht

/-- A launch leaves the boxes alone, and the new execution waits for no room. -/
theorem quiet_launch (s : Supervisor) (now : Nat) : Quiet s (s.launch now) := by
  rcases launch_cases s now with ⟨address, h⟩ | ⟨statistics, effects, h⟩
  · rw [h]
    exact .of_eq rfl rfl rfl fun r hr => by cases hr
  · rw [h]
    exact .of_same rfl rfl rfl rfl

theorem quiet_handleReload (s : Supervisor) (entry : Entry) : Quiet s (s.handleReload entry) := by
  unfold handleReload
  simp only
  split <;> exact .of_same rfl rfl rfl rfl

theorem quiet_cancel (s : Supervisor) (reason : String) : Quiet s (s.cancel reason) := by
  unfold cancel
  split
  · exact .refl s
  · simp only [wakeAll_eq]
    refine .of_eq rfl rfl rfl fun r hr => ?_
    cases hf : s.execution with
    | none => simp [pending, mapExecutions, log, emit, hf] at hr
    | some f =>
      simp only [pending, mapExecutions, log, emit, hf, Option.map_some, Option.bind_some] at hr ⊢
      exact hr

/-! ## Moves that empty the mailboxes -/

/-- What empties both boxes and leaves no execution clears the traffic. -/
theorem Clears.of_eq (hr : t.readyBox.content = none) (hn : t.notReadyBox.content = none)
    (hq : t.nextRequest = s.nextRequest) (hx : t.execution = none) : Clears s t := by
  refine ⟨fun a => ?_, hq, hx⟩
  cases a
  · exact hr
  · exact hn

/-- What lies in the mailboxes, and the number of the next request. -/
def mail (s : Supervisor) : Option Request × Option Request × Nat :=
  (s.readyBox.content, s.notReadyBox.content, s.nextRequest)

theorem mail_reply (s : Supervisor) (number : Nat) (answer : Option Answer) :
    (s.reply number answer).mail = s.mail := by
  simp only [reply, wakeAll_eq]
  rfl

theorem mail_wakeAny (s : Supervisor) (t : Option Task) : (s.wakeAny t).mail = s.mail := by
  rw [wakeAny_eq]
  rfl

theorem content_of_take?_none {α : Type} {b : Mailbox α} (h : b.take? = none) :
    b.content = none := by
  simpa [Mailbox.take?] using h

/-- Nothing is left in the mailboxes once what lay there was answered. -/
theorem mail_discardRequests (s : Supervisor) :
    s.discardRequests.mail = (none, none, s.nextRequest) := by
  -- the mailbox for losses is emptied after the one for media
  have hlosses : ∀ v : Supervisor, v.readyBox.content = none → v.nextRequest = s.nextRequest →
      (∀ r b next, v.notReadyBox.take? = some (r, b, next) →
        ((({ v with notReadyBox := b }).reply r.number (some .accepted)).wakeAny
          (next.map Task.execution)).mail = (none, none, s.nextRequest)) ∧
      (v.notReadyBox.take? = none → v.mail = (none, none, s.nextRequest)) := by
    intro v hv hn
    refine ⟨fun r b next hb => ?_, fun hb => ?_⟩
    · rw [mail_wakeAny, mail_reply, mail, hv, hn, (Mailbox.content_of_take? hb).2]
    · rw [mail, hv, hn, content_of_take?_none hb]
  have hmedia : ∀ r b next, s.readyBox.take? = some (r, b, next) →
      ((({ s with readyBox := b }).reply r.number (some .terminated)).wakeAny
        (next.map Task.execution)).mail = (none, s.notReadyBox.content, s.nextRequest) := by
    intro r b next hb
    rw [mail_wakeAny, mail_reply, mail, (Mailbox.content_of_take? hb).2]
  unfold discardRequests
  cases hb : s.readyBox.take? with
  | some x =>
    obtain ⟨r, b, next⟩ := x
    have hm := hmedia r b next hb
    obtain ⟨hsome, hnone⟩ := hlosses _ (congrArg (·.1) hm) (congrArg (·.2.2) hm)
    simp only
    split
    · exact hsome _ _ _ ‹_›
    · exact hnone ‹_›
  | none =>
    obtain ⟨hsome, hnone⟩ := hlosses s (content_of_take?_none hb) rfl
    simp only
    split
    · exact hsome _ _ _ ‹_›
    · exact hnone ‹_›

/-- When the worker sees the end of an execution, it throws away what that execution left in the boxes. -/
theorem clears_handleEnd (s : Supervisor) (now : Nat) (r : SourceError) :
    Clears s (s.handleEnd now r) := by
  have hm : (s.handleEnd now r).mail = (none, none, s.nextRequest) := mail_discardRequests _
  have hw : (s.handleEnd now r).control.watched = none := by rw [control_handleEnd]
  refine .of_eq (congrArg (·.1) hm) (congrArg (·.2.1) hm) (congrArg (·.2.2) hm) ?_
  simpa [control] using hw

/-- Answers leave the boxes alone, whatever number of them. -/
theorem mail_replies (s : Supervisor) (rs : List Request) :
    (rs.foldl (fun s r => s.reply r.number none) s).mail = s.mail :=
  replies_eq mail mail_reply s rs

/-- A crash of the owner clears the boxes. -/
theorem clears_crash (s : Supervisor) (r : Request) : Clears s (s.crash r) := by
  unfold crash
  simp only [wakeAll_eq]
  exact .of_eq rfl rfl (congrArg (·.2.2) (mail_replies s _)) rfl

/-- A supervisor starts with empty boxes. -/
theorem clears_start (hs : s.isIdle = true) (onDemand : Bool) (query : String) :
    Clears s (s.start onDemand query) := by
  rw [start, if_pos hs]
  exact .of_eq rfl rfl rfl rfl

/-! ## What the chronicle tells -/

/-- Each request lies in the mailbox for its kind of announcement. -/
def Sorted (s : Supervisor) : Prop :=
  ∀ a r, s.letter a = some r → r.announcement.isReady = a.isReady

/-- The letters are what the two boxes hold. -/
theorem mem_letters {r : Request} : r ∈ s.letters ↔ ∃ a, s.letter a = some r := by
  constructor
  · intro h
    simp only [letters, List.mem_append, Option.mem_toList] at h
    rcases h with h | h
    · exact ⟨.ready [], h⟩
    · exact ⟨.notReady, h⟩
  · rintro ⟨a, h⟩
    simp only [letters, List.mem_append, Option.mem_toList]
    cases a with
    | ready medias => exact .inl h
    | notReady => exact .inr h

/-- Nothing is in the boxes once they are cleared. -/
theorem Clears.letters (hc : Clears s t) : t.letters = [] := by
  refine List.eq_nil_iff_forall_not_mem.2 fun r hr => ?_
  obtain ⟨a, ha⟩ := mem_letters.1 hr
  rw [hc.letter] at ha
  cases ha

/-- Whether it tells that a request was put in a mailbox or taken out of it. -/
def Happening.isPassage : Happening → Bool
  | queued _ _ | begun _ => true
  | answered _ _ | ended _ => false

/-- What is told of a move agrees with what becomes of the requests. -/
inductive Traffic (s t : Supervisor) : List Happening → Prop where
  /-- No request is put in a mailbox or passed on. -/
  | quiet {hs : List Happening} (h : Quiet s t) (hh : ∀ x ∈ hs, x.isPassage = false) :
      Traffic s t hs
  /-- The mailboxes are emptied. -/
  | clears (h : Clears s t) : Traffic s t []
  /-- A request is put in its mailbox. -/
  | posts {n : Nat} {r : Request} {hs : List Happening} (h : Posts r s t)
      (hh : ∀ x ∈ hs, x.isPassage = false) : Traffic s t (.queued n r :: hs)
  /-- A request is passed on. -/
  | begins {r : Request} (h : Begins r s t) : Traffic s t [.begun r]

/-- Nothing is noted as posted where nothing was posted. -/
theorem posted_of_quiet (h : Quiet s t) (number : Nat) : s.posted t number = [] := by
  simp only [posted, List.map_eq_nil_iff, List.filter_eq_nil_iff, Bool.not_eq_true',
    Bool.not_eq_false, List.contains_iff_mem]
  intro r hr
  obtain ⟨a, ha⟩ := mem_letters.1 hr
  exact mem_letters.2 ⟨a, h.letter a ▸ ha⟩

/-- A request that is posted is new, so it is noted, and nothing else is. -/
theorem posted_of_posts (hs : s.Sorted) {r : Request} (h : Posts r s t) (number : Nat) :
    s.posted t number = [.queued number r] := by
  have hr : r ∉ s.letters := by
    intro hr
    obtain ⟨a, ha⟩ := mem_letters.1 hr
    have hb : s.letter r.announcement = s.letter a := by
      simp only [letter, box_congr s (hs a r ha)]
    rw [h.room, ha] at hb
    cases hb
  have hf : ∀ a, (t.letter a).toList.filter (fun q => !s.letters.contains q) =
      if a.isReady = r.announcement.isReady then [r] else [] := by
    intro a
    rw [h.letter]
    split
    · simpa using hr
    · cases hb : s.letter a with
      | none => rfl
      | some x => simpa using mem_letters.2 ⟨a, hb⟩
  have hl : t.letters = (t.letter (.ready [])).toList ++ (t.letter .notReady).toList := rfl
  rw [posted, hl, List.filter_append, hf, hf]
  cases hk : r.announcement with
  | ready medias => rfl
  | notReady => rfl

theorem isPassage_ended {n : Nat} {c : Bool} {x : Happening}
    (h : x ∈ if c then [Happening.ended n] else []) : x.isPassage = false := by
  cases c
  · cases h
  · rw [List.mem_singleton.1 h]
    rfl

/-- The entries of the history for a step that posts at most one request account for the traffic of that step. -/
theorem traffic_posted (hs : s.Sorted) {number : Nat}
    (h : Quiet s t ∨ s.watches number = true ∧ ∃ r, Posts r s t)
    {rest : List Happening} (hr : ∀ x ∈ rest, x.isPassage = false) :
    Traffic s t (s.posted t number ++ rest) := by
  rcases h with h | ⟨-, r, h⟩
  · rw [posted_of_quiet h]
    exact .quiet h hr
  · rw [posted_of_posts hs h]
    exact .posts h hr

/-- The worker begins to serve the request that it takes from its box. -/
theorem begins_of_takeRequest? (hs : s.Sorted) {r : Request} (h : s.takeRequest? = some (t, r)) :
    Begins r s t := by
  rcases takeRequest?_cases h with ⟨b, next, hb, rfl⟩ | ⟨hnone, b, next, hb, rfl⟩
  · obtain ⟨hx, he⟩ := Mailbox.content_of_take? hb
    have hr : r.announcement.isReady = true := hs (.ready []) r hx
    simp only [wakeAny_eq]
    refine ⟨?_, fun a => ?_, by simp [hr], rfl, rfl⟩
    · rw [letter, box_congr s (b := .ready []) hr]
      exact hx
    · rw [hr, ← he]
      exact letter_setBox s (.ready []) a b
  · obtain ⟨hx, he⟩ := Mailbox.content_of_take? hb
    have hr : r.announcement.isReady = false := hs .notReady r hx
    simp only [wakeAny_eq]
    refine ⟨?_, fun a => ?_, fun _ a ha => ?_, rfl, rfl⟩
    · rw [letter, box_congr s (b := .notReady) hr]
      exact hx
    · rw [hr, ← he]
      exact letter_setBox s .notReady a b
    · rw [letter, box_congr s (b := .ready []) ha]
      exact hnone

theorem worker_launch (s : Supervisor) (now : Nat) : (s.launch now).worker = s.worker := by
  have hl : ∀ c : Supervisor, c.worker = c.control.worker := fun _ => rfl
  rcases control_launch s now with h | h <;> rw [hl, h] <;> rfl

theorem worker_handleEnd (s : Supervisor) (now : Nat) (r : SourceError) :
    (s.handleEnd now r).worker = s.worker := by
  have hl : ∀ c : Supervisor, c.worker = c.control.worker := fun _ => rfl
  rw [hl, hl, control_handleEnd]

theorem worker_handleReload (s : Supervisor) (entry : Entry) :
    (s.handleReload entry).worker = s.worker := by
  have hl : ∀ c : Supervisor, c.worker = c.control.worker := fun _ => rfl
  rw [hl, hl, control_handleReload]

/-- A step of the worker that does not begin to serve a request leaves no entry. -/
theorem happenings_worker (hw : ∀ r, t.worker ≠ .serving r) :
    s.happenings (.task now .worker) t = [] := by
  simp only [happenings]

/-- What the worker does passes a request on or is quiet. -/
theorem traffic_of_works (hs : s.Sorted) (h : Works now s t) :
    Traffic s t (s.happenings (.task now .worker) t) := by
  have quiet : ∀ v : Supervisor, Quiet s v → (∀ r, v.worker ≠ .serving r) →
      Traffic s v (s.happenings (.task now .worker) v) := by
    intro v hq hw
    rw [happenings_worker hw]
    exact .quiet hq (List.forall_mem_nil _)
  have clears : ∀ v : Supervisor, Clears s v → (∀ r, v.worker ≠ .serving r) →
      Traffic s v (s.happenings (.task now .worker) v) := by
    intro v hc hw
    rw [happenings_worker hw]
    exact .clears hc
  cases h with
  | begin hw =>
    have hb : Quiet s { s with worker := .selecting } := .of_same rfl rfl rfl rfl
    exact quiet _ (hb.trans (quiet_launch _ _)) (by simp [worker_launch])
  | join => exact quiet _ (.of_same rfl rfl rfl rfl) (by simp)
  | halt => exact clears _ (.of_eq rfl rfl rfl rfl) (by simp [Supervisor.halt])
  | handleEnd hw => exact clears _ (clears_handleEnd _ _ _) (by simp [worker_handleEnd, hw])
  | serve hw hc he ht =>
    have hb := begins_of_takeRequest? hs ht
    exact .begins ⟨hb.lay, hb.letter, hb.first, hb.rest⟩
  | reload hw hc hb =>
    rw [wakeAny_eq]
    refine quiet _ (Quiet.trans ?_ (quiet_handleReload _ _)) (by simp [worker_handleReload, hw])
    exact .of_same rfl rfl rfl rfl
  | retry hw hc ht hn =>
    have hb : Quiet s { s with retryAt := none } := .of_same rfl rfl rfl rfl
    exact quiet _ (hb.trans (quiet_launch _ _)) (by simp [worker_launch, hw])

/-- What is told of any move agrees with what becomes of the requests. -/
theorem traffic_move {m : Move} (hs : s.Sorted) (h : s.move m = some t) :
    Traffic s t (s.happenings m t) := by
  have quiet : ∀ {hs : List Happening}, Quiet s t → hs = [] → Traffic s t hs := by
    rintro hs hq rfl
    exact .quiet hq fun x hx => by cases hx
  cases m with
  | start onDemand query =>
    simp only [move] at h
    split at h <;> cases h
    exact .clears (clears_start ‹_› _ _)
  | cancel reason =>
    simp only [move] at h
    split at h <;> cases h
    exact quiet (quiet_cancel _ _) rfl
  | rest =>
    simp only [move] at h
    split at h <;> cases h
    exact quiet (.of_same rfl rfl rfl rfl) rfl
  | reload entry =>
    simp only [move] at h
    split at h <;> cases h
    refine quiet ?_ rfl
    unfold reload
    split <;> exact .of_same rfl rfl rfl rfl
  | setPause ms =>
    cases h
    exact quiet (.of_same rfl rfl rfl rfl) rfl
  | task now k =>
    cases k with
    | worker => exact traffic_of_works hs (works_of_stepWorker h)
    | execution n => exact traffic_posted hs (traffic_stepExecution h) fun x hx => isPassage_ended hx
    | courier n => exact quiet (quiet_stepCourier h) rfl
  | reply number answer =>
    cases h
    refine .quiet (quiet_reply _ _ _) fun x hx => ?_
    simp only [happenings] at hx
    split at hx
    · split at hx
      · rw [List.mem_singleton.1 hx]
        rfl
      · cases hx
    · cases hx
  | resume =>
    simp only [move] at h
    split at h <;> cases h
    exact quiet (.of_same rfl rfl rfl rfl) rfl
  | crash =>
    simp only [move] at h
    split at h <;> cases h
    exact .clears (clears_crash _ _)
  | flush =>
    cases h
    exact quiet (.of_same rfl rfl rfl rfl) rfl
  | giveUp number => exact quiet (quiet_giveUp h) rfl
  | aside number a =>
    have hp := traffic_posted hs (traffic_announceAside h) (List.forall_mem_nil _)
    rwa [List.append_nil] at hp

/-- Requests stay in the mailboxes for their kinds. -/
theorem Sorted.of_traffic (hs : s.Sorted) {hh : List Happening} (h : Traffic s t hh) :
    t.Sorted := by
  intro a r ha
  cases h with
  | quiet h => exact hs a r (h.letter a ▸ ha)
  | clears h =>
    rw [h.letter] at ha
    cases ha
  | posts h =>
    rw [h.letter] at ha
    split at ha
    · rename_i hk
      cases ha
      exact hk.symm
    · exact hs a r ha
  | begins h =>
    rw [h.letter] at ha
    split at ha
    · cases ha
    · exact hs a r ha

end Supervisor

end MediaPaths
