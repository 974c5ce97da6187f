import MediaPaths.Proofs.Supervision.Conduct
import MediaPaths.Proofs.Supervision.Traffic

/-!
# What is heard of a step

Of an execution one hears what is noted about it and what is written to the log. `Utters` lists what is
heard in one of its steps, and what becomes of the call in which it is: it does something that is no call,
it asks or waits for room, or the call returns.

This holds of executions that nobody watches, too: these can no longer announce anything, but a call that
waits for an answer when the worker goes may still hear one.
-/

namespace MediaPaths

/-- Whether it is a line in the log. -/
def Effect.isLine : Effect → Bool
  | .line _ _ => true
  | .wake _ => false

/-- Whether it tells that a call has returned. -/
def SourceEvent.isReturn : SourceEvent → Bool
  | .answered _ _ => true
  | _ => false

namespace Execution

/-- What it announces in the step that it is about to take or waits in. -/
def announcing? (e : Execution) : Option Announcement :=
  match e.script with
  | .announce a _ :: _ => some a
  | _ => none

/-- The number of the request of the call in which it waits. -/
def request? (e : Execution) : Option Nat :=
  match e.activity with
  | .posting r => some r.number
  | .listening k _ => some k
  | _ => none

/-- The request for whose answer it waits, by its number, and the reply that it has heard. -/
def hearing? (e : Execution) : Option (Nat × Option (Option Answer)) :=
  match e.activity with
  | .listening k y => some (k, y)
  | _ => none

/-- Only an execution that listens has heard something. -/
theorem hearing?_eq_some {e : Execution} {k : Nat} {y : Option (Option Answer)} :
    e.hearing? = some (k, y) ↔ e.activity = .listening k y := by
  unfold hearing?
  split <;> simp_all

/-- Who has no request under way hears nothing. -/
theorem hearing?_of_request? {e : Execution} (he : e.request? = none) : e.hearing? = none := by
  unfold request? at he
  unfold hearing?
  split <;> simp_all

end Execution

/-- What is heard of a supervisor. -/
structure Speech where
  /-- The kind of its source, with which each line in the log begins. -/
  kind : SourceKind
  /-- What was noted, the latest first. -/
  events : List (Stamped SourceEvent)
  /-- The lines that were written to the log. -/
  lines : List Effect

namespace Speech

/-- Something is noted. -/
def note (p : Speech) (now : Nat) (y : SourceEvent) : Speech := { p with events := ⟨now, y⟩ :: p.events }

/-- What a line in the log says, with the kind of the source. -/
def tagged (kind : SourceKind) (message : String) : String := s!"[{kind.text}] {message}"

/-- The line that says that an announcement was accepted. -/
def acceptanceLine (kind : SourceKind) (a : Announcement) : Effect :=
  .line .info (tagged kind (Supervisor.acceptance a))

/-- The lines that are written when a call returns: one if the announcement was accepted. -/
def acceptanceLines (kind : SourceKind) (a : Announcement) : Answer → List Effect
  | .accepted => [acceptanceLine kind a]
  | .refused _ => []

/-- A call returns. -/
def answer (p : Speech) (now : Nat) (a : Announcement) (x : Answer) : Speech :=
  { p.note now (.answered a x) with lines := p.lines ++ acceptanceLines p.kind a x }

end Speech

namespace Supervisor

/-- What is heard of a supervisor. -/
def speech (s : Supervisor) : Speech := ⟨s.kind, s.events, s.effects.filter (·.isLine)⟩

variable {s t u : Supervisor} {now number : Nat} {e f g : Execution} {a : Announcement} {r : Request}
  {x : Answer}

/-! ## What is not heard -/

@[simp] theorem speech_wake (s : Supervisor) (t : Task) : (s.wake t).speech = s.speech := by
  simp [speech, wake, emit, Effect.isLine]

@[simp] theorem speech_wakeAll (s : Supervisor) (ts : List Task) :
    (s.wakeAll ts).speech = s.speech := by
  have hts : (ts.map Effect.wake).filter (·.isLine) = [] := by simp [Effect.isLine]
  rw [wakeAll_eq, speech, List.filter_append, hts, List.append_nil]
  rfl

@[simp] theorem speech_wakeAny (s : Supervisor) (t : Option Task) :
    (s.wakeAny t).speech = s.speech := by
  cases t with
  | none => rfl
  | some t => exact speech_wake s t

@[simp] theorem speech_setExecution (s : Supervisor) (e : Execution) :
    (s.setExecution e).speech = s.speech := rfl

@[simp] theorem speech_setBox (s : Supervisor) (a : Announcement) (b : Mailbox Request) :
    (s.setBox a b).speech = s.speech := by
  cases a <;> rfl

@[simp] theorem speech_leaveBox (s : Supervisor) (e : Execution) (a : Announcement) :
    (s.leaveBox e a).speech = s.speech := by
  simp [leaveBox]

@[simp] theorem speech_endExecution (s : Supervisor) (e : Execution) (r : SourceError) :
    (s.endExecution e r).speech = s.speech := by
  unfold endExecution
  split
  · simp
  · exact speech_wakeAll _ _

@[simp] theorem speech_abandon (s : Supervisor) (e : Execution) (a : Announcement) :
    (s.abandon e a).speech = s.speech := by
  unfold abandon
  split
  · rfl
  · split
    · rw [speech_wake, speech_setBox]
      rfl
    · rfl

/-- Posting a request is silent. -/
theorem speech_post (h : s.post e r = some t) : t.speech = s.speech := by
  unfold post at h
  split at h
  · cases h
    simp
  · split at h <;> cases h
    simp

@[simp] theorem speech_reply (s : Supervisor) (number : Nat) (y : Option Answer) :
    (s.reply number y).speech = s.speech := by
  rw [reply, speech_wakeAll]
  rfl

/-- A call that is concluded is noted with its answer. -/
theorem speech_conclude (s : Supervisor) (now : Nat) (e : Execution) (a : Announcement) (must : Bool)
    (x : Answer) : (s.conclude now e a must x).speech = s.speech.answer now a x := by
  have hlog : ((s.logAnswer a x).note now (.answered a x)).speech = s.speech.answer now a x := by
    cases x with
    | accepted => simp [speech, logAnswer, log, emit, note, Speech.answer, Speech.note,
        Speech.acceptanceLines, Speech.acceptanceLine, Speech.tagged, Effect.isLine]
    | refused => simp [speech, logAnswer, note, Speech.answer, Speech.note, Speech.acceptanceLines]
  unfold conclude
  split
  · rw [speech_endExecution, hlog]
  · rw [speech_setExecution, hlog]

theorem letters_eq (s : Supervisor) :
    s.letters = (s.letter (.ready [])).toList ++ (s.letter .notReady).toList := rfl

/-- The letters are told by what each box holds. -/
theorem letters_congr (h : ∀ a, t.letter a = s.letter a) : t.letters = s.letters := by
  rw [letters_eq, letters_eq, h, h]

/-! ## What becomes of the execution -/

/-- What an execution announces is told by its script. -/
theorem announcing?_of_script (h : f.script = e.script) : f.announcing? = e.announcing? := by
  rw [Execution.announcing?, Execution.announcing?, h]

/-- After an execution was put back, it is the only one of its number. -/
theorem eq_of_mem_setExecution (hf : f ∈ (u.setExecution e).executions) (hn : f.number = e.number) :
    f = e :=
  (mem_setExecution hf).resolve_right fun h => h.2 hn

/-- The same for an execution that ends. -/
theorem eq_of_mem_endExecution {y : SourceError} (hf : f ∈ (u.endExecution e y).executions)
    (hn : f.number = e.number) : f = { e with activity := .ended y } := by
  unfold endExecution at hf
  simp only [wakeAll_eq] at hf
  split at hf
  · exact eq_of_mem_setExecution (u := u) hf hn
  · rename_i hw
    -- it is the one that is watched, or it is among those that remain, which have other numbers
    rcases List.mem_append.1 hf with hx | ho
    · have hx : u.execution = some f := Option.mem_toList.1 hx
      simp [watches, hx, hn] at hw
    · have hne : f.number ≠ e.number := by simpa using (List.mem_filter.1 ho).2
      exact absurd hn hne

/-- What becomes of an execution that does not ask. -/
inductive Proceeds (e f : Execution) : Prop where
  /-- It stays in the step of its script, which is no call or has not begun. -/
  | stays (hs : f.script = e.script) (hf : f.request? = none)
      (he : e.announcing? = none ∨ e.hearing? = none)
  /-- It goes on with the next one. -/
  | advances (hs : f.script = e.script.tail) (hne : e.script ≠ []) (hf : f.request? = none)
  /-- It is told something from outside, or takes up other settings. -/
  | adjusts (hs : f.script = e.script) (ha : f.activity = e.activity)
  /-- It waits for room for a request. -/
  | waits {r : Request} (hs : f.script = e.script) (ha : f.activity = .posting r)
      (hr : e.announcing? = some r.announcement) (he : e.hearing? = none)
  /-- It ends. -/
  | ends (hs : f.script = e.script) (ha : f.isAlive = false)

/-- With what a call returns: with the reply that it has heard, or without one because the execution is being
stopped or nobody watches it. -/
inductive Resolves (s : Supervisor) (e : Execution) : Answer → Prop where
  /-- It has heard a reply. -/
  | heard {k : Nat} {y : Option Answer} (ha : e.hearing? = some (k, some y)) :
      Resolves s e (.ofReply y)
  /-- It has heard none. -/
  | deaf (hd : e.cancelled = true ∨ s.watches e.number = false) (ha : ∀ k y, e.hearing? ≠ some (k, some y)) :
      Resolves s e .terminated

/-- What is heard in a step of an execution, and what becomes of the execution. -/
inductive Utters (now : Nat) (s : Supervisor) (e : Execution) (t : Supervisor) : Prop where
  /-- No call asks or returns. -/
  | other (hl : e.announcing? = none ∨ t.letters = s.letters)
      (hc : ∀ f ∈ t.executions, f.number = e.number → Proceeds e f)
      (hp : t.speech = s.speech ∨ ∃ y, y.isReturn = false ∧ t.speech = s.speech.note now y)
  /-- It writes a line of its own to the log. -/
  | writes {level : LogLevel} {message : String} (hs : e.script.head? = some (.log level message))
      (hc : ∀ f ∈ t.executions, f.number = e.number → Proceeds e f) (hp : t.events = s.events)
  /-- It asks: its request is put in a mailbox. -/
  | asks {r : Request} (ha : e.announcing? = some r.announcement) (he : e.hearing? = none)
      (hs : s.letter r.announcement = none) (ht : t.letter r.announcement = some r)
      (hc : ∀ f ∈ t.executions, f.number = e.number →
        f.script = e.script ∧ f.activity = .listening r.number none)
      (hp : t.speech = s.speech)
  /-- The call returns. -/
  | returns {a : Announcement} {x : Answer} (ha : e.announcing? = some a) (hx : Resolves s e x)
      (hl : t.letters = s.letters)
      (hc : ∀ f ∈ t.executions, f.number = e.number → Proceeds e f)
      (hp : t.speech = s.speech.answer now a x)

/-- An execution that goes on to its next step proceeds. -/
theorem proceeds_advance (hne : e.script ≠ []) (hf : f ∈ (u.setExecution e.advance).executions)
    (hn : f.number = e.number) : Proceeds e f := by
  obtain rfl := eq_of_mem_setExecution (e := e.advance) hf hn
  exact .advances rfl hne rfl

/-- An execution that ends proceeds. -/
theorem proceeds_ended {y : SourceError} (hf : f ∈ (u.endExecution e y).executions)
    (hn : f.number = e.number) : Proceeds e f := by
  obtain rfl := eq_of_mem_endExecution hf hn
  exact .ends rfl rfl

/-- Who announces something has a step of the script before it. -/
theorem script_ne_nil_of_announcing? (ha : e.announcing? = some a) : e.script ≠ [] := by
  intro hs
  simp [Execution.announcing?, hs] at ha

/-- A call that is concluded lets the execution proceed, whether it goes on or ends. -/
theorem proceeds_conclude {must : Bool} (ha : e.announcing? = some a)
    (hf : f ∈ (u.conclude now e a must x).executions) (hn : f.number = e.number) : Proceeds e f := by
  unfold conclude at hf
  split at hf
  · exact proceeds_ended hf hn
  · exact proceeds_advance (script_ne_nil_of_announcing? ha) hf hn

/-! ## The steps -/

/-- A step that is no announcement utters no return of a call. -/
theorem utters_advance (hne : e.script ≠ []) (ha : e.announcing? = none)
    (hp : u.speech = s.speech ∨ ∃ y, y.isReturn = false ∧ u.speech = s.speech.note now y) :
    Utters now s e (u.setExecution e.advance) :=
  .other (.inl ha) (fun _ hf hn => proceeds_advance hne hf hn) hp

/-- An execution that gives in to its cancellation outside a call utters no return. -/
theorem utters_obey (s : Supervisor) (now : Nat) (ha : e.announcing? = none) :
    Utters now s e (s.obey now e) :=
  .other (.inl ha) (fun _ hf hn => proceeds_ended hf hn)
    (.inr ⟨.cancelled, rfl, speech_endExecution (s.note now .cancelled) e .exited⟩)

/-- A call that is concluded utters the answer that resolves it, and nothing else. -/
theorem utters_conclude {must : Bool} (hu : u.speech = s.speech) (hl : u.letters = s.letters)
    (ha : e.announcing? = some a) (hx : Resolves s e x) :
    Utters now s e (u.conclude now e a must x) := by
  have hletters := letters_congr (quiet_conclude u now e a must x).letter
  refine .returns ha hx (hletters.trans hl) (fun _ hf hn => proceeds_conclude ha hf hn) ?_
  rw [speech_conclude, hu]

/-- A call that is posted, or gets in line, utters nothing yet. -/
theorem utters_post (ha : e.announcing? = some r.announcement) (he : e.hearing? = none)
    (hu : u.speech = s.speech) (hl : ∀ a, u.letter a = s.letter a) (h : u.post e r = some t) :
    Utters now s e t := by
  have hp := (speech_post h).trans hu
  unfold post at h
  split at h
  · rename_i b hb
    cases h
    obtain ⟨hroom, hput⟩ := Mailbox.content_of_post? hb
    have hletter := letter_setBox u r.announcement r.announcement b
    rw [if_pos rfl, hput] at hletter
    refine .asks ha he ((hl _).symm.trans hroom) hletter (fun f hf hn => ?_) hp
    have hf' : f = { e with activity := .listening r.number none } :=
      eq_of_mem_setExecution (u := u.setBox r.announcement b) hf hn
    rw [hf']
    exact ⟨rfl, rfl⟩
  · split at h <;> cases h
    refine .other (.inr (letters_congr fun a => ?_)) (fun f hf hn => ?_) (.inl hp)
    · rw [← hl]
      refine (letter_setBox u r.announcement a _).trans ?_
      split
      · rename_i hk
        show (u.box r.announcement).content = (u.box a).content
        rw [box_congr u hk]
      · rfl
    · rw [eq_of_mem_setExecution hf hn]
      exact .waits rfl rfl ha he

/-- An execution announces nothing only because it is being stopped or because nobody watches it. -/
theorem cases_of_isDeaf (h : s.isDeaf e a = true) : e.cancelled = true ∨ s.watches e.number = false := by
  simp only [isDeaf, Bool.or_eq_true, Bool.and_eq_true, Bool.not_eq_true'] at h
  exact h.imp_left And.left

/-- One step of a call: it goes on in silence, or utters the answer that resolves it. -/
theorem utters_stepAnnounce {must : Bool}
    (hc : ∀ r, e.activity = .posting r → e.announcing? = some r.announcement) (ha : e.announcing? = some a)
    (h : s.stepAnnounce now e a must = some t) : Utters now s e t := by
  have hhearing : (∀ k y, e.activity ≠ .listening k y) → e.hearing? = none := by
    intro hact
    unfold Execution.hearing?
    split
    · exact absurd ‹_› (hact _ _)
    · rfl
  unfold stepAnnounce at h
  split at h
  · rename_i k y hact
    cases h
    exact utters_conclude rfl rfl ha (.heard (Execution.hearing?_eq_some.2 hact))
  · rename_i k hact
    split at h <;> cases h
    rename_i hcan
    refine utters_conclude rfl rfl ha (.deaf (.inl hcan) fun j y hy => ?_)
    cases hact.symm.trans (Execution.hearing?_eq_some.1 hy)
  · rename_i r hact
    have hnone : e.hearing? = none := hhearing (by simp [hact])
    split at h
    · rename_i hd
      cases h
      exact utters_conclude (speech_leaveBox s e a) (letters_congr (quiet_leaveBox s e a).letter) ha
        (.deaf (cases_of_isDeaf hd) (by simp [hnone]))
    · have hr : some r.announcement = some a := (hc r hact).symm.trans ha
      cases hr
      exact utters_post (hc r hact) hnone rfl (fun _ => rfl) h
  · rename_i hheard hlisten _
    have hnone : e.hearing? = none := by
      refine hhearing fun k y => ?_
      cases y with
      | none => exact hlisten k
      | some y => exact hheard k y
    split at h
    · rename_i hd
      cases h
      exact utters_conclude rfl rfl ha (.deaf (cases_of_isDeaf hd) (by simp [hnone]))
    · let u : Supervisor := { s with nextRequest := s.nextRequest + 1 }
      have hl : ∀ b, u.letter b = s.letter b := fun b => by cases b <;> rfl
      exact utters_post (u := u) (r := ⟨s.nextRequest, a⟩) ha hnone rfl hl h

/-- A wait utters nothing. -/
theorem utters_stepRest {ms : Nat} (ha : e.announcing? = none) (hne : e.script ≠ [])
    (h : s.stepRest now ms e = some t) : Utters now s e t := by
  unfold stepRest at h
  split at h
  · split at h <;> cases h
    exact utters_advance hne ha (.inl rfl)
  · cases h
    refine .other (.inl ha) (fun f hf hn => ?_) (.inl rfl)
    rw [eq_of_mem_setExecution hf hn]
    exact .stays rfl rfl (.inl ha)

/-- Taking note of new settings is no return of a call. -/
theorem speech_receive (h : s.receive now e = some (u, g)) :
    ∃ y, y.isReturn = false ∧ u.speech = s.speech.note now y := by
  unfold receive at h
  obtain ⟨⟨entry, b, next⟩, -, h⟩ := Option.map_eq_some_iff.1 h
  cases h
  exact ⟨.reloaded entry, rfl, speech_wakeAny _ _⟩

/-- Taking up other settings changes an execution in nothing but its inbox. -/
theorem script_receive (h : s.receive now e = some (u, g)) :
    (∃ b, g = { e with inbox := b }) ∧ ∀ f ∈ u.executions, f.number = e.number → f = g := by
  unfold receive at h
  obtain ⟨⟨entry, b, next⟩, -, h⟩ := Option.map_eq_some_iff.1 h
  cases h
  refine ⟨⟨b, rfl⟩, fun f hf hn => ?_⟩
  rw [wakeAny_eq] at hf
  exact eq_of_mem_setExecution (u := s) (e := { e with inbox := b }) hf hn

/-- Whatever the script says next, the step utters what it should. -/
theorem utters_stepScript
    (hc : ∀ r, e.activity = .posting r → e.announcing? = some r.announcement)
    (h : s.stepScript now e = some t) : Utters now s e t := by
  have hhead : ∀ {k : SourceStep} {ks : Script}, e.script = k :: ks →
      (∀ a must, k ≠ .announce a must) → e.script ≠ [] ∧ e.announcing? = none := by
    intro k ks hs hk
    refine ⟨by simp [hs], ?_⟩
    unfold Execution.announcing?
    rw [hs]
    split
    · rename_i a must _ heq
      cases heq
      exact absurd rfl (hk a must)
    · rfl
  unfold stepScript at h
  split at h
  case h_1 hs =>
    have ha : e.announcing? = none := by rw [Execution.announcing?, hs]
    split at h
    · cases h
      exact utters_obey s now ha
    · obtain ⟨⟨v, g⟩, hr, rfl⟩ := Option.map_eq_some_iff.1 h
      obtain ⟨⟨b, rfl⟩, hg⟩ := script_receive hr
      exact .other (.inl ha) (fun f hf hn => hg f hf hn ▸ .adjusts rfl rfl) (.inr (speech_receive hr))
  case h_2 hs => exact utters_stepAnnounce hc (by rw [Execution.announcing?, hs]) h
  case h_3 hs =>
    cases h
    obtain ⟨hne, ha⟩ := hhead hs nofun
    exact utters_advance hne ha (.inl (speech_abandon s e _))
  case h_4 hs =>
    cases h
    exact .writes (by rw [hs, List.head?_cons])
      (fun _ hf hn => proceeds_advance (by simp [hs]) hf hn) rfl
  case h_5 hs =>
    obtain ⟨hne, ha⟩ := hhead hs nofun
    split at h
    · cases h
      exact utters_obey s now ha
    · exact utters_stepRest ha hne h
  case h_6 hs =>
    obtain ⟨hne, ha⟩ := hhead hs nofun
    exact utters_stepRest ha hne h
  case h_7 hs =>
    obtain ⟨hne, ha⟩ := hhead hs nofun
    split at h <;> cases h
    exact utters_advance hne ha (.inr ⟨.cancelled, rfl, rfl⟩)
  case h_8 hs =>
    obtain ⟨hne, ha⟩ := hhead hs nofun
    split at h
    · cases h
      exact utters_obey s now ha
    · obtain ⟨⟨v, g⟩, hr, rfl⟩ := Option.map_eq_some_iff.1 h
      obtain ⟨⟨b, rfl⟩, -⟩ := script_receive hr
      have hp := speech_receive hr
      refine .other (.inl ha) (fun f hf hn => ?_) (.inr hp)
      rw [eq_of_mem_setExecution hf hn]
      exact .advances rfl hne rfl
  case h_9 hs =>
    cases h
    obtain ⟨hne, ha⟩ := hhead hs nofun
    exact utters_advance hne ha (.inr ⟨.inspected e.cancelled, rfl, rfl⟩)
  case h_10 hs =>
    cases h
    exact .other (.inl (hhead hs nofun).2) (fun _ hf hn => proceeds_ended hf hn)
      (.inl (speech_endExecution s e _))

/-- Whatever step an execution takes, something of this is heard, if whoever waits for room does so in
the call of the request. -/
theorem utters_stepExecution
    (hc : ∀ e ∈ s.executions, ∀ r, e.activity = .posting r → e.announcing? = some r.announcement)
    (h : s.stepExecution now number = some t) :
    ∃ e, s.execution? number = some e ∧ e.isAlive = true ∧ Utters now s e t := by
  obtain ⟨e, he, halive, -⟩ := acts_stepExecution h
  refine ⟨e, he, halive, ?_⟩
  unfold stepExecution at h
  rw [he] at h
  simp only at h
  split at h
  · cases h
  · rename_i hact
    cases h
    refine .other (.inr rfl) (fun f hf hn => ?_) (.inr ⟨.launched e.address e.entry, rfl, rfl⟩)
    rw [eq_of_mem_setExecution hf hn]
    exact .stays rfl rfl (.inr (by rw [Execution.hearing?, hact]))
  · exact utters_stepScript (hc e (List.mem_of_find?_eq_some he)) h

/-- A request that lies in its mailbox and did not before was put there. -/
theorem posts_of_asked (ht : Quiet s t ∨ s.watches number = true ∧ ∃ r, Posts r s t)
    (hnone : s.letter r.announcement = none) (hsome : t.letter r.announcement = some r) :
    Posts r s t := by
  rcases ht with hq | ⟨-, q, hp⟩
  · rw [hq.letter, hnone] at hsome
    cases hsome
  · have hqr : q = r := by
      rw [hp.letter] at hsome
      split at hsome
      · exact Option.some.inj hsome
      · rw [hnone] at hsome
        cases hsome
    exact hqr ▸ hp

/-- A step of an execution changes no other one. -/
theorem mem_of_stepExecution (h : s.stepExecution now number = some t) (hf : f ∈ t.executions)
    (hn : f.number ≠ number) : f ∈ s.executions := by
  obtain ⟨e, he, -, hacts⟩ := acts_stepExecution h
  have hset : ∀ e' : Execution, e'.fixed = e.fixed → t.execution = (s.setExecution e').execution →
      t.orphans = (s.setExecution e').orphans → f ∈ s.executions := by
    intro e' hfix hx ho
    have hn' : e'.number = number :=
      (Execution.number_of_fixed hfix).trans (number_of_execution? he)
    have ht : t.executions = (s.setExecution e').executions := by rw [executions, hx, ho, executions]
    rcases mem_setExecution (ht ▸ hf) with rfl | ⟨hf, -⟩
    · exact absurd hn' hn
    · exact hf
  -- it is replaced by another one of its number, or it leaves those that nobody watches
  cases hacts with
  | goes e' hfix _ _ ht | takes e' hfix _ _ ht | ends e' hfix _ _ _ ht =>
    exact hset e' hfix (congrArg Cast.execution ht) (congrArg Cast.orphans ht)
  | leaves _ ht =>
    have hx : t.execution = s.execution := congrArg Cast.execution ht
    have ho : t.orphans = s.orphans.filter (·.number != e.number) := congrArg Cast.orphans ht
    rw [executions, hx, ho] at hf
    exact List.mem_append.2 ((List.mem_append.1 hf).imp_right fun hf => (List.mem_filter.1 hf).1)

end Supervisor

end MediaPaths
