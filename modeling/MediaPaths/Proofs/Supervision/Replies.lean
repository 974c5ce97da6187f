import MediaPaths.Proofs.Supervision.Handshake
import MediaPaths.Proofs.Supervision.Overlap

/-!
# Replies and the calls that hear them

A call that announces something asks with a request of its own, and the owner replies to a request by its
number. `hearing` tells, from these words alone, which reply a call is to return with: the first one to the
request of this very call. Whatever the order of moves, that is what the execution has heard. This holds
after a crash of the owner, too, which throws away the requests that were on their way.

The invariant is `Hears`.
-/

namespace MediaPaths

/-- A call that announces something. It is known by its execution and by what is left of the script. -/
structure Call where
  /-- The execution. -/
  execution : Nat
  /-- The steps from that of the call on. -/
  rest : Script
  deriving DecidableEq

/-- The call in which it is, if it is in one. -/
def Execution.call (e : Execution) : Call := ⟨e.number, e.script⟩

/-- What passes between calls and whoever answers them. -/
inductive Word where
  /-- A call has put its request in a mailbox. -/
  | asked (c : Call) (r : Request)
  /-- The request of a number is replied to, or thrown away. -/
  | replied (number : Nat) (answer : Option Answer)

/-- The request of a call, by its number, and what was replied to it, after one more word. Only the first
reply counts. -/
def Word.after (c : Call) (p : Option (Nat × Option (Option Answer))) :
    Word → Option (Nat × Option (Option Answer))
  | .asked d r => if d = c then some (r.number, none) else p
  | .replied k x => p.map fun q => if q.1 = k then (k, q.2.or (some x)) else q

/-- The request of a call, by its number, and what was replied to it. -/
def hearing (c : Call) (ws : List Word) : Option (Nat × Option (Option Answer)) :=
  ws.foldl (Word.after c) none

/-- What was replied to the request of a call. -/
def replyTo (c : Call) (ws : List Word) : Option (Option Answer) := (hearing c ws).bind (·.2)

section

variable {c d : Call} {ws : List Word} {r : Request} {k : Nat} {x : Option Answer}

/-- A call that asks again waits for the new request and forgets the old one. -/
theorem hearing_concat_asked :
    hearing c (ws ++ [.asked d r]) = if d = c then some (r.number, none) else hearing c ws := by
  rw [hearing, List.foldl_append]
  rfl

/-- A reply is heard by a call that waits for that very request, unless it has heard one already. -/
theorem hearing_concat_replied :
    hearing c (ws ++ [.replied k x]) =
      (hearing c ws).map fun q => if q.1 = k then (k, q.2.or (some x)) else q := by
  rw [hearing, List.foldl_append]
  rfl

/-- A call hears nothing as long as it has asked nothing. -/
theorem hearing_eq_none : hearing c ws = none ↔ ∀ r, .asked c r ∉ ws := by
  induction ws using List.reverseRecOn with
  | nil => simp [hearing]
  | append_singleton ws w ih =>
    cases w with
    | asked d r =>
      rw [hearing_concat_asked]
      by_cases hd : d = c
      · subst hd
        exact iff_of_false (by simp) fun hall => hall r (by simp)
      · simp [ih, hd, Ne.symm hd]
    | replied k x => simp [hearing_concat_replied, ih]

end

namespace Supervisor

variable {s t u : Supervisor} {m : Move} {ms : List Move} {h hs : List Happening} {ws : List Word}
  {e f : Execution} {n now : Nat} {r : Request} {x : Option Answer}

/-! ## The words of a run -/

/-- The requests that lie in a mailbox and did not before. -/
def fresh (s t : Supervisor) : List Request := t.letters.filter fun r => !s.letters.contains r

/-- The words of a move. -/
def wordsIn (s : Supervisor) (m : Move) (t : Supervisor) : List Word :=
  match m with
  | .task _ (.execution n) =>
    match s.execution? n with
    | some e => ((s.fresh t).filter fun r => e.announcing? == some r.announcement).map (.asked e.call)
    | none => []
  | .reply number answer => [.replied number answer]
  | .crash => (s.served.toList ++ s.letters).map fun r => .replied r.number none
  | _ => []

/-- The words of some moves. -/
def words (s : Supervisor) : List Move → List Word
  | [] => []
  | m :: ms =>
    match s.move m with
    | some t => s.wordsIn m t ++ t.words ms
    | none => []

/-- The words of a run are spoken move by move. -/
theorem words_concat (hs : s.run ms = some t) (hm : t.move m = some u) :
    s.words (ms ++ [m]) = s.words ms ++ t.wordsIn m u := by
  induction ms generalizing s with
  | nil =>
    cases hs
    simp [words, hm]
  | cons m' ms ih =>
    obtain ⟨v, hv, hs⟩ := Option.bind_eq_some_iff.1 hs
    simp [words, hv, ih hs]

/-! ## Letters belong to the execution that is held -/

/-- An execution that puts a request in a mailbox is watched. -/
theorem held_of_queued (hm : s.move m = some t) (hq : .queued n r ∈ s.happenings m t) :
    ∃ a, t.held = some (n, a) := by
  have hheld : ∀ k, t.frame = s.frame → Quiet s t ∨ s.watches k = true ∧ (∃ r, Posts r s t) →
      .queued n r ∈ s.posted t k → ∃ a, t.held = some (n, a) := by
    intro k hframe htraffic hq
    obtain rfl := mem_posted hq
    have hw : s.watches n = true := by
      rcases htraffic with hquiet | ⟨hw, -⟩
      · rw [posted_of_quiet hquiet] at hq
        cases hq
      · exact hw
    have hwatched : t.execution.map (·.number) = s.execution.map (·.number) :=
      congrArg Prod.snd hframe
    unfold watches at hw
    split at hw
    · rename_i e he
      rw [he, Option.map_some] at hwatched
      obtain ⟨f, hf, hn⟩ := Option.map_eq_some_iff.1 hwatched
      exact ⟨f.isAlive, by rw [held, hf, Option.map_some, hn, eq_of_beq hw]⟩
    · cases hw
  cases m with
  | task now k =>
    cases k with
    | worker =>
      simp only [happenings] at hq
      split at hq <;> simp at hq
    | execution k =>
      have hq : .queued n r ∈ s.posted t k := by
        rcases List.mem_append.1 hq with hq | hq
        · exact hq
        · split at hq <;> simp at hq
      exact hheld k (frame_stepExecution hm) (traffic_stepExecution hm) hq
    | courier k => cases hq
  | aside k a => exact hheld k (frame_announceAside hm) (traffic_announceAside hm) hq
  | reply number answer =>
    simp only [happenings] at hq
    split at hq
    · split at hq <;> simp at hq
    · cases hq
  | _ => cases hq

/-- When the worker lets go of an execution, the mailboxes are emptied. -/
theorem Turns.held_of_mem_letters {a : Bool} (ht : Turns m s t hs) (hh : s.held = some (n, a))
    (hr : r ∈ t.letters) : ∃ b, t.held = some (n, b) := by
  cases ht with
  | still hh' => exact ⟨a, hh'.trans hh⟩
  | leaves _ hh' => exact ⟨a, hh'.trans hh⟩
  | ends hs' hh' =>
    rw [hs'] at hh
    cases hh
    exact ⟨false, hh'⟩
  | launch hs' =>
    rw [hs'] at hh
    cases hh
  | reap _ _ _ _ hb | forsakes _ _ _ _ hb =>
    rw [hb] at hr
    cases hr

/-- A move that turns the history keeps it tended. -/
theorem Tended.turns (hd : Tended h s) (hl : s.Sorted) (ht : Turns m s t (s.happenings m t))
    (hm : s.move m = some t) : Tended (h ++ s.happenings m t) t := by
  intro r hr
  rcases (traffic_move hl hm).mem_letters hr with hold | ⟨n, hnew⟩
  · obtain ⟨n, a, hheld, hq⟩ := hd r hold
    obtain ⟨b, hb⟩ := ht.held_of_mem_letters hheld hr
    exact ⟨n, b, hb, List.mem_append_left _ hq⟩
  · obtain ⟨b, hb⟩ := held_of_queued hm hnew
    exact ⟨n, b, hb, List.mem_append_right _ hnew⟩

/-- Two requests of one number that were put in mailboxes are one, put there by one execution. -/
theorem Ledger.eq_of_number {q : Request} {k : Nat} (hl : Ledger h s) (hr : .queued n r ∈ h)
    (hq : .queued k q ∈ h) (hn : r.number = q.number) : n = k ∧ r = q := by
  by_contra hne
  have hne' : Happening.queued n r ≠ .queued k q := fun heq => hne (by cases heq; exact ⟨rfl, rfl⟩)
  rcases before_or_before hr hq hne' with hb | hb
  · exact hl.distinct n r k q hb hn
  · exact hl.distinct k q n r hb hn.symm

/-! ## What calls have heard -/

/-- How the words agree with what the executions have heard. -/
structure Hears (h : List Happening) (ws : List Word) (s : Supervisor) : Prop where
  /-- A call asks by putting its request in a mailbox. -/
  queued : ∀ c r, .asked c r ∈ ws → .queued c.execution r ∈ h
  /-- Calls are those of executions that were launched. -/
  launched : ∀ c r, .asked c r ∈ ws → c.execution < s.launches
  /-- Each call has one request, and no two of them have the same number. -/
  unique : ∀ c r d q, .asked c r ∈ ws → .asked d q ∈ ws → c = d ∨ r.number = q.number → c = d ∧ r = q
  /-- An execution goes on from where it has asked. -/
  later : ∀ c r, .asked c r ∈ ws → ∀ e ∈ s.executions, e.number = c.execution → e.script <:+ c.rest
  /-- What an execution has heard is what was replied to the request of its call. -/
  calls : ∀ e ∈ s.executions, e.isAlive = true → hearing e.call ws = e.hearing?
  /-- An execution waits for room in the call of the request. -/
  posting : ∀ e ∈ s.executions, ∀ r, e.activity = .posting r → e.announcing? = some r.announcement
  /-- It waits for the answer to what it announces. -/
  waiting : ∀ e ∈ s.executions, ∀ k y, e.hearing? = some (k, y) →
    ∃ r, .asked e.call r ∈ ws ∧ r.number = k ∧ e.announcing? = some r.announcement

/-- An execution that announces nothing waits for no answer. -/
theorem Hears.hearing? (hh : Hears h ws s) (he : e ∈ s.executions) (ha : e.announcing? = none) :
    e.hearing? = none := by
  refine Option.eq_none_iff_forall_ne_some.2 fun p hp => ?_
  obtain ⟨r, -, -, hr⟩ := hh.waiting e he p.1 p.2 hp
  rw [ha] at hr
  cases hr

/-- Where an execution comes from that is there after a move in which it does not ask. -/
def Descends (s t : Supervisor) : Prop :=
  ∀ f ∈ t.executions,
    (∃ e ∈ s.executions, f.number = e.number ∧ (f.isAlive = true → e.isAlive = true) ∧
      Proceeds e f) ∨
    f.number = s.launches ∧ f.request? = none

/-- The call that an execution is in is told by its number and what is left of its script. -/
theorem call_congr (hn : f.number = e.number) (hs : f.script = e.script) : f.call = e.call := by
  rw [Execution.call, Execution.call, hn, hs]

/-- Only an execution that is alive waits for an answer. -/
theorem isAlive_of_hearing? {p : Nat × Option (Option Answer)} (he : e.hearing? = some p) :
    e.isAlive = true := by
  simp [Execution.isAlive, Execution.result?, Execution.hearing?_eq_some.1 he]

theorem hearing?_congr (ha : f.activity = e.activity) : f.hearing? = e.hearing? := by
  rw [Execution.hearing?, Execution.hearing?, ha]

/-- What was heard stays heard as the history grows. -/
theorem Hears.mono (hh : Hears h ws s) (hs : List Happening) : Hears (h ++ hs) ws s :=
  { hh with queued := fun c r hr => List.mem_append_left _ (hh.queued c r hr) }

/-- Nobody asks and nobody is replied to. -/
theorem Hears.descends (hh : Hears h ws s) (hd : Descends s t) (hl : s.launches ≤ t.launches) :
    Hears h ws t := by
  have hnew : ∀ c r, .asked c r ∈ ws → c.execution ≠ s.launches := fun c r hr =>
    Nat.ne_of_lt (hh.launched c r hr)
  refine ⟨hh.queued, fun c r hr => Nat.lt_of_lt_of_le (hh.launched c r hr) hl, hh.unique,
    fun c r hr f hf hn => ?_, fun f hf ha => ?_, fun f hf r hact => ?_, fun f hf k y hy => ?_⟩
  · rcases hd f hf with ⟨e, he, hne, -, hp⟩ | ⟨hne, -⟩
    · have hsuffix := hh.later c r hr e he (hne.symm.trans hn)
      cases hp with
      | stays hs | adjusts hs | waits hs | ends hs => exact hs ▸ hsuffix
      | advances hs => exact hs ▸ (List.tail_suffix e.script).trans hsuffix
    · exact absurd (hn.symm.trans hne) (hnew c r hr)
  · rcases hd f hf with ⟨e, he, hne, halive, hp⟩ | ⟨hne, hreq⟩
    · have hcalls := hh.calls e he (halive ha)
      cases hp with
      | stays hs hreq hfree =>
        have hnone : e.hearing? = none := hfree.elim (hh.hearing? he) id
        rw [call_congr hne hs, hcalls, hnone, Execution.hearing?_of_request? hreq]
      | advances hs hscript hreq =>
        rw [Execution.hearing?_of_request? hreq, hearing_eq_none]
        -- whatever the execution has asked, it has asked before it came to this step
        intro r hr
        have hlen := (hh.later f.call r hr e he hne.symm).length_le
        have hshort : f.call.rest.length < e.script.length := by
          have hpos := List.length_pos_iff.2 hscript
          simp only [Execution.call, hs, List.length_tail]
          omega
        omega
      | adjusts hs hact => rw [call_congr hne hs, hcalls, hearing?_congr hact]
      | waits hs hact _ hnone =>
        rw [call_congr hne hs, hcalls, hnone, Execution.hearing?, hact]
      | ends _ hdead => simp [hdead] at ha
    · rw [Execution.hearing?_of_request? hreq, hearing_eq_none]
      exact fun r hr => hnew f.call r hr hne
  · rcases hd f hf with ⟨e, he, -, -, hp⟩ | ⟨-, hreq⟩
    · cases hp with
      | stays _ hreq | advances _ _ hreq => simp [Execution.request?, hact] at hreq
      | adjusts hs hact' =>
        rw [announcing?_of_script hs]
        exact hh.posting e he r (hact' ▸ hact)
      | waits hs hact' hr =>
        rw [announcing?_of_script hs]
        cases hact'.symm.trans hact
        exact hr
      | ends _ hdead => simp [Execution.isAlive, Execution.result?, hact] at hdead
    · simp [Execution.request?, hact] at hreq
  · have hact := Execution.hearing?_eq_some.1 hy
    rcases hd f hf with ⟨e, he, hne, -, hp⟩ | ⟨-, hreq⟩
    · cases hp with
      | stays _ hreq | advances _ _ hreq => simp [Execution.request?, hact] at hreq
      | adjusts hs hact' =>
        rw [announcing?_of_script hs, call_congr hne hs]
        exact hh.waiting e he k y ((hearing?_congr hact').symm.trans hy)
      | waits _ hact' => cases hact'.symm.trans hact
      | ends _ hdead => simp [Execution.isAlive, Execution.result?, hact] at hdead
    · simp [Execution.request?, hact] at hreq

/-- An execution that asks waits from then on for the reply to this request, since its number is new. -/
theorem Hears.asks (hh : Hears h ws s) (he : e ∈ s.executions) (halive : e.isAlive = true)
    (hnone : e.hearing? = none) (ha : e.announcing? = some r.announcement)
    (hlt : e.number < s.launches) (hl : s.launches ≤ t.launches)
    (hfresh : ∀ n q, .queued n q ∈ h → q.number ≠ r.number) (hq : .queued e.number r ∈ hs)
    (hother : ∀ f ∈ t.executions, f.number ≠ e.number → f ∈ s.executions)
    (hself : ∀ f ∈ t.executions, f.number = e.number →
      f.script = e.script ∧ f.activity = .listening r.number none) :
    Hears (h ++ hs) (ws ++ [.asked e.call r]) t := by
  -- the call is new since nothing is heard in it, and the request since its number is
  have hcall : ∀ q, .asked e.call q ∉ ws := hearing_eq_none.1 ((hh.calls e he halive).trans hnone)
  have hne : ∀ f : Execution, f.number ≠ e.number → e.call ≠ f.call := fun f hf heq =>
    hf (congrArg Call.execution heq).symm
  have hmem : ∀ c q, .asked c q ∈ ws ++ [.asked e.call r] →
      .asked c q ∈ ws ∨ c = e.call ∧ q = r := fun c q hcq => by simpa using hcq
  have hlast : .asked e.call r ∈ ws ++ [.asked e.call r] := by simp
  refine ⟨fun c q hcq => ?_, fun c q hcq => ?_, fun c q d q' hcq hdq heq => ?_,
    fun c q hcq f hf hn => ?_, fun f hf hfalive => ?_, fun f hf q hact => ?_, fun f hf k y hy => ?_⟩
  · rcases hmem c q hcq with hcq | ⟨rfl, rfl⟩
    · exact List.mem_append_left _ (hh.queued c q hcq)
    · exact List.mem_append_right _ hq
  · rcases hmem c q hcq with hcq | ⟨rfl, rfl⟩
    · exact Nat.lt_of_lt_of_le (hh.launched c q hcq) hl
    · exact Nat.lt_of_lt_of_le hlt hl
  · rcases hmem c q hcq with hc | ⟨rfl, rfl⟩ <;> rcases hmem d q' hdq with hd | ⟨rfl, rfl⟩
    · exact hh.unique c q d q' hc hd heq
    · rcases heq with rfl | heq
      · exact absurd hc (hcall q)
      · exact absurd heq (hfresh _ q (hh.queued c q hc))
    · rcases heq with rfl | heq
      · exact absurd hd (hcall q')
      · exact absurd heq.symm (hfresh _ q' (hh.queued d q' hd))
    · exact ⟨rfl, rfl⟩
  · by_cases hfn : f.number = e.number
    · obtain ⟨hscript, -⟩ := hself f hf hfn
      rw [hscript]
      rcases hmem c q hcq with hcq | ⟨rfl, -⟩
      · exact hh.later c q hcq e he (hfn.symm.trans hn)
      · exact List.suffix_refl _
    · rcases hmem c q hcq with hcq | ⟨rfl, -⟩
      · exact hh.later c q hcq f (hother f hf hfn) hn
      · exact absurd hn hfn
  · rw [hearing_concat_asked]
    by_cases hfn : f.number = e.number
    · obtain ⟨hscript, hact⟩ := hself f hf hfn
      rw [if_pos (call_congr hfn hscript).symm, Execution.hearing?, hact]
    · rw [if_neg (hne f hfn)]
      exact hh.calls f (hother f hf hfn) hfalive
  · by_cases hfn : f.number = e.number
    · obtain ⟨-, hact'⟩ := hself f hf hfn
      cases hact'.symm.trans hact
    · exact hh.posting f (hother f hf hfn) q hact
  · by_cases hfn : f.number = e.number
    · obtain ⟨hscript, hact⟩ := hself f hf hfn
      rw [call_congr hfn hscript, announcing?_of_script hscript]
      cases hact.symm.trans (Execution.hearing?_eq_some.1 hy)
      exact ⟨r, hlast, rfl, ha⟩
    · obtain ⟨q, hq, hk, hann⟩ := hh.waiting f (hother f hf hfn) k y hy
      exact ⟨q, List.mem_append_left _ hq, hk, hann⟩

/-- What an execution has heard after a reply: the reply, if it waits for that request and had heard none. -/
theorem hearing?_hear (number : Nat) (x : Option Answer) (e : Execution) :
    (hear number x e).hearing? =
      e.hearing?.map fun q => if q.1 = number then (number, q.2.or (some x)) else q := by
  unfold hear
  split
  · rename_i hact
    have hact : e.activity = .listening number none := by simpa [Execution.awaits] using hact
    simp [Execution.hearing?, hact]
  · rename_i hact
    have hact : e.activity ≠ .listening number none := by simpa [Execution.awaits] using hact
    cases hy : e.hearing? with
    | none => rfl
    | some p =>
      obtain ⟨k, y⟩ := p
      by_cases hk : k = number
      · cases y with
        | none => exact absurd (hk ▸ Execution.hearing?_eq_some.1 hy) hact
        | some y => simp [hk]
      · simp [hk]

theorem script_hear (number : Nat) (x : Option Answer) (e : Execution) :
    (hear number x e).script = e.script := by
  unfold hear
  split <;> rfl

/-- A reply reaches whoever waits for it, and changes nothing for the others. -/
theorem Hears.replied {number : Nat} (hh : Hears h ws s) (hl : s.launches ≤ t.launches)
    (hd : ∀ f ∈ t.executions, ∃ e ∈ s.executions, f = hear number x e) :
    Hears h (ws ++ [.replied number x]) t := by
  have hmem : ∀ c q, .asked c q ∈ ws ++ [.replied number x] → .asked c q ∈ ws := fun c q hcq => by
    simpa using hcq
  refine ⟨fun c q hcq => hh.queued c q (hmem c q hcq), fun c q hcq => ?_,
    fun c q d q' hcq hdq => hh.unique c q d q' (hmem c q hcq) (hmem d q' hdq),
    fun c q hcq f hf hn => ?_, fun f hf halive => ?_, fun f hf q hact => ?_, fun f hf k y hy => ?_⟩
  · exact Nat.lt_of_lt_of_le (hh.launched c q (hmem c q hcq)) hl
  · obtain ⟨e, he, rfl⟩ := hd f hf
    rw [number_hear] at hn
    rw [script_hear]
    exact hh.later c q (hmem c q hcq) e he hn
  · obtain ⟨e, he, rfl⟩ := hd f hf
    have hmark := congrArg Prod.snd (mark_hear number x e)
    rw [hearing_concat_replied, call_congr (number_hear number x e) (script_hear number x e),
      hh.calls e he (hmark.symm.trans halive), hearing?_hear]
  · obtain ⟨e, he, rfl⟩ := hd f hf
    rw [announcing?_of_script (script_hear number x e)]
    refine hh.posting e he q ?_
    unfold hear at hact
    split at hact
    · cases hact
    · exact hact
  · obtain ⟨e, he, rfl⟩ := hd f hf
    rw [hearing?_hear] at hy
    obtain ⟨⟨j, z⟩, hz, hjk⟩ := Option.map_eq_some_iff.1 hy
    obtain ⟨q, hq, hk, ha⟩ := hh.waiting e he j z hz
    rw [announcing?_of_script (script_hear number x e),
      call_congr (number_hear number x e) (script_hear number x e)]
    refine ⟨q, List.mem_append_left _ hq, ?_, ha⟩
    split at hjk
    · rename_i hj
      cases hjk
      exact hk.trans hj
    · cases hjk
      exact hk

/-! ## Moves in which nobody asks -/

/-- Executions descend if each of them was there with the same script and activity. -/
theorem descends_of_mem (hd : ∀ f ∈ t.executions, ∃ e ∈ s.executions, f.number = e.number ∧
    f.script = e.script ∧ f.activity = e.activity) : Descends s t := by
  intro f hf
  obtain ⟨e, he, hn, hs, ha⟩ := hd f hf
  have halive : f.isAlive = e.isAlive := by
    rw [Execution.isAlive, Execution.isAlive, Execution.result?, Execution.result?, ha]
  exact .inl ⟨e, he, hn, fun h => halive ▸ h, .adjusts hs ha⟩

theorem descends_of_subset (hd : t.executions ⊆ s.executions) : Descends s t :=
  descends_of_mem fun f hf => ⟨f, hd hf, rfl, rfl, rfl⟩

theorem descends_of_same (hx : t.execution = s.execution) (ho : t.orphans = s.orphans) :
    Descends s t :=
  descends_of_subset fun f hf => by rwa [executions, hx, ho] at hf

theorem orphans_subset (s : Supervisor) : s.orphans ⊆ s.executions := fun _ he =>
  List.mem_append_right _ he

/-- Those that were left behind descend when the present execution is gone. -/
theorem descends_of_orphans (hx : t.execution = none) (ho : t.orphans = s.orphans) :
    Descends s t :=
  descends_of_subset fun f hf => by
    rw [executions, hx, ho, Option.toList_none, List.nil_append] at hf
    exact orphans_subset s hf

/-- A new execution is in a call of its own, and the others descend. -/
theorem descends_launch (hx : u.execution = s.execution) (ho : u.orphans = s.orphans)
    (hl : u.launches = s.launches) : Descends s (u.launch now) := by
  rcases launch_cases u now with ⟨address, h⟩ | ⟨statistics, effects, h⟩ <;> rw [h]
  · intro f hf
    rcases List.mem_cons.1 hf with rfl | hf
    · exact .inr ⟨hl, rfl⟩
    · have hf : f ∈ s.orphans := ho ▸ hf
      exact .inl ⟨f, orphans_subset s hf, rfl, id, .adjusts rfl rfl⟩
  · exact descends_of_same hx ho

/-- A reply that no one left behind waits for changes none of them. -/
theorem orphans_reply_of_deaf {number : Nat} (hd : ∀ e ∈ s.orphans, e.awaits number = false) :
    (s.reply number x).orphans = s.orphans := by
  simp only [reply, wakeAll_eq]
  refine (List.map_congr_left fun e he => ?_).trans s.orphans.map_id
  rw [hear, if_neg (by simp [hd e he])]
  rfl

/-- What is thrown away at the end of an execution is waited for by nobody. -/
theorem orphans_discardRequests_of_deaf
    (hd : ∀ e ∈ s.orphans, ∀ r ∈ s.letters, e.awaits r.number = false) :
    s.discardRequests.orphans = s.orphans := by
  have hready : ∀ {r b next}, s.readyBox.take? = some (r, b, next) → r ∈ s.letters := fun h =>
    mem_letters.2 ⟨.ready [], (Mailbox.content_of_take? h).1⟩
  have hnotReady : ∀ {r b next}, s.notReadyBox.take? = some (r, b, next) → r ∈ s.letters := fun h =>
    mem_letters.2 ⟨.notReady, (Mailbox.content_of_take? h).1⟩
  unfold discardRequests
  cases hr : s.readyBox.take? with
  | some p =>
    obtain ⟨r, b, next⟩ := p
    have hfirst : ∀ x, ({ s with readyBox := b }.reply r.number x).orphans = s.orphans := fun x =>
      orphans_reply_of_deaf (s := { s with readyBox := b }) fun e he => hd e he r (hready hr)
    have hbox : ({ s with readyBox := b }.reply r.number (some .terminated)).notReadyBox =
        s.notReadyBox := by
      rw [reply, wakeAll_eq]
      rfl
    simp only [wakeAny_eq]
    split
    · rename_i q c next' hq
      have hmem := hnotReady (hbox ▸ hq)
      refine (orphans_reply_of_deaf fun e he => hd e ?_ q hmem).trans (hfirst _)
      exact hfirst (some .terminated) ▸ he
    · exact hfirst _
  | none =>
    simp only [wakeAny_eq]
    split
    · rename_i q c next' hq
      exact orphans_reply_of_deaf (s := { s with notReadyBox := c }) fun e he =>
        hd e he q (hnotReady hq)
    · rfl

/-- What the worker does leaves every call as it is. -/
theorem descends_of_works (hd : ∀ e ∈ s.orphans, ∀ r ∈ s.letters, e.awaits r.number = false)
    (hw : Works now s t) : Descends s t := by
  cases hw with
  | begin | retry => exact descends_launch rfl rfl rfl
  | join => exact descends_of_same rfl rfl
  | halt => exact descends_of_orphans rfl rfl
  | handleEnd =>
    exact descends_of_orphans (execution_handleEnd _ _ _)
      (orphans_discardRequests_of_deaf (by exact hd))
  | serve _ _ _ ht =>
    rcases takeRequest?_cases ht with ⟨b, next, -, rfl⟩ | ⟨-, b, next, -, rfl⟩ <;>
      rw [wakeAny_eq] <;> exact descends_of_same rfl rfl
  | reload =>
    unfold handleReload
    simp only [wakeAny_eq]
    split <;> exact descends_of_same rfl rfl

/-- A courier leaves every call as it is. -/
theorem descends_stepCourier (h : s.stepCourier n = some t) : Descends s t := by
  unfold stepCourier at h
  split at h
  · cases h
  · split at h
    · unfold deliver at h
      split at h
      · cases h
        exact descends_of_same rfl rfl
      · split at h
        · cases h
          exact descends_of_same rfl rfl
        · split at h <;> cases h
          exact descends_of_same rfl rfl
    · split at h
      · rename_i e he
        have hmem := List.mem_of_find?_eq_some he
        have hset : ∀ b, ∀ f ∈ (s.setExecution { e with inbox := b }).executions,
            ∃ e ∈ s.executions, f.number = e.number ∧ f.script = e.script ∧
              f.activity = e.activity := by
          intro b f hf
          rcases mem_setExecution hf with rfl | ⟨hf, -⟩
          · exact ⟨e, hmem, rfl, rfl, rfl⟩
          · exact ⟨f, hf, rfl, rfl, rfl⟩
        unfold forward at h
        split at h
        · cases h
          exact descends_of_same rfl rfl
        · split at h
          · cases h
            exact descends_of_mem (hset _)
          · split at h <;> cases h
            exact descends_of_mem (hset _)
      · cases h
        exact descends_of_same rfl rfl

/-- A call that is given up is not replied to. -/
theorem descends_giveUp (hh : Hears h ws s) (hm : s.giveUp n = some t) : Descends s t := by
  unfold giveUp at hm
  split at hm
  · cases hm
  · rename_i e he
    have hmem := List.mem_of_find?_eq_some he
    have hset : ∀ v : Supervisor, v.executions = s.executions → ∀ r : Request,
        e.announcing? = some r.announcement → e.isAlive = true →
          Descends s (v.setExecution e.advance) := by
      intro v hv r ha halive f hf
      refine .inl ?_
      rcases mem_setExecution hf with rfl | ⟨hf, -⟩
      · exact ⟨e, hmem, rfl, fun _ => halive, .advances rfl (script_ne_nil_of_announcing? ha) rfl⟩
      · exact ⟨f, hv ▸ hf, rfl, id, .adjusts rfl rfl⟩
    split at hm <;> cases hm
    · rename_i r hact
      refine hset _ ?_ r (hh.posting e hmem r hact)
        (by simp [Execution.isAlive, Execution.result?, hact])
      have hcast := cast_leaveBox s e r.announcement
      exact congrArg (fun c : Cast => c.execution.toList ++ c.orphans) hcast
    · rename_i k y hact
      have hy := Execution.hearing?_eq_some.2 hact
      obtain ⟨r, -, -, ha⟩ := hh.waiting e hmem k y hy
      exact hset s rfl r ha (isAlive_of_hearing? hy)

/-! ## What a step of an execution tells -/

theorem fresh_of_letters (hl : t.letters = s.letters) : s.fresh t = [] := by
  rw [fresh, hl]
  simp

/-- The request that a step posts is the only fresh one. -/
theorem fresh_of_posts (hs : s.Sorted) (hp : Posts r s t) : s.fresh t = [r] := by
  obtain ⟨y, hy, hyr⟩ := List.map_eq_singleton_iff.1 (posted_of_posts hs hp 0)
  cases hyr
  exact hy

/-- A step of an execution keeps what each call hears in agreement with what was said. -/
theorem Hears.stepExecution {fs : List Nat} (hh : Hears h ws s) (hl : Ledger h s)
    (hc : Census h fs s) (hlaunch : s.launches ≤ t.launches)
    (hm : s.stepExecution now n = some t) :
    Hears (h ++ s.happenings (.task now (.execution n)) t)
      (ws ++ s.wordsIn (.task now (.execution n)) t) t := by
  obtain ⟨e, he, halive, hutters⟩ := utters_stepExecution hh.posting hm
  have hn := number_of_execution? he
  have hmem := List.mem_of_find?_eq_some he
  have hwords : s.wordsIn (.task now (.execution n)) t =
      ((s.fresh t).filter fun r => e.announcing? == some r.announcement).map (.asked e.call) := by
    simp only [wordsIn, he]
  have hother : ∀ f ∈ t.executions, f.number ≠ e.number → f ∈ s.executions := fun f hf hne =>
    mem_of_stepExecution hm hf (hn ▸ hne)
  -- the other outcomes have no words
  have hsilent : e.announcing? = none ∨ t.letters = s.letters →
      (∀ f ∈ t.executions, f.number = e.number → Proceeds e f) →
      Hears (h ++ s.happenings (.task now (.execution n)) t)
        (ws ++ s.wordsIn (.task now (.execution n)) t) t := by
    intro hnone hp
    have hnil : s.wordsIn (.task now (.execution n)) t = [] := by
      rcases hnone with hnone | hletters
      · rw [hwords, hnone]
        simp
      · rw [hwords, fresh_of_letters hletters]
        rfl
    rw [hnil, List.append_nil]
    refine (hh.mono _).descends (fun f hf => .inl ?_) hlaunch
    by_cases hfn : f.number = e.number
    · exact ⟨e, hmem, hfn, fun _ => halive, hp f hf hfn⟩
    · exact ⟨f, hother f hf hfn, rfl, id, .adjusts rfl rfl⟩
  cases hutters with
  | other hnone hp => exact hsilent hnone hp
  | writes hs hp =>
    refine hsilent (.inl ?_) hp
    unfold Execution.announcing?
    split
    · rename_i heq
      rw [heq] at hs
      cases hs
    · rfl
  | returns _ _ hletters hp => exact hsilent (.inr hletters) hp
  | @asks r ha hnone hs ht hself =>
    -- exactly one request lies in a mailbox that did not before, so the move has exactly one word
    have hposts := posts_of_asked (traffic_stepExecution hm) hs ht
    have hfresh := fresh_of_posts hl.sorted hposts
    have hlast : s.wordsIn (.task now (.execution n)) t = [.asked e.call r] := by
      rw [hwords, hfresh]
      simp [ha]
    have hq : .queued e.number r ∈ s.happenings (.task now (.execution n)) t := by
      refine List.mem_append_left _ ?_
      rw [posted_of_posts hl.sorted hposts, hn]
      exact List.mem_singleton_self _
    have hlt : e.number < s.launches := by
      refine hc.below e.mark ?_
      rw [roll_eq]
      exact List.mem_map_of_mem hmem
    rw [hlast]
    exact hh.asks hmem halive hnone ha hlt hlaunch (hl.fresh hposts) hq hother hself

/-! ## Every move -/

/-- After a reply every execution is one that has heard it. -/
theorem mem_reply {number : Nat} (hf : f ∈ (s.reply number x).executions) :
    ∃ e ∈ s.executions, f = hear number x e := by
  have hreply : (s.reply number x).executions = (s.mapExecutions (hear number x)).executions := by
    rw [reply, wakeAll_eq]
    rfl
  rw [hreply, executions_mapExecutions] at hf
  obtain ⟨e, he, rfl⟩ := List.mem_map.1 hf
  exact ⟨e, he, rfl⟩

theorem launches_reply (s : Supervisor) (number : Nat) (x : Option Answer) :
    (s.reply number x).launches = s.launches := launches_of_frame (frame_reply s number x)

/-- One reply after the other, each call hears the first that is meant for it. -/
theorem Hears.replies (hh : Hears h ws s) (rs : List Request) :
    Hears h (ws ++ rs.map fun r => .replied r.number none)
      (rs.foldl (fun s r => s.reply r.number none) s) := by
  induction rs generalizing s ws with
  | nil =>
    rw [List.map_nil, List.append_nil]
    exact hh
  | cons r rs ih =>
    have hstep := hh.replied (Nat.le_of_eq (launches_reply s r.number none).symm)
      fun f hf => mem_reply hf
    have hrest := ih hstep
    rwa [List.append_assoc] at hrest

/-- When the owner crashes, every request under way is replied to with nothing. -/
theorem Hears.crash (hh : Hears h ws s) (r : Request) :
    Hears h (ws ++ (r :: s.letters).map fun r => .replied r.number none) (s.crash r) := by
  have hlaunches : (s.crash r).launches =
      ((r :: s.letters).foldl (fun s r => s.reply r.number none) s).launches := by
    unfold Supervisor.crash
    simp only [wakeAll_eq]
    rfl
  refine (hh.replies (r :: s.letters)).descends (descends_of_subset fun f hf => ?_)
    (Nat.le_of_eq hlaunches.symm)
  -- the one that was held is now among those that nobody watches
  unfold Supervisor.crash at hf
  simp only [wakeAll_eq, executions, Option.toList_none, List.nil_append] at hf
  rw [executions]
  exact (List.mem_append.1 hf).elim (List.mem_append_right _) (List.mem_append_left _)

/-- An execution that nobody watches waits for none of the requests that lie in the mailboxes. -/
theorem Hears.awaits_eq_false (hh : Hears h ws s) (hl : Ledger h s) (hd : Tended h s)
    (hdistinct : s.Distinct) : ∀ e ∈ s.orphans, ∀ r ∈ s.letters, e.awaits r.number = false := by
  intro e he r hr
  refine Bool.eq_false_iff.2 fun hawaits => ?_
  have hact : e.activity = .listening r.number none := by
    simpa [Execution.awaits] using hawaits
  -- its own request and the one in the mailbox have one number, so they are one, which was put there by
  -- the execution that is held
  obtain ⟨q, hq, hqr, -⟩ := hh.waiting e (orphans_subset s he) r.number none
    (Execution.hearing?_eq_some.2 hact)
  obtain ⟨n, a, hheld, hn⟩ := hd r hr
  obtain ⟨f, hf, hfn⟩ := Option.map_eq_some_iff.1 hheld
  obtain ⟨hen, -⟩ := hl.eq_of_number (hh.queued _ _ hq) hn hqr
  exact hdistinct.number_ne hf he (hen.trans (Prod.mk.inj hfn).1.symm)

/-- The number of launches never goes down. -/
theorem Turns.launches_le (ht : Turns m s t hs) : s.launches ≤ t.launches := by
  cases ht <;> omega

/-- Every move keeps what calls have heard in agreement with the words. -/
theorem Hears.move {fs : List Nat} (hh : Hears h ws s) (hl : Ledger h s) (hd : Tended h s)
    (hcoherent : Coherent s.control) (hc : Census h fs s) (hm : s.move m = some t) :
    Hears (h ++ s.happenings m t) (ws ++ s.wordsIn m t) t := by
  have hlaunch := (turns_move hcoherent hc.distinct' hm).launches_le
  have hsilent : s.wordsIn m t = [] → Descends s t →
      Hears (h ++ s.happenings m t) (ws ++ s.wordsIn m t) t := by
    intro hnil hdescends
    rw [hnil, List.append_nil]
    exact (hh.mono _).descends hdescends hlaunch
  cases m with
  | start onDemand query =>
    refine hsilent rfl ?_
    simp only [Supervisor.move] at hm
    split at hm <;> cases hm
    rw [start, if_pos ‹_›]
    exact descends_of_orphans rfl rfl
  | cancel reason =>
    refine hsilent rfl (descends_of_mem fun f hf => ?_)
    simp only [Supervisor.move] at hm
    split at hm <;> cases hm
    rename_i hi
    rw [cancel, if_neg hi] at hf
    simp only [wakeAll_eq] at hf
    have hf : f ∈ (s.mapExecutions fun e => { e with cancelled := true }).executions := hf
    rw [executions_mapExecutions] at hf
    obtain ⟨e, he, rfl⟩ := List.mem_map.1 hf
    exact ⟨e, he, rfl, rfl, rfl⟩
  | reload entry =>
    refine hsilent rfl ?_
    simp only [Supervisor.move] at hm
    split at hm <;> cases hm
    rw [reload, if_neg ‹_›]
    exact descends_of_same rfl rfl
  | rest | resume =>
    refine hsilent rfl ?_
    simp only [Supervisor.move] at hm
    split at hm <;> cases hm
    exact descends_of_same rfl rfl
  | setPause | flush =>
    cases hm
    exact hsilent rfl (descends_of_same rfl rfl)
  | task now k =>
    cases k with
    | worker =>
      refine hsilent rfl ?_
      exact descends_of_works (hh.awaits_eq_false hl hd hc.distinct') (works_of_stepWorker hm)
    | execution n => exact hh.stepExecution hl hc hlaunch hm
    | courier n => exact hsilent rfl (descends_stepCourier hm)
  | reply number answer =>
    cases hm
    exact (hh.mono _).replied hlaunch fun f hf => mem_reply hf
  | crash =>
    simp only [Supervisor.move] at hm
    split at hm <;> cases hm
    rename_i r hw
    have hwords : s.wordsIn .crash (s.crash r) =
        (r :: s.letters).map fun r => .replied r.number none := by
      simp [wordsIn, served, hw]
    rw [hwords]
    exact (hh.mono _).crash r
  | giveUp number => exact hsilent rfl (descends_giveUp hh hm)
  | aside number a =>
    refine hsilent rfl ?_
    simp only [Supervisor.move, announceAside] at hm
    split at hm
    · cases hm
    · split at hm <;> cases hm
      rename_i e _ _
      have hcast := cast_abandon s e a
      exact descends_of_same (congrArg Cast.execution hcast) (congrArg Cast.orphans hcast)

end Supervisor

end MediaPaths
