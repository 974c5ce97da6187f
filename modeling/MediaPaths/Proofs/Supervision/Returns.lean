import MediaPaths.Proofs.Supervision.Replies

/-!
# Calls that return

A call that announces something returns with the first reply to its own request, if there is one when its
execution takes its next step, and otherwise only because it is being stopped or its worker is gone. For
each announcement that was accepted, and for nothing else, the log has a line.
-/

namespace MediaPaths

/-- The announcement that was accepted, if a call returned with that. -/
def SourceEvent.accepted? : SourceEvent → Option Announcement
  | .answered a .accepted => some a
  | _ => none

namespace Supervisor

variable {s t u : Supervisor} {m : Move} {ms : List Move} {e : Execution} {a : Announcement}
  {now : Nat} {x : Answer}

/-! ## The log of a run -/

/-- Whether an execution writes a line of its own in a move. -/
def isOwnLine (s : Supervisor) : Move → Bool
  | .task _ (.execution n) => (s.execution? n).any fun e =>
    match e.script.head? with
    | some (.log _ _) => true
    | _ => false
  | _ => false

/-- The lines that a move adds to the log, but for those that an execution writes of its own. -/
def spoken (s : Supervisor) (m : Move) (t : Supervisor) : List Effect :=
  if s.isOwnLine m then [] else t.speech.lines.drop s.speech.lines.length

/-- The lines that some moves add to the log, but for those that executions write of their own. -/
def transcript (s : Supervisor) : List Move → List Effect
  | [] => []
  | m :: ms =>
    match s.move m with
    | some t => s.spoken m t ++ t.transcript ms
    | none => []

theorem transcript_concat (hs : s.run ms = some t) (hm : t.move m = some u) :
    s.transcript (ms ++ [m]) = s.transcript ms ++ t.spoken m u := by
  induction ms generalizing s with
  | nil =>
    cases hs
    simp [transcript, hm]
  | cons m' ms ih =>
    obtain ⟨v, hv, hs⟩ := Option.bind_eq_some_iff.1 hs
    simp [transcript, hv, ih hs]

/-- The announcements that were accepted, in the order in which their calls returned. -/
def acceptances (s : Supervisor) : List Announcement :=
  s.events.reverse.filterMap (·.what.accepted?)

/-- In a move, the log has a line for each announcement that is accepted, and for nothing else. -/
def Minutes (s : Supervisor) (m : Move) (t : Supervisor) : Prop :=
  ∃ new, t.acceptances = s.acceptances ++ new ∧
    (s.spoken m t).filter (Speech.isAcceptance s.kind) = new.map (Speech.acceptanceLine s.kind)

theorem minutes_of_silent (he : t.events = s.events)
    (hl : ∀ l ∈ s.spoken m t, Speech.isAcceptance s.kind l = false) : Minutes s m t := by
  refine ⟨[], by rw [acceptances, he, List.append_nil]; rfl, ?_⟩
  rw [List.map_nil, List.filter_eq_nil_iff]
  exact fun l hl' => by simp [hl l hl']

theorem Hush.minutes (h : Hush s t) (m : Move) : Minutes s m t := by
  obtain ⟨ls, hspeech, hls⟩ := h
  refine minutes_of_silent (congrArg Speech.events hspeech) fun l hl => hls l ?_
  unfold spoken at hl
  split at hl
  · cases hl
  · rwa [hspeech, List.drop_left] at hl

theorem minutes_of_utters {n : Nat} (he : s.execution? n = some e) (hu : Utters now s e t) :
    Minutes s (.task now (.execution n)) t := by
  cases hu with
  | other _ _ hp =>
    rcases hp with hp | ⟨y, hy, hp⟩
    · exact (Hush.of_speech hp).minutes _
    · have hevents : t.events = ⟨now, y⟩ :: s.events := congrArg Speech.events hp
      have haccepted : y.accepted? = none := by
        cases y with
        | answered => cases hy
        | _ => rfl
      refine ⟨[], ?_, ?_⟩
      · simp [acceptances, hevents, haccepted]
      · have hlines : t.speech.lines = s.speech.lines := by rw [hp]; rfl
        simp [spoken, hlines]
  | writes hs _ hp =>
    refine minutes_of_silent hp fun l hl => ?_
    -- a source may write the very line of an acceptance, so what it writes of its own is left out
    have hown : s.isOwnLine (.task now (.execution n)) = true := by simp [isOwnLine, he, hs]
    rw [spoken, if_pos hown] at hl
    cases hl
  | asks _ _ _ _ _ hp => exact (Hush.of_speech hp).minutes _
  | @returns a x ha _ _ _ hp =>
    have hevents : t.events = ⟨now, .answered a x⟩ :: s.events := congrArg Speech.events hp
    have hlines : t.speech.lines = s.speech.lines ++ Speech.acceptanceLines s.kind a x := by
      rw [hp]
      rfl
    -- the step that returns is one of the script that announces, and so not one that writes
    have hown : ¬ s.isOwnLine (.task now (.execution n)) = true := by
      unfold Execution.announcing? at ha
      split at ha
      · rename_i hs
        simp [isOwnLine, he, hs]
      · cases ha
    refine ⟨(SourceEvent.answered a x).accepted?.toList, ?_, ?_⟩
    · simp [acceptances, hevents]
      cases x <;> rfl
    · rw [spoken, if_neg hown, hlines, List.drop_left, Speech.filter_acceptanceLines]
      cases x <;> rfl

theorem minutes_move
    (hc : ∀ e ∈ s.executions, ∀ r, e.activity = .posting r → e.announcing? = some r.announcement)
    (h : s.move m = some t) : Minutes s m t := by
  by_cases hf : m = .flush
  · subst hf
    cases h
    refine minutes_of_silent rfl fun l hl => ?_
    simp [spoken, isOwnLine, speech] at hl
  by_cases hx : ∃ now n, m = .task now (.execution n)
  · obtain ⟨now, n, rfl⟩ := hx
    obtain ⟨e, he, -, hu⟩ := utters_stepExecution hc h
    exact minutes_of_utters he hu
  · exact (hush_move (fun now n heq => hx ⟨now, n, heq⟩) hf h).minutes m

/-! ## Who is told to stop -/

/-- Only a supervisor that is asked to stop stops the execution that it holds. -/
def Told (s : Supervisor) : Prop := ∀ e ∈ s.execution, e.cancelled = true → s.cancelled = true

theorem Told.move (hs : s.Told) (h : s.move m = some t) : t.Told := by
  intro e he hce
  have hkeep : s.cancelled = true → t.cancelled = true := by
    intro hc
    rw [cancelled_move h, hc]
    cases m with
    | start onDemand query =>
      simp only [Supervisor.move] at h
      split at h <;> cases h
      rw [(clears_start ‹_› _ _).execution] at he
      cases he
    | _ => rfl
  cases lays_move h with
  | keeps hd =>
    have hmem : e.fixed ∈ s.deed := hd ▸ Option.mem_map_of_mem Execution.fixed he
    obtain ⟨f, hf, hfixed⟩ := Option.map_eq_some_iff.1 hmem
    exact hkeep (hs f hf ((Execution.cancelled_of_fixed hfixed).trans hce))
  | loses hx =>
    rw [hx] at he
    cases he
  | warns hc => exact hc
  | launches hx _ _ hc =>
    cases hx.symm.trans he
    exact hkeep (hc.symm.trans hce)

/-! ## Runs -/

theorem hears_of_executions (hx : s.executions = []) : Hears [] [] s := by
  have hnone : ∀ e, e ∉ s.executions := fun e he => by
    rw [hx] at he
    cases he
  exact ⟨nofun, nofun, nofun, nofun, fun e he => absurd he (hnone e),
    fun e he => absurd he (hnone e), fun e he => absurd he (hnone e)⟩

/-- What every run keeps, however often the owner crashes. -/
theorem hears_run {pause : Nat} {entry : Entry} {groups : Option (List String)}
    {options : SourceOptions} {factory : Factory}
    (hs₀ : create now entry groups options factory pause = .ok s) (h : s.run ms = some t) :
    Tended (s.chronicle ms) t ∧ Hears (s.chronicle ms) (s.words ms) t ∧ t.Told := by
  -- `Hears` needs `Tended` before the move: when a mailbox is emptied, what lay there must not be a request
  -- for whose answer an execution that nobody watches waits.
  refine run_induction (P := fun ms t =>
    Tended (s.chronicle ms) t ∧ Hears (s.chronicle ms) (s.words ms) t ∧ t.Told) ?_ ?_ h
  · obtain ⟨kind, source, -, rfl⟩ := create_eq hs₀
    exact ⟨fun _ hr => absurd hr List.not_mem_nil, hears_of_executions rfl,
      fun _ he => absurd he (Option.not_mem_none _)⟩
  · intro ms u m v hu ⟨htended, hhears, htold⟩ hm
    obtain ⟨hcoherent, hcensus⟩ := census_run (coherent_create hs₀) (census_create hs₀) hu
    have hledger := ledger_run (ledger_create hs₀) hu
    rw [chronicle_concat hu hm, words_concat hu hm]
    exact ⟨htended.turns hledger.sorted (turns_move hcoherent hcensus.distinct' hm) hm,
      hhears.move hledger htended hcoherent hcensus hm, htold.move hm⟩

theorem kind_move (h : s.move m = some t) : t.kind = s.kind := by
  have hb := congrArg Brief.kind (brief_move h)
  cases m <;> exact hb

/-- The log has a line for each announcement that was accepted, and for nothing else. -/
theorem transcript_run {pause : Nat} {entry : Entry} {groups : Option (List String)}
    {options : SourceOptions} {factory : Factory}
    (hs₀ : create now entry groups options factory pause = .ok s) (h : s.run ms = some t) :
    (s.transcript ms).filter (Speech.isAcceptance s.kind) =
      t.acceptances.map (Speech.acceptanceLine s.kind) := by
  refine (run_induction (P := fun ms t => t.kind = s.kind ∧
    (s.transcript ms).filter (Speech.isAcceptance s.kind) =
      t.acceptances.map (Speech.acceptanceLine s.kind)) ?_ ?_ h).2
  · obtain ⟨kind, source, -, rfl⟩ := create_eq hs₀
    exact ⟨rfl, rfl⟩
  · intro ms u m v hu ⟨hkind, hlines⟩ hm
    obtain ⟨new, hnew, hspoken⟩ := minutes_move (hears_run hs₀ hu).2.1.posting hm
    rw [hkind] at hspoken
    refine ⟨(kind_move hm).trans hkind, ?_⟩
    rw [transcript_concat hu hm, List.filter_append, hlines, hspoken, hnew, List.map_append]

/-! ## What calls return with -/

theorem Distinct.execution? (hd : s.Distinct) (he : e ∈ s.executions) :
    s.execution? e.number = some e := by
  cases hf : s.execution? e.number with
  | none => simpa using List.find?_eq_none.1 hf e he
  | some f => rw [hd.eq_of_number hf he rfl]

/-- What holds of calls after any moves, crashes of the owner included, in any order. A call to whose own
request the owner has replied returns, when its execution takes its next step, and with the first reply,
even if the supervisor was asked to stop meanwhile. No call returns otherwise, but with the answer that it
was terminated, when the supervisor is being stopped or the worker is gone. Each call has one request, of
a number of its own, so no reply is heard in another call than that of its request. The log has a line for
each call that returned because its announcement was accepted, and no other line like it, unless an
execution itself writes one. -/
theorem returns_faithful {pause : Nat} {entry : Entry} {groups : Option (List String)}
    {options : SourceOptions} {factory : Factory} {s₀ : Supervisor}
    (hs₀ : create now entry groups options factory pause = .ok s₀) (hs : s₀.run ms = some s) :
    (∀ e ∈ s.executions, e.isAlive = true → ∀ y, replyTo e.call (s₀.words ms) = some y →
      ∀ now, ∃ t a, s.move (.task now (.execution e.number)) = some t ∧ e.announcing? = some a ∧
        t.events = ⟨now, .answered a (.ofReply y)⟩ :: s.events) ∧
    (∀ m t now a x, s.move m = some t → t.events = ⟨now, .answered a x⟩ :: s.events →
      ∃ e ∈ s.executions, m = .task now (.execution e.number) ∧ e.isAlive = true ∧
        e.announcing? = some a ∧
        match replyTo e.call (s₀.words ms) with
        | some y => x = .ofReply y
        | none => x = .terminated ∧ (s.cancelled = true ∨ e ∈ s.orphans)) ∧
    (∀ c r d q, .asked c r ∈ s₀.words ms → .asked d q ∈ s₀.words ms →
      c = d ∨ r.number = q.number → c = d ∧ r = q) ∧
    (s₀.transcript ms).filter (Speech.isAcceptance s₀.kind) =
      s.acceptances.map (Speech.acceptanceLine s₀.kind) := by
  obtain ⟨-, hhears, htold⟩ := hears_run hs₀ hs
  obtain ⟨-, hcensus⟩ := census_run (coherent_create hs₀) (census_create hs₀) hs
  have hreply : ∀ e ∈ s.executions, e.isAlive = true →
      replyTo e.call (s₀.words ms) = e.hearing?.bind (·.2) := fun e he halive => by
    rw [replyTo, hhears.calls e he halive]
  refine ⟨fun e he halive y hy now => ?_, fun m t now a x hm ht => ?_, hhears.unique,
    transcript_run hs₀ hs⟩
  · rw [hreply e he halive] at hy
    obtain ⟨⟨k, z⟩, hk, rfl⟩ := Option.bind_eq_some_iff.1 hy
    obtain ⟨r, -, -, ha⟩ := hhears.waiting e he k (some y) hk
    obtain ⟨t, ht, hevents⟩ := step_of_heard (hcensus.distinct'.execution? he) ha
      (Execution.hearing?_eq_some.1 hk) now
    exact ⟨t, r.announcement, ht, ha, hevents⟩
  · obtain ⟨e, he, rfl, halive, ha, hx⟩ := resolves_of_move hhears.posting hm ht
    have hmem := List.mem_of_find?_eq_some he
    refine ⟨e, hmem, rfl, halive, ha, ?_⟩
    rw [hreply e hmem halive]
    cases hx with
    | heard hk => rw [hk]; rfl
    | deaf hd hnone =>
      have hnil : e.hearing?.bind (·.2) = none := by
        refine Option.eq_none_iff_forall_ne_some.2 fun y hy => ?_
        obtain ⟨⟨k, z⟩, hk, rfl⟩ := Option.bind_eq_some_iff.1 hy
        exact hnone k y hk
      rw [hnil]
      refine ⟨rfl, ?_⟩
      cases hw : s.watches e.number with
      | true =>
        have hcancelled : e.cancelled = true := hd.resolve_right (by simp [hw])
        exact .inl (htold e (execution_of_watches he hw) hcancelled)
      | false => exact .inr (mem_orphans_of_watches he hw)

/-- A source gives up announcing media and announces a loss. The owner accepts the media first and the
loss then, and the supervisor is asked to stop at once: the loss counts as accepted, and only that is
written to the log. -/
theorem returns_faithful_stopped :
    let factory : Factory := fun _ _ _ =>
      .ok (.ofScripts "" [[.announce (.ready []) false, .announce .notReady false]])
    let ms : List Move := [.start false "", .task 0 .worker, .task 0 (.execution 0),
      .task 0 (.execution 0), .task 0 .worker, .giveUp 0, .task 0 (.execution 0),
      .reply 0 (some .accepted), .resume, .task 0 .worker, .reply 1 (some .accepted), .cancel "done"]
    let c : Call := ⟨0, [.announce .notReady false]⟩
    ∃ s₀ s t, create 0 { settings := { source := "rtsp://h/x" } } none {} factory 5000 = .ok s₀ ∧
      s₀.run ms = some s ∧ s.cancelled = true ∧ replyTo c (s₀.words ms) = some (some .accepted) ∧
      s.move (.task 0 (.execution 0)) = some t ∧
      t.events = ⟨0, .answered .notReady .accepted⟩ :: s.events ∧
      (s₀.transcript (ms ++ [.task 0 (.execution 0)])).filter (Speech.isAcceptance .rtsp) =
        [.line .info "[rtspSource] not ready"] := by
  intro factory ms c
  obtain ⟨s₀, hs₀, hkind, hrun, hreply⟩ : ∃ s₀,
      create 0 { settings := { source := "rtsp://h/x" } } none {} factory 5000 = .ok s₀ ∧
        s₀.kind = .rtsp ∧
        (s₀.run ms).map (fun s =>
          (s.cancelled, s.acceptances, s.execution.map fun e => (e.call, e.isAlive))) =
            some (true, [], some (c, true)) ∧
        replyTo c (s₀.words ms) = some (some .accepted) :=
    ⟨_, rfl, rfl, by decide +kernel, by decide +kernel⟩
  obtain ⟨s, hs, hstate⟩ := Option.map_eq_some_iff.1 hrun
  obtain ⟨hcancelled, hnone, hexecution⟩ : s.cancelled = true ∧ s.acceptances = [] ∧
      s.execution.map (fun e => (e.call, e.isAlive)) = some (c, true) := by
    simpa only [Prod.mk.injEq] using hstate
  obtain ⟨e, he, hcall⟩ := Option.map_eq_some_iff.1 hexecution
  obtain ⟨hcall, halive⟩ := Prod.mk.inj hcall
  have hmem : e ∈ s.executions := List.mem_append_left _ (Option.mem_toList.2 he)
  obtain ⟨hheard, -⟩ := returns_faithful hs₀ hs
  obtain ⟨t, a, ht, ha, hevents⟩ := hheard e hmem halive _ (hcall ▸ hreply) 0
  have hnumber : e.number = 0 := congrArg Call.execution hcall
  have hscript : e.script = [.announce .notReady false] := congrArg Call.rest hcall
  obtain rfl : a = .notReady := by simpa [Execution.announcing?, hscript, eq_comm] using ha
  rw [hnumber] at ht
  obtain ⟨-, -, -, hlog⟩ := returns_faithful hs₀ (run_concat.2 ⟨s, hs, ht⟩)
  have hacceptances : t.acceptances = s.acceptances ++ [.notReady] := by
    simp [acceptances, hevents, SourceEvent.accepted?, Answer.ofReply]
  refine ⟨s₀, s, t, hs₀, hs, hcancelled, hreply, ht, hevents, ?_⟩
  rw [← hkind, hlog, hacceptances, hnone, hkind]
  decide +kernel

end Supervisor

end MediaPaths
