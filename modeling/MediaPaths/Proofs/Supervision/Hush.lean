import MediaPaths.Proofs.Supervision.Speech

/-!
# Who writes to the log

Apart from what executions write of their own, the log has lines of the supervisor itself, which say that
it was started or is being stopped and what has failed, and lines that say that an announcement was
accepted. `Hush` tells that a move does not lead to one of these, nor to a note: only in a step of its own
execution does a call return.
-/

namespace MediaPaths

namespace Speech

/-- Whether a line says that media were announced and accepted, or that a loss was. -/
def isAcceptance (kind : SourceKind) : Effect → Bool
  | .line .info m => m == tagged kind "not ready" ||
      (tagged kind "ready: ").toList.isPrefixOf m.toList
  | _ => false

theorem toList_tagged (kind : SourceKind) (message : String) :
    (tagged kind message).toList = s!"[{kind.text}] ".toList ++ message.toList := by
  simp [tagged, toString]

/-- The kind of the source has no part in it. -/
theorem isAcceptance_tagged (kind : SourceKind) (message : String) :
    isAcceptance kind (.line .info (tagged kind message)) =
      (message == "not ready" || "ready: ".toList.isPrefixOf message.toList) := by
  rw [isAcceptance]
  congr 1
  · rw [Bool.eq_iff_iff, beq_iff_eq, beq_iff_eq, ← String.toList_inj, toList_tagged, toList_tagged,
      List.append_cancel_left_eq, String.toList_inj]
  · rw [Bool.eq_iff_iff, List.isPrefixOf_iff_prefix, List.isPrefixOf_iff_prefix, toList_tagged,
      toList_tagged, List.prefix_append_right_inj]

theorem isAcceptance_acceptanceLine (kind : SourceKind) (a : Announcement) :
    isAcceptance kind (acceptanceLine kind a) = true := by
  rw [acceptanceLine, isAcceptance_tagged]
  cases a with
  | notReady => rfl
  | ready medias =>
    have hready : (Supervisor.acceptance (.ready medias)).toList =
        "ready: ".toList ++ (Media.summary medias).toList := by
      simp [Supervisor.acceptance, toString]
    rw [hready]
    simp

theorem isAcceptance_started (kind : SourceKind) (onDemand : Bool) :
    isAcceptance kind
      (.line .info (tagged kind (if onDemand then "started on demand" else "started"))) = false := by
  rw [isAcceptance_tagged]
  cases onDemand <;> decide

theorem isAcceptance_stopped (kind : SourceKind) (reason : String) :
    isAcceptance kind (.line .info (tagged kind s!"stopped: {reason}")) = false := by
  have hstopped : s!"stopped: {reason}".toList = "stopped: ".toList ++ reason.toList := by
    simp [toString]
  have hne : s!"stopped: {reason}" ≠ "not ready" := by
    intro heq
    rw [← String.toList_inj, hstopped] at heq
    simp at heq
  rw [isAcceptance_tagged, hstopped]
  simp [hne, List.isPrefixOf]

theorem filter_acceptanceLines (kind : SourceKind) (a : Announcement) (x : Answer) :
    (acceptanceLines kind a x).filter (isAcceptance kind) = acceptanceLines kind a x := by
  cases x with
  | accepted => simp [acceptanceLines, isAcceptance_acceptanceLine]
  | refused => rfl

end Speech

namespace Supervisor

variable {s t u : Supervisor} {m : Move} {a : Announcement} {now : Nat} {x : Answer}

/-! ## What else is written to the log -/

/-- Nothing is noted, and no line says that an announcement was accepted. -/
def Hush (s t : Supervisor) : Prop :=
  ∃ ls, t.speech = { s.speech with lines := s.speech.lines ++ ls } ∧
    ∀ l ∈ ls, Speech.isAcceptance s.kind l = false

theorem Hush.of_speech (h : t.speech = s.speech) : Hush s t := ⟨[], by rw [h, List.append_nil], nofun⟩

theorem speech_log (s : Supervisor) (level : LogLevel) (message : String) :
    (s.log level message).speech =
      { s.speech with lines := s.speech.lines ++ [.line level (Speech.tagged s.kind message)] } := by
  simp [speech, log, emit, Effect.isLine, Speech.tagged]

theorem hush_error (message : String) (h : t.speech = (s.log .error message).speech) : Hush s t := by
  refine ⟨[_], h.trans (speech_log s .error message), fun l hl => ?_⟩
  rw [List.mem_singleton.1 hl]
  rfl

theorem hush_launch (hu : u.speech = s.speech) : Hush s (u.launch now) := by
  have hk : u.kind = s.kind := congrArg Speech.kind hu
  unfold launch
  simp only
  split
  · exact .of_speech ((speech_wake _ _).trans hu)
  · rename_i y _
    refine hush_error (resolveFailure u.launchEntry.settings.source y) ?_
    rw [speech_log, ← hu, ← hk]
    exact speech_log { u with statistics := u.statistics.countFailure y.message } .error _

theorem speech_discardRequests (s : Supervisor) : s.discardRequests.speech = s.speech :=
  discardRequests_eq speech (fun s _ _ _ => by rw [speech_wakeAny, speech_reply])
    (fun _ _ => rfl) (fun _ _ => rfl) s

theorem hush_of_works (hw : Works now s t) : Hush s t := by
  cases hw with
  | begin | retry => exact hush_launch rfl
  | join | halt => exact .of_speech rfl
  | @handleEnd e r => exact hush_error r.message (speech_discardRequests _)
  | serve _ _ _ ht =>
    rcases takeRequest?_cases ht with ⟨b, next, -, rfl⟩ | ⟨-, b, next, -, rfl⟩ <;>
      exact .of_speech (speech_wakeAny _ _)
  | reload =>
    unfold handleReload
    simp only [wakeAny_eq]
    refine .of_speech ?_
    split
    · exact (speech_wake _ _).trans (by simp [speech, Effect.isLine])
    · simp [speech, Effect.isLine]

theorem speech_stepCourier {n : Nat} (h : s.stepCourier n = some t) : t.speech = s.speech := by
  unfold stepCourier at h
  split at h
  · cases h
  · split at h
    · unfold deliver at h
      split at h
      · cases h
        rfl
      · split at h
        · cases h
          exact speech_wake _ _
        · split at h <;> cases h
          rfl
    · split at h
      · unfold forward at h
        split at h
        · cases h
          rfl
        · split at h
          · cases h
            exact speech_wake _ _
          · split at h <;> cases h
            rfl
      · cases h
        rfl

theorem speech_replies (s : Supervisor) (rs : List Request) :
    (rs.foldl (fun s r => s.reply r.number none) s).speech = s.speech :=
  replies_eq speech speech_reply s rs

theorem speech_crash (s : Supervisor) (r : Request) : (s.crash r).speech = s.speech := by
  unfold crash
  rw [speech_wakeAll]
  exact speech_replies s _

/-- Only in steps of executions do calls return. -/
theorem hush_move (hne : ∀ now n, m ≠ .task now (.execution n)) (hf : m ≠ .flush)
    (h : s.move m = some t) : Hush s t := by
  cases m with
  | start onDemand query =>
    simp only [move] at h
    split at h <;> cases h
    rw [start, if_pos ‹_›]
    refine ⟨[_], (speech_wake _ _).trans (speech_log s .info _), fun l hl => ?_⟩
    rw [List.mem_singleton.1 hl]
    exact Speech.isAcceptance_started _ _
  | cancel reason =>
    simp only [move] at h
    split at h <;> cases h
    rw [cancel, if_neg ‹_›]
    refine ⟨[_], (speech_wakeAll _ _).trans (speech_log s .info _), fun l hl => ?_⟩
    rw [List.mem_singleton.1 hl]
    exact Speech.isAcceptance_stopped _ _
  | reload entry =>
    simp only [move] at h
    split at h <;> cases h
    rw [reload, if_neg ‹_›]
    exact .of_speech (speech_wake _ _)
  | rest | resume =>
    simp only [move] at h
    split at h <;> cases h
    exact .of_speech rfl
  | setPause ms =>
    cases h
    exact .of_speech rfl
  | flush => exact absurd rfl hf
  | task now k =>
    cases k with
    | worker => exact hush_of_works (works_of_stepWorker h)
    | execution n => exact absurd rfl (hne now n)
    | courier n => exact .of_speech (speech_stepCourier h)
  | reply number answer =>
    cases h
    exact .of_speech (speech_reply _ _ _)
  | crash =>
    simp only [move] at h
    split at h <;> cases h
    exact .of_speech (speech_crash s _)
  | giveUp number =>
    simp only [move, giveUp] at h
    split at h
    · cases h
    · split at h <;> cases h
      · exact .of_speech (speech_leaveBox _ _ _)
      · exact .of_speech rfl
  | aside number a =>
    simp only [move, announceAside] at h
    split at h
    · cases h
    · split at h <;> cases h
      exact .of_speech (speech_abandon _ _ _)

/-! ## Calls that return -/

/-- That a call returns is noted only in a step of its own execution. -/
theorem resolves_of_move
    (hc : ∀ e ∈ s.executions, ∀ r, e.activity = .posting r → e.announcing? = some r.announcement)
    (h : s.move m = some t)
    (ht : t.events = ⟨now, .answered a x⟩ :: s.events) :
    ∃ e, s.execution? e.number = some e ∧ m = .task now (.execution e.number) ∧
      e.isAlive = true ∧ e.announcing? = some a ∧ Resolves s e x := by
  have hne : t.events ≠ s.events := by simp [ht]
  by_cases hf : m = .flush
  · subst hf
    cases h
    exact absurd rfl hne
  -- in any other move nothing at all is noted about calls
  by_cases hx : ∃ now n, m = .task now (.execution n)
  · obtain ⟨now', n, rfl⟩ := hx
    obtain ⟨e, he, halive, hu⟩ := utters_stepExecution hc h
    have hn := number_of_execution? he
    subst hn
    cases hu with
    | other _ _ hp =>
      rcases hp with hp | ⟨y, hy, hp⟩
      · exact absurd (congrArg Speech.events hp) hne
      · have hevents : t.events = ⟨now', y⟩ :: s.events := congrArg Speech.events hp
        rw [ht] at hevents
        cases hevents
        cases hy
    | writes _ _ hp => exact absurd hp hne
    | asks _ _ _ _ _ hp => exact absurd (congrArg Speech.events hp) hne
    | @returns b y hb hy _ _ hp =>
      have hevents : t.events = ⟨now', .answered b y⟩ :: s.events := congrArg Speech.events hp
      rw [ht] at hevents
      cases hevents
      exact ⟨e, he, rfl, halive, hb, hy⟩
  · obtain ⟨ls, hp, -⟩ := hush_move (fun now n heq => hx ⟨now, n, heq⟩) hf h
    exact absurd (congrArg Speech.events hp) hne

end Supervisor

end MediaPaths
