import MediaPaths.Proofs.Supervision.Ending

/-!
# A stop is heeded

From the moment at which a supervisor is asked to stop, nobody is forgotten. Its worker stands in line unless
it is at a request or waits for the execution to end, and its execution stands in line unless it sits out a
time. `Heeds` says so of the tasks that are in line. Whatever the supervisor does keeps it, if the tasks that
are woken by that are in line afterwards.
-/

namespace MediaPaths

namespace Supervisor

variable {s t u : Supervisor} {e : Execution} {now later number : Nat} {k : Task}
  {inLine inLine' : Task → Prop}

/-! ## Executions that end -/

/-- The execution that is held has not ended, or the worker is woken. -/
def Reports (t : Supervisor) : Prop :=
  (∃ e, t.execution = some e ∧ e.isAlive = true) ∨ .wake .worker ∈ t.effects

theorem reports_of_winds (he : s.execution = some e) (h : Winds s now e t) : t.Reports := by
  cases h with
  | begins =>
    have hu : (s.note now (.launched e.address e.entry)).cast = s.cast := cast_note rfl
    exact .inl ⟨{ e with activity := .acting }, execution_set he hu rfl, rfl⟩
  | advances hu => exact .inl ⟨e.advance, execution_set he hu rfl, rfl⟩
  | @rests ms => exact .inl ⟨{ e with activity := .resting (now + ms) }, execution_set he rfl rfl, rfl⟩
  | announces hu => exact .inl ⟨_, execution_announced he hu _, rfl⟩
  | ends hu r => exact .inr (endExecution_held he hu r).2

/-- An execution that takes a step leaves the one that is held alone, or is that one. -/
theorem execution_stepExecution (h : s.stepExecution now number = some t) (he : s.execution = some e) :
    t.execution = some e ∨
      e.number = number ∧ ∃ e', t.execution = some e' ∧ e'.number = number := by
  obtain ⟨f, hf, -, ha⟩ := acts_stepExecution h
  have hn := number_of_execution? hf
  have set : ∀ e' : Execution, e'.fixed = f.fixed → t.cast.execution = (s.cast.set e').execution →
      t.execution = some e ∨ e.number = number ∧ ∃ e', t.execution = some e' ∧ e'.number = number := by
    intro e' hfix ht
    have hn' : e'.number = number := (Execution.number_of_fixed hfix).trans hn
    change t.execution = s.execution.map _ at ht
    rw [he, Option.map_some] at ht
    by_cases heq : e.number = e'.number
    · rw [if_pos heq] at ht
      exact .inr ⟨heq.trans hn', e', ht, hn'⟩
    · rw [if_neg heq] at ht
      exact .inl ht
  cases ha with
  | goes e' hfix _ _ ht => exact set e' hfix (congrArg Cast.execution ht)
  | takes e' hfix _ _ ht | ends e' hfix _ _ _ ht => exact set e' hfix (by rw [ht]; rfl)
  | leaves _ ht => exact .inl ((congrArg Cast.execution ht).trans he)

/-! ## Tasks in line -/

/-- Nobody is forgotten of a supervisor that is being stopped. -/
structure Heeds (inLine : Task → Prop) (now : Nat) (s : Supervisor) : Prop where
  /-- The execution that is held was told of the stop. -/
  warned : s.Warned
  /-- The worker goes on, unless it is at a request or waits for the execution to end. -/
  worker : s.cancelled = true → (s.worker = .spawned ∨ s.worker = .selecting ∨
    s.worker = .joining ∧ ∀ e ∈ s.execution, e.isAlive = false) → inLine .worker
  /-- The execution goes on, unless it sits out a time. -/
  execution : s.cancelled = true → ∀ e ∈ s.execution, e.isAlive = true →
    inLine (.execution e.number) ∨ ∃ till, e.activity = .resting till ∧ now < till

/-- Of one that is not being stopped nothing is said. -/
theorem heeds_of_not_cancelled (hc : s.cancelled = false) : Heeds inLine now s := by
  have absurd : s.cancelled ≠ true := by simp [hc]
  exact ⟨fun h => (absurd h).elim, fun h => (absurd h).elim, fun h => (absurd h).elim⟩

namespace Heeds

/-- The worker is where it was, and so is the execution but for what is in its inbox. -/
theorem congr (hs : Heeds inLine now s) (hline : ∀ k, inLine k → inLine' k)
    (hc : t.cancelled = s.cancelled) (hw : t.worker = s.worker)
    (hx : t.execution.map emptied = s.execution.map emptied) : Heeds inLine' now t := by
  have hold : ∀ f ∈ t.execution, ∃ e ∈ s.execution, emptied e = emptied f := by
    intro f hf
    have hmem : emptied f ∈ s.execution.map emptied := by
      rw [← hx, Option.mem_def.1 hf]
      rfl
    exact Option.map_eq_some_iff.1 hmem
  have hlast : ∀ e ∈ s.execution, ∃ f ∈ t.execution, emptied f = emptied e := by
    intro e he
    have hmem : emptied e ∈ t.execution.map emptied := by
      rw [hx, Option.mem_def.1 he]
      rfl
    exact Option.map_eq_some_iff.1 hmem
  have hsame : ∀ {e f : Execution}, emptied e = emptied f →
      e.cancelled = f.cancelled ∧ e.activity = f.activity ∧ e.number = f.number := by
    intro e f h
    simp only [emptied, Execution.mk.injEq] at h
    exact ⟨h.2.2.2.2.2.1, h.2.2.2.2.1, h.1⟩
  have halive : ∀ {e f : Execution}, emptied e = emptied f → e.isAlive = f.isAlive := by
    intro e f h
    simp only [Execution.isAlive, Execution.result?, (hsame h).2.1]
  refine ⟨fun hcan f hf => ?_, fun hcan hwait => ?_, fun hcan f hf ha => ?_⟩
  · obtain ⟨e, he, heq⟩ := hold f hf
    rw [← (hsame heq).1]
    exact hs.warned (hc ▸ hcan) e he
  · rw [hw] at hwait
    refine hline _ (hs.worker (hc ▸ hcan) (hwait.imp_right (·.imp_right ?_)))
    rintro ⟨hjoin, hdead⟩
    refine ⟨hjoin, fun e he => ?_⟩
    obtain ⟨f, hf, heq⟩ := hlast e he
    rw [← halive heq]
    exact hdead f hf
  · obtain ⟨e, he, heq⟩ := hold f hf
    obtain ⟨-, hact, hn⟩ := hsame heq
    rw [← hact, ← hn]
    exact (hs.execution (hc ▸ hcan) e he (halive heq ▸ ha)).imp_left (hline _)

theorem mono (hs : Heeds inLine now s) (hline : ∀ k, inLine k → inLine' k) : Heeds inLine' now s :=
  hs.congr hline rfl rfl rfl

/-! ### What whoever operates it does -/

theorem cancel (hs : Heeds inLine now s) (hline : ∀ k, inLine k → inLine' k) {reason : String}
    (hwake : ∀ k, .wake k ∈ (s.cancel reason).effects → inLine' k) :
    Heeds inLine' now (s.cancel reason) := by
  unfold Supervisor.cancel at hwake ⊢
  split
  · exact hs.mono hline
  · rename_i hidle
    rw [if_neg hidle] at hwake
    simp only [wakeAll_eq] at hwake ⊢
    have told : ∀ k ∈ audience { s.log .info s!"stopped: {reason}" with cancelled := true },
        inLine' k :=
      fun k hk => hwake k (List.mem_append_right _ (List.mem_map_of_mem hk))
    refine ⟨fun _ f hf => ?_, fun _ _ => ?_, fun _ f hf _ => .inl ?_⟩
    · obtain ⟨e, -, rfl⟩ := Option.map_eq_some_iff.1 hf
      rfl
    · exact told .worker (List.mem_append_right _ (List.mem_cons_self ..))
    · obtain ⟨e, he, rfl⟩ := Option.map_eq_some_iff.1 hf
      refine told _ (List.mem_append_left _ (List.mem_map.2 ⟨e, ?_, rfl⟩))
      exact List.mem_append_left _ (Option.mem_toList.2 he)

theorem reload (hs : Heeds inLine now s) (entry : Entry) : Heeds inLine now (s.reload entry) := by
  unfold Supervisor.reload
  split
  · exact hs
  · exact hs.congr (fun _ hk => hk) rfl rfl rfl

theorem rest (hs : Heeds inLine now s) : Heeds inLine now s.rest :=
  ⟨hs.warned, by simp [Supervisor.rest], hs.execution⟩

/-! ### What happens by itself -/

/-- The owner is done with a request. -/
theorem settle (hs : Heeds inLine now s) (hline : ∀ k, inLine k → inLine' k) (hw : inLine' .worker)
    (answer : Option Answer) : Heeds inLine' now (s.reply number answer).resume := by
  have hx : (s.reply number answer).execution = s.execution.map (hear number answer) := by
    rw [reply, wakeAll_eq]
    rfl
  have hc : (s.reply number answer).cancelled = s.cancelled :=
    congrArg Control.cancelled (control_reply s number answer)
  refine ⟨fun hcan f hf => ?_, fun _ _ => hw, fun hcan f hf ha => ?_⟩
  · change f ∈ (s.reply number answer).execution at hf
    rw [hx] at hf
    obtain ⟨e, he, rfl⟩ := Option.map_eq_some_iff.1 hf
    have hcancelled : (hear number answer e).cancelled = e.cancelled := by
      unfold hear
      split <;> rfl
    rw [hcancelled]
    exact hs.warned (hc ▸ hcan) e he
  · change f ∈ (s.reply number answer).execution at hf
    rw [hx] at hf
    obtain ⟨e, he, rfl⟩ := Option.map_eq_some_iff.1 hf
    have hheeds := hs.execution (hc ▸ hcan) e he
    unfold hear at ha ⊢
    split at ha
    · -- it has waited for the answer
      rename_i hawaits
      have hact : e.activity = .listening number none := by simpa [Execution.awaits] using hawaits
      have halive : e.isAlive = true := by simp [Execution.isAlive, Execution.result?, hact]
      rcases hheeds halive with hin | ⟨till, htill, -⟩
      · rw [if_pos hawaits]
        exact .inl (hline _ hin)
      · cases hact.symm.trans htill
    · rename_i hawaits
      rw [if_neg hawaits]
      exact (hheeds ha).imp_left (hline _)

theorem stepExecution (hs : Heeds inLine now s) (hline : ∀ k, inLine k → inLine' k)
    (hk : inLine (.execution number)) (h : s.stepExecution now number = some t)
    (hwake : ∀ k, .wake k ∈ t.effects → inLine' k) : Heeds inLine' now t := by
  have hframe := frame_stepExecution h
  have hc : t.cancelled = s.cancelled := congrArg (·.1.cancelled) hframe
  have hw : t.worker = s.worker := congrArg (·.1.worker) hframe
  have hwarned : t.Warned := hs.warned.move (m := .task now (.execution number)) h
  cases hx : s.execution with
  | none =>
    have hnone : t.execution = none := by
      have hmap : t.execution.map (·.number) = s.execution.map (·.number) := congrArg (·.2) hframe
      rw [hx] at hmap
      simpa using hmap
    exact hs.congr hline hc hw (by rw [hx, hnone])
  | some e =>
    rcases execution_stepExecution h hx with hsame | ⟨hn, e', he', hn'⟩
    · exact hs.congr hline hc hw (by rw [hx, hsame])
    · subst hn
      refine ⟨hwarned, fun hcan hwait => ?_, fun _ f hf _ => ?_⟩
      · rw [hw] at hwait
        rcases hwait with hspawned | hselecting | ⟨-, hdead⟩
        · exact hline _ (hs.worker (hc ▸ hcan) (.inl hspawned))
        · exact hline _ (hs.worker (hc ▸ hcan) (.inr (.inl hselecting)))
        · -- the execution has ended, and the worker learns of it
          have hcan' := hs.warned (hc ▸ hcan) e hx
          have hwinds := (winds_stepExecution (execution?_watched hx) hcan' h).2
          rcases reports_of_winds hx hwinds with ⟨f, hf, ha⟩ | hwoken
          · rw [hdead f hf] at ha
            cases ha
          · exact hwake _ hwoken
      · obtain rfl := Option.some.inj (he'.symm.trans hf)
        rw [hn']
        exact .inl (hline _ hk)

theorem stepWorker (hs : Heeds inLine now s) (hline : ∀ k, inLine k → inLine' k)
    (hk : inLine .worker) (h : s.stepWorker now = some t)
    (hwake : ∀ k, .wake k ∈ t.effects → inLine' k) : Heeds inLine' now t := by
  have hc : t.cancelled = s.cancelled := cancelled_move (m := .task now .worker) h
  have hwarned : t.Warned := hs.warned.move (m := .task now .worker) h
  have still : s.cancelled = false → Heeds inLine' now t := fun hfalse =>
    heeds_of_not_cancelled (hc.trans hfalse)
  cases works_of_stepWorker h with
  | begin hw =>
    refine ⟨hwarned, fun _ _ => hline _ hk, fun hcan f hf ha => ?_⟩
    rcases launch_cases { s with worker := .selecting } now with ⟨address, hl⟩ | ⟨st, effects, hl⟩
    · rw [hl] at hf hwake
      cases hf
      exact .inl (hwake _ (List.mem_append_right _ (List.mem_singleton_self _)))
    · rw [hl] at hf
      exact (hs.execution (hc ▸ hcan) f hf ha).imp_left (hline _)
  | join => exact ⟨hwarned, fun _ _ => hline _ hk, fun hcan e he ha =>
      (hs.execution hcan e he ha).imp_left (hline _)⟩
  | halt => exact ⟨hwarned, fun _ hwait => by simp [Supervisor.halt] at hwait, fun _ e he => by cases he⟩
  | handleEnd _ hfalse | serve _ hfalse | reload _ hfalse | retry _ hfalse => exact still hfalse

theorem step (hs : Heeds inLine now s) (hline : ∀ k, inLine k → inLine' k) (hk : inLine k)
    (h : s.step now k = some t) (hwake : ∀ k, .wake k ∈ t.effects → inLine' k) :
    Heeds inLine' now t := by
  cases k with
  | worker => exact hs.stepWorker hline hk h hwake
  | execution n => exact hs.stepExecution hline hk h hwake
  | courier n =>
    have hframe := courierFrame_stepCourier h
    exact hs.congr hline (congrArg (·.cancelled) hframe) (congrArg (·.worker) hframe)
      (congrArg (·.execution) hframe)

/-- Whoever has to wait may leave the line. -/
theorem park (hs : Heeds inLine now s) (h : s.step now k = none) :
    Heeds (fun t => inLine t ∧ t ≠ k) now s := by
  refine ⟨hs.warned, fun hc hwait => ⟨hs.worker hc hwait, ?_⟩, fun hc e he ha => ?_⟩
  · rintro rfl
    change s.stepWorker now = none at h
    rcases hwait with hw | hw | ⟨hw, hdead⟩
    · simp [Supervisor.stepWorker, hw] at h
    · simp [Supervisor.stepWorker, hw, select, hc] at h
    · have hall : s.execution.all (!·.isAlive) = true := by
        rw [Option.all_eq_true]
        intro e he
        simp [hdead e he]
      simp [Supervisor.stepWorker, hw, hall] at h
  · rcases hs.execution hc e he ha with hin | hrest
    · by_cases hk : .execution e.number = k
      · subst hk
        refine .inr ((stepExecution_or_rests now (execution?_watched he) ha (hs.warned hc e he)).resolve_left ?_)
        rintro ⟨t, ht⟩
        cases ht.symm.trans h
      · exact .inl ⟨hin, hk⟩
    · exact .inr hrest

/-- Time passes, and those go on whose time has come. -/
theorem pass (hs : Heeds inLine now s) (hline : ∀ k, inLine k → inLine' k)
    (hdue : ∀ e ∈ s.execution, ∀ till, e.activity = .resting till → now < till → till ≤ later →
      inLine' (.execution e.number)) : Heeds inLine' later s := by
  refine ⟨hs.warned, fun hc hwait => hline _ (hs.worker hc hwait), fun hc e he ha => ?_⟩
  rcases hs.execution hc e he ha with hin | ⟨till, hact, hlt⟩
  · exact .inl (hline _ hin)
  · by_cases htill : till ≤ later
    · exact .inl (hdue e he till hact hlt htill)
    · exact .inr ⟨till, hact, Nat.lt_of_not_le htill⟩

end Heeds

end Supervisor

end MediaPaths
