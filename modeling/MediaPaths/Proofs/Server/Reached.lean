import MediaPaths.Proofs.Server.Course

/-!
# Every history is a course

Whatever is asked of a server is done in strides: while one waits in the middle of it, tasks take steps. A
supervisor is only stopped once no active path has it any longer.
-/

namespace MediaPaths

namespace Server

/-- A server to which a course leads. -/
structure Reached (w₀ w : Server) : Prop where
  /-- The course. -/
  course : Course w₀ w
  /-- Supervisors and active paths are assigned to each other. -/
  assigned : w.Assigned

variable {w₀ w w' : Server} {i : Nat} {name : String} {p : ActivePath}

/-! ## Strides -/

theorem Reached.stride (hw : Reached w₀ w) (hs : Stride w w') : Reached w₀ w' :=
  ⟨.concat hw.course hs, hw.assigned.stride hs⟩

theorem lasting_reached (w₀ : Server) : Lasting (Reached w₀) := by
  constructor
  · exact fun ht hw => hw.stride (.task ht)
  · exact fun hq ht hw => hw.stride (.park hq ht)
  · exact fun t hw => hw.stride (.pass t)

theorem Reached.waitFor (hw : Reached w₀ w) (done : Server → Bool) : Reached w₀ (w.waitFor done) :=
  (lasting_reached w₀).waitFor done hw

theorem Reached.acquire (hw : Reached w₀ w) : Reached w₀ w.acquire := by
  unfold Server.acquire
  exact (hw.stride .request).waitFor _

theorem Reached.release (hw : Reached w₀ w) : Reached w₀ w.release := hw.stride .release

/-! ## Supervisors that no active path has -/

theorem Unclaimed.congr (hi : w.Unclaimed i) (ho : w'.outline = w.outline) : w'.Unclaimed i :=
  forall_paths_congr (P := fun p => p.origin ≠ .source i) (fun _ => Iff.rfl)
    (congrArg Prod.fst ho) hi

/-- Once a path is removed, no active path has its supervisor. -/
theorem unclaimed_remove (hw : w.Assigned) (hp : p ∈ w.registry.paths)
    (ho : p.origin = .source i) : (w.setRegistry (w.registry.remove p.name)).Unclaimed i := by
  intro q hq hqo
  obtain ⟨hmem, hne⟩ := List.mem_filter.1 hq
  rw [hw.eq_of_origin hmem hp hqo ho] at hne
  simp at hne

theorem recordCrash_cases (w : Server) (i : Nat) :
    w.recordCrash i = w ∨ ∃ r, w.recordCrash i = w.record r := by
  unfold recordCrash
  split
  · split
    · exact .inr ⟨_, rfl⟩
    · exact .inl rfl
  · exact .inl rfl

/-- A supervisor is stopped. While one waits for that, tasks take steps. -/
theorem Reached.stop (hw : Reached w₀ w) (hi : w.Unclaimed i) (reason : String) :
    Reached w₀ (w.stop i reason) := by
  have hcancel := hw.stride (.cancel hi reason)
  have hcall : (w.modify i (·.cancel reason)).Unclaimed i := by
    unfold Unclaimed
    rw [registry_modify]
    exact hi
  have hwait := hcancel.waitFor (isDone i)
  have hclaim := hcall.congr (outline_waitFor hcancel.assigned.tidy (isDone i))
  show Reached w₀ ((((w.modify i (·.cancel reason)).waitFor (isDone i)).recordCrash i).modify i (·.rest))
  rcases recordCrash_cases ((w.modify i (·.cancel reason)).waitFor (isDone i)) i with h | ⟨r, h⟩
  · rw [h]
    exact hwait.stride (.rest hclaim)
  · rw [h]
    exact (hwait.stride (.record r)).stride (.rest hclaim)

theorem origin_of_host? {o : Origin} (h : o.host? = some i) : o = .source i := by
  cases o with
  | source j => exact congrArg Origin.source (Option.some.inj h)
  | redirect target | publisher => cases h

/-- The source of a path is stopped that is no longer active. -/
theorem Reached.stopSource (hw : Reached w₀ w) (hp : ∀ i, p.origin = .source i → w.Unclaimed i)
    (reason : String) : Reached w₀ (w.stopSource p reason) := by
  unfold Server.stopSource
  split
  · exact hw.stop (hp _ (origin_of_host? ‹_›)) reason
  · exact hw

theorem Reached.close (hw : Reached w₀ w) (hp : ∀ i, p.origin = .source i → w.Unclaimed i)
    (reason : String) : Reached w₀ (w.close p reason) :=
  ((hw.stopSource hp reason).stride (.record (.deactivated p.name reason))).stride (.send _)

/-! ## Activating -/

theorem Reached.build (hw : Reached w₀ w) (hn : w.registry.get? name = none) (m : Match)
    (query : String) : Reached w₀ (w.build name m query).1 := hw.stride (.build hn m query)

theorem Reached.activate (hw : Reached w₀ w) (name query : String) :
    Reached w₀ (w.activate name query).1 := by
  unfold Server.activate
  split
  · exact hw
  · simp only
    split
    · exact hw.acquire.release
    · exact (hw.acquire.build ‹_› _ query).release

theorem Reached.activateAll (hw : Reached w₀ w) (es : List Entry) :
    Reached w₀ (w.activateAll es).1 := by
  induction es generalizing w with
  | nil => exact hw
  | cons e es ih =>
    have ha := hw.activate e.name ""
    unfold Server.activateAll
    split
    · rename_i v _ hv
      rw [hv] at ha
      exact ih ha
    · rename_i v _ hv
      rw [hv] at ha
      exact ha

theorem Reached.activateAlwaysOn (hw : Reached w₀ w) : Reached w₀ w.activateAlwaysOn.1 := by
  have ha := hw.activateAll (alwaysOn w.registry.store.current)
  unfold Server.activateAlwaysOn
  simp only
  split
  · rename_i v _ hv
    rw [hv] at ha
    exact ha.stride (.record _)
  · rename_i v _ hv
    rw [hv] at ha
    exact ha

/-! ## Deactivating -/

theorem Reached.deactivate (hw : Reached w₀ w) (name reason : String) :
    Reached w₀ (w.deactivate name reason).1 := by
  have ha := hw.acquire
  have hr := (ha.stride (.remove name)).release
  unfold Server.deactivate
  simp only
  split
  · rename_i p hp
    refine hr.close (fun i ho => ?_) reason
    have hc := unclaimed_remove ha.assigned (mem_of_get? hp) ho
    rw [name_of_get? hp] at hc
    exact hc.congr (outline_release _)
  · exact hr

theorem Reached.shutdown (hw : Reached w₀ w) : Reached w₀ w.shutdown := by
  -- without active paths, no supervisor has one
  have hclose : ∀ (ps : List ActivePath) (v : Server), Reached w₀ v → (∀ i, v.Unclaimed i) →
      Reached w₀ (ps.foldl (fun w p => w.close p "shutting down") v) := by
    intro ps
    induction ps with
    | nil => exact fun v hv _ => hv
    | cons p ps ih =>
      exact fun v hv hi => ih _ (hv.close (fun i _ => hi i) _) fun i =>
        (hi i).congr (outline_close hv.assigned.tidy p _)
  let v := w.acquire.setRegistry { w.acquire.registry with paths := [] }
  have hv : Reached w₀ v := hw.acquire.stride .clear
  have hnone : ∀ i, v.release.Unclaimed i := by
    intro i
    refine Unclaimed.congr (fun q hq => ?_) (outline_release v)
    cases hq
  exact (hclose _ _ hv.release hnone).stride (.record .stopped)

/-! ## Reloads -/

theorem Reached.restart (hw : Reached w₀ w) (hp : p ∈ w.registry.paths) (m : Match) :
    Reached w₀ (w.restart p m).1 := by
  have hr := hw.stride (.remove p.name)
  have hs := hr.stopSource (p := p) (fun i ho => unclaimed_remove hw.assigned hp ho)
    "configuration changed"
  have hn : ∀ v : Server, v.outline = (w.setRegistry (w.registry.remove p.name)).outline →
      v.registry.get? p.name = none := fun v ho =>
    get?_eq_none_congr (congrArg Prod.fst ho) (get?_remove _ _)
  have ho := outline_stopSource hr.assigned.tidy p "configuration changed"
  have hb : ∀ v : Server, Reached w₀ v → v.registry.get? p.name = none →
      Reached w₀ (v.build p.name m p.query).1 := fun v hv hn => hv.build hn m p.query
  unfold Server.restart
  simp only
  cases hready : p.isReady with
  | true =>
    replace hb := hb _ (hs.stride (.send (.notReady p.name))) (hn _ ho)
    simp only [if_true]
    split
    · rename_i v _ hv
      rw [hv] at hb
      exact hb
    · rename_i v _ hv
      rw [hv] at hb
      exact (hb.stride (.record _)).stride (.send _)
  | false =>
    replace hb := hb _ hs (hn _ ho)
    simp only [Bool.false_eq_true, if_false]
    split
    · rename_i v _ hv
      rw [hv] at hb
      exact hb
    · rename_i v _ hv
      rw [hv] at hb
      exact (hb.stride (.record _)).stride (.send _)

/-- A path that comes under another entry is the only one of its name. -/
theorem entry_of_set (hw : w.Assigned) (hp : p ∈ w.registry.paths) (ho : p.origin = .source i)
    (entry : Entry) : ∀ q ∈ (w.registry.set { p with entry := entry }).paths,
      q.origin = .source i → q.entry = entry := by
  intro q hq hqo
  obtain ⟨x, hx, rfl⟩ := List.mem_map.1 hq
  by_cases hn : x.name = p.name
  · rw [if_pos hn]
  · rw [if_neg hn] at hqo
    exact absurd (congrArg ActivePath.name (hw.eq_of_origin hx hp hqo ho)) hn

theorem Reached.amend (hw : Reached w₀ w) (hp : p ∈ w.registry.paths) {entry : Entry}
    (hn : needsRestart p entry false = false) : Reached w₀ (w.amend p entry) := by
  have hrecord := hw.stride (.record (.reloaded p.name))
  have hs := hrecord.stride (Stride.amend (w := w.record (.reloaded p.name)) hp entry hn)
  unfold Server.amend
  simp only
  split
  · rename_i i hi
    exact hs.stride (.inform i entry (entry_of_set hw.assigned hp (origin_of_host? hi) entry))
  · exact hs

theorem Reached.align (hw : Reached w₀ w) (hp : p ∈ w.registry.paths) (c : Configuration)
    (optionsChanged : Bool) : Reached w₀ (align c optionsChanged w p).1 := by
  unfold Server.align
  split
  · exact (hw.stride (.remove p.name)).close (fun i ho => unclaimed_remove hw.assigned hp ho) _
  · simp only
    split
    · exact hw
    · split
      · exact hw.restart hp _
      · rename_i hn
        simp only [needsRestart, Bool.or_eq_true, not_or, Bool.not_eq_true] at hn
        refine hw.amend hp ?_
        simp only [needsRestart, hn, Bool.or_false]

theorem Reached.alignName {s : Server × Option ServerError} (hs : Reached w₀ s.1)
    (c : Configuration) (optionsChanged : Bool) (name : String) :
    Reached w₀ (alignName c optionsChanged s name).1 := by
  unfold Server.alignName
  split
  · exact hs
  · rename_i p hp
    exact hs.align (mem_of_get? hp) c optionsChanged

theorem Reached.ensure {s : Server × Option ServerError} (hs : Reached w₀ s.1) (e : Entry) :
    Reached w₀ (ensure s e).1 := by
  unfold Server.ensure
  split
  · exact hs
  · rename_i hn
    have hb := hs.build (by simpa [Registry.isActive] using hn) ⟨e, none⟩ ""
    split
    · rename_i v _ hv
      rw [hv] at hb
      exact hb
    · rename_i v _ hv
      rw [hv] at hb
      exact hb

/-- What each step of a fold keeps of a server. -/
theorem Reached.foldl {α : Type}
    {f : Server × Option ServerError → α → Server × Option ServerError}
    (hf : ∀ s a, Reached w₀ s.1 → Reached w₀ (f s a).1) {s : Server × Option ServerError}
    (hs : Reached w₀ s.1) (as : List α) : Reached w₀ (as.foldl f s).1 := by
  induction as generalizing s with
  | nil => exact hs
  | cons a as ih => exact ih (hf s a hs)

theorem Reached.apply (hw : Reached w₀ w) (c : Configuration) : Reached w₀ (w.apply c).1 := by
  unfold Server.apply
  split
  · exact hw
  · rename_i c' _
    let v := w.setRegistry { w.registry with store := (w.registry.store.replace c').1 }
    have hv : Reached w₀ v := hw.stride (.replace _)
    have hr := (hv.stride (.record (.replaced c'.table.entries.length))).acquire
    refine Reached.release ?_
    refine Reached.foldl (fun s e hs => hs.ensure e) ?_ _
    exact Reached.foldl (fun s name hs => hs.alignName c' _ name) (s := (_, none)) hr _

/-! ## Every history -/

theorem Reached.operate (hw : Reached w₀ w) (o : Operation) : Reached w₀ (w.operate o) := by
  cases o with
  | start => exact hw.activateAlwaysOn
  | activate name query => exact hw.activate name query
  | deactivate name reason => exact hw.deactivate name reason
  | reload c => exact hw.apply c
  | shutdown => exact hw.shutdown
  | look => exact hw.acquire.release

/-- Every history of a server is a course. -/
theorem reached_history (store : Store) (factory : Workshop) (pause : Nat) (es : List Event) :
    Reached (fresh store factory pause) ((fresh store factory pause).history es) :=
  history_lasting (lasting_reached _) (fun _ o hw => hw.operate o) es
    ⟨.nil, assigned_fresh store factory pause⟩

/-- What every stride keeps of servers in which supervisors and active paths are assigned to each other. -/
theorem Course.induction {P : Server → Prop} (hw : Course w₀ w) (h₀ : w₀.Assigned) (hP : P w₀)
    (stride : ∀ {v v' : Server}, v.Assigned → Stride v v' → P v → P v') : w.Assigned ∧ P w := by
  induction hw with
  | nil => exact ⟨h₀, hP⟩
  | concat _ hs ih => exact ⟨ih.1.stride hs, stride ih.1 hs ih.2⟩

/-- Every course has a trace. -/
theorem Course.trace (hw : Course w₀ w) (h₀ : w₀.Assigned) : ∃ h, Trace w₀ h w := by
  refine (hw.induction (P := fun w => ∃ h, Trace w₀ h w) h₀ ⟨[], .nil⟩ ?_).2
  rintro v v' hv hs ⟨h, ht⟩
  obtain ⟨l, ha⟩ := advance_of_stride hv.tidy.owned hs
  exact ⟨h ++ l, .concat ht ha⟩

end Server

end MediaPaths
