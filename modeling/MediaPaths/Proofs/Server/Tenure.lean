import MediaPaths.Proofs.Server.Scenes
import MediaPaths.Proofs.Supervision.Stopping

/-!
# Supervisors and the paths that have them

As long as operations are completed, a supervisor is at work exactly while a path has it: until it is asked
to stop, its worker goes on, and afterwards it is idle and nothing is left of its executions. It is idle
before another supervisor is made for a path of the same name, so a path never has two executions.

`Manned` says this of scenes. It speaks of the paths that are not done with, too: their supervisors are
still being stopped.
-/

namespace MediaPaths

namespace Supervisor

variable {s t : Supervisor} {m : Move} {ms : List Move}

/-- A sound supervisor whose worker goes on until it is asked to stop. -/
structure Steadfast (s : Supervisor) : Prop where
  sound : s.Sound
  alive : s.control.cancelled = false → s.control.worker.isAlive = true

/-- A supervisor goes on without being started. -/
structure Continues (s t : Supervisor) : Prop where
  steadfast : s.Steadfast → t.Steadfast
  idle : s.isIdle = true → t.isIdle = true

theorem Continues.refl (s : Supervisor) : Continues s s := ⟨id, id⟩

/-- What continues twice continues. -/
theorem Continues.trans {u : Supervisor} (h : Continues s t) (h' : Continues t u) : Continues s u :=
  ⟨h'.steadfast ∘ h.steadfast, h'.idle ∘ h.idle⟩

/-- A worker ends only when it is asked to. -/
theorem Steadfast.move (hs : s.Steadfast) (hm : m ≠ .crash) (h : s.move m = some t) : t.Steadfast := by
  refine ⟨hs.sound.move hm h, fun hc => ?_⟩
  have halive := hs.alive
  cases steers_of_move h with
  | still _ ht =>
    rw [ht] at hc ⊢
    exact halive hc
  | cancel ht =>
    rw [ht] at hc
    cases hc
  | rest ht =>
    rw [ht] at hc
    have hw := hs.sound.stopped_of_rest h
    have := halive hc
    rw [hw] at this
    cases this
  | halt hw _ ht =>
    rw [ht] at hc
    rcases hw with ⟨-, hcan⟩ | hw
    · exact absurd (hcan.symm.trans hc) Bool.noConfusion
    · have hjoin := (hs.sound.consistent.joining hw).2
      rw [show s.control.cancelled = false from hc] at hjoin
      cases hjoin
  | handleEnd hw _ _ ht =>
    rw [ht]
    show s.worker.isAlive = true
    rw [hw]
    rfl
  | start _ ht | launch _ ht | fail _ ht | join _ _ _ ht | serve _ ht | resume _ ht =>
    rw [ht]
    rfl
  | crash => exact absurd rfl hm

/-- A supervisor is idle just when its worker is. -/
theorem isIdle_iff : s.isIdle = true ↔ s.control.worker = .idle := by
  simp [isIdle, control]

/-- An idle supervisor has no execution. -/
theorem Steadfast.executions_eq_nil (hs : s.Steadfast) (hi : s.isIdle = true) : s.executions = [] :=
  (Supervisor.executions_eq_nil hs.sound (.inr (isIdle_iff.1 hi))).2

/-- A supervisor has no more than one execution. -/
theorem Steadfast.length_executions_le (hs : s.Steadfast) : s.executions.length ≤ 1 := by
  rw [executions, hs.sound.orphans, List.append_nil]
  cases s.execution <;> simp

/-- An idle supervisor stays idle until it is started. -/
theorem isIdle_move (hi : s.isIdle = true) (hm : m.isStart = false) (h : s.move m = some t) :
    t.isIdle = true := by
  rw [isIdle_iff] at hi ⊢
  cases steers_of_move h with
  | still _ ht | cancel ht =>
    rw [ht]
    exact hi
  | rest ht => rw [ht]
  | start => cases hm
  | launch hw | fail hw => obtain hw | ⟨hw, -⟩ := hw <;> cases hw.symm.trans hi
  | halt hw => obtain ⟨hw, -⟩ | hw := hw <;> cases hw.symm.trans hi
  | join hw | handleEnd hw | serve hw | resume hw | crash hw => cases hw.symm.trans hi

/-- A run without a start or a crash lets a supervisor continue as it was. -/
theorem continues_run (hms : ∀ m ∈ ms, m.isStart = false ∧ m ≠ .crash) (h : s.run ms = some t) :
    Continues s t := by
  induction ms generalizing s with
  | nil =>
    cases h
    exact .refl _
  | cons m ms ih =>
    obtain ⟨u, hu, h⟩ := Option.bind_eq_some_iff.1 h
    obtain ⟨⟨hstart, hcrash⟩, hms⟩ := List.forall_mem_cons.1 hms
    exact Continues.trans ⟨fun hs => hs.move hcrash hu, fun hi => isIdle_move hi hstart hu⟩ (ih hms h)

/-- A supervisor that is not asked to stop makes some moves. -/
theorem continues_of_gentle (hms : ∀ m ∈ ms, m.isGentle = true ∧ m.isStart = false)
    (h : s.run ms = some t) : Continues s t ∧ (s.cancelled = false → t.cancelled = false) := by
  refine ⟨continues_run (fun m hm => ⟨(hms m hm).2, ?_⟩) h, fun hc => ?_⟩
  · rintro rfl
    cases (hms _ hm).1
  · rw [cancelled_run hc h]
    exact isStopAsked_of_gentle fun m hm => (hms m hm).1

/-- Routine moves start nothing and crash nothing. -/
theorem gentle_of_routine (hm : m.isRoutine = true) : m.isGentle = true ∧ m.isStart = false := by
  cases m with
  | task | reply | resume | flush => exact ⟨rfl, rfl⟩
  | _ => cases hm

end Supervisor

namespace Server

open Supervisor (Continues Steadfast)

variable {w w' v : Server} {x y x₀ : Scene} {k : Manner} {i j : Nat} {s t : Supervisor} {h : Host}
  {p q : ActivePath} {name : String} {gone : List ActivePath}

/-! ## What becomes of supervisors -/

/-- Every owner has a supervisor. -/
theorem supervisor?_of_owner? {o : Owner} (ho : w.owner? i = some o) :
    ∃ s, w.supervisor? i = some s := by
  obtain ⟨mark, hm, -⟩ := Option.map_eq_some_iff.1 ho
  rw [marks, List.getElem?_map] at hm
  obtain ⟨h, hi, -⟩ := Option.map_eq_some_iff.1 hm
  exact ⟨h.supervisor, by rw [supervisor?, hi]; rfl⟩

theorem lt_of_supervisor? (hs : w.supervisor? i = some s) : i < w.hosts.length := by
  obtain ⟨h, hi, -⟩ := Option.map_eq_some_iff.1 hs
  exact (List.getElem?_eq_some_iff.1 hi).1

/-- Every supervisor has an owner. -/
theorem owner?_of_supervisor? (hs : w.supervisor? i = some s) : ∃ o, w.owner? i = some o := by
  obtain ⟨h, hi, -⟩ := Option.map_eq_some_iff.1 hs
  exact ⟨h.owner, owner?_eq hi⟩

/-- What becomes of a supervisor when something happens. Only one whose path is not done with is asked to
stop. -/
structure Scene.Keeps (x y : Scene) (i : Nat) (s t : Supervisor) : Prop where
  before : x.server.supervisor? i = some s
  continues : Continues s t
  cancelled : (s.cancelled = false → t.cancelled = false) ∨ ∃ p ∈ x.gone, p.origin = .source i

/-- What happens to supervisors and to the paths that have them. -/
inductive Scene.Tends (x y : Scene) : Prop where
  /-- Supervisors go on; a path that is done with leaves an idle one. -/
  | keep (sup : ∀ i t, y.server.supervisor? i = some t → ∃ s, Scene.Keeps x y i s t)
      (active : ∀ q ∈ y.server.registry.paths, ∃ p ∈ x.server.registry.paths, p.origin = q.origin)
      (left : ∀ p ∈ x.server.registry.paths ++ x.gone, x.server.AtRest p ∨
        ∃ q ∈ y.server.registry.paths ++ y.gone, q.origin = p.origin)
  /-- A path is added, perhaps with a supervisor. If a path of its name is not done with yet, the supervisor
  of that one is idle. -/
  | add {p : ActivePath}
      (sup : ∀ i t, y.server.supervisor? i = some t → (∃ s, Scene.Keeps x y i s t) ∨
        p.origin = .source i ∧ t.Steadfast ∧ t.isIdle = false ∧ t.cancelled = false)
      (active : y.server.registry.paths = x.server.registry.paths ++ [p])
      (inactive : x.server.registry.get? p.name = none)
      (origin : ∀ i, p.origin = .source i → i = x.server.hosts.length)
      (gone : ∀ q ∈ x.gone, q.name = p.name → x.server.AtRest q)
      (left : ∀ q ∈ x.gone, x.server.AtRest q ∨ q ∈ y.gone)

/-- Supervisors stay as they are. -/
theorem Scene.Keeps.still (hh : y.server.hosts = x.server.hosts) :
    ∀ i t, y.server.supervisor? i = some t → ∃ s, Scene.Keeps x y i s t := fun i t ht =>
  ⟨t, by rw [supervisor?, ← hh]; exact ht, .refl t, .inl id⟩

/-- One supervisor makes some moves. -/
theorem Scene.Keeps.set (hj : x.server.hosts[j]? = some h)
    (hh : y.server.hosts = x.server.hosts.set j ⟨s, h.owner⟩) (hc : Continues h.supervisor s)
    (hcan : (h.supervisor.cancelled = false → s.cancelled = false) ∨
      ∃ p ∈ x.gone, p.origin = .source j) :
    ∀ i t, y.server.supervisor? i = some t → ∃ s, Scene.Keeps x y i s t := by
  intro i t ht
  by_cases hij : j = i
  · subst hij
    obtain rfl := Option.some.inj ((supervisor?_of_set hj hh).symm.trans ht)
    exact ⟨h.supervisor, by rw [supervisor?, hj]; rfl, hc, hcan⟩
  · exact ⟨t, (supervisor?_of_set_ne hij hh).symm.trans ht, .refl t, .inl id⟩

/-- The supervisor of a path that is not done with is asked to do something. -/
theorem Scene.Keeps.modify {f : Supervisor → Supervisor} (hw : w.Owned) (hp : p ∈ gone)
    (ho : p.origin = .source j)
    (hf : ∀ s, w.supervisor? j = some s → Continues s { f s with effects := [] }) :
    ∀ i t, (w.modify j f).supervisor? i = some t →
      ∃ s, Scene.Keeps ⟨w, gone⟩ ⟨w.modify j f, gone⟩ i s t := by
  rcases hosts_modify hw j f with ⟨h, hj, hh⟩ | ⟨-, hh⟩
  · exact Scene.Keeps.set (x := ⟨w, gone⟩) (y := ⟨w.modify j f, gone⟩) hj hh
      (hf _ (by rw [supervisor?, hj]; rfl)) (.inr ⟨p, hp, ho⟩)
  · exact Scene.Keeps.still (x := ⟨w, gone⟩) (y := ⟨w.modify j f, gone⟩) hh

/-- Performing effects lets a supervisor continue. -/
theorem continues_flush (s : Supervisor) : Continues s { s with effects := [] } := by
  have hrun : s.run [.flush] = some { s with effects := [] } := rfl
  exact Supervisor.continues_run (by simp [Supervisor.Move.isStart]) hrun

/-- A supervisor that is being stopped continues until it is idle. -/
theorem continues_cancel (s : Supervisor) (reason : String) :
    Continues s { s.cancel reason with effects := [] } := by
  cases hidle : s.isIdle with
  | true =>
    rw [Supervisor.cancel, if_pos hidle]
    exact continues_flush s
  | false =>
    have hrun : s.run [.cancel reason, .flush] = some { s.cancel reason with effects := [] } := by
      simp [Supervisor.run_cons, Supervisor.move, hidle]
    exact Supervisor.continues_run (by simp [Supervisor.Move.isStart]) hrun

/-- A supervisor whose worker has ended is laid to rest. -/
theorem continues_rest (hd : s.isDone = true) : Continues s { s.rest with effects := [] } := by
  cases hidle : s.isIdle with
  | true =>
    have hworker : s.worker = .idle := by simpa [Supervisor.isIdle] using hidle
    have hrest : s.rest = s := by rw [Supervisor.rest, ← hworker]
    rw [hrest]
    exact continues_flush s
  | false =>
    have hrun : s.run [.rest, .flush] = some { s.rest with effects := [] } := by
      simp [Supervisor.run_cons, Supervisor.move, hidle, hd]
    exact Supervisor.continues_run (by simp [Supervisor.Move.isStart]) hrun

/-- A supervisor that was just made and started. -/
theorem steadfast_hired {now pause : Nat} {entry : Entry} {groups : Option (List String)}
    {options : SourceOptions} {factory : Factory}
    (hs : Supervisor.create now entry groups options factory pause = .ok s) (name : String) (id : Nat)
    (m : Match) (query : String) : (hired s name id m query).supervisor.Steadfast ∧
      (hired s name id m query).supervisor.isIdle = false ∧
      (hired s name id m query).supervisor.cancelled = false := by
  have hsound := Supervisor.sound_create hs
  obtain ⟨kind, source, -, rfl⟩ := Supervisor.create_eq hs
  have hstart := hsound.move (m := .start m.entry.settings.sourceOnDemand query) nofun rfl
  exact ⟨⟨hstart.move (m := .flush) nofun rfl, fun _ => rfl⟩, rfl, rfl⟩

/-- A path that is made active may need a supervisor, which is added. -/
theorem hosts_build (hw : w.Owned) {m : Match} {query : String}
    (hb : (w.build name m query).2 = .ok q) :
    (∀ i t, (w.build name m query).1.supervisor? i = some t → w.supervisor? i = some t ∨
        q.origin = .source i ∧ t.Steadfast ∧ t.isIdle = false ∧ t.cancelled = false) ∧
      ∀ i, q.origin = .source i → i = w.hosts.length := by
  obtain ⟨ms, hbuilt⟩ := built_of_build hw name m query
  generalize (w.build name m query).1 = v at hbuilt ⊢
  rw [hb] at hbuilt
  have same : v.hosts = w.hosts → ∀ i t, v.supervisor? i = some t → w.supervisor? i = some t :=
    fun hh i t ht => by rw [supervisor?, ← hh]; exact ht
  cases hbuilt with
  | redirected _ _ hh | published _ _ hh =>
    exact ⟨fun i t ht => .inl (same hh i t ht), fun i ho => by cases ho⟩
  | @pulled s hs hh =>
    refine ⟨fun i t ht => ?_, fun i ho => (Origin.source.inj ho).symm⟩
    rw [supervisor?, hh] at ht
    by_cases hi : i < w.hosts.length
    · rw [List.getElem?_append_left hi] at ht
      exact .inl ht
    · rw [List.getElem?_append_right (Nat.le_of_not_lt hi)] at ht
      obtain ⟨h, hh, rfl⟩ := Option.map_eq_some_iff.1 ht
      rw [List.getElem?_singleton] at hh
      split at hh
      · rename_i hzero
        cases hh
        obtain rfl : i = w.hosts.length := by omega
        exact .inr ⟨rfl, steadfast_hired hs name _ m query⟩
      · cases hh

/-- Nothing becomes of supervisors, and the paths stay. -/
theorem Scene.Tends.idle (hh : y.server.hosts = x.server.hosts)
    (hp : y.server.registry.paths = x.server.registry.paths) (hg : y.gone = x.gone) :
    Scene.Tends x y :=
  .keep (Scene.Keeps.still hh) (fun q hq => ⟨q, hp ▸ hq, rfl⟩) fun p hmem =>
    .inr ⟨p, by rw [hp, hg]; exact hmem, rfl⟩

/-- A supervisor is operated. -/
theorem Scene.Tends.modify {f : Supervisor → Supervisor}
    (hsup : ∀ j t, (w.modify i f).supervisor? j = some t →
      ∃ s, Scene.Keeps ⟨w, gone⟩ ⟨w.modify i f, gone⟩ j s t) :
    Scene.Tends ⟨w, gone⟩ ⟨w.modify i f, gone⟩ := by
  have hpaths : (w.modify i f).registry.paths = w.registry.paths := by rw [registry_modify]
  exact .keep hsup (fun q hq => ⟨q, hpaths ▸ hq, rfl⟩) fun q hmem =>
    .inr ⟨q, by rw [hpaths]; exact hmem, rfl⟩

/-- A step of a task lets the supervisors go on: it starts none and crashes none. -/
theorem tends_task {c : Task} (hw : w.Tidy) (ht : w.stepTask i c = some v) :
    Scene.Tends ⟨w, gone⟩ ⟨v.hosts[i]?.elim v (v.setAlarms i), gone⟩ := by
  obtain ⟨ms, hturn⟩ := turn_of_stepTask hw.owned ht
  have hturn := hturn.congr (hosts_elim_setAlarms v i) (registry_elim_setAlarms v i)
  have ho := outline_of_turn hw hturn
  refine .keep ?_ (fun q hq => ?_) fun p hmem => .inr ?_
  · rcases run_of_turn hturn with hh | ⟨h, s, hi, hrun, hh, hms⟩
    · exact Scene.Keeps.still hh
    · obtain ⟨hc, hcan⟩ := Supervisor.continues_of_gentle
        (fun m hm => Supervisor.gentle_of_routine (hms m hm)) hrun
      exact Scene.Keeps.set hi hh hc (.inl hcan)
  · obtain ⟨p, hp, hrep⟩ := replaces_of_outline ho q hq
    exact ⟨p, hp, hrep.origin.symm⟩
  · rcases List.mem_append.1 hmem with hp | hp
    · obtain ⟨q, hq, hrep⟩ := replaces_of_outline ho.symm p hp
      exact ⟨q, List.mem_append_left _ hq, hrep.origin.symm⟩
    · exact ⟨p, List.mem_append_right _ hp, rfl⟩

/-- A path that comes under another entry keeps its supervisor. -/
theorem tends_amend (hw : w.Tidy) (hp : p ∈ w.registry.paths) {entry : Entry}
    (hn : needsRestart p entry false = false) :
    Scene.Tends ⟨w, gone⟩ ⟨w.setRegistry (w.registry.set { p with entry := entry }), gone⟩ := by
  refine .keep (Scene.Keeps.still rfl) (fun q hq => ?_) fun q hmem => .inr ?_
  · obtain ⟨r, hr, hrep⟩ := replaces_set hp hn q hq
    exact ⟨r, hr, hrep.origin.symm⟩
  · rcases List.mem_append.1 hmem with hq | hq
    · refine ⟨_, List.mem_append_left _ (List.mem_map_of_mem hq), ?_⟩
      dsimp only
      split
      · show p.origin = q.origin
        rw [List.inj_on_of_nodup_map hw.distinct hp hq (Eq.symm ‹_›)]
      · rfl
    · exact ⟨q, List.mem_append_right _ hq, rfl⟩

/-- A supervisor that settings are sent to goes on. -/
theorem tends_inform (hw : w.Owned) (i : Nat) (entry : Entry) :
    Scene.Tends ⟨w, gone⟩ ⟨w.reload i entry, gone⟩ := by
  have hpaths : (w.reload i entry).registry.paths = w.registry.paths := by rw [registry_reload]
  rcases inform_cases hw i entry with ⟨h, s, ms, hi, hms, hrun, hh⟩ | hh
  · have hgentle : ∀ m ∈ ms, m.isGentle = true ∧ m.isStart = false := by
      rcases hms with rfl | rfl <;> simp [Supervisor.Move.isGentle, Supervisor.Move.isStart]
    obtain ⟨hc, hcan⟩ := Supervisor.continues_of_gentle hgentle hrun
    exact .keep (Scene.Keeps.set hi hh hc (.inl hcan)) (fun q hq => ⟨q, hpaths ▸ hq, rfl⟩)
      fun q hmem => .inr ⟨q, by rw [hpaths]; exact hmem, rfl⟩
  · exact .idle hh hpaths rfl

/-- A path is made active, or cannot be. Paths of its name that are not done with have idle supervisors. -/
theorem tends_build {m : Match} {query : String} {g g' : List ActivePath} (hw : w.Tidy)
    (hn : w.registry.get? name = none) (hg : ∀ q ∈ g, q.name = name → w.AtRest q)
    (hleft : ∀ q ∈ g, w.AtRest q ∨ q ∈ g')
    (hfailed : ∀ e, (w.build name m query).2 = .error e → g' = g) :
    Scene.Tends ⟨w, g⟩ ⟨(w.build name m query).1, g'⟩ := by
  rcases registry_build hw.owned name m query with ⟨o, hok, hr⟩ | ⟨e, he, hr, hh⟩
  · obtain ⟨hsup, ho⟩ := hosts_build hw.owned hok
    refine .add (fun i t ht => ?_) (paths_insert hr) hn ho hg hleft
    exact (hsup i t ht).imp_left fun hs => ⟨t, hs, .refl t, .inl id⟩
  · exact .idle hh (by rw [hr]; rfl) (hfailed e he)

/-- In an operation that is seen through each step lets the supervisors go on with their paths, or adds a path. -/
theorem Scene.Next.tends (hs : Scene.Next k x y) (hk : k.thorough = true) (hx : x.InOrder) :
    Scene.Tends x y := by
  have htidy := hx.assigned.tidy
  cases hs with
  | task ht => exact tends_task htidy ht
  | park | record | request | replace => exact .idle rfl rfl rfl
  | @pass w g t => exact .idle (hosts_passTo w t) (by rw [registry_passTo]) rfl
  | @release w g => exact .idle (hosts_release w) (by rw [registry_release]) rfl
  | relist hp =>
    exact .keep (Scene.Keeps.still rfl) (fun q hq => ⟨q, hp.mem_iff.1 hq, rfl⟩) fun p hmem =>
      .inr ⟨p, (hp.append_right _).mem_iff.2 hmem, rfl⟩
  | amend hp entry hn => exact tends_amend htidy hp hn
  | inform i entry => exact tends_inform htidy.owned i entry
  | @remove w g p _ hp =>
    have hperm := ((paths_remove htidy.distinct hp).append_right g).trans List.perm_middle.symm
    exact .keep (Scene.Keeps.still rfl) (fun q hq => ⟨q, (List.mem_filter.1 hq).1, rfl⟩) fun q hmem =>
      .inr ⟨q, hperm.mem_iff.1 hmem, rfl⟩
  | clear =>
    exact .keep (Scene.Keeps.still rfl) (fun q hq => absurd hq List.not_mem_nil) fun q hmem =>
      .inr ⟨q, by simpa [setRegistry] using hmem, rfl⟩
  | cancel hp ho reason =>
    exact .modify (Scene.Keeps.modify htidy.owned hp ho fun s _ => continues_cancel s reason)
  | rest hp ho hd =>
    refine .modify (Scene.Keeps.modify htidy.owned hp ho fun s hs => continues_rest ?_)
    have hd := hd hk
    rw [isDone, hs] at hd
    exact hd
  | @lose w g p hr =>
    refine .keep (Scene.Keeps.still rfl) (fun q hq => ⟨q, hq, rfl⟩) fun q hmem => .inr ?_
    rcases List.mem_append.1 hmem with hq | hq
    · exact ⟨q, List.mem_append_left _ hq, rfl⟩
    · rcases List.mem_cons.1 hq with rfl | hq
      · exact ⟨_, List.mem_append_right _ (List.mem_cons_self ..), rfl⟩
      · exact ⟨q, List.mem_append_right _ (List.mem_cons_of_mem _ hq), rfl⟩
  | @bury w g p hr reason =>
    refine .keep (Scene.Keeps.still rfl) (fun q hq => ⟨q, hq, rfl⟩) fun q hmem => ?_
    rcases List.mem_append.1 hmem with hq | hq
    · exact .inr ⟨q, List.mem_append_left _ hq, rfl⟩
    · rcases List.mem_cons.1 hq with rfl | hq
      · exact .inl hr
      · exact .inr ⟨q, List.mem_append_right _ hq, rfl⟩
  | build _ hn hg m query =>
    exact tends_build htidy hn (fun q hq hqn => absurd hqn (hg q hq)) (fun q hq => .inr hq)
      fun _ _ => rfl
  | @renew w g p q m hn _ hr hb =>
    refine tends_build htidy hn (fun r hmem hrn => ?_) (fun r hmem => ?_) fun e he => ?_
    · have hself : p ∈ w.registry.paths ++ p :: g := List.mem_append_right _ (List.mem_cons_self ..)
      rw [hx.eq_of_name (List.mem_append_right _ hmem) hself hrn]
      exact hr
    · refine (List.mem_cons.1 hmem).imp_left ?_
      rintro rfl
      exact hr
    · cases hb.symm.trans he
  | @refuse w g p m e hn hr hb =>
    rcases registry_build htidy.owned p.name m p.query with ⟨o, ho, -⟩ | ⟨e, -, hr, hh⟩
    · cases hb.symm.trans ho
    · exact .idle hh (by rw [hr]; rfl) rfl

/-! ## Supervisors at work -/

/-- Supervisors are at work exactly while paths have them. -/
structure Scene.Manned (x : Scene) : Prop where
  /-- Until a supervisor is asked to stop, its worker goes on. -/
  steadfast : ∀ i s, x.server.supervisor? i = some s → s.Steadfast
  /-- The supervisor of an active path is not asked to stop. -/
  wanted : ∀ p ∈ x.server.registry.paths, ∀ i s, p.origin = .source i →
    x.server.supervisor? i = some s → s.cancelled = false
  /-- A supervisor is idle that no path has any longer. -/
  idle : ∀ i s, x.server.supervisor? i = some s →
    (∀ p ∈ x.server.registry.paths ++ x.gone, p.origin ≠ .source i) → s.isIdle = true
  /-- Of two supervisors for paths of one name, the earlier one is idle. -/
  succession : ∀ i j name id id' s, i < j → x.server.owner? i = some (.path name id) →
    x.server.owner? j = some (.path name id') → x.server.supervisor? i = some s → s.isIdle = true

/-- An owner keeps its place. -/
theorem Scene.Next.owner? (hs : Scene.Next k x y) (hx : x.InOrder) {o : Owner}
    (ho : x.server.owner? i = some o) : y.server.owner? i = some o := by
  rcases hs.stride hx with hs | ⟨ps, -, rfl⟩
  · exact owner?_of_stride hx.assigned.tidy.owned hs ho
  · exact ho

/-- A supervisor keeps its owner. -/
theorem Scene.Keeps.owner? (h : Scene.Keeps x y i s t) (hs : Scene.Next k x y) (hx : x.InOrder)
    {o : Owner} (ho : y.server.owner? i = some o) : x.server.owner? i = some o := by
  obtain ⟨o', ho'⟩ := owner?_of_supervisor? h.before
  rw [ho', ← hs.owner? hx ho', ho]

/-- A supervisor is idle if each path that has it is done with. -/
theorem Scene.Manned.idle_of_atRest (hx : x.Manned) (hs : x.server.supervisor? i = some s)
    (hp : ∀ p ∈ x.server.registry.paths ++ x.gone, p.origin = .source i → x.server.AtRest p) :
    s.isIdle = true := by
  by_cases hnone : ∀ p ∈ x.server.registry.paths ++ x.gone, p.origin ≠ .source i
  · exact hx.idle i s hs hnone
  · simp only [not_forall, not_not] at hnone
    obtain ⟨p, hmem, ho⟩ := hnone
    exact hp p hmem ho i s ho hs

/-- A supervisor that goes on is not asked to stop while an active path has it. -/
theorem Scene.Keeps.wanted (h : Scene.Keeps x y i s t) (hx : x.Manned) (hord : x.InOrder)
    (hp : p ∈ x.server.registry.paths) (ho : p.origin = .source i) : t.cancelled = false := by
  refine h.cancelled.elim (fun hcan => hcan (hx.wanted p hp i s ho h.before)) ?_
  rintro ⟨q, hq, hqo⟩
  exact absurd ho (hord.unclaimed hq hqo p hp)

/-- Whatever happens next, supervisors stay at work exactly while paths have them. -/
theorem Scene.Manned.next (hx : x.Manned) (hs : Scene.Next k x y) (hk : k.thorough = true)
    (hord : x.InOrder) : y.Manned := by
  cases hs.tends hk hord with
  | keep sup active left =>
    refine ⟨fun i t ht => ?_, fun q hq i t ho ht => ?_, fun i t ht hnone => ?_,
      fun i j name id id' t hij hi hj ht => ?_⟩
    · obtain ⟨s, h⟩ := sup i t ht
      exact h.continues.steadfast (hx.steadfast i s h.before)
    · obtain ⟨s, h⟩ := sup i t ht
      obtain ⟨p, hp, hpo⟩ := active q hq
      exact h.wanted hx hord hp (hpo.trans ho)
    · obtain ⟨s, h⟩ := sup i t ht
      refine h.continues.idle (hx.idle_of_atRest h.before fun p hp ho => ?_)
      refine (left p hp).resolve_right ?_
      rintro ⟨q, hq, hqo⟩
      exact hnone q hq (hqo.trans ho)
    · obtain ⟨s, h⟩ := sup i t ht
      obtain ⟨t', ht'⟩ := supervisor?_of_owner? hj
      obtain ⟨s', h'⟩ := sup j t' ht'
      exact h.continues.idle (hx.succession i j name id id' s hij (h.owner? hs hord hi)
        (h'.owner? hs hord hj) h.before)
  | @add p sup active inactive origin gone left =>
    have old : ∀ {i t}, y.server.supervisor? i = some t → i < x.server.hosts.length →
        ∃ s, Scene.Keeps x y i s t := fun {i t} ht hi => (sup i t ht).resolve_right fun h =>
      Nat.ne_of_lt hi (origin i h.1)
    refine ⟨fun i t ht => ?_, fun q hq i t ho ht => ?_, fun i t ht hnone => ?_,
      fun i j name id id' t hij hi hj ht => ?_⟩
    · rcases sup i t ht with ⟨s, h⟩ | ⟨-, hsteady, -⟩
      · exact h.continues.steadfast (hx.steadfast i s h.before)
      · exact hsteady
    · rcases sup i t ht with ⟨s, h⟩ | ⟨-, -, -, hcan⟩
      · rw [active, List.mem_append, List.mem_singleton] at hq
        rcases hq with hq | rfl
        · exact h.wanted hx hord hq ho
        · exact absurd (origin i ho) (Nat.ne_of_lt (lt_of_supervisor? h.before))
      · exact hcan
    · rcases sup i t ht with ⟨s, h⟩ | ⟨hpo, -⟩
      · refine h.continues.idle (hx.idle_of_atRest h.before fun q hq ho => ?_)
        rcases List.mem_append.1 hq with hq | hq
        · refine absurd ho (hnone q (List.mem_append_left _ ?_))
          rw [active]
          exact List.mem_append_left _ hq
        · exact (left q hq).resolve_right fun hq => hnone q (List.mem_append_right _ hq) ho
      · refine absurd hpo (hnone p (List.mem_append_left _ ?_))
        rw [active]
        exact List.mem_append_right _ (List.mem_singleton_self p)
    · obtain ⟨t', ht'⟩ := supervisor?_of_owner? hj
      rcases sup j t' ht' with ⟨s', h'⟩ | ⟨hpo, -⟩
      · obtain ⟨s, h⟩ := old ht (Nat.lt_trans hij (lt_of_supervisor? h'.before))
        exact h.continues.idle (hx.succession i j name id id' s hij (h.owner? hs hord hi)
          (h'.owner? hs hord hj) h.before)
      · -- the later supervisor is the one that was added, and the path of its name was not active
        obtain ⟨s, h⟩ := old ht (origin j hpo ▸ hij)
        have hmem : p ∈ y.server.registry.paths := by
          rw [active]
          exact List.mem_append_right _ (List.mem_singleton_self p)
        have hown := ((hord.next hs).assigned.claims p hmem j).2 hpo
        rw [hj] at hown
        obtain ⟨rfl, -⟩ := Owner.path.inj (Option.some.inj hown)
        refine h.continues.idle (hx.idle_of_atRest h.before fun q hq ho => ?_)
        have hi := h.owner? hs hord hi
        rcases List.mem_append.1 hq with hq | hq
        · rw [(hord.assigned.claims q hq i).2 ho] at hi
          exact absurd (Owner.path.inj (Option.some.inj hi)).1
            (name_ne_of_inactive hord.assigned.tidy inactive q hq)
        · rw [hord.claims q hq i ho] at hi
          exact gone q hq (Owner.path.inj (Option.some.inj hi)).1

/-- After operations that were seen through, the supervisors at work are those of the active paths. -/
theorem Scene.Leads.manned (hx : Scene.Leads k x₀ x) (hk : k.thorough = true) (h₀ : x₀.InOrder)
    (hm : x₀.Manned) : x.Manned :=
  hx.induction h₀ hm fun hord hs hm => hm.next hs hk hord

/-! ## Paths with a source -/

/-- A path has a supervisor if its settings ask for a source that is pulled. -/
def Sourced (p : ActivePath) : Prop := p.origin.host?.isSome = p.entry.settings.hasStaticSource

/-- A path is built with a supervisor just when its settings ask for a source that is pulled. -/
theorem sourced_build (hw : w.Owned) {m : Match} {query : String}
    (hb : (w.build name m query).2 = .ok q) : Sourced q := by
  obtain ⟨ms, hbuilt⟩ := built_of_build hw name m query
  generalize (w.build name m query).1 = v at hbuilt
  rw [hb] at hbuilt
  cases hbuilt with
  | redirected hs | published hs => exact hs.symm
  | pulled hs =>
    obtain ⟨kind, hk, -⟩ := Supervisor.made_create hs
    simp [Sourced, activation, Origin.host?, Settings.hasStaticSource, hk]

/-- It stays so as long as the path is active. -/
theorem Scene.Next.sourced (hs : Scene.Next k x y) (hx : x.InOrder)
    (hp : ∀ p ∈ x.server.registry.paths, Sourced p) : ∀ p ∈ y.server.registry.paths, Sourced p := by
  have htidy := hx.assigned.tidy
  have built : ∀ (w : Server) (name : String) (m : Match) (query : String), w.Owned →
      (∀ p ∈ w.registry.paths, Sourced p) →
        ∀ p ∈ (w.build name m query).1.registry.paths, Sourced p := fun w name m query howned hp => by
    rcases registry_build howned name m query with ⟨o, hok, hr⟩ | ⟨e, -, hr, -⟩
    · rw [paths_insert hr, List.forall_mem_append, List.forall_mem_singleton]
      exact ⟨hp, sourced_build howned hok⟩
    · rw [hr]
      exact hp
  cases hs with
  | @task w v i t g ht =>
    obtain ⟨ms, hturn⟩ := turn_of_stepTask htidy.owned ht
    have hturn := hturn.congr (hosts_elim_setAlarms v i) (registry_elim_setAlarms v i)
    exact forall_paths_congr (P := Sourced) (fun _ => Iff.rfl)
      (congrArg Prod.fst (outline_of_turn htidy hturn)) hp
  | park | record | request | replace | lose | bury => exact hp
  | @pass w g t =>
    rw [registry_passTo]
    exact hp
  | @release w g =>
    rw [registry_release]
    exact hp
  | relist hperm => exact fun p hmem => hp p (hperm.mem_iff.1 hmem)
  | @amend w g p hmem entry hn =>
    intro q hq
    obtain ⟨r, hr, rfl⟩ := List.mem_map.1 hq
    split
    · -- the source is one that is pulled, or not, as before
      have hsame : p.entry.settings.source = entry.settings.source := by
        simp only [needsRestart, Settings.needsRestart, Bool.or_eq_false_iff,
          bne_eq_false_iff_eq] at hn
        tauto
      have hsourced := hp p hmem
      simp only [Sourced, Settings.hasStaticSource, Settings.sourceKind?, hsame] at hsourced ⊢
      exact hsourced
    · exact hp r hr
  | @inform w g i entry =>
    rw [registry_reload]
    exact hp
  | cancel | rest =>
    rw [registry_modify]
    exact hp
  | remove => exact fun p hmem => hp p (List.mem_filter.1 hmem).1
  | clear => exact List.forall_mem_nil _
  | build => exact built _ _ _ _ htidy.owned hp
  | renew | refuse => exact built _ _ _ _ htidy.owned hp

/-! ## One to one -/

/-- The supervisors that were started and have not been stopped since. -/
def running (w : Server) : List Nat :=
  (List.range w.hosts.length).filter fun i => (w.supervisor? i).any (!·.isIdle)

/-- The supervisors that active paths have. -/
def sources (w : Server) : List Nat := w.registry.paths.filterMap (·.origin.host?)

/-- The executions of a supervisor that was made for a path of a name. -/
def executionsFor (name : String) (h : Host) : List Execution :=
  match h.owner with
  | .path n _ => if n = name then h.supervisor.executions else []
  | .judge _ => []

/-- The executions of all supervisors that were ever made for paths of a name. -/
def executionsOf (w : Server) (name : String) : List Execution :=
  w.hosts.flatMap (executionsFor name)

/-- The running supervisors are those that are not idle. -/
theorem mem_running : i ∈ w.running ↔ ∃ s, w.supervisor? i = some s ∧ s.isIdle = false := by
  simp only [running, List.mem_filter, List.mem_range, Option.any_eq_true, Bool.not_eq_true']
  exact ⟨And.right, fun h => ⟨lt_of_supervisor? h.choose_spec.1, h⟩⟩

/-- The sources are the origins of the active paths. -/
theorem mem_sources : i ∈ w.sources ↔ ∃ p ∈ w.registry.paths, p.origin = .source i := by
  simp only [sources, List.mem_filterMap]
  refine exists_congr fun p => and_congr_right fun _ => ⟨origin_of_host?, fun ho => ?_⟩
  rw [ho]
  rfl

/-- No two active paths have one supervisor. -/
theorem nodup_sources (hw : w.Assigned) : w.sources.Nodup := by
  refine List.pairwise_filterMap.2 ((List.pairwise_map.1 hw.tidy.distinct).imp_of_mem ?_)
  rintro p q hp hq hne i hi j hj rfl
  exact hne (congrArg _ (hw.eq_of_origin hp hq (origin_of_host? hi) (origin_of_host? hj)))

/-- At most one of some lists is not empty, and that one is short. -/
theorem length_flatMap_le_one {α β : Type} {f : α → List β} {l : List α}
    (hone : ∀ a ∈ l, (f a).length ≤ 1) (hpair : l.Pairwise fun a b => f a = [] ∨ f b = []) :
    (l.flatMap f).length ≤ 1 := by
  induction l with
  | nil => exact Nat.zero_le _
  | cons a l ih =>
    obtain ⟨ha, hone⟩ := List.forall_mem_cons.1 hone
    obtain ⟨hrest, hpair⟩ := List.pairwise_cons.1 hpair
    rw [List.flatMap_cons]
    by_cases hnil : f a = []
    · rw [hnil]
      exact ih hone hpair
    · have : l.flatMap f = [] := List.flatMap_eq_nil_iff.2 fun b hb => (hrest b hb).resolve_left hnil
      rw [this, List.append_nil]
      exact ha

/-- The executions for a name are those of the supervisors that work for a path of it. -/
theorem executionsFor_cases (name : String) (h : Host) : executionsFor name h = [] ∨
    ∃ id, h.owner = .path name id ∧ executionsFor name h = h.supervisor.executions := by
  unfold executionsFor
  cases ho : h.owner with
  | judge => exact .inl rfl
  | path n id =>
    by_cases hn : n = name
    · exact .inr ⟨id, by rw [hn], if_pos hn⟩
    · exact .inl (if_neg hn)

/-- There are never two executions for paths of one name. -/
theorem Scene.Manned.length_executionsOf (hx : x.Manned) (name : String) :
    (x.server.executionsOf name).length ≤ 1 := by
  have host : ∀ {i : Nat} {h : Host}, x.server.hosts[i]? = some h →
      x.server.supervisor? i = some h.supervisor := fun hi => by
    rw [supervisor?, hi]
    rfl
  refine length_flatMap_le_one (fun h hh => ?_) (List.pairwise_iff_getElem.2 fun i j hi hj hij => ?_)
  · obtain ⟨i, hi⟩ := List.mem_iff_getElem?.1 hh
    rcases executionsFor_cases name h with hnil | ⟨id, -, heq⟩
    · rw [hnil]
      exact Nat.zero_le _
    · rw [heq]
      exact (hx.steadfast i _ (host hi)).length_executions_le
  · have hi := List.getElem?_eq_getElem hi
    have hj := List.getElem?_eq_getElem hj
    rcases executionsFor_cases name x.server.hosts[i] with hnil | ⟨id, ho, heq⟩
    · exact .inl hnil
    · rcases executionsFor_cases name x.server.hosts[j] with hnil | ⟨id', ho', -⟩
      · exact .inr hnil
      · refine .inl (heq.trans ((hx.steadfast i _ (host hi)).executions_eq_nil ?_))
        exact hx.succession i j name id id' _ hij (by rw [owner?_eq hi, ho])
          (by rw [owner?_eq hj, ho']) (host hi)

/-- One running supervisor for each source, and one source for each running supervisor. -/
theorem Scene.Manned.running_perm (hx : x.Manned) (hord : x.InOrder) (hg : x.gone = []) :
    x.server.running.Perm x.server.sources := by
  have hnodup : x.server.running.Nodup := List.nodup_range.filter _
  refine (List.perm_ext_iff_of_nodup hnodup (nodup_sources hord.assigned)).2 fun i => ?_
  rw [mem_running, mem_sources]
  constructor
  · rintro ⟨s, hs, hidle⟩
    by_contra hnone
    simp only [not_exists, not_and] at hnone
    rw [hx.idle i s hs (by rw [hg, List.append_nil]; exact hnone)] at hidle
    cases hidle
  · rintro ⟨p, hp, ho⟩
    obtain ⟨s, hs⟩ := supervisor?_of_owner? ((hord.assigned.claims p hp i).2 ho)
    refine ⟨s, hs, ?_⟩
    have halive := (hx.steadfast i s hs).alive (hx.wanted p hp i s ho hs)
    by_contra hidle
    rw [Supervisor.isIdle_iff.1 (by simpa using hidle)] at halive
    cases halive

/-- Supervisors are at work exactly for the active paths with a source that is pulled. -/
structure Supervised (w : Server) : Prop where
  /-- A supervisor that was not stopped is that of one active path, and that path has no other one. -/
  oneToOne : w.running.Perm w.sources
  /-- Active paths have a supervisor if their settings ask for a source that is pulled. -/
  sourced : ∀ p ∈ w.registry.paths, Sourced p
  /-- The worker of a supervisor that was not stopped goes on. -/
  alive : ∀ i ∈ w.running, ∃ s, w.supervisor? i = some s ∧ s.worker.isAlive = true
  /-- Only supervisors that were not stopped have executions. -/
  executions : ∀ i s, w.supervisor? i = some s → s.executions ≠ [] → i ∈ w.running
  /-- For each name there is one execution at most. -/
  single : ∀ name, (w.executionsOf name).length ≤ 1

/-- The sources of a server are supervised one by one. -/
theorem Scene.Manned.supervised (hx : Scene.Manned ⟨w, []⟩) (hord : Scene.InOrder ⟨w, []⟩)
    (hp : ∀ p ∈ w.registry.paths, Sourced p) : w.Supervised := by
  have hperm : w.running.Perm w.sources := hx.running_perm hord rfl
  refine ⟨hperm, hp, fun i hi => ?_, fun i s hs hne => ?_, hx.length_executionsOf⟩
  · obtain ⟨p, hp, ho⟩ := mem_sources.1 (hperm.mem_iff.1 hi)
    obtain ⟨s, hs, -⟩ := mem_running.1 hi
    exact ⟨s, hs, (hx.steadfast i s hs).alive (hx.wanted p hp i s ho hs)⟩
  · refine mem_running.2 ⟨s, hs, ?_⟩
    by_contra hidle
    exact hne ((hx.steadfast i s hs).executions_eq_nil (by simpa using hidle))

/-! ## Replacing and shutting down -/

/-- When a server that puts a configuration in force is about to make a source anew, nothing is left of the
one that it replaces. -/
def Vacates (w : Server) (c : Configuration) : Prop :=
  ∀ earlier name later, (w.adopt c).registry.paths.map (·.name) = earlier ++ name :: later →
    let v := (earlier.foldl (alignName c (w.optionsChange c)) (w.adopt c, none)).1
    ∀ p ∈ v.registry.get? name, ∀ m, c.find name = .ok m → Restarts (w.optionsChange c) p m →
      ∀ i, p.origin = .source i →
        ∀ s ∈ ((v.setRegistry (v.registry.remove name)).stopSource p
            "configuration changed").supervisor? i,
          s.isIdle = true ∧ s.executions = []

/-- What holds throughout a list holds throughout its two parts, one after the other. -/
theorem throughout_append {σ α : Type} {f : σ → α → σ} {P : σ → α → Prop} {s : σ} {as bs : List α} :
    Throughout f P s (as ++ bs) ↔ Throughout f P s as ∧ Throughout f P (as.foldl f s) bs := by
  induction as generalizing s with
  | nil => simp [Throughout]
  | cons a as ih => simp [Throughout, ih, and_assoc]

/-- A reload that is seen through vacates what it closes. -/
theorem Scene.Leads.vacates {c : Configuration} (hw : Scene.Leads { thorough := true } x₀ ⟨w, []⟩)
    (h₀ : x₀.InOrder) (hm : x₀.Manned) (hd : w.Realigns c) : w.Vacates c := by
  intro earlier name later hnames v p hp m hf hr i ho s hs
  rw [Realigns, hnames, throughout_append] at hd
  obtain ⟨hearlier, hnow, -⟩ := hd
  obtain rfl := name_of_get? hp
  have hcloses := hnow p hp
  simp only [Aligns, hf] at hcloses
  have hv : Scene.Leads { thorough := true } x₀ ⟨v, []⟩ :=
    alignNames (hw.adopt c) rfl fun _ => hearlier
  obtain ⟨hstop, hrest⟩ := (hv.remove rfl hp).stopSource (List.mem_singleton_self p) fun _ => hcloses hr
  have hidle := hrest i s ho hs
  exact ⟨hidle, ((hstop.manned rfl h₀ hm).steadfast i s hs).executions_eq_nil hidle⟩

/-- A shutdown leaves no path. -/
theorem paths_shutdown (hw : w.Tidy) : w.shutdown.registry.paths = [] := by
  have hclose : ∀ (ps : List ActivePath) (v : Server), v.Tidy → v.registry.paths = [] →
      (ps.foldl (fun w p => w.close p "shutting down") v).registry.paths = [] := by
    intro ps
    induction ps with
    | nil => exact fun v _ hv => hv
    | cons p ps ih =>
      intro v htidy hv
      have ho := outline_close htidy p "shutting down"
      refine ih _ (htidy.congr ho) ?_
      have hnames := names_of_outline ho
      rw [hv] at hnames
      simpa using hnames
  refine hclose _ _ ?_ (by rw [registry_release]; rfl)
  refine Tidy.congr (w := w.acquire.setRegistry { w.acquire.registry with paths := [] }) ?_
    (outline_release _)
  exact ⟨(hw.congr (outline_acquire hw)).owned, List.nodup_nil⟩

/-- As long as operations are completed, supervisors are at work exactly for the active paths with a source
that is pulled. Whenever a source is made anew for another configuration, nothing is left of the one that
it replaces, and a server that is shut down has no supervisor at work and no execution. -/
theorem sources_supervised (store : Store) (factory : Workshop) (pause : Nat) {is : List Incident}
    (hdone : (fresh store factory pause).Completed is) :
    ((fresh store factory pause).life is).Supervised ∧
    (∀ c, ((fresh store factory pause).life is).Realigns c →
      ((fresh store factory pause).life is).Vacates c) ∧
    (((fresh store factory pause).life is).Completes .shutdown →
      ((fresh store factory pause).life is).shutdown.registry.paths = [] ∧
      ((fresh store factory pause).life is).shutdown.running = [] ∧
      ∀ i s, ((fresh store factory pause).life is).shutdown.supervisor? i = some s →
        s.executions = []) := by
  have h₀ := inOrder_fresh store factory pause
  have hm₀ : Scene.Manned ⟨fresh store factory pause, []⟩ := by
    constructor <;> simp [fresh, supervisor?]
  have hlife := (h₀.leads { thorough := true }).life ⟨rfl, rfl⟩ fun _ => hdone
  have hsourced : ∀ {x : Scene}, Scene.Leads { thorough := true } ⟨fresh store factory pause, []⟩ x →
      ∀ p ∈ x.server.registry.paths, Sourced p := fun hx =>
    hx.induction h₀ (P := fun x => ∀ p ∈ x.server.registry.paths, Sourced p)
      (List.forall_mem_nil _) fun hord hs hp => hs.sourced hord hp
  generalize (fresh store factory pause).life is = w at hlife ⊢
  refine ⟨(hlife.manned rfl h₀ hm₀).supervised hlife.inOrder (hsourced hlife),
    fun c hd => hlife.vacates h₀ hm₀ hd, fun hd => ?_⟩
  have hdown := hlife.shutdown rfl fun _ => hd
  have hsup := (hdown.manned rfl h₀ hm₀).supervised hdown.inOrder (hsourced hdown)
  have hpaths := paths_shutdown hlife.inOrder.assigned.tidy
  have hrunning : w.shutdown.running = [] := by
    have hperm := hsup.oneToOne
    rw [sources, hpaths] at hperm
    exact hperm.eq_nil
  refine ⟨hpaths, hrunning, fun i s hs => ?_⟩
  by_contra hne
  have hmem := hsup.executions i s hs hne
  rw [hrunning] at hmem
  cases hmem

/-- A source is made anew for another address while its execution takes a while to end. -/
theorem sources_supervised_replaced :
    let lingering : Workshop := ⟨fun _ _ _ _ => .ok { behaviour := fun _ => [.awaitStop, .linger 700] }⟩
    let configured (source : String) :=
      ((({} : Configuration).insert "cam" { source := source }).toOption).getD {}
    let es : List Event := .operation .start :: List.replicate 5 .step ++
      .operation (.reload (configured "rtsp://10.0.0.2:554/live")) :: List.replicate 5 .step
    let w := (fresh ⟨configured "rtsp://10.0.0.1:554/live"⟩ lingering 5000).life (es.map .event)
    w.Supervised ∧ w.sources = [1] ∧ (w.executionsOf "cam").map (·.address) = ["rtsp://10.0.0.2:554/live"] ∧
      w.shutdown.running = [] := by
  intro lingering configured es w
  have hcompleted : (fresh ⟨configured "rtsp://10.0.0.1:554/live"⟩ lingering 5000).Completed
      (es.map .event) := by decide +kernel
  obtain ⟨hw, -, hdown⟩ := sources_supervised _ _ _ hcompleted
  exact ⟨hw, by decide +kernel, by decide +kernel, (hdown (by decide +kernel)).2.1⟩

end Server

end MediaPaths
