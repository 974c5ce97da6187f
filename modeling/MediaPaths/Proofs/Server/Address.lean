import MediaPaths.Proofs.Server.Readiness
import MediaPaths.Proofs.Supervision.Address

/-!
# Sources are pulled from the addresses of their paths

A path that comes under another entry keeps its source only if the other entry has it pulled from the same
address. So it does not matter which of its entries a supervisor knows of: whatever it launches pulls from
the address for which the present entry stands.
-/

namespace MediaPaths

namespace Server

open Supervisor (Move Aims)

variable {w w' : Server} {i : Nat} {p q : ActivePath} {x : Host} {s : Supervisor} {ms : List Move}

/-- A path pulls from where another one does. -/
structure Replaces (q p : ActivePath) : Prop where
  origin : q.origin = p.origin
  groups : q.groups = p.groups
  query : q.query = p.query
  aim : p.entry.aim = q.entry.aim

theorem Replaces.refl (p : ActivePath) : Replaces p p := ⟨rfl, rfl, rfl, rfl⟩

/-- Every active path with a source has it pulled from the address of its entry. -/
def Aimed (w : Server) : Prop :=
  ∀ p ∈ w.registry.paths, ∀ i, p.origin = .source i →
    ∃ s, w.supervisor? i = some s ∧ Aims p.entry (p.groups.getD []) p.query s

theorem Aimed.replace (hw : Aimed w) (hp : p ∈ w.registry.paths) (hq : Replaces q p)
    (ho : q.origin = .source i) :
    ∃ s, w.supervisor? i = some s ∧ Aims q.entry (q.groups.getD []) q.query s := by
  obtain ⟨s, hs, haims⟩ := hw p hp i (hq.origin ▸ ho)
  rw [hq.groups, hq.query]
  exact ⟨s, hs, haims.congr hq.aim⟩

/-- Supervisors stay as they are. -/
theorem Aimed.recede (hw : Aimed w) (hh : w'.hosts = w.hosts)
    (hp : ∀ q ∈ w'.registry.paths, ∃ p ∈ w.registry.paths, Replaces q p) : Aimed w' := by
  intro q hq i ho
  obtain ⟨p, hmem, hrep⟩ := hp q hq
  obtain ⟨s, hs, haims⟩ := hw.replace hmem hrep ho
  exact ⟨s, by rw [supervisor?, hh, ← supervisor?, hs], haims⟩

/-- A supervisor makes some moves, and is handed nothing that has its source pulled from elsewhere. -/
theorem Aimed.moved (hw : Aimed w) (hi : w.hosts[i]? = some x) (hs : x.supervisor.run ms = some s)
    (hh : w'.hosts = w.hosts.set i ⟨s, x.owner⟩)
    (hp : ∀ q ∈ w'.registry.paths, ∃ p ∈ w.registry.paths, Replaces q p ∧
      (p.origin = .source i → ∀ m ∈ ms, m.isRoutine = true ∨
        ∃ e, m = .reload e ∧ e.aim = q.entry.aim)) : Aimed w' := by
  intro q hq j ho
  obtain ⟨p, hmem, hrep, hms⟩ := hp q hq
  obtain ⟨t, ht, haims⟩ := hw.replace hmem hrep ho
  by_cases hij : i = j
  · subst hij
    obtain rfl : x.supervisor = t := by
      rw [supervisor?, hi] at ht
      exact Option.some.inj ht
    exact ⟨s, supervisor?_of_set hi hh, haims.run hs (hms (hrep.origin ▸ ho))⟩
  · exact ⟨t, (supervisor?_of_set_ne hij hh).trans ht, haims⟩

/-- Something becomes of a supervisor that no active path has. -/
theorem Aimed.unclaimed (hw : Aimed w) (hi : w.Unclaimed i)
    (hh : w'.hosts = w.hosts.set i ⟨s, x.owner⟩) (hr : w'.registry = w.registry) : Aimed w' := by
  intro q hq j ho
  rw [hr] at hq
  obtain ⟨t, ht, haims⟩ := hw q hq j ho
  refine ⟨t, (supervisor?_of_set_ne ?_ hh).trans ht, haims⟩
  rintro rfl
  exact hi q hq ho

/-! ## Tasks -/

theorem run_of_turn (ht : Turn w i w' ms) : w'.hosts = w.hosts ∨ ∃ x s, w.hosts[i]? = some x ∧
    x.supervisor.run ms = some s ∧ w'.hosts = w.hosts.set i ⟨s, x.owner⟩ ∧
      ∀ m ∈ ms, m.isRoutine = true := by
  cases ht with
  | own hi hs hh => exact .inr ⟨_, _, hi, (Supervisor.run_task hs).1, hh, by simp [Move.isRoutine]⟩
  | line hh => exact .inl hh
  | decline hi hserv _ hh | answer hi _ hserv hh =>
    exact .inr ⟨_, _, hi, (Supervisor.run_answer hserv _).1, hh, by simp [Move.isRoutine]⟩

theorem replaces_of_outline (ho : w'.outline = w.outline) :
    ∀ q ∈ w'.registry.paths, ∃ p ∈ w.registry.paths, Replaces q p := by
  intro q hq
  have hmem : q.still ∈ w'.registry.outline.paths := List.mem_map_of_mem hq
  rw [show w'.registry.outline = w.registry.outline from congrArg Prod.fst ho] at hmem
  obtain ⟨p, hp, hpq⟩ := List.mem_map.1 hmem
  simp only [ActivePath.still, ActivePath.mk.injEq] at hpq
  obtain ⟨-, -, hentry, hgroups, hquery, -, horigin⟩ := hpq
  exact ⟨p, hp, horigin.symm, hgroups.symm, hquery.symm, by rw [hentry]⟩

theorem Aimed.turn (hw : Aimed w) (ha : w.Assigned) (ht : Turn w i w' ms) : Aimed w' := by
  have hpaths := replaces_of_outline (outline_of_turn ha.tidy ht)
  rcases run_of_turn ht with hh | ⟨x, s, hi, hrun, hh, hms⟩
  · exact hw.recede hh hpaths
  · refine hw.moved hi hrun hh fun q hq => ?_
    obtain ⟨p, hp, hrep⟩ := hpaths q hq
    exact ⟨p, hp, hrep, fun _ m hm => .inl (hms m hm)⟩

/-! ## Operations -/

/-- An entry for which a source need not be made anew has it pulled from the same address. -/
theorem aim_of_needsRestart {entry : Entry} (hn : needsRestart p entry false = false) :
    p.entry.aim = entry.aim := by
  simp only [needsRestart, Settings.needsRestart, Bool.or_eq_false_iff, bne_eq_false_iff_eq] at hn
  obtain ⟨⟨-, -⟩, hset⟩ := hn
  simp [Entry.aim, hset]

theorem replaces_set {entry : Entry} (hp : p ∈ w.registry.paths)
    (hn : needsRestart p entry false = false) :
    ∀ q ∈ (w.registry.set { p with entry := entry }).paths, ∃ p ∈ w.registry.paths, Replaces q p := by
  intro q hq
  obtain ⟨r, hr, rfl⟩ := List.mem_map.1 hq
  by_cases hname : r.name = p.name
  · rw [if_pos hname]
    exact ⟨p, hp, rfl, rfl, rfl, aim_of_needsRestart hn⟩
  · rw [if_neg hname]
    exact ⟨r, hr, .refl r⟩

theorem Aimed.inform (hw : Aimed w) (ha : w.Assigned) (entry : Entry)
    (hp : ∀ p ∈ w.registry.paths, p.origin = .source i → p.entry = entry) :
    Aimed (w.reload i entry) := by
  have hpaths : (w.reload i entry).registry.paths = w.registry.paths := by rw [registry_reload]
  rcases inform_cases ha.tidy.owned i entry with ⟨x, s, ms, hi, hms, hrun, hh⟩ | hh
  · refine hw.moved hi hrun hh fun q hq => ?_
    rw [hpaths] at hq
    refine ⟨q, hq, .refl q, fun ho m hm => ?_⟩
    rcases hms with rfl | rfl
    · rw [List.mem_singleton.1 hm]
      exact .inl rfl
    · rcases List.mem_cons.1 hm with rfl | hm
      · exact .inr ⟨entry, rfl, by rw [hp q hq ho]⟩
      · rw [List.mem_singleton.1 hm]
        exact .inl rfl
  · exact hw.recede hh fun q hq => ⟨q, hpaths ▸ hq, .refl q⟩

/-- A supervisor that was there is still there. -/
theorem supervisor?_append (hs : w.supervisor? i = some s) (hh : w'.hosts = w.hosts ++ [x]) :
    w'.supervisor? i = some s := by
  obtain ⟨y, hy, rfl⟩ := Option.map_eq_some_iff.1 hs
  have hlt := (List.getElem?_eq_some_iff.1 hy).1
  rw [supervisor?, hh, List.getElem?_append_left hlt, hy]
  rfl

theorem Aimed.build {name query : String} {m : Match} {result : Except SourceError ActivePath}
    (hw : Aimed w) (hb : Built w name m query w' result ms) : Aimed w' := by
  have insert : ∀ o : Origin, o.host? = none → w'.hosts = w.hosts →
      w'.registry = w.numbered.insert (w.activation name m query o) → Aimed w' := by
    intro o ho hh hr q hq i hqo
    rw [paths_insert hr, List.mem_append, List.mem_singleton] at hq
    rcases hq with hq | rfl
    · obtain ⟨s, hs, haims⟩ := hw q hq i hqo
      exact ⟨s, by rw [supervisor?, hh, ← supervisor?, hs], haims⟩
    · have horigin : o = .source i := hqo
      rw [horigin] at ho
      cases ho
  cases hb with
  | failed hh hr =>
    refine hw.recede hh fun q hq => ⟨q, ?_, .refl q⟩
    rw [hr] at hq
    exact hq
  | redirected _ _ hh hr => exact insert _ rfl hh hr
  | published _ _ hh hr => exact insert _ rfl hh hr
  | @pulled s₀ hs hh hr =>
    intro q hq i ho
    rw [paths_insert hr, List.mem_append, List.mem_singleton] at hq
    rcases hq with hq | rfl
    · obtain ⟨s, hs, haims⟩ := hw q hq i ho
      exact ⟨s, supervisor?_append hs hh, haims⟩
    · obtain rfl : w.hosts.length = i := Origin.source.inj ho
      have hstart : s₀.move (.start m.entry.settings.sourceOnDemand query) =
          some (s₀.start m.entry.settings.sourceOnDemand query) :=
        if_pos (Supervisor.isIdle_create hs)
      refine ⟨(hired s₀ name w.registry.nextId m query).supervisor, by simp [supervisor?, hh], ?_⟩
      exact (Supervisor.aims_start hs hstart).move (m := .flush) rfl (.inl rfl)

/-- Every stride keeps the addresses. -/
theorem Aimed.stride (hw : Aimed w) (ha : w.Assigned) (hs : Stride w w') : Aimed w' := by
  have still : ∀ v : Server, v.hosts = w.hosts →
      (∀ q ∈ v.registry.paths, q ∈ w.registry.paths) → Aimed v := fun v hh hp =>
    hw.recede hh fun q hq => ⟨q, hp q hq, .refl q⟩
  cases hs with
  | @task i t v ht =>
    obtain ⟨ms, hturn⟩ := turn_of_stepTask ha.tidy.owned ht
    exact hw.turn ha (hturn.congr (hosts_elim_setAlarms v i) (registry_elim_setAlarms v i))
  | pass t => exact still _ (hosts_passTo w t) fun q hq => registry_passTo w t ▸ hq
  | release =>
    refine still _ (hosts_release w) fun q hq => ?_
    rw [registry_release] at hq
    exact hq
  | park | record | request | send | replace => exact still _ rfl fun _ hq => hq
  | remove => exact still _ rfl fun _ hq => (List.mem_filter.1 hq).1
  | clear => exact still _ rfl fun _ hq => absurd hq List.not_mem_nil
  | amend hp entry hn => exact hw.recede rfl (replaces_set hp hn)
  | inform i entry hp => exact hw.inform ha entry hp
  | @cancel i hi reason =>
    rcases hosts_modify ha.tidy.owned i (·.cancel reason) with ⟨x, -, hh⟩ | ⟨-, hh⟩
    · exact hw.unclaimed hi hh (registry_modify _ _ _)
    · exact still _ hh fun q hq => registry_modify w i _ ▸ hq
  | @rest i hi =>
    rcases hosts_modify ha.tidy.owned i (·.rest) with ⟨x, -, hh⟩ | ⟨-, hh⟩
    · exact hw.unclaimed hi hh (registry_modify _ _ _)
    · exact still _ hh fun q hq => registry_modify w i _ ▸ hq
  | build hn m query =>
    obtain ⟨ms, hb⟩ := built_of_build ha.tidy.owned _ m query
    exact hw.build hb

/-- After every history, an active path with a source has a supervisor, and each of its executions was
launched with the address for which the present entry of the path stands, whatever changes of its entry
have come since and wherever they are on their way. -/
theorem address_current (store : Store) (factory : Workshop) (pause : Nat) (es : List Event) :
    ∀ p ∈ ((fresh store factory pause).history es).registry.paths, ∀ i, p.origin = .source i →
      ∃ s, ((fresh store factory pause).history es).supervisor? i = some s ∧
        ∀ e ∈ s.executions,
          Template.resolve p.entry.settings.source (p.groups.getD []) p.query
            p.entry.settings.username p.entry.settings.password = .ok e.address := by
  have hcourse := (reached_history store factory pause es).course
  have hnone : Aimed (fresh store factory pause) := fun p hp => absurd hp List.not_mem_nil
  obtain ⟨-, haimed⟩ := hcourse.induction (P := Aimed) (assigned_fresh store factory pause) hnone
    fun ha hs hw => hw.stride ha hs
  intro p hp i ho
  obtain ⟨s, hs, haims⟩ := haimed p hp i ho
  refine ⟨s, hs, fun e he => ?_⟩
  rw [Supervisor.executions, haims.orphans, List.append_nil] at he
  exact haims.address e (Option.mem_toList.1 he)

/-- A path comes under other settings while its source is pulled, and the execution that was launched
before pulls from the address for which the new entry stands. -/
theorem address_current_reloaded :
    let silent : Workshop := ⟨fun _ _ _ _ => .ok { behaviour := fun _ => [] }⟩
    let configured (s : Settings) := ((({} : Configuration).insert "cam" s).toOption).getD {}
    let old : Settings := { source := "rtsp://10.0.0.1:554/live", username := "u", password := "p" }
    let es : List Event := .operation .start :: List.replicate 5 .step ++
      [.operation (.reload (configured { old with maxReaders := 7 }))]
    let w := (fresh ⟨configured old⟩ silent 5000).history es
    ∃ p ∈ w.registry.paths, ∃ s e, w.supervisor? 0 = some s ∧ e ∈ s.execution ∧
      e.isAlive = true ∧ e.entry.settings.maxReaders = 0 ∧ p.entry.settings.maxReaders = 7 ∧
      Template.resolve p.entry.settings.source (p.groups.getD []) p.query
        p.entry.settings.username p.entry.settings.password = .ok e.address := by
  intro silent configured old es w
  obtain ⟨p, hp, ho, hreaders⟩ : ∃ p ∈ w.registry.paths,
      p.origin = .source 0 ∧ p.entry.settings.maxReaders = 7 := by decide +kernel
  have hlive : (w.supervisor? 0).any (fun s => s.execution.any fun e =>
      e.isAlive && e.entry.settings.maxReaders == 0) = true := by decide +kernel
  obtain ⟨s, hs, haddress⟩ := address_current ⟨configured old⟩ silent 5000 es p hp 0 ho
  have hs : w.supervisor? 0 = some s := hs
  rw [hs, Option.any_some, Option.any_eq_true] at hlive
  obtain ⟨e, he, hlive⟩ := hlive
  simp only [Bool.and_eq_true, beq_iff_eq] at hlive
  refine ⟨p, hp, s, e, hs, he, hlive.1, hlive.2, hreaders, haddress e ?_⟩
  exact List.mem_append_left _ (Option.mem_toList.2 he)

end Server

end MediaPaths
