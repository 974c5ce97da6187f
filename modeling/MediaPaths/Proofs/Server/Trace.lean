import MediaPaths.Proofs.Server.Build
import MediaPaths.Proofs.Server.History

/-!
# Traces of a server

A trace tells which moves the supervisors of a server have made, one after the other, and how the
registry has changed meanwhile. Its steps are smaller than what is asked of a server: while one waits
in the middle of an operation, tasks take steps, and each of them is a step of the trace.

`Assigned` is what every trace keeps of the assignment of supervisors to active paths: the supervisor of
an active path is known from its owner, and no other path has it.
-/

namespace MediaPaths

namespace Server

open Supervisor (Move)

/-! ## Steps and traces -/

/-- A registry has at most the paths that it had, perhaps under other entries. -/
structure Recedes (r r' : Registry) : Prop where
  /-- It is in use or not, as before. -/
  isOpen : r'.isOpen = r.isOpen
  /-- Numbers of activations are only used up. -/
  nextId : r.nextId ≤ r'.nextId
  /-- No path is added. -/
  names : (r'.paths.map (·.name)).Sublist (r.paths.map (·.name))
  /-- No path changes but for its entry. -/
  paths : ∀ q ∈ r'.paths, ∃ p ∈ r.paths, q = { p with entry := q.entry }

/-- What happens to a server at one moment, with the moves that its supervisors make. -/
inductive Advance (w w' : Server) : List (Nat × Move) → Prop where
  /-- A task takes a step. -/
  | turn {i : Nat} {ms : List Move} (ht : Turn w i w' ms) : Advance w w' (ms.map (i, ·))
  /-- Paths are removed or come under other entries. -/
  | recede (hh : w'.hosts = w.hosts) (hr : Recedes w.registry w'.registry) : Advance w w' []
  /-- A supervisor is handed settings, if it is started. -/
  | inform {i : Nat} {h : Host} {s : Supervisor} {ms : List Move} (entry : Entry)
      (hi : w.hosts[i]? = some h) (hm : ms = [.flush] ∨ ms = [.reload entry, .flush])
      (hs : h.supervisor.run ms = some s) (hh : w'.hosts = w.hosts.set i ⟨s, h.owner⟩)
      (hr : w'.registry = w.registry) : Advance w w' (ms.map (i, ·))
  /-- Something is done to a supervisor that no active path has. -/
  | dismiss {i : Nat} {h : Host} {s : Supervisor} {ms : List Move} (hi : w.hosts[i]? = some h)
      (hp : ∀ p ∈ w.registry.paths, p.origin ≠ .source i) (hs : h.supervisor.run ms = some s)
      (hh : w'.hosts = w.hosts.set i ⟨s, h.owner⟩) (hr : w'.registry = w.registry) :
      Advance w w' (ms.map (i, ·))
  /-- One waits no longer for a supervisor that no active path has. -/
  | forsake {i : Nat} {h : Host} (hi : w.hosts[i]? = some h)
      (hp : ∀ p ∈ w.registry.paths, p.origin ≠ .source i)
      (hh : w'.hosts = w.hosts.set i (Host.flushed ⟨h.supervisor.rest, h.owner⟩))
      (hr : w'.registry = w.registry) : Advance w w' []
  /-- A path that is not active is made active, or cannot be. -/
  | build {name query : String} {m : Match} {result : Except SourceError ActivePath}
      {ms : List Move} (hn : w.registry.get? name = none)
      (hb : Built w name m query w' result ms) : Advance w w' (ms.map (w.hosts.length, ·))

/-- What happens to a server from some moment on, with the moves of its supervisors. -/
inductive Trace (w₀ : Server) : List (Nat × Move) → Server → Prop where
  /-- Nothing has happened. -/
  | nil : Trace w₀ [] w₀
  /-- One thing more has happened. -/
  | concat {h l : List (Nat × Move)} {w w' : Server} (ht : Trace w₀ h w) (ha : Advance w w' l) :
      Trace w₀ (h ++ l) w'

variable {w w' : Server} {i j : Nat} {h l : List (Nat × Move)} {ms : List Move}
  {name : String} {id : Nat} {p q : ActivePath}

/-! ## The assignment of supervisors -/

/-- The owner of a supervisor. -/
def owner? (w : Server) (i : Nat) : Option Owner := w.marks[i]?.map (·.2)

/-- Supervisors and active paths are assigned to each other. -/
structure Assigned (w : Server) : Prop where
  /-- Paths and supervisors are in order. -/
  tidy : w.Tidy
  /-- The registry is in use. -/
  isOpen : w.registry.isOpen = true
  /-- Activations for which there are supervisors have had their numbers. -/
  owners : ∀ i name id, w.owner? i = some (.path name id) → id < w.registry.nextId
  /-- No two supervisors are of one activation. -/
  sole : ∀ i j name name' id, w.owner? i = some (.path name id) →
    w.owner? j = some (.path name' id) → i = j
  /-- So have those of active paths. -/
  ids : ∀ p ∈ w.registry.paths, p.id < w.registry.nextId
  /-- A supervisor is owned by the active path that has its source from it. -/
  claims : ∀ p ∈ w.registry.paths, ∀ i,
    w.owner? i = some (.path p.name p.id) ↔ p.origin = .source i

theorem owner?_congr (hm : w'.marks = w.marks) (i : Nat) : w'.owner? i = w.owner? i := by
  rw [owner?, owner?, hm]

theorem owner?_eq {x : Host} (hi : w.hosts[i]? = some x) : w.owner? i = some x.owner := by
  simp [owner?, marks, hi, Host.mark]

theorem Assigned.congr (hw : w.Assigned) (ho : w'.outline = w.outline) : w'.Assigned := by
  have hreg : w'.registry.outline = w.registry.outline := congrArg Prod.fst ho
  have hnext : w'.registry.outline.nextId = w.registry.outline.nextId := by rw [hreg]
  have hopen : w'.registry.outline.isOpen = w.registry.outline.isOpen := by rw [hreg]
  change w'.registry.nextId = w.registry.nextId at hnext
  have hown := owner?_congr (w := w) (congrArg Prod.snd ho)
  refine ⟨hw.tidy.congr ho, hopen.trans hw.isOpen, ?_, ?_, ?_, ?_⟩
  · simpa only [hown, hnext] using hw.owners
  · simpa only [hown] using hw.sole
  · rw [hnext]
    exact forall_paths_congr (P := fun p => p.id < w.registry.nextId) (fun _ => Iff.rfl) hreg hw.ids
  · simp only [hown]
    exact forall_paths_congr (P := fun p => ∀ i,
      w.owner? i = some (.path p.name p.id) ↔ p.origin = .source i) (fun _ => Iff.rfl) hreg
      hw.claims

/-- No two active paths have one supervisor. -/
theorem Assigned.eq_of_origin (hw : w.Assigned) (hp : p ∈ w.registry.paths)
    (hq : q ∈ w.registry.paths) (ho : p.origin = .source i) (ho' : q.origin = .source i) :
    p = q := by
  have hx := (hw.claims p hp i).2 ho
  rw [(hw.claims q hq i).2 ho'] at hx
  obtain ⟨hn, -⟩ := Owner.path.inj (Option.some.inj hx)
  exact List.inj_on_of_nodup_map hw.tidy.distinct hp hq hn.symm

theorem Assigned.recede (hw : w.Assigned) (hh : w'.hosts = w.hosts)
    (hr : Recedes w.registry w'.registry) : w'.Assigned := by
  have hown : ∀ i, w'.owner? i = w.owner? i := owner?_congr (by rw [marks, marks, hh])
  refine ⟨⟨hw.tidy.owned.congr hh, hw.tidy.distinct.sublist hr.names⟩, hr.isOpen.trans hw.isOpen,
    fun i name id ho => ?_, fun i j name name' id ho ho' => ?_, fun q hq => ?_, fun q hq i => ?_⟩
  · exact Nat.lt_of_lt_of_le (hw.owners i name id (hown i ▸ ho)) hr.nextId
  · exact hw.sole i j name name' id (hown i ▸ ho) (hown j ▸ ho')
  · obtain ⟨p, hp, heq⟩ := hr.paths q hq
    rw [heq]
    exact Nat.lt_of_lt_of_le (hw.ids p hp) hr.nextId
  · obtain ⟨p, hp, heq⟩ := hr.paths q hq
    rw [hown, heq]
    exact hw.claims p hp i

/-- A supervisor is changed, but its owner is not. -/
theorem Assigned.set (hw : w.Assigned) {x : Host} {s : Supervisor} (hi : w.hosts[i]? = some x)
    (hh : w'.hosts = w.hosts.set i ⟨s, x.owner⟩) (hr : w'.registry = w.registry) :
    w'.Assigned := by
  have hown : ∀ j, w'.owner? j = w.owner? j := by
    intro j
    simp only [owner?, marks, hh, List.getElem?_map, Option.map_map]
    by_cases hij : i = j
    · subst hij
      obtain ⟨hlt, hx⟩ := List.getElem?_eq_some_iff.1 hi
      simp [hlt, hx, Host.mark]
    · rw [List.getElem?_set_ne hij]
  refine ⟨⟨hw.tidy.owned.set hi hh, hr ▸ hw.tidy.distinct⟩, hr ▸ hw.isOpen, ?_, ?_, hr ▸ hw.ids,
    ?_⟩
  · simpa only [hown, hr] using hw.owners
  · simpa only [hown] using hw.sole
  · simpa only [hown, hr] using hw.claims

/-- No supervisor is of an activation that has not had its number. -/
theorem Assigned.owner?_ne (hw : w.Assigned) (i : Nat) (name : String) :
    w.owner? i ≠ some (.path name w.registry.nextId) := fun ho =>
  Nat.lt_irrefl _ (hw.owners i name _ ho)

/-- A path is added, and with it the supervisor that it has its source from. -/
theorem Assigned.insert (hw : w.Assigned) (hn : w.registry.get? name = none) (howned : w'.Owned)
    (hown : ∀ i o, w'.owner? i = some o ↔
      w.owner? i = some o ∨ p.origin = .source i ∧ o = .path name w.registry.nextId)
    (hp : p.name = name) (hid : p.id = w.registry.nextId)
    (hr : w'.registry = w.numbered.insert p) : w'.Assigned := by
  have hnext : w'.registry.nextId = w.registry.nextId + 1 := by
    rw [hr]
    rfl
  have hopen : w'.registry.isOpen = w.registry.isOpen := by
    rw [hr]
    rfl
  refine ⟨hw.tidy.insert hn howned hp hr, hopen.trans hw.isOpen, fun i name' id ho => ?_,
    fun i j name' name'' id ho ho' => ?_, fun q hq => ?_, fun q hq i => ?_⟩
  · rw [hnext]
    rcases (hown i _).1 ho with ho | ⟨-, ho⟩
    · exact Nat.lt_succ_of_lt (hw.owners i name' id ho)
    · rw [(Owner.path.inj ho).2]
      exact Nat.lt_succ_self _
  · rcases (hown i _).1 ho with ho | ⟨hi, ho⟩
    · rcases (hown j _).1 ho' with ho' | ⟨-, ho'⟩
      · exact hw.sole i j name' name'' id ho ho'
      · rw [(Owner.path.inj ho').2] at ho
        exact absurd ho (hw.owner?_ne i name')
    · rcases (hown j _).1 ho' with ho' | ⟨hj, -⟩
      · rw [(Owner.path.inj ho).2] at ho'
        exact absurd ho' (hw.owner?_ne j name'')
      · exact Origin.source.inj (hi.symm.trans hj)
  · rw [paths_insert hr, List.mem_append, List.mem_singleton] at hq
    rw [hnext]
    rcases hq with hq | rfl
    · exact Nat.lt_succ_of_lt (hw.ids q hq)
    · rw [hid]
      exact Nat.lt_succ_self _
  · rw [paths_insert hr, List.mem_append, List.mem_singleton] at hq
    rw [hown]
    rcases hq with hq | rfl
    · have hne : Owner.path q.name q.id ≠ .path name w.registry.nextId := fun heq =>
        Nat.ne_of_lt (hw.ids q hq) (Owner.path.inj heq).2
      simp only [hne, and_false, or_false]
      exact hw.claims q hq i
    · rw [hp, hid]
      simp [hw.owner?_ne]

theorem Assigned.build {query : String} {m : Match} {result : Except SourceError ActivePath}
    (hw : w.Assigned) (hn : w.registry.get? name = none)
    (hb : Built w name m query w' result ms) : w'.Assigned := by
  have hsame : ∀ {o : Origin}, w'.hosts = w.hosts → o.host? = none → ∀ i x,
      w'.owner? i = some x ↔
        w.owner? i = some x ∨ o = .source i ∧ x = .path name w.registry.nextId := by
    intro o hh ho i x
    have hne : o ≠ .source i := by
      rintro rfl
      cases ho
    simp only [owner?_congr (show w'.marks = w.marks by rw [marks, marks, hh]), hne, false_and,
      or_false]
  cases hb with
  | failed hh hr =>
    refine hw.recede hh ?_
    rw [hr]
    exact ⟨rfl, Nat.le_succ _, List.Sublist.refl _, fun q hq => ⟨q, hq, rfl⟩⟩
  | pulled hs hh hr =>
    refine hw.insert hn (hw.tidy.owned.hire hh) (fun i x => ?_) rfl rfl hr
    have hm : w'.marks.map (·.2) = w.marks.map (·.2) ++ [.path name w.registry.nextId] := by
      rw [marks, marks, hh]
      simp [hired, Host.flushed, Host.mark]
    have hlen : (w.marks.map (·.2)).length = w.hosts.length := by simp [marks]
    have ho : (w.activation name m query (.source w.hosts.length)).origin = .source i ↔
        i = w.hosts.length := by simp [activation, eq_comm]
    simp only [owner?, ← List.getElem?_map, hm, ho]
    rcases Nat.lt_trichotomy i w.hosts.length with hi | rfl | hi
    · rw [List.getElem?_append_left (hlen ▸ hi)]
      simp [Nat.ne_of_lt hi]
    · rw [List.getElem?_append_right (Nat.le_of_eq hlen), hlen]
      have hnone : (w.marks.map (·.2))[w.hosts.length]? = none :=
        List.getElem?_eq_none (Nat.le_of_eq hlen)
      simp [hnone, eq_comm]
    · have hle : (w.marks.map (·.2)).length ≤ i := hlen ▸ Nat.le_of_lt hi
      rw [List.getElem?_append_right hle, List.getElem?_eq_none hle,
        List.getElem?_eq_none (by simp [hlen]; omega)]
      simp [Nat.ne_of_gt hi]
  | redirected hs ht hh hr =>
    exact hw.insert hn (hw.tidy.owned.congr hh) (hsame hh rfl) rfl rfl hr
  | published hs ht hh hr =>
    exact hw.insert hn (hw.tidy.owned.congr hh) (hsame hh rfl) rfl rfl hr

/-- At first there are neither supervisors nor active paths. -/
theorem assigned_fresh (store : Store) (factory : Workshop) (pause : Nat) :
    (fresh store factory pause).Assigned := by
  have hown : ∀ i o, (fresh store factory pause).owner? i ≠ some o := by
    simp [owner?, marks, fresh]
  exact ⟨tidy_fresh store factory pause, rfl, fun i name id ho => absurd ho (hown _ _),
    fun i j name name' id ho => absurd ho (hown _ _), fun p hp => (by cases hp),
    fun p hp => (by cases hp)⟩

/-- Every step keeps supervisors and active paths assigned to each other. -/
theorem Assigned.advance (hw : w.Assigned) (ha : Advance w w' l) : w'.Assigned := by
  cases ha with
  | turn ht => exact hw.congr (outline_of_turn hw.tidy ht)
  | recede hh hr => exact hw.recede hh hr
  | inform _ hi _ _ hh hr => exact hw.set hi hh hr
  | dismiss hi _ _ hh hr => exact hw.set hi hh hr
  | forsake hi _ hh hr => exact hw.set hi hh hr
  | build hn hb => exact hw.build hn hb

end Server

end MediaPaths
