import Mathlib.Data.List.Nodup
import MediaPaths.Proofs.Server.Turn
import MediaPaths.Proofs.Supervision.Worker

/-!
# What tasks leave alone

Tasks change what is known of media, but not which paths are active and what applies to them, nor with
what supervisors were made and who owns them. That is the `outline` of a server. Whatever is asked of
the server changes the outline only at the moments when it says so, however long it waits for tasks.
-/

namespace MediaPaths

/-- An active path without its media. -/
def ActivePath.still (p : ActivePath) : ActivePath := { p with medias := none }

/-- What tasks leave alone of a registry. -/
def Registry.outline (r : Registry) : Registry :=
  { r with paths := r.paths.map ActivePath.still, lock := {}, sent := [] }

/-- What tasks leave alone of a host. -/
def Host.mark (h : Host) : (SourceKind × SourceOptions) × Owner := (h.supervisor.made, h.owner)

namespace Server

/-- With what supervisors were made and who owns them. -/
def marks (w : Server) : List ((SourceKind × SourceOptions) × Owner) := w.hosts.map Host.mark

/-- What tasks leave alone of a server. -/
def outline (w : Server) : Registry × List ((SourceKind × SourceOptions) × Owner) :=
  (w.registry.outline, w.marks)

/-- Supervisors are owned by active paths, and no two paths have the same name. -/
structure Tidy (w : Server) : Prop where
  /-- Every supervisor is owned by an active path. -/
  owned : w.Owned
  /-- Active paths have different names. -/
  distinct : (w.registry.paths.map (·.name)).Nodup

variable {w w' : Server} {i : Nat} {h : Host}

/-! ## What the outline tells -/

theorem names_outline (r : Registry) :
    r.outline.paths.map (·.name) = r.paths.map (·.name) := by
  simp only [Registry.outline, List.map_map]
  rfl

/-- What holds of all active paths whatever their media depends on the outline only. -/
theorem forall_paths_congr {P : ActivePath → Prop} (hP : ∀ p, P p.still ↔ P p) {r r' : Registry}
    (ho : r'.outline = r.outline) (hr : ∀ p ∈ r.paths, P p) : ∀ p ∈ r'.paths, P p := by
  intro p hp
  have hmem : p.still ∈ r'.outline.paths := List.mem_map_of_mem hp
  rw [ho] at hmem
  obtain ⟨q, hq, heq⟩ := List.mem_map.1 hmem
  rw [← hP, ← heq, hP]
  exact hr q hq

theorem Tidy.congr (hw : w.Tidy) (h : w'.outline = w.outline) : w'.Tidy := by
  constructor
  · intro x hx
    have hm : x.mark ∈ w'.marks := List.mem_map_of_mem hx
    rw [show w'.marks = w.marks from congrArg Prod.snd h] at hm
    obtain ⟨y, hy, hxy⟩ := List.mem_map.1 hm
    obtain ⟨name, id, ho⟩ := hw.owned y hy
    exact ⟨name, id, (congrArg Prod.snd hxy).symm.trans ho⟩
  · rw [← names_outline, show w'.registry.outline = w.registry.outline from congrArg Prod.fst h,
      names_outline]
    exact hw.distinct

/-! ## Registries -/

theorem get?_outline (r : Registry) (name : String) :
    r.outline.get? name = (r.get? name).map ActivePath.still := by
  simp only [Registry.get?, Registry.outline, List.find?_map]
  rfl

theorem get?_remove (r : Registry) (name : String) : (r.remove name).get? name = none := by
  refine List.find?_eq_none.2 fun q hq => ?_
  have hn := (List.mem_filter.1 hq).2
  simpa using hn

theorem get?_eq_none_congr {r r' : Registry} {name : String}
    (ho : r'.outline = r.outline) (hr : r.get? name = none) : r'.get? name = none := by
  have hg := get?_outline r' name
  rw [ho, get?_outline, hr] at hg
  simpa using hg.symm

theorem name_of_get? {r : Registry} {name : String} {p : ActivePath} (h : r.get? name = some p) :
    p.name = name := by
  have := List.find?_some h
  simpa using this

theorem mem_of_get? {r : Registry} {name : String} {p : ActivePath} (h : r.get? name = some p) :
    p ∈ r.paths :=
  List.mem_of_find?_eq_some h

/-- Among paths of different names, the one of a name is the one that is found under it. -/
theorem get?_of_mem {r : Registry} (hr : (r.paths.map (·.name)).Nodup) {p : ActivePath}
    (hp : p ∈ r.paths) : r.get? p.name = some p := by
  cases hg : r.get? p.name with
  | none =>
    have := List.find?_eq_none.1 hg p hp
    simp at this
  | some q =>
    rw [List.inj_on_of_nodup_map hr (mem_of_get? hg) hp (name_of_get? hg)]

/-- Changing a path does not change its name. -/
theorem names_set (r : Registry) (p : ActivePath) :
    (r.set p).paths.map (·.name) = r.paths.map (·.name) := by
  simp only [Registry.set, List.map_map]
  refine List.map_congr_left fun q _ => ?_
  simp only [Function.comp_apply]
  split
  · exact Eq.symm ‹_›
  · rfl

/-- A path that was changed is found under its name. -/
theorem get?_set (r : Registry) (p : ActivePath) (name : String) :
    (r.set p).get? name = (r.get? name).map fun q => if q.name = p.name then p else q := by
  rw [Registry.get?, Registry.set, List.find?_map]
  refine congrArg (Option.map _ ·) (congrArg (List.find? · r.paths) (funext fun q => ?_))
  simp only [Function.comp_apply]
  split
  · rw [‹q.name = p.name›]
  · rfl

/-- Changing the media of a path does not change the outline. -/
theorem outline_set_medias {r : Registry} (hr : (r.paths.map (·.name)).Nodup) {p : ActivePath}
    (hp : p ∈ r.paths) (medias : Option (List Media)) :
    (r.set { p with medias := medias }).outline = r.outline := by
  have hmap : (r.set { p with medias := medias }).paths.map ActivePath.still =
      r.paths.map ActivePath.still := by
    simp only [Registry.set, List.map_map]
    refine List.map_congr_left fun q hq => ?_
    simp only [Function.comp_apply]
    split
    · rename_i hn
      rw [List.inj_on_of_nodup_map hr hq hp hn]
      rfl
    · rfl
  simp only [Registry.outline, hmap]
  rfl

/-! ## Tasks -/

theorem map_set_of_getElem? {α β : Type} (f : α → β) {l : List α} {a b : α} (hi : l[i]? = some a)
    (hf : f b = f a) : (l.set i b).map f = l.map f := by
  refine List.ext_getElem? fun j => ?_
  rw [List.getElem?_map, List.getElem?_set, List.getElem?_map]
  split
  · rename_i hj
    subst hj
    split
    · rw [hi, Option.map_some, Option.map_some, hf]
    · rename_i hl
      rw [List.getElem?_eq_none (Nat.le_of_not_lt hl)] at hi
      cases hi
  · rfl

/-- Changing a supervisor without changing what it was made with does not change the marks. -/
theorem marks_set (hi : w.hosts[i]? = some h) {s : Supervisor} (hs : s.made = h.supervisor.made)
    (hh : w'.hosts = w.hosts.set i (Host.flushed ⟨s, h.owner⟩)) : w'.marks = w.marks := by
  rw [marks, marks, hh]
  refine map_set_of_getElem? _ hi ?_
  exact Prod.ext hs rfl

theorem made_settled (s : Supervisor) (number : Nat) (answer : Option Answer) :
    (s.reply number answer).resume.made = s.made := by
  have hm := Supervisor.made_of_frame (Supervisor.frame_reply s number answer)
  exact hm

theorem outline_consider (hw : w.Tidy) (name : String) (id : Nat) (a : Announcement) :
    (w.consider name id a).1.registry.outline = w.registry.outline := by
  have hmem : ∀ {p}, w.registry.activation? name id = some p → p ∈ w.registry.paths := fun hp =>
    mem_of_get? (Option.filter_eq_some_iff.1 hp).1
  unfold consider
  split
  · exact outline_set_medias hw.distinct (hmem ‹_›) _
  · rfl
  · split
    · exact outline_set_medias hw.distinct (hmem ‹_›) _
    · rfl
  · rfl

theorem outline_of_turn {ms : List Supervisor.Move} (hw : w.Tidy) (ht : Turn w i w' ms) :
    w'.outline = w.outline := by
  have hr : ∀ {r r' : Registry}, r' = { r with lock := r'.lock } → r'.outline = r.outline := by
    intro r r' h
    rw [h]
    rfl
  cases ht with
  | own hi hs hh hreg =>
    exact Prod.ext (by rw [outline, outline, hreg]) (marks_set hi (Supervisor.made_step hs) hh)
  | line hh hreg => exact Prod.ext (hr hreg) (by rw [outline, outline, marks, marks, hh])
  | decline hi _ _ hh hreg => exact Prod.ext (hr hreg) (marks_set hi (made_settled _ _ _) hh)
  | answer hi _ _ hh hreg =>
    exact Prod.ext ((hr hreg).trans (outline_consider hw _ _ _))
      (marks_set hi (made_settled _ _ _) hh)

/-- Tasks leave the outline alone. -/
theorem steady_outline (w : Server) : Steady fun v => v.Tidy ∧ v.outline = w.outline := by
  constructor
  · intro v v' hh hr hv
    have ho : v'.outline = v.outline := by rw [outline, outline, marks, marks, hh, hr]
    exact ⟨hv.1.congr ho, ho.trans hv.2⟩
  · intro v v' i t ht hv
    obtain ⟨ms, hturn⟩ := turn_of_stepTask hv.1.owned ht
    have ho := outline_of_turn hv.1 hturn
    exact ⟨hv.1.congr ho, ho.trans hv.2⟩

/-! ## What is asked of a server -/

theorem outline_waitFor (hw : w.Tidy) (done : Server → Bool) :
    (w.waitFor done).outline = w.outline :=
  ((steady_outline w).waitFor done ⟨hw, rfl⟩).2

theorem outline_acquire (hw : w.Tidy) : w.acquire.outline = w.outline := by
  let v := w.setRegistry { w.registry with lock := w.registry.lock.request .operator }
  have ho : v.outline = w.outline := rfl
  exact (outline_waitFor (hw.congr ho) _).trans ho

theorem outline_release (w : Server) : w.release.outline = w.outline := by
  rw [outline, outline, marks, marks, hosts_release, registry_release]
  rfl

/-- Changing a supervisor, but not what it was made with, leaves the outline alone. -/
theorem outline_modify (hw : w.Tidy) {f : Supervisor → Supervisor} (hf : ∀ s, (f s).made = s.made)
    (i : Nat) : (w.modify i f).outline = w.outline := by
  refine Prod.ext (by rw [outline, outline, registry_modify]) ?_
  rcases hosts_modify hw.owned i f with ⟨h, hi, hh⟩ | ⟨-, hh⟩
  · exact marks_set hi (hf _) hh
  · rw [outline, outline, marks, marks, hh]

theorem outline_stop (hw : w.Tidy) (i : Nat) (reason : String) :
    (w.stop i reason).outline = w.outline := by
  have hcancel : ∀ s : Supervisor, (s.cancel reason).made = s.made := by
    intro s
    unfold Supervisor.cancel
    split
    · rfl
    · simp only [Supervisor.wakeAll_eq]
      rfl
  have h₁ := outline_modify hw hcancel i
  have h₂ := outline_waitFor (hw.congr h₁) (isDone i)
  have h₃ : ∀ v : Server, (v.recordCrash i).outline = v.outline := by
    intro v
    unfold recordCrash
    split
    · split <;> rfl
    · rfl
  have ht := ((hw.congr h₁).congr h₂).congr (h₃ _)
  have h₄ := outline_modify (f := Supervisor.rest) ht (fun _ => rfl) i
  exact h₄.trans ((h₃ _).trans (h₂.trans h₁))

theorem outline_reload (hw : w.Tidy) (i : Nat) (entry : Entry) :
    (w.reload i entry).outline = w.outline := by
  refine outline_modify hw (fun s => ?_) i
  unfold Supervisor.reload
  split <;> rfl

theorem outline_stopSource (hw : w.Tidy) (p : ActivePath) (reason : String) :
    (w.stopSource p reason).outline = w.outline := by
  unfold stopSource
  split
  · exact outline_stop hw _ reason
  · rfl

theorem outline_close (hw : w.Tidy) (p : ActivePath) (reason : String) :
    (w.close p reason).outline = w.outline :=
  outline_stopSource hw p reason

end Server

end MediaPaths
