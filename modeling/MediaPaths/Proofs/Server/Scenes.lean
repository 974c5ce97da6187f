import Mathlib.Logic.Relation
import MediaPaths.Proofs.Server.Address

/-!
# Scenes of a server

A path that is no longer active is not done with at once: its supervisor is to be stopped, and subscribers
are to be told. A scene is a server with the paths of which that is still to be done. Whatever a server is
asked for leads from a scene without such paths to another one, and what is to be shown of every scene need
only be shown of each thing that can happen next.

Scenes follow each other in some manner. An operation is completed when the workers for whose end it has
waited have ended; a thorough manner is that of completed operations, in which nobody turns away from a
worker that has not ended. Some operations remove no path, and some make no further path active.

In which order the active paths are listed is left open: they may be listed anew at any time.
-/

namespace MediaPaths

/-- The path of which an event tells that it is no longer active. -/
def PathEvent.removed? : PathEvent → Option String
  | removed path _ => some path
  | _ => none

namespace Server

open Relation

variable {w w' v : Server} {i j : Nat} {p q : ActivePath} {name : String} {gone : List ActivePath}

/-! ## Lives -/

/-- A way to list active paths. -/
structure Listing where
  /-- The paths in their new order. -/
  order : List ActivePath → List ActivePath
  /-- They are the same paths. -/
  perm : ∀ ps, (order ps).Perm ps

/-- What may happen to a server whose active paths are listed in no particular order. -/
inductive Incident where
  /-- An event. -/
  | event (e : Event)
  /-- The active paths are listed anew. -/
  | relist (l : Listing)

/-- The server with its active paths in another order. -/
def relisted (w : Server) (ps : List ActivePath) : Server :=
  w.setRegistry { w.registry with paths := ps }

/-- The server after something has happened. -/
def undergo (w : Server) : Incident → Server
  | .event e => w.occur e
  | .relist l => w.relisted (l.order w.registry.paths)

/-- The server after some things have happened. -/
def life (w : Server) (is : List Incident) : Server := is.foldl undergo w

/-- A life goes on from where it was. -/
theorem life_append (w : Server) (is js : List Incident) :
    w.life (is ++ js) = (w.life is).life js :=
  List.foldl_append

/-! ## Completed operations -/

/-- Whether the worker of a supervisor has ended when one has waited for that. -/
def Unwinds (w : Server) (i : Nat) (reason : String) : Prop :=
  isDone i ((w.modify i (·.cancel reason)).waitFor (isDone i)) = true

instance (w : Server) (i : Nat) (reason : String) : Decidable (w.Unwinds i reason) :=
  inferInstanceAs (Decidable (_ = true))

/-- The worker of a path, if it has one, ends when it is stopped. -/
def Closes (w : Server) (p : ActivePath) (reason : String) : Prop :=
  ∀ i ∈ p.origin.host?, w.Unwinds i reason

instance (w : Server) (p : ActivePath) (reason : String) : Decidable (w.Closes p reason) :=
  inferInstanceAs (Decidable (∀ i ∈ p.origin.host?, _))

/-- Something holds before each of some steps that are taken one after the other. -/
def Throughout {σ α : Type} (f : σ → α → σ) (P : σ → α → Prop) : σ → List α → Prop
  | _, [] => True
  | s, a :: as => P s a ∧ Throughout f P (f s a) as

instance Throughout.decidable {σ α : Type} {f : σ → α → σ} {P : σ → α → Prop}
    [∀ s a, Decidable (P s a)] : ∀ s as, Decidable (Throughout f P s as)
  | _, [] => .isTrue trivial
  | s, a :: as =>
    have := Throughout.decidable (f := f) (P := P) (f s a) as
    inferInstanceAs (Decidable (P s a ∧ Throughout f P (f s a) as))

/-- A path has to be restarted for a match. -/
def Restarts (optionsChanged : Bool) (p : ActivePath) (m : Match) : Prop :=
  let rebuild := optionsChanged && p.origin.host?.isSome
  (p.entry == m.entry && !rebuild) = false ∧ needsRestart p m.entry rebuild = true

instance (optionsChanged : Bool) (p : ActivePath) (m : Match) :
    Decidable (Restarts optionsChanged p m) :=
  inferInstanceAs (Decidable (_ ∧ _))

/-- The worker of a path ends if it is stopped to bring the path in line. -/
def Aligns (c : Configuration) (optionsChanged : Bool) (w : Server) (p : ActivePath) : Prop :=
  let v := w.setRegistry (w.registry.remove p.name)
  match c.find p.name with
  | .error _ => v.Closes p "removed from configuration"
  | .ok m => Restarts optionsChanged p m → v.Closes p "configuration changed"

instance (c : Configuration) (optionsChanged : Bool) (w : Server) (p : ActivePath) :
    Decidable (Aligns c optionsChanged w p) :=
  match h : c.find p.name with
  | .error _ =>
    decidable_of_iff ((w.setRegistry (w.registry.remove p.name)).Closes p "removed from configuration")
      (by simp only [Aligns, h])
  | .ok m =>
    decidable_of_iff (Restarts optionsChanged p m →
      (w.setRegistry (w.registry.remove p.name)).Closes p "configuration changed")
      (by simp only [Aligns, h])

/-- The server once a configuration is in force and its active paths are about to be brought in line. -/
def adopt (w : Server) (c : Configuration) : Server :=
  ((w.setRegistry { w.registry with store := (w.registry.store.replace c).1 }).record
    (.replaced c.table.entries.length)).acquire

/-- Whether sources have to be made anew because of what is for all of them. -/
def optionsChange (w : Server) (c : Configuration) : Bool :=
  w.registry.store.current.options != c.options

/-- The server once its active paths were brought in line with a configuration, and the first error. -/
def aligned (w : Server) (c : Configuration) : Server × Option ServerError :=
  ((w.adopt c).registry.paths.map (·.name)).foldl (alignName c (w.optionsChange c)) (w.adopt c, none)

/-- Whenever the server waits for the end of a worker while it puts a configuration in force, the worker
ends. -/
def Realigns (w : Server) (c : Configuration) : Prop :=
  Throughout (alignName c (w.optionsChange c))
    (fun s name => ∀ p ∈ s.1.registry.get? name, Aligns c (w.optionsChange c) s.1 p)
    (w.adopt c, none) ((w.adopt c).registry.paths.map (·.name))

instance (w : Server) (c : Configuration) : Decidable (w.Realigns c) :=
  inferInstanceAs (Decidable (Throughout ..))

/-- Whenever the server waits for the end of a worker in an operation, the worker ends. -/
def Completes (w : Server) : Operation → Prop
  | .start | .activate _ _ | .look => True
  | .deactivate name reason =>
    ∀ p ∈ w.acquire.registry.get? name,
      ((w.acquire.setRegistry (w.acquire.registry.remove name)).release).Closes p reason
  | .reload c => c.check.isOk = true → w.Realigns c
  | .shutdown =>
    Throughout (fun w p => w.close p "shutting down") (fun w p => w.Closes p "shutting down")
      ((w.acquire.setRegistry { w.acquire.registry with paths := [] }).release)
      w.acquire.registry.paths

instance (w : Server) : ∀ o, Decidable (w.Completes o)
  | .start | .activate _ _ | .look => .isTrue trivial
  | .deactivate _ _ => inferInstanceAs (Decidable (∀ p ∈ w.acquire.registry.get? _, _))
  | .reload c => inferInstanceAs (Decidable (c.check.isOk = true → w.Realigns c))
  | .shutdown => inferInstanceAs (Decidable (Throughout ..))

/-- What happens is no operation, or one that is completed. -/
def Concludes (w : Server) : Incident → Prop
  | .event (.operation o) => w.Completes o
  | _ => True

instance (w : Server) : ∀ n, Decidable (w.Concludes n)
  | .event (.operation o) => inferInstanceAs (Decidable (w.Completes o))
  | .event .step | .event (.task _ _) | .event (.pass _) | .relist _ => .isTrue trivial

/-- Each operation among some incidents is completed. -/
def Completed (w : Server) (is : List Incident) : Prop := Throughout undergo Concludes w is

instance (w : Server) (is : List Incident) : Decidable (w.Completed is) :=
  inferInstanceAs (Decidable (Throughout ..))

/-- Checking a configuration does not change it. -/
theorem check_eq {c c' : Configuration} (h : c.check = .ok c') : c' = c := by
  unfold Configuration.check at h
  split at h <;> cases h
  rfl

/-- A configuration that can be used is put in force in two rounds. -/
theorem apply_eq {c : Configuration} (hc : c.check = .ok c) :
    w.apply c = (((alwaysOn c).foldl ensure (w.aligned c)).1.release,
      match ((alwaysOn c).foldl ensure (w.aligned c)).2 with
      | some e => .error e
      | none => .ok ()) := by
  unfold apply
  rw [hc]
  rfl

/-- An invalid configuration changes nothing. -/
theorem apply_of_error {c : Configuration} {e : ConfigError} (hc : c.check = .error e) :
    w.apply c = (w, .error (.configuration e)) := by
  unfold apply
  rw [hc]

/-! ## Scenes -/

/-- A server with the paths that are no longer active and not yet done with, the latest first. -/
structure Scene where
  /-- The server. -/
  server : Server
  /-- The paths that are not done with. -/
  gone : List ActivePath

/-- The names of the paths that are active or not done with. -/
def Scene.names (x : Scene) : List String := (x.server.registry.paths ++ x.gone).map (·.name)

/-- The supervisor of a path, if it has one, is idle. -/
def AtRest (w : Server) (p : ActivePath) : Prop :=
  ∀ i s, p.origin = .source i → w.supervisor? i = some s → s.isIdle = true

/-- The manner in which scenes follow each other. -/
structure Manner where
  /-- One turns away from a worker only when it has ended. -/
  thorough : Bool := false
  /-- Active paths may be removed. -/
  removing : Bool := true
  /-- Further paths may be made active. -/
  building : Bool := true

/-- What can happen next. -/
inductive Scene.Next (k : Manner) : Scene → Scene → Prop where
  /-- A task takes a step. -/
  | task {w v : Server} {i : Nat} {t : Task} {g : List ActivePath} (ht : w.stepTask i t = some v) :
      Next k ⟨w, g⟩ ⟨v.hosts[i]?.elim v (v.setAlarms i), g⟩
  /-- A task in line leaves the line. -/
  | park {w : Server} {i : Nat} {t : Task} {g : List ActivePath} (hq : (i, t) ∈ w.queue)
      (ht : w.stepTask i t = none) : Next k ⟨w, g⟩ ⟨{ w with queue := w.queue.erase (i, t) }, g⟩
  /-- Time passes. -/
  | pass {w : Server} {g : List ActivePath} (t : Nat) : Next k ⟨w, g⟩ ⟨w.passTo t, g⟩
  /-- Something is logged. -/
  | record {w : Server} {g : List ActivePath} (r : LogRecord) :
      Next k ⟨w, g⟩ ⟨w.record r, g⟩
  /-- The operator asks for the lock. -/
  | request {w : Server} {g : List ActivePath} :
      Next k ⟨w, g⟩
        ⟨w.setRegistry { w.registry with lock := w.registry.lock.request .operator }, g⟩
  /-- The lock is given to the next who waits for it. -/
  | release {w : Server} {g : List ActivePath} : Next k ⟨w, g⟩ ⟨w.release, g⟩
  /-- Another configuration is in force. -/
  | replace {w : Server} {g : List ActivePath} (s : Store) :
      Next k ⟨w, g⟩ ⟨w.setRegistry { w.registry with store := s }, g⟩
  /-- The active paths are listed anew. -/
  | relist {w : Server} {g ps : List ActivePath} (hp : ps.Perm w.registry.paths) :
      Next k ⟨w, g⟩ ⟨w.relisted ps, g⟩
  /-- A path comes under another entry for which its source need not be made anew. -/
  | amend {w : Server} {g : List ActivePath} {p : ActivePath} (hp : p ∈ w.registry.paths)
      (entry : Entry) (hn : needsRestart p entry false = false) :
      Next k ⟨w, g⟩ ⟨w.setRegistry (w.registry.set { p with entry := entry }), g⟩
  /-- A supervisor is handed the entry of the path that has it. -/
  | inform {w : Server} {g : List ActivePath} (i : Nat) (entry : Entry)
      (hp : ∀ p ∈ w.registry.paths, p.origin = .source i → p.entry = entry) :
      Next k ⟨w, g⟩ ⟨w.reload i entry, g⟩
  /-- A path is no longer active. -/
  | remove {w : Server} {g : List ActivePath} {p : ActivePath}
      (hk : k.removing = true) (hp : w.registry.get? p.name = some p) :
      Next k ⟨w, g⟩ ⟨w.setRegistry (w.registry.remove p.name), p :: g⟩
  /-- No path is active any longer. -/
  | clear {w : Server} (hk : k.removing = true) :
      Next k ⟨w, []⟩ ⟨w.setRegistry { w.registry with paths := [] }, w.registry.paths⟩
  /-- The supervisor of a path that is not done with is asked to stop. -/
  | cancel {w : Server} {g : List ActivePath} {p : ActivePath} {i : Nat} (hp : p ∈ g)
      (ho : p.origin = .source i) (reason : String) :
      Next k ⟨w, g⟩ ⟨w.modify i (·.cancel reason), g⟩
  /-- One waits no longer for the supervisor of a path that is not done with. -/
  | rest {w : Server} {g : List ActivePath} {p : ActivePath} {i : Nat} (hp : p ∈ g)
      (ho : p.origin = .source i) (hd : k.thorough = true → isDone i w = true) :
      Next k ⟨w, g⟩ ⟨w.modify i (·.rest), g⟩
  /-- It is told that a path which was ready is not any longer. -/
  | lose {w : Server} {g : List ActivePath} {p : ActivePath} (hr : p.isReady = true) :
      Next k ⟨w, p :: g⟩
        ⟨w.setRegistry (w.registry.send (.notReady p.name)), { p with medias := none } :: g⟩
  /-- It is told that a path is no longer active, and that is all that was left to be done. -/
  | bury {w : Server} {g : List ActivePath} {p : ActivePath} (hr : w.AtRest p) (reason : String) :
      Next k ⟨w, p :: g⟩ ⟨w.setRegistry (w.registry.send (.removed p.name reason)), g⟩
  /-- A path that is done with is made active, or cannot be. -/
  | build {w : Server} {g : List ActivePath} {name : String} (hk : k.building = true)
      (hn : w.registry.get? name = none) (hg : ∀ p ∈ g, p.name ≠ name) (m : Match) (query : String) :
      Next k ⟨w, g⟩ ⟨(w.build name m query).1, g⟩
  /-- A path is made active anew. -/
  | renew {w : Server} {g : List ActivePath} {p q : ActivePath} {m : Match}
      (hn : w.registry.get? p.name = none) (hm : p.medias = none) (hr : w.AtRest p)
      (hb : (w.build p.name m p.query).2 = .ok q) :
      Next k ⟨w, p :: g⟩ ⟨(w.build p.name m p.query).1, g⟩
  /-- A path cannot be made active anew. -/
  | refuse {w : Server} {g : List ActivePath} {p : ActivePath} {m : Match} {e : SourceError}
      (hn : w.registry.get? p.name = none) (hr : w.AtRest p)
      (hb : (w.build p.name m p.query).2 = .error e) :
      Next k ⟨w, p :: g⟩ ⟨(w.build p.name m p.query).1, p :: g⟩

variable {x y x₀ : Scene} {k : Manner}

/-! ## Scenes are in order -/

/-- What holds in every scene. -/
structure Scene.InOrder (x : Scene) : Prop where
  /-- Supervisors and active paths are assigned to each other. -/
  assigned : x.server.Assigned
  /-- A path that is not done with has the name of no other path. -/
  distinct : x.names.Nodup
  /-- The supervisor of a path that is not done with is owned by it. -/
  claims : ∀ p ∈ x.gone, ∀ i, p.origin = .source i → x.server.owner? i = some (.path p.name p.id)

/-- Of the paths that are active or not done with, no two have one name. -/
theorem Scene.InOrder.eq_of_name (hx : x.InOrder) (hp : p ∈ x.server.registry.paths ++ x.gone)
    (hq : q ∈ x.server.registry.paths ++ x.gone) (hn : p.name = q.name) : p = q :=
  List.inj_on_of_nodup_map hx.distinct hp hq hn

/-- No active path has the supervisor of a path that is not done with. -/
theorem Scene.InOrder.unclaimed (hx : x.InOrder) (hp : p ∈ x.gone) (ho : p.origin = .source i) :
    x.server.Unclaimed i := by
  intro q hq hqo
  have hown := (hx.assigned.claims q hq i).2 hqo
  rw [hx.claims p hp i ho] at hown
  obtain ⟨hn, -⟩ := Owner.path.inj (Option.some.inj hown)
  have hd := hx.distinct
  rw [Scene.names, List.map_append, List.nodup_append] at hd
  exact hd.2.2 _ (List.mem_map_of_mem hq) _ (List.mem_map_of_mem hp) hn.symm

/-- What happens next is a stride, unless paths are listed anew. -/
theorem Scene.Next.stride (hs : Scene.Next k x y) (hx : x.InOrder) :
    Stride x.server y.server ∨
      ∃ ps, ps.Perm x.server.registry.paths ∧ y = ⟨x.server.relisted ps, x.gone⟩ := by
  cases hs with
  | task ht => exact .inl (.task ht)
  | park hq ht => exact .inl (.park hq ht)
  | pass t => exact .inl (.pass t)
  | record r => exact .inl (.record r)
  | request => exact .inl .request
  | release => exact .inl .release
  | replace s => exact .inl (.replace s)
  | relist hp => exact .inr ⟨_, hp, rfl⟩
  | amend hp entry hn => exact .inl (.amend hp entry hn)
  | inform i entry hp => exact .inl (.inform i entry hp)
  | remove => exact .inl (.remove _)
  | clear => exact .inl .clear
  | cancel hp ho reason => exact .inl (.cancel (hx.unclaimed hp ho) reason)
  | rest hp ho => exact .inl (.rest (hx.unclaimed hp ho))
  | lose | bury => exact .inl (.send _)
  | build _ hn _ m query => exact .inl (.build hn m query)
  | renew hn | refuse hn => exact .inl (.build hn _ _)

/-- Listing the active paths anew does not change what they are assigned to. -/
theorem Assigned.relist (hw : w.Assigned) {ps : List ActivePath} (hp : ps.Perm w.registry.paths) :
    (w.relisted ps).Assigned := by
  refine ⟨⟨hw.tidy.owned, ?_⟩, hw.isOpen, hw.owners, hw.sole, fun q hq => ?_, fun q hq => ?_⟩
  · exact (hp.map _).nodup_iff.2 hw.tidy.distinct
  · exact hw.ids q (hp.mem_iff.1 hq)
  · exact hw.claims q (hp.mem_iff.1 hq)

/-- Owners stay, and supervisors are only added. -/
theorem owner?_of_stride {o : Owner} (hw : w.Owned) (hs : Stride w w')
    (ho : w.owner? i = some o) : w'.owner? i = some o := by
  have same : w'.hosts = w.hosts → w'.owner? i = some o := fun hh => by
    rw [owner?_congr (show w'.marks = w.marks by rw [marks, marks, hh]), ho]
  have set : ∀ {j : Nat} {h : Host} {s : Supervisor}, w.hosts[j]? = some h →
      w'.hosts = w.hosts.set j ⟨s, h.owner⟩ → w'.owner? i = some o := by
    intro j h s hj hh
    have hm : w'.marks.map (·.2) = w.marks.map (·.2) := by
      rw [marks, marks, hh, List.map_map, List.map_map]
      exact map_set_of_getElem? _ hj rfl
    rw [owner?, ← List.getElem?_map] at ho ⊢
    rw [hm, ho]
  obtain ⟨l, ha⟩ := advance_of_stride hw hs
  cases ha with
  | turn ht =>
    rcases run_of_turn ht with hh | ⟨h, s, hj, -, hh, -⟩
    · exact same hh
    · exact set hj hh
  | recede hh => exact same hh
  | inform _ hj _ _ hh => exact set hj hh
  | dismiss hj _ _ hh => exact set hj hh
  | forsake hj _ hh => exact set hj hh
  | build _ hb =>
    cases hb with
    | failed hh | redirected _ _ hh | published _ _ hh => exact same hh
    | pulled _ hh =>
      obtain ⟨x, hx, rfl⟩ := Option.map_eq_some_iff.1 ho
      have hlt := (List.getElem?_eq_some_iff.1 hx).1
      rw [owner?, marks, hh, List.map_append, ← marks, List.getElem?_append_left hlt, hx]
      rfl

/-- What becomes of the registry when a path is made active, or cannot be. -/
theorem registry_build (hw : w.Owned) (name : String) (m : Match) (query : String) :
    (∃ o, (w.build name m query).2 = .ok (w.activation name m query o) ∧
      (w.build name m query).1.registry = w.numbered.insert (w.activation name m query o)) ∨
    ∃ e, (w.build name m query).2 = .error e ∧ (w.build name m query).1.registry = w.numbered ∧
      (w.build name m query).1.hosts = w.hosts := by
  obtain ⟨ms, hb⟩ := built_of_build hw name m query
  generalize (w.build name m query).1 = v at hb ⊢
  generalize (w.build name m query).2 = result at hb ⊢
  cases hb with
  | failed hh hr => exact .inr ⟨_, rfl, hr, hh⟩
  | pulled _ _ hr | redirected _ _ _ hr | published _ _ _ hr => exact .inl ⟨_, rfl, hr⟩

/-- The active paths are the one that is removed and the others. -/
theorem paths_remove {r : Registry} (hr : (r.paths.map (·.name)).Nodup)
    (hp : r.get? p.name = some p) : r.paths.Perm (p :: (r.remove p.name).paths) := by
  obtain ⟨ps, qs, hpaths⟩ := List.append_of_mem (mem_of_get? hp)
  rw [hpaths] at hr
  have hperm : (p :: (ps ++ qs)).Perm r.paths := hpaths ▸ List.perm_middle.symm
  have hne := (List.nodup_cons.1 ((List.perm_middle.map _).nodup_iff.1 hr)).1
  have hall : (ps ++ qs).filter (·.name != p.name) = ps ++ qs := by
    refine List.filter_eq_self.2 fun q hq => ?_
    have : q.name ≠ p.name := fun hn => hne (hn ▸ List.mem_map_of_mem hq)
    simpa using this
  refine hperm.symm.trans (.cons p ?_)
  have hfilter := hperm.filter (·.name != p.name)
  rw [List.filter_cons_of_neg (by simp), hall] at hfilter
  exact hfilter

/-- The names of active paths after one more thing has happened that tasks or time have brought about. -/
theorem names_of_outline (ho : w'.outline = w.outline) :
    w'.registry.paths.map (·.name) = w.registry.paths.map (·.name) := by
  rw [← names_outline, show w'.registry.outline = w.registry.outline from congrArg Prod.fst ho,
    names_outline]

/-- What becomes of the names of paths and of the events that were sent when something happens. -/
inductive Scene.Outcome (k : Manner) (x y : Scene) : Prop where
  /-- No path is done with and none is added. -/
  | quiet {es : List PathEvent} (hs : y.server.registry.sent = es ++ x.server.registry.sent)
      (he : ∀ e ∈ es, e.removed? = none) (hn : y.names.Perm x.names)
  /-- A path is done with. -/
  | buried {name reason : String} (hg : x.gone ≠ [])
      (hs : y.server.registry.sent = .removed name reason :: x.server.registry.sent)
      (hn : x.names.Perm (name :: y.names))
  /-- A path is added. -/
  | built {name : String} (hk : k.building = true)
      (hs : y.server.registry.sent = x.server.registry.sent) (hnot : name ∉ x.names)
      (hn : y.names.Perm (name :: x.names))

/-- No name is changed, and nothing is told. -/
theorem Scene.Outcome.same (hs : y.server.registry.sent = x.server.registry.sent)
    (hn : y.names.Perm x.names) : Scene.Outcome k x y :=
  have hsent : y.server.registry.sent = [] ++ x.server.registry.sent := hs
  .quiet hsent (List.forall_mem_nil _) hn

/-- The owner tells nothing of paths that are no longer active. -/
theorem sent_consider (w : Server) (name : String) (id : Nat) (a : Announcement) :
    ∃ es, (w.consider name id a).1.registry.sent = es ++ w.registry.sent ∧
      ∀ e ∈ es, e.removed? = none := by
  have same : ∃ es, w.registry.sent = es ++ w.registry.sent ∧ ∀ e ∈ es, e.removed? = none :=
    ⟨[], rfl, List.forall_mem_nil _⟩
  unfold consider
  split
  · rename_i medias p hp
    exact ⟨[.ready p.name medias], rfl, by simp [PathEvent.removed?]⟩
  · exact same
  · rename_i p hp
    split
    · exact ⟨[.notReady p.name], rfl, by simp [PathEvent.removed?]⟩
    · exact same
  · exact same

/-- One step has an outcome. -/
theorem Scene.Next.outcome (hs : Scene.Next k x y) (hx : x.InOrder) : Scene.Outcome k x y := by
  have htidy := hx.assigned.tidy
  have hd := hx.distinct
  cases hs with
  | @task w v i t g ht =>
    obtain ⟨ms, hturn⟩ := turn_of_stepTask htidy.owned ht
    have hturn := hturn.congr (hosts_elim_setAlarms v i) (registry_elim_setAlarms v i)
    have hn : Scene.names ⟨v.hosts[i]?.elim v (v.setAlarms i), g⟩ = Scene.names ⟨w, g⟩ := by
      rw [Scene.names, List.map_append, names_of_outline (outline_of_turn htidy hturn),
        ← List.map_append]
      rfl
    cases hturn with
    | own _ _ _ hr => exact .same (by rw [hr]) (.of_eq hn)
    | line _ hr | decline _ _ _ _ hr => exact .same (by rw [hr]) (.of_eq hn)
    | @answer h r name id _ _ _ _ hr =>
      obtain ⟨es, hes, he⟩ := sent_consider w name id r.announcement
      exact .quiet (by rw [hr]; exact hes) he (.of_eq hn)
  | park | record | request | replace => exact .same rfl (.refl _)
  | @pass w g t =>
    refine .same (by rw [registry_passTo]) (.of_eq ?_)
    rw [Scene.names, registry_passTo]
    rfl
  | @release w g =>
    refine .same (by rw [registry_release]) (.of_eq ?_)
    rw [Scene.names, registry_release]
    rfl
  | relist hp => exact .same rfl ((hp.append_right _).map _)
  | amend hp entry =>
    refine .same rfl (.of_eq ?_)
    rw [Scene.names, List.map_append, setRegistry, names_set, ← List.map_append]
    rfl
  | @inform w g i entry =>
    refine .same (by rw [registry_reload]) (.of_eq ?_)
    rw [Scene.names, registry_reload]
    rfl
  | cancel | rest =>
    refine .same (by rw [registry_modify]) (.of_eq ?_)
    rw [Scene.names, registry_modify]
    rfl
  | @remove w g p _ hp =>
    have hperm := ((paths_remove htidy.distinct hp).append_right g).trans List.perm_middle.symm
    exact .same rfl (hperm.symm.map _)
  | clear => exact .same rfl (.of_eq (by simp [Scene.names, setRegistry]))
  | @lose w g p =>
    have hsent : (w.setRegistry (w.registry.send (.notReady p.name))).registry.sent =
        [.notReady p.name] ++ w.registry.sent := rfl
    refine .quiet hsent (by simp [PathEvent.removed?]) (.of_eq ?_)
    simp [Scene.names, setRegistry, Registry.send]
  | bury => exact .buried (List.cons_ne_nil _ _) rfl (List.perm_middle.map _)
  | @build w g name hk hn hg m query =>
    rcases registry_build htidy.owned name m query with ⟨o, -, hr⟩ | ⟨e, -, hr, -⟩
    · refine @Scene.Outcome.built _ _ _ name hk (by rw [hr]; rfl) ?_ ?_
      · rw [Scene.names, List.mem_map]
        rintro ⟨q, hq, heq⟩
        exact (List.mem_append.1 hq).elim (fun hq => name_ne_of_inactive htidy hn q hq heq)
          fun hq => hg q hq heq
      · rw [Scene.names, paths_insert hr, List.append_assoc]
        exact List.perm_middle.map _
    · refine .same (by rw [hr]; rfl) (.of_eq ?_)
      rw [Scene.names, hr]
      rfl
  | @renew w g p q m hn _ _ hb =>
    rcases registry_build htidy.owned p.name m p.query with ⟨o, -, hr⟩ | ⟨e, he, -⟩
    · refine .same (by rw [hr]; rfl) (.of_eq ?_)
      rw [Scene.names, paths_insert hr, List.append_assoc]
      simp [Scene.names, activation]
    · cases hb.symm.trans he
  | @refuse w g p m e hn _ hb =>
    rcases registry_build htidy.owned p.name m p.query with ⟨o, ho, -⟩ | ⟨e, -, hr, -⟩
    · cases hb.symm.trans ho
    · refine .same (by rw [hr]; rfl) (.of_eq ?_)
      rw [Scene.names, hr]
      rfl

/-- Whatever happens next, a scene stays in order. -/
theorem Scene.InOrder.next (hx : x.InOrder) (hs : Scene.Next k x y) : y.InOrder := by
  have hown : ∀ {i o}, x.server.owner? i = some o → y.server.owner? i = some o := by
    rcases hs.stride hx with hs | ⟨ps, -, rfl⟩
    · exact owner?_of_stride hx.assigned.tidy.owned hs
    · exact id
  have hclaims : ∀ p ∈ x.gone, ∀ i, p.origin = .source i →
      y.server.owner? i = some (.path p.name p.id) := fun p hp i ho => hown (hx.claims p hp i ho)
  refine ⟨?_, ?_, ?_⟩
  · rcases hs.stride hx with hs | ⟨ps, hps, rfl⟩
    · exact hx.assigned.stride hs
    · exact hx.assigned.relist hps
  · cases hs.outcome hx with
    | quiet _ _ hn => exact hn.nodup_iff.2 hx.distinct
    | buried _ _ hn => exact (List.nodup_cons.1 (hn.nodup_iff.1 hx.distinct)).2
    | built _ _ hnot hn => exact hn.nodup_iff.2 (List.nodup_cons.2 ⟨hnot, hx.distinct⟩)
  · cases hs with
    | remove _ hp =>
      refine List.forall_mem_cons.2 ⟨fun i ho => ?_, hclaims⟩
      exact hown ((hx.assigned.claims _ (mem_of_get? hp) i).2 ho)
    | clear => exact fun q hq i ho => hown ((hx.assigned.claims q hq i).2 ho)
    | lose =>
      obtain ⟨hp, hg⟩ := List.forall_mem_cons.1 hclaims
      exact List.forall_mem_cons.2 ⟨hp, hg⟩
    | bury | renew => exact (List.forall_mem_cons.1 hclaims).2
    | _ => exact hclaims

/-! ## What leads from scene to scene -/

/-- A scene to which things that happen lead. -/
structure Scene.Leads (k : Manner) (x₀ x : Scene) : Prop where
  /-- What has happened. -/
  path : ReflTransGen (Scene.Next k) x₀ x
  /-- The scene is in order. -/
  inOrder : x.InOrder

namespace Scene.Leads

variable {reason : String} {c : Configuration}

/-- One more step keeps the trail of scenes. -/
theorem next (hx : Scene.Leads k x₀ x) (hs : Scene.Next k x y) : Scene.Leads k x₀ y :=
  ⟨hx.path.tail hs, hx.inOrder.next hs⟩

/-- What led to a scene still leads to it after stirs, which change none of the paths. -/
theorem lasting (x₀ : Scene) (gone : List ActivePath) :
    Lasting fun w => Scene.Leads k x₀ ⟨w, gone⟩ := by
  constructor
  · exact fun ht hw => hw.next (.task ht)
  · exact fun hq ht hw => hw.next (.park hq ht)
  · exact fun t hw => hw.next (.pass t)

/-- Waiting changes no path. -/
theorem waitFor (hw : Scene.Leads k x₀ ⟨w, gone⟩) (done : Server → Bool) :
    Scene.Leads k x₀ ⟨w.waitFor done, gone⟩ :=
  (lasting x₀ gone).waitFor done hw

/-- Getting the lock changes no path. -/
theorem acquire (hw : Scene.Leads k x₀ ⟨w, gone⟩) : Scene.Leads k x₀ ⟨w.acquire, gone⟩ := by
  unfold Server.acquire
  exact (hw.next .request).waitFor _

/-- Giving the lock back changes no path. -/
theorem release (hw : Scene.Leads k x₀ ⟨w, gone⟩) : Scene.Leads k x₀ ⟨w.release, gone⟩ :=
  hw.next .release

/-! ### Stopping -/

/-- A supervisor that was laid to rest is idle. -/
theorem isIdle_modify_rest (hw : w.Owned) {s : Supervisor}
    (hs : (w.modify i (·.rest)).supervisor? i = some s) : s.isIdle = true := by
  rcases hosts_modify hw i (·.rest) with ⟨h, hi, hh⟩ | ⟨hi, hh⟩
  · rw [supervisor?_of_set (s := { h.supervisor.rest with effects := [] }) hi hh] at hs
    cases hs
    rfl
  · rw [supervisor?, hh, hi] at hs
    cases hs

/-- Stopping a source that is no longer active changes no path, and its supervisor comes to rest if the stop is
seen through. -/
theorem stop (hw : Scene.Leads k x₀ ⟨w, gone⟩) (hp : p ∈ gone) (ho : p.origin = .source i)
    (hd : k.thorough = true → w.Unwinds i reason) :
    Scene.Leads k x₀ ⟨w.stop i reason, gone⟩ ∧
      ∀ s, (w.stop i reason).supervisor? i = some s → s.isIdle = true := by
  have hwait := (hw.next (.cancel hp ho reason)).waitFor (isDone i)
  have hcrash : Scene.Leads k x₀
      ⟨((w.modify i (·.cancel reason)).waitFor (isDone i)).recordCrash i, gone⟩ ∧
      (k.thorough = true → isDone i
        (((w.modify i (·.cancel reason)).waitFor (isDone i)).recordCrash i) = true) := by
    rcases recordCrash_cases ((w.modify i (·.cancel reason)).waitFor (isDone i)) i with h | ⟨r, h⟩
    · rw [h]
      exact ⟨hwait, hd⟩
    · rw [h]
      exact ⟨hwait.next (.record r), hd⟩
  exact ⟨hcrash.1.next (.rest hp ho hcrash.2), fun s =>
    isIdle_modify_rest hcrash.1.inOrder.assigned.tidy.owned⟩

/-- The source of a path is stopped that is no longer active. -/
theorem stopSource (hw : Scene.Leads k x₀ ⟨w, gone⟩) (hp : p ∈ gone)
    (hd : k.thorough = true → w.Closes p reason) :
    Scene.Leads k x₀ ⟨w.stopSource p reason, gone⟩ ∧ (w.stopSource p reason).AtRest p := by
  unfold Server.stopSource
  split
  · rename_i i hi
    obtain ⟨hs, hidle⟩ := hw.stop hp (origin_of_host? hi) fun hb => hd hb i hi
    refine ⟨hs, fun j s ho => ?_⟩
    obtain rfl : i = j := Origin.source.inj ((origin_of_host? hi).symm.trans ho)
    exact hidle s
  · rename_i hnone
    refine ⟨hw, fun j s ho => ?_⟩
    rw [ho] at hnone
    cases hnone

/-- What is left to be done for a path is done. -/
theorem close (hw : Scene.Leads k x₀ ⟨w, p :: gone⟩) (hd : k.thorough = true → w.Closes p reason) :
    Scene.Leads k x₀ ⟨w.close p reason, gone⟩ := by
  obtain ⟨hs, hrest⟩ := hw.stopSource (List.mem_cons_self ..) hd
  have hr := hs.next (.record (.deactivated p.name reason))
  exact hr.next (.bury (w := (w.stopSource p reason).record _) hrest reason)

/-! ### Activating -/

/-- Building a path takes one step: it appears. -/
theorem build (hw : Scene.Leads k x₀ ⟨w, []⟩) (hk : k.building = true)
    (hn : w.registry.get? name = none) (m : Match) (query : String) :
    Scene.Leads k x₀ ⟨(w.build name m query).1, []⟩ :=
  hw.next (.build hk hn (List.forall_mem_nil _) m query)

/-- An activation takes at most one step. -/
theorem activate (hw : Scene.Leads k x₀ ⟨w, []⟩) (hk : k.building = true) (name query : String) :
    Scene.Leads k x₀ ⟨(w.activate name query).1, []⟩ := by
  unfold Server.activate
  split
  · exact hw
  · simp only
    split
    · exact hw.acquire.release
    · exact (hw.acquire.build hk ‹_› _ query).release

/-- Activations one after the other take their steps in order. -/
theorem activateAll (hw : Scene.Leads k x₀ ⟨w, []⟩) (hk : k.building = true) (es : List Entry) :
    Scene.Leads k x₀ ⟨(w.activateAll es).1, []⟩ := by
  induction es generalizing w with
  | nil => exact hw
  | cons e es ih =>
    have ha := hw.activate hk e.name ""
    unfold Server.activateAll
    split
    · rename_i v _ hv
      rw [hv] at ha
      exact ih ha
    · rename_i v _ hv
      rw [hv] at ha
      exact ha

/-- So do those of the entries that are always on. -/
theorem activateAlwaysOn (hw : Scene.Leads k x₀ ⟨w, []⟩) (hk : k.building = true) :
    Scene.Leads k x₀ ⟨w.activateAlwaysOn.1, []⟩ := by
  have ha := hw.activateAll hk (alwaysOn w.registry.store.current)
  unfold Server.activateAlwaysOn
  simp only
  split
  · rename_i v _ hv
    rw [hv] at ha
    exact ha.next (.record _)
  · rename_i v _ hv
    rw [hv] at ha
    exact ha

/-! ### Deactivating -/

/-- A path that is removed waits to be closed. -/
theorem remove (hw : Scene.Leads k x₀ ⟨w, gone⟩) (hk : k.removing = true)
    (hp : w.registry.get? name = some p) :
    Scene.Leads k x₀ ⟨w.setRegistry (w.registry.remove name), p :: gone⟩ := by
  obtain rfl := name_of_get? hp
  exact hw.next (.remove hk hp)

/-- Where no path of a name is active, nothing is removed. -/
theorem remove_of_inactive {r : Registry} (hn : r.get? name = none) : r.remove name = r := by
  have hall : r.paths.filter (·.name != name) = r.paths := by
    refine List.filter_eq_self.2 fun q hq => ?_
    simpa using List.find?_eq_none.1 hn q hq
  rw [Registry.remove, hall]

/-- A deactivation removes a path and closes it. -/
theorem deactivate (hw : Scene.Leads k x₀ ⟨w, []⟩) (hk : k.removing = true)
    (name reason : String)
    (hd : k.thorough = true → w.Completes (.deactivate name reason)) :
    Scene.Leads k x₀ ⟨(w.deactivate name reason).1, []⟩ := by
  unfold Server.deactivate
  simp only
  split
  · rename_i p hp
    exact (hw.acquire.remove hk hp).release.close fun hb => hd hb p hp
  · rename_i hn
    rw [remove_of_inactive hn]
    exact hw.acquire.release

/-- A shutdown removes all paths and closes them. -/
theorem shutdown (hw : Scene.Leads k x₀ ⟨w, []⟩) (hk : k.removing = true)
    (hd : k.thorough = true → w.Completes .shutdown) :
    Scene.Leads k x₀ ⟨w.shutdown, []⟩ := by
  have hclose : ∀ (ps : List ActivePath) (v : Server), Scene.Leads k x₀ ⟨v, ps⟩ →
      (k.thorough = true → Throughout (fun w p => w.close p "shutting down")
        (fun w p => w.Closes p "shutting down") v ps) →
      Scene.Leads k x₀ ⟨ps.foldl (fun w p => w.close p "shutting down") v, []⟩ := by
    intro ps
    induction ps with
    | nil => exact fun v hv _ => hv
    | cons p ps ih =>
      exact fun v hv hd => ih _ (hv.close fun hb => (hd hb).1) fun hb => (hd hb).2
  exact (hclose _ _ (hw.acquire.next (.clear hk)).release hd).next (.record .stopped)

/-! ### Reloads -/

/-- A path whose source was stopped is made active anew, or it is told that it cannot be. -/
theorem rebuild {m : Match} (hw : Scene.Leads k x₀ ⟨w, [q]⟩) (hr : w.AtRest q)
    (hn : w.registry.get? q.name = none) (hm : q.medias = none) :
    Scene.Leads k x₀
      ⟨(match w.build q.name m q.query with
        | (w, .ok _) => (w, none)
        | (w, .error e) =>
          let w := w.record (.restartFailed q.name e.message)
          (w.setRegistry (w.registry.send (.removed q.name e.message)), some e)).1, []⟩ := by
  rcases registry_build hw.inOrder.assigned.tidy.owned q.name m q.query with
      ⟨o, hok, -⟩ | ⟨e, herr, -, hh⟩
  · have hb := hw.next (.renew hn hm hr hok)
    split
    · rename_i v _ hv
      rw [hv] at hb
      exact hb
    · rename_i v e hv
      rw [hv] at hok
      cases hok
  · have hb := hw.next (.refuse hn hr herr)
    split
    · rename_i v _ hv
      rw [hv] at herr
      cases herr
    · rename_i v e hv
      rw [hv] at hb hh
      refine (hb.next (.record (.restartFailed q.name e.message))).next (.bury ?_ e.message)
      intro i s ho hs
      rw [supervisor?] at hs
      change (v.hosts[i]?).map _ = some s at hs
      rw [hh] at hs
      exact hr i s ho hs

/-- A restart removes a path, closes it and may build it again. -/
theorem restart {m : Match} (hw : Scene.Leads k x₀ ⟨w, []⟩) (hk : k.removing = true)
    (hp : w.registry.get? p.name = some p)
    (hd : k.thorough = true →
      (w.setRegistry (w.registry.remove p.name)).Closes p "configuration changed") :
    Scene.Leads k x₀ ⟨(w.restart p m).1, []⟩ := by
  have hr := hw.remove hk hp
  obtain ⟨hs, hrest⟩ := hr.stopSource (List.mem_singleton_self p) hd
  have hn := get?_eq_none_congr
    (congrArg Prod.fst (outline_stopSource hr.inOrder.assigned.tidy p "configuration changed"))
    (get?_remove _ _)
  unfold Server.restart
  simp only
  -- a path that was ready has no media any longer when it is made active anew
  cases hready : p.isReady with
  | true => exact (hs.next (.lose hready)).rebuild hrest hn rfl
  | false => exact hs.rebuild hrest hn (by simpa [ActivePath.isReady] using hready)

/-- Amending a path that needs no restart takes one step. -/
theorem amend (hw : Scene.Leads k x₀ ⟨w, gone⟩) (hp : p ∈ w.registry.paths) {entry : Entry}
    (hn : needsRestart p entry false = false) : Scene.Leads k x₀ ⟨w.amend p entry, gone⟩ := by
  have hs := (hw.next (.record (.reloaded p.name))).next
    (.amend (w := w.record (.reloaded p.name)) hp entry hn)
  unfold Server.amend
  simp only
  split
  · rename_i i hi
    exact hs.next (.inform i entry (entry_of_set hw.inOrder.assigned hp (origin_of_host? hi) entry))
  · exact hs

/-- Aligning a path restarts it, amends it or closes it. -/
theorem align (hw : Scene.Leads k x₀ ⟨w, []⟩) (hk : k.removing = true)
    (hp : w.registry.get? p.name = some p) (optionsChanged : Bool)
    (hd : k.thorough = true → Aligns c optionsChanged w p) :
    Scene.Leads k x₀ ⟨(align c optionsChanged w p).1, []⟩ := by
  unfold Aligns at hd
  unfold Server.align
  split
  · rename_i hf
    simp only [hf] at hd
    exact (hw.remove hk hp).close hd
  · rename_i m hf
    simp only [hf] at hd
    simp only
    split
    · exact hw
    · rename_i hsame
      split
      · rename_i hn
        exact hw.restart hk hp fun hb => hd hb ⟨Bool.eq_false_iff.2 hsame, hn⟩
      · rename_i hn
        simp only [needsRestart, Bool.or_eq_true, not_or, Bool.not_eq_true] at hn
        refine hw.amend (mem_of_get? hp) ?_
        simp only [needsRestart, hn, Bool.or_false]

/-- So does going through all the names. -/
theorem alignNames {optionsChanged : Bool} {names : List String} {s : Server × Option ServerError}
    (hs : Scene.Leads k x₀ ⟨s.1, []⟩) (hk : k.removing = true)
    (hd : k.thorough = true → Throughout (Server.alignName c optionsChanged)
      (fun s name => ∀ p ∈ s.1.registry.get? name, Aligns c optionsChanged s.1 p) s names) :
    Scene.Leads k x₀ ⟨(names.foldl (Server.alignName c optionsChanged) s).1, []⟩ := by
  induction names generalizing s with
  | nil => exact hs
  | cons name names ih =>
    refine ih ?_ fun hb => (hd hb).2
    unfold Server.alignName
    split
    · exact hs
    · rename_i p hp
      obtain rfl := name_of_get? hp
      exact hs.align hk hp optionsChanged fun hb => (hd hb).1 p hp

/-- Ensuring entries takes the steps of their activations. -/
theorem ensures {es : List Entry} {s : Server × Option ServerError}
    (hs : Scene.Leads k x₀ ⟨s.1, []⟩) (hk : k.building = true) :
    Scene.Leads k x₀ ⟨(es.foldl ensure s).1, []⟩ := by
  induction es generalizing s with
  | nil => exact hs
  | cons e es ih =>
    refine ih ?_
    unfold ensure
    split
    · exact hs
    · rename_i hn
      have hb := hs.build hk (by simpa [Registry.isActive] using hn) ⟨e, none⟩ ""
      split
      · rename_i v _ hv
        rw [hv] at hb
        exact hb
      · rename_i v _ hv
        rw [hv] at hb
        exact hb

/-- Adopting a configuration changes no path. -/
theorem adopt (hw : Scene.Leads k x₀ ⟨w, []⟩) (c : Configuration) :
    Scene.Leads k x₀ ⟨w.adopt c, []⟩ :=
  ((hw.next (.replace _)).next (.record (.replaced c.table.entries.length))).acquire

/-- The first pass of a reload, with every path that it closes seen through. -/
theorem aligned (hw : Scene.Leads k x₀ ⟨w, []⟩) (hk : k.removing = true)
    (hc : c.check = .ok c) (hd : k.thorough = true → w.Completes (.reload c)) :
    Scene.Leads k x₀ ⟨(w.aligned c).1, []⟩ :=
  alignNames (hw.adopt c) hk fun hb => hd hb (by rw [hc]; rfl)

/-- A reload, both of its passes. -/
theorem apply (hw : Scene.Leads k x₀ ⟨w, []⟩) (hk : k.removing = true ∧ k.building = true)
    (c : Configuration) (hd : k.thorough = true → w.Completes (.reload c)) :
    Scene.Leads k x₀ ⟨(w.apply c).1, []⟩ := by
  cases hc : c.check with
  | error e =>
    rw [apply_of_error hc]
    exact hw
  | ok c' =>
    obtain rfl := check_eq hc
    rw [apply_eq hc]
    exact (ensures (hw.aligned hk.1 hc hd) hk.2).release

/-! ### Every life -/

/-- Every operation leads from scene to scene. -/
theorem operate (hw : Scene.Leads k x₀ ⟨w, []⟩) (hk : k.removing = true ∧ k.building = true)
    (o : Operation) (hd : k.thorough = true → w.Completes o) :
    Scene.Leads k x₀ ⟨w.operate o, []⟩ := by
  cases o with
  | start => exact hw.activateAlwaysOn hk.2
  | activate name query => exact hw.activate hk.2 name query
  | deactivate name reason => exact hw.deactivate hk.1 name reason hd
  | reload c => exact hw.apply hk c hd
  | shutdown => exact hw.shutdown hk.1 hd
  | look => exact hw.acquire.release

/-- What is not an operation is one thing that happens, or none. -/
theorem undergo_of_not_operation (hw : Scene.Leads k x₀ ⟨w, []⟩) {n : Incident}
    (hn : ∀ o, n ≠ .event (.operation o)) : Scene.Leads k x₀ ⟨w.undergo n, []⟩ := by
  cases n with
  | relist l => exact hw.next (.relist (l.perm _))
  | event e =>
    cases e with
    | operation o => exact absurd rfl (hn o)
    | step => exact (lasting x₀ []).step hw
    | task i t =>
      simp only [Server.undergo, occur]
      split
      · exact hw.next (.task ‹_›)
      · exact hw
    | pass t => exact hw.next (.pass t)

/-- Whatever can happen to a server leads from scene to scene. -/
theorem undergo (hw : Scene.Leads k x₀ ⟨w, []⟩) (hk : k.removing = true ∧ k.building = true)
    (n : Incident) (hd : k.thorough = true → w.Concludes n) :
    Scene.Leads k x₀ ⟨w.undergo n, []⟩ := by
  by_cases hn : ∃ o, n = .event (.operation o)
  · obtain ⟨o, rfl⟩ := hn
    exact hw.operate hk o hd
  · exact hw.undergo_of_not_operation (not_exists.1 hn)

/-- Whatever happens to a server leads to a scene in which all paths that are no longer active are done
with. -/
theorem life (hw : Scene.Leads k x₀ ⟨w, []⟩) (hk : k.removing = true ∧ k.building = true)
    {is : List Incident} (hd : k.thorough = true → w.Completed is) :
    Scene.Leads k x₀ ⟨w.life is, []⟩ := by
  induction is generalizing w with
  | nil => exact hw
  | cons n is ih => exact ih (hw.undergo hk n fun hb => (hd hb).1) fun hb => (hd hb).2

end Scene.Leads

/-- A scene in order is one to which things lead from itself. -/
theorem Scene.InOrder.leads (hx : x.InOrder) (k : Manner) : Scene.Leads k x x := ⟨.refl, hx⟩

/-- Whatever happens leads from a scene in order to another one. -/
theorem Scene.InOrder.life (hw : Scene.InOrder ⟨w, []⟩) (is : List Incident) :
    Scene.Leads {} ⟨w, []⟩ ⟨w.life is, []⟩ :=
  (hw.leads {}).life ⟨rfl, rfl⟩ nofun

/-- At first there is neither a supervisor nor a path. -/
theorem inOrder_fresh (store : Store) (factory : Workshop) (pause : Nat) :
    Scene.InOrder ⟨fresh store factory pause, []⟩ :=
  ⟨assigned_fresh store factory pause, List.nodup_nil, List.forall_mem_nil _⟩

/-- What each thing that can happen next keeps holds of every scene to which things lead. -/
theorem Scene.Leads.induction {P : Scene → Prop} (hx : Scene.Leads k x₀ x) (h₀ : x₀.InOrder)
    (hP : P x₀) (next : ∀ {x y : Scene}, x.InOrder → Scene.Next k x y → P x → P y) : P x := by
  obtain ⟨hpath, -⟩ := hx
  refine (?_ : x.InOrder ∧ P x).2
  induction hpath with
  | refl => exact ⟨h₀, hP⟩
  | tail _ hs ih => exact ⟨ih.1.next hs, next ih.1 hs ih.2⟩

end Server

end MediaPaths
