import MediaPaths.Proofs.Server.Agreement
import MediaPaths.Proofs.Server.Stages

/-!
# Several who operate a server

Any number of people may operate a server at the same time. Each of them asks for the lock, changes the active
paths, gives the lock back and waits for supervisors, and the others do so in between. In the meantime a path
can become active again while the supervisor that it had before is not done. `Bustle` lists what happens
then at one moment. What it asks of them is that nobody gives back a lock that they do not hold, asks a
supervisor to stop that an active path has, or lays one to rest that is not done. Whoever operates a server alone
keeps to that.
-/

namespace MediaPaths

namespace Server

open Relation

variable {w v u : Server} {x y : Scene} {may : Touch → Prop} {k : Plan Unit} {l m : List (Server × Server)}

/-- What can happen at one moment while any number of people operate a server. -/
inductive Bustle (w : Server) : Server → Prop where
  /-- A task takes a step or leaves the line, time passes, or the active paths are listed anew. -/
  | stir {v : Server} (hs : Stir w v) : Bustle w v
  /-- Something is logged. -/
  | record (r : LogRecord) : Bustle w (w.record r)
  /-- Someone asks for the lock. -/
  | request : Bustle w (w.setRegistry { w.registry with lock := w.registry.lock.request .operator })
  /-- Whoever holds the lock gives it back. -/
  | release (hl : w.registry.lock.isHeldBy .operator = true) : Bustle w w.release
  /-- An event is sent. -/
  | send (e : PathEvent) : Bustle w (w.setRegistry (w.registry.send e))
  /-- Another configuration is in force. -/
  | replace (s : Store) : Bustle w (w.setRegistry { w.registry with store := s })
  /-- A path is no longer active. -/
  | remove (name : String) : Bustle w (w.setRegistry (w.registry.remove name))
  /-- No path is active any longer. -/
  | clear : Bustle w (w.setRegistry { w.registry with paths := [] })
  /-- A path comes under another entry for which its source need not be made anew. -/
  | amend {p : ActivePath} (hp : p ∈ w.registry.paths) (entry : Entry)
      (hn : needsRestart p entry false = false) :
      Bustle w (w.setRegistry (w.registry.set { p with entry := entry }))
  /-- A supervisor is handed the entry of the path that has it. -/
  | inform (i : Nat) (entry : Entry)
      (hp : ∀ p ∈ w.registry.paths, p.origin = .source i → p.entry = entry) : Bustle w (w.reload i entry)
  /-- A supervisor that no active path has is asked to stop. -/
  | cancel {i : Nat} (hi : w.Unclaimed i) (reason : String) : Bustle w (w.modify i (·.cancel reason))
  /-- A supervisor that no active path has is laid to rest when it is done. -/
  | rest {i : Nat} (hi : w.Unclaimed i) (hd : isDone i w = true) : Bustle w (w.modify i (·.rest))
  /-- A path that is not active is made active, or cannot be. -/
  | build {name : String} (hn : w.registry.get? name = none) (m : Match) (query : String) :
      Bustle w (w.build name m query).1

/-- What can have happened after a while. -/
abbrev Bustles : Server → Server → Prop := ReflTransGen Bustle

/-- A stir is a moment in which nobody operates the server. -/
theorem Stir.moment (hs : Stir w v) : Moment w v := by
  cases hs with
  | task _ ht => exact .stride (.task ht)
  | park hq ht => exact .stride (.park hq ht)
  | pass => exact .stride (.pass _)
  | relist hp => exact .relist hp

/-- All that a bustle brings is what moments bring. -/
theorem Bustle.moment (hb : Bustle w v) : Moment w v := by
  cases hb with
  | stir hs => exact hs.moment
  | record r => exact .stride (.record r)
  | request => exact .stride .request
  | release => exact .stride .release
  | send e => exact .stride (.send e)
  | replace s => exact .stride (.replace s)
  | remove name => exact .stride (.remove name)
  | clear => exact .stride .clear
  | amend hp entry hn => exact .stride (.amend hp entry hn)
  | inform i entry hp => exact .stride (.inform i entry hp)
  | cancel hi reason => exact .stride (.cancel hi reason)
  | rest hi => exact .stride (.rest hi)
  | build hn m query => exact .stride (.build hn m query)

/-- Stirs are bustles in which nobody operates the server. -/
theorem Stirs.bustles (hs : Stirs w v) : Bustles w v := ReflTransGen.mono (fun _ _ => .stir) _ _ hs

/-- Supervisors stay assigned to their paths, whoever operates the server. -/
theorem Bustles.assigned (hb : Bustles w v) (hw : w.Assigned) : v.Assigned := by
  induction hb with
  | refl => exact hw
  | tail _ hb ih => exact hb.moment.assigned ih

/-- Bustles make up a passage. -/
theorem Bustles.passage (hb : Bustles w v) : ∃ l, Passage w l v ∧ ∀ y ∈ l, Bustle y.1 y.2 := by
  induction hb with
  | refl => exact ⟨[], .nil, List.forall_mem_nil _⟩
  | @tail u v _ hb ih =>
    obtain ⟨l, hl, hall⟩ := ih
    exact ⟨l ++ [(u, v)], hl.append (.cons hb.moment .nil),
      List.forall_mem_append.2 ⟨hall, List.forall_mem_singleton.2 hb⟩⟩

/-- What every moment keeps is kept. -/
theorem Bustles.keep {K : Server → Prop} (step : ∀ {w v : Server}, w.Assigned → Bustle w v → K w → K v)
    (hb : Bustles w v) (hw : w.Assigned) (hK : K w) : K v := by
  induction hb with
  | refl => exact hK
  | tail hpath hb ih => exact step (Bustles.assigned hpath hw) hb ih

/-! ## Whoever operates a server alone -/

/-- A path that needs no restart comes under its new entry in two bustles: it takes the entry, then its supervisor
is told. -/
theorem bustles_amend (hw : w.Assigned) {p : ActivePath} {entry : Entry} (hp : p ∈ w.registry.paths)
    (hn : needsRestart p entry false = false) : Bustles w (w.amend p entry) := by
  have hs : Bustles w ((w.record (.reloaded p.name)).setRegistry
      ((w.record (.reloaded p.name)).registry.set { p with entry := entry })) :=
    .head (.record (.reloaded p.name)) (.single (.amend (w := w.record (.reloaded p.name)) hp entry hn))
  unfold Server.amend
  simp only
  split
  · rename_i i hi
    exact hs.tail (.inform i entry (entry_of_set hw hp (origin_of_host? hi) entry))
  · exact hs

/-- Deeds are among the things that several people do. -/
theorem Deed.bustles (hd : Deed may x y) (hx : x.InOrder) : Bustles x.server y.server := by
  cases hd with
  | record r => exact .single (.record r)
  | replace => exact .single (.replace _)
  | request => exact .single .request
  | release hl => exact .single (.release hl)
  | amend _ hp hn => exact bustles_amend hx.assigned hp hn
  | remove => exact .single (.remove _)
  | clear => exact .single .clear
  | cancel hp ho reason => exact .single (.cancel (hx.unclaimed hp ho) reason)
  | rest hp ho hd => exact .single (.rest (hx.unclaimed hp ho) hd)
  | lose | bury => exact .single (.send _)
  | build _ hn _ query => exact .single (.build hn _ query)
  | renew _ hn | refuse hn => exact .single (.build hn _ _)

/-- What is kept at every moment is kept by deeds and stirs. -/
theorem kept_of_bustle {K : Server → Prop}
    (step : ∀ {w v : Server}, w.Assigned → Bustle w v → K w → K v) (may : Touch → Prop) :
    Kept may fun x => K x.server :=
  ⟨fun hx hd => (hd.bustles hx).keep step hx.assigned, fun hx hs => step hx.assigned (.stir hs)⟩

/-- Whatever is asked of a server, one thing after the other, it is among the things that several people do. -/
theorem bustles_nexts (store : Store) (factory : Workshop) (pause : Nat)
    (hk : ReflTransGen Plan.Next (.fresh store factory pause) k) :
    Bustles (fresh store factory pause) k.server := by
  obtain ⟨x, hx, hstand⟩ := (standing_fresh store factory pause).nexts hk
  rw [← hstand.server]
  exact (kept_of_bustle (K := Bustles (fresh store factory pause)) (fun _ hb h => h.tail hb) anything).turns
    (inOrder_fresh store factory pause) .refl hx

end Server

end MediaPaths
