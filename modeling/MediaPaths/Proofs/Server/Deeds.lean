import MediaPaths.Proofs.Server.Plan
import MediaPaths.Proofs.Server.Stir
import MediaPaths.Proofs.Server.Tenure

/-!
# What operations do

Between two waits, whoever operates the server does one thing after the other: `Deed` lists these things, each
with what must be there for it. `Obeys` says of a plan that from wait to wait nothing else is done, and that
one waits only for what one has asked for. Activations, deactivations and shutdowns obey.
-/

namespace MediaPaths

namespace Server

open Relation

/-- A change of the active paths, or of what they follow. -/
inductive Touch where
  /-- Another configuration is in force. -/
  | replace (s : Store)
  /-- A path comes under another entry. -/
  | amend (p : ActivePath) (entry : Entry)
  /-- A path is no longer active. -/
  | remove (p : ActivePath)
  /-- A path is made active for a match. -/
  | build (name : String) (m : Match)

variable {w v : Server} {x y z : Scene} {i : Nat} {p q : ActivePath} {name reason : String}
  {gone : List ActivePath} {may : Touch → Prop} {J : Scene → Prop}

/-! ## Deeds -/

/-- What whoever operates a server does at one moment. Only some changes of the active paths may be made. -/
inductive Deed (may : Touch → Prop) : Scene → Scene → Prop where
  /-- Something is logged. -/
  | record {w : Server} {g : List ActivePath} (r : LogRecord) : Deed may ⟨w, g⟩ ⟨w.record r, g⟩
  /-- Another configuration is in force. -/
  | replace {w : Server} {g : List ActivePath} {s : Store} (hk : may (.replace s)) :
      Deed may ⟨w, g⟩ ⟨w.setRegistry { w.registry with store := s }, g⟩
  /-- One asks for the lock. -/
  | request {w : Server} {g : List ActivePath} (hl : .operator ∉ w.registry.lock.parties) :
      Deed may ⟨w, g⟩
        ⟨w.setRegistry { w.registry with lock := w.registry.lock.request .operator }, g⟩
  /-- One gives the lock back. -/
  | release {w : Server} {g : List ActivePath} (hl : w.registry.lock.isHeldBy .operator = true) :
      Deed may ⟨w, g⟩ ⟨w.release, g⟩
  /-- A path comes under another entry for which its source need not be made anew. -/
  | amend {w : Server} {g : List ActivePath} {p : ActivePath} {entry : Entry} (hk : may (.amend p entry))
      (hp : p ∈ w.registry.paths) (hn : needsRestart p entry false = false) :
      Deed may ⟨w, g⟩ ⟨w.amend p entry, g⟩
  /-- A path is no longer active. -/
  | remove {w : Server} {g : List ActivePath} {p : ActivePath} (hk : may (.remove p))
      (hp : w.registry.get? p.name = some p) :
      Deed may ⟨w, g⟩ ⟨w.setRegistry (w.registry.remove p.name), p :: g⟩
  /-- No path is active any longer. -/
  | clear {w : Server} (hk : ∀ p, may (.remove p)) :
      Deed may ⟨w, []⟩ ⟨w.setRegistry { w.registry with paths := [] }, w.registry.paths⟩
  /-- The supervisor of a path that is not done with is asked to stop. -/
  | cancel {w : Server} {g : List ActivePath} {p : ActivePath} {i : Nat} (hp : p ∈ g)
      (ho : p.origin = .source i) (reason : String) :
      Deed may ⟨w, g⟩ ⟨w.modify i (·.cancel reason), g⟩
  /-- The supervisor of a path that is not done with is laid to rest. -/
  | rest {w : Server} {g : List ActivePath} {p : ActivePath} {i : Nat} (hp : p ∈ g)
      (ho : p.origin = .source i) (hd : isDone i w = true) :
      Deed may ⟨w, g⟩ ⟨w.modify i (·.rest), g⟩
  /-- It is told that a path which was ready is not any longer. -/
  | lose {w : Server} {g : List ActivePath} {p : ActivePath} (hr : p.isReady = true) :
      Deed may ⟨w, p :: g⟩
        ⟨w.setRegistry (w.registry.send (.notReady p.name)), { p with medias := none } :: g⟩
  /-- It is told that a path is no longer active, and that is all that was left to be done. -/
  | bury {w : Server} {g : List ActivePath} {p : ActivePath} (hr : w.AtRest p) (reason : String) :
      Deed may ⟨w, p :: g⟩ ⟨w.setRegistry (w.registry.send (.removed p.name reason)), g⟩
  /-- A path that is done with is made active, or cannot be. -/
  | build {w : Server} {g : List ActivePath} {name : String} {m : Match} (hk : may (.build name m))
      (hn : w.registry.get? name = none) (hg : ∀ p ∈ g, p.name ≠ name) (query : String) :
      Deed may ⟨w, g⟩ ⟨(w.build name m query).1, g⟩
  /-- A path is made active anew. -/
  | renew {w : Server} {g : List ActivePath} {p q : ActivePath} {m : Match} (hk : may (.build p.name m))
      (hn : w.registry.get? p.name = none) (hm : p.medias = none) (hr : w.AtRest p)
      (hb : (w.build p.name m p.query).2 = .ok q) :
      Deed may ⟨w, p :: g⟩ ⟨(w.build p.name m p.query).1, g⟩
  /-- A path cannot be made active anew. -/
  | refuse {w : Server} {g : List ActivePath} {p : ActivePath} {m : Match} {e : SourceError}
      (hn : w.registry.get? p.name = none) (hr : w.AtRest p)
      (hb : (w.build p.name m p.query).2 = .error e) :
      Deed may ⟨w, p :: g⟩ ⟨(w.build p.name m p.query).1, p :: g⟩

/-- A manner in which no one turns away from a worker that has not ended. -/
def thorough : Manner := { thorough := true }

/-- Deeds are among the things that can happen next. -/
theorem Deed.leads (hd : Deed may x y) (hx : x.InOrder) : Scene.Leads thorough x y := by
  have hself : Scene.Leads thorough x x := hx.leads _
  cases hd with
  | record r => exact hself.next (.record r)
  | @replace _ _ s => exact hself.next (.replace s)
  | request => exact hself.next .request
  | release => exact hself.next .release
  | amend _ hp hn => exact hself.amend hp hn
  | remove _ hp => exact hself.next (.remove rfl hp)
  | clear => exact hself.next (.clear rfl)
  | cancel hp ho reason => exact hself.next (.cancel hp ho reason)
  | rest hp ho hd => exact hself.next (.rest hp ho fun _ => hd)
  | lose hr => exact hself.next (.lose hr)
  | bury hr reason => exact hself.next (.bury hr reason)
  | @build _ _ _ m _ hn hg query => exact hself.next (.build rfl hn hg m query)
  | renew _ hn hm hr hb => exact hself.next (.renew hn hm hr hb)
  | refuse hn hr hb => exact hself.next (.refuse hn hr hb)

theorem Scene.InOrder.deed (hx : x.InOrder) (hd : Deed may x y) : y.InOrder := (hd.leads hx).inOrder

theorem Deed.mono {may' : Touch → Prop} (h : ∀ t, may t → may' t) (hd : Deed may x y) : Deed may' x y := by
  cases hd with
  | record r => exact .record r
  | replace hk => exact .replace (h _ hk)
  | request hl => exact .request hl
  | release hl => exact .release hl
  | amend hk hp hn => exact .amend (h _ hk) hp hn
  | remove hk hp => exact .remove (h _ hk) hp
  | clear hk => exact .clear fun p => h _ (hk p)
  | cancel hp ho reason => exact .cancel hp ho reason
  | rest hp ho hd => exact .rest hp ho hd
  | lose hr => exact .lose hr
  | bury hr reason => exact .bury hr reason
  | build hk hn hg query => exact .build (h _ hk) hn hg query
  | renew hk hn hm hr hb => exact .renew (h _ hk) hn hm hr hb
  | refuse hn hr hb => exact .refuse hn hr hb

/-! ## Plans that obey -/

/-- One has asked for what one waits for. -/
def Wait.Suits (x : Scene) : Wait → Prop
  | lock => .operator ∈ x.server.registry.lock.parties
  | worker i => (∃ p ∈ x.gone, p.origin = .source i) ∧
      ∀ s, x.server.supervisor? i = some s → s.cancelled = true ∨ s.isIdle = true

/-- At a scene, one stands where a plan begins: from wait to wait only deeds are done, and at the end
something holds. -/
def Poised (may : Touch → Prop) {α : Type} (Q : Scene → α → Prop) : Plan α → Scene → Prop
  | .done w a => fun x => x.server = w ∧ Q x a
  | .wait w u next => fun x => x.server = w ∧ u.Suits x ∧ ∀ v, Stirs w v → u.isOver v = true →
      ∃ y, ReflTransGen (Deed may) ⟨v, x.gone⟩ y ∧ Poised may Q (next v) y

/-- From a scene, deeds lead to where a plan begins. -/
def Obeys (may : Touch → Prop) {α : Type} (Q : Scene → α → Prop) (x : Scene) (p : Plan α) : Prop :=
  ∃ y, ReflTransGen (Deed may) x y ∧ Poised may Q p y

section

variable {α β σ : Type} {Q : Scene → α → Prop} {R : Scene → β → Prop} {a : α} {k : Plan α}
  {f : Server → α → Plan β}

theorem Poised.server (hp : Poised may Q k x) : x.server = k.server := by
  cases k with
  | done w a => exact hp.1
  | wait w u next => exact hp.1

namespace Obeys

theorem done (hq : Q ⟨w, gone⟩ a) : Obeys may Q ⟨w, gone⟩ (.done w a) :=
  ⟨⟨w, gone⟩, .refl, rfl, hq⟩

theorem deed (hd : Deed may x y) (hk : Obeys may Q y k) : Obeys may Q x k := by
  obtain ⟨z, hz, hp⟩ := hk
  exact ⟨z, .head hd hz, hp⟩

theorem deeds (hd : ReflTransGen (Deed may) x y) (hk : Obeys may Q y k) : Obeys may Q x k := by
  obtain ⟨z, hz, hp⟩ := hk
  exact ⟨z, hd.trans hz, hp⟩

/-- One goes on as long as the rest of what is done obeys, too. -/
theorem bind (hk : Obeys may Q x k)
    (hf : ∀ w gone a, Q ⟨w, gone⟩ a → Obeys may R ⟨w, gone⟩ (f w a)) :
    Obeys may R x (k.bind f) := by
  obtain ⟨y, hy, hp⟩ := hk
  refine deeds hy ?_
  clear hy
  induction k generalizing y with
  | done w a =>
    obtain ⟨rfl, hq⟩ := hp
    exact hf _ _ _ hq
  | wait w u next ih =>
    obtain ⟨hw, hs, hnext⟩ := hp
    refine ⟨y, .refl, hw, hs, fun v hv ho => ?_⟩
    obtain ⟨z, hz, hp⟩ := hnext v hv ho
    exact deeds hz (ih v z hp)

theorem mono {Q' : Scene → α → Prop} (hk : Obeys may Q x k) (h : ∀ x a, Q x a → Q' x a) :
    Obeys may Q' x k := by
  obtain ⟨y, hy, hp⟩ := hk
  refine ⟨y, hy, ?_⟩
  clear hy
  induction k generalizing y with
  | done w a => exact ⟨hp.1, h _ _ hp.2⟩
  | wait w u next ih =>
    refine ⟨hp.1, hp.2.1, fun v hv ho => ?_⟩
    obtain ⟨z, hz, hp⟩ := hp.2.2 v hv ho
    exact ⟨z, hz, ih v z hp⟩

/-- What may be done may be done where more may be. -/
theorem widen {may' : Touch → Prop} (h : ∀ t, may t → may' t) (hk : Obeys may Q x k) : Obeys may' Q x k := by
  obtain ⟨y, hy, hp⟩ := hk
  refine ⟨y, ReflTransGen.mono (fun _ _ => .mono h) _ _ hy, ?_⟩
  clear hy
  induction k generalizing y with
  | done w a => exact hp
  | wait w u next ih =>
    refine ⟨hp.1, hp.2.1, fun v hv ho => ?_⟩
    obtain ⟨z, hz, hp⟩ := hp.2.2 v hv ho
    exact ⟨z, ReflTransGen.mono (fun _ _ => .mono h) _ _ hz, ih v z hp⟩

/-- What is known may depend on what is left to be done. -/
theorem each {f : Server → σ → β → Plan σ} {P : List β → Scene → Prop} {s : σ} {bs : List β}
    (hf : ∀ w gone s b bs, P (b :: bs) ⟨w, gone⟩ → Obeys may (fun x _ => P bs x) ⟨w, gone⟩ (f w s b))
    (hP : P bs ⟨w, gone⟩) : Obeys may (fun x _ => P [] x) ⟨w, gone⟩ (.each f w s bs) := by
  induction bs generalizing w gone s with
  | nil => exact done hP
  | cons b bs ih => exact bind (hf w gone s b bs hP) fun w gone s hw => ih hw

end Obeys

end

/-! ## Readiness for the next deed -/

/-- Something that deeds and stirs keep. -/
structure Kept (may : Touch → Prop) (J : Scene → Prop) : Prop where
  deed : ∀ {x y : Scene}, x.InOrder → Deed may x y → J x → J y
  stir : ∀ {w v : Server} {gone : List ActivePath}, Scene.InOrder ⟨w, gone⟩ → Stir w v →
    J ⟨w, gone⟩ → J ⟨v, gone⟩

theorem Kept.and {K : Scene → Prop} (hJ : Kept may J) (hK : Kept may K) : Kept may fun x => J x ∧ K x :=
  ⟨fun hx hd h => ⟨hJ.deed hx hd h.1, hK.deed hx hd h.2⟩,
    fun hx hs h => ⟨hJ.stir hx hs h.1, hK.stir hx hs h.2⟩⟩

theorem Kept.forall {β : Sort*} {K : β → Scene → Prop} (hK : ∀ b, Kept may (K b)) :
    Kept may fun x => ∀ b, K b x :=
  ⟨fun hx hd h b => (hK b).deed hx hd (h b), fun hx hs h b => (hK b).stir hx hs (h b)⟩

/-- Whether whoever operates a server holds the lock is known, and nobody has to do with the lock twice. -/
structure Ready (J : Scene → Prop) (held : Bool) (x : Scene) : Prop where
  inOrder : x.InOrder
  kept : J x
  nodup : x.server.registry.lock.parties.Nodup
  holds : held = true → x.server.registry.lock.isHeldBy .operator = true
  away : held = false → .operator ∉ x.server.registry.lock.parties

namespace Ready

variable {held : Bool}

theorem mono {K : Scene → Prop} (hx : Ready J held x) (hK : K x) : Ready K held x :=
  ⟨hx.inOrder, hK, hx.nodup, hx.holds, hx.away⟩

/-- Most deeds leave the lock alone. -/
theorem deed (hJ : Kept may J) (hx : Ready J held x) (hd : Deed may x y)
    (hl : y.server.registry.lock = x.server.registry.lock) : Ready J held y :=
  ⟨hx.inOrder.deed hd, hJ.deed hx.inOrder hd hx.kept, hl ▸ hx.nodup, hl ▸ hx.holds, hl ▸ hx.away⟩

theorem stir (hJ : Kept may J) (hx : Ready J held ⟨w, gone⟩) (hs : Stir w v) :
    Ready J held ⟨v, gone⟩ := by
  obtain ⟨i, hsteps⟩ := hs.lock hx.inOrder.assigned.tidy.owned
  have hne : Party.operator ≠ .owner i := nofun
  refine ⟨hx.inOrder.stir hs, hJ.stir hx.inOrder hs hx.kept, hsteps.nodup hx.nodup, fun h => ?_,
    fun h => ?_⟩
  · exact hsteps.isHeldBy hne (hx.holds h)
  · exact mt (hsteps.mem_iff hne).1 (hx.away h)

theorem stirs (hJ : Kept may J) (hx : Ready J held ⟨w, gone⟩) (hs : Stirs w v) :
    Ready J held ⟨v, gone⟩ := by
  induction hs with
  | refl => exact hx
  | tail _ hs ih => exact ih.stir hJ hs

theorem release (hJ : Kept may J) (hx : Ready J true ⟨w, gone⟩) : Ready J false ⟨w.release, gone⟩ := by
  have hd : Deed may ⟨w, gone⟩ ⟨w.release, gone⟩ := .release (hx.holds rfl)
  have hlock : w.release.registry.lock = w.registry.lock.release := by rw [registry_release]
  refine ⟨hx.inOrder.deed hd, hJ.deed hx.inOrder hd hx.kept, ?_, nofun, fun _ => ?_⟩
  · rw [hlock]
    exact (Lock.Steps.release (hx.holds rfl)).nodup hx.nodup
  · rw [hlock]
    exact Lock.not_mem_parties_release (List.nodup_iff_count_le_one.1 hx.nodup _) (hx.holds rfl)

end Ready

/-! ## What operations are made of -/

section

variable {held : Bool} {c : Configuration} {b : Bool}

/-- One comes to hold the lock. -/
theorem obeys_acquire (hJ : Kept may J) (hx : Ready J false ⟨w, gone⟩) :
    Obeys may (fun x _ => Ready J true x ∧ x.gone = gone) ⟨w, gone⟩ (Plan.acquire w) := by
  have hd : Deed may ⟨w, gone⟩
      ⟨w.setRegistry { w.registry with lock := w.registry.lock.request .operator }, gone⟩ :=
    .request (hx.away rfl)
  have hperm := Lock.parties_request w.registry.lock .operator
  refine .deed hd ⟨_, .refl, rfl, hperm.mem_iff.2 (List.mem_cons_self ..), fun v hv ho => ?_⟩
  refine ⟨_, .refl, rfl, ?_, rfl⟩
  -- what matters of the lock is the same however the server is stirred
  have hkept : ∀ v, Stirs (w.setRegistry { w.registry with
      lock := w.registry.lock.request .operator }) v →
      Scene.InOrder ⟨v, gone⟩ ∧ J ⟨v, gone⟩ ∧ v.registry.lock.parties.Nodup := by
    intro v hv
    induction hv with
    | refl =>
      refine ⟨hx.inOrder.deed hd, hJ.deed hx.inOrder hd hx.kept, ?_⟩
      exact hperm.nodup_iff.2 (List.nodup_cons.2 ⟨hx.away rfl, hx.nodup⟩)
    | tail _ hs ih =>
      obtain ⟨hord, hj, hnodup⟩ := ih
      obtain ⟨i, hsteps⟩ := hs.lock hord.assigned.tidy.owned
      exact ⟨hord.stir hs, hJ.stir hord hs hj, hsteps.nodup hnodup⟩
  obtain ⟨hord, hj, hnodup⟩ := hkept v hv
  exact ⟨hord, hj, hnodup, fun _ => ho, nofun⟩

/-- What is known once the supervisor of a path is stopped. -/
structure Halted (J : Scene → Prop) (held : Bool) (x : Scene) (p : ActivePath) (y : Scene) : Prop where
  ready : Ready J held y
  gone : y.gone = x.gone
  names : (y.server.registry.paths.map (·.name)).Perm (x.server.registry.paths.map (·.name))
  atRest : y.server.AtRest p

/-- A supervisor that one has asked to stop is being stopped, or it was never started. -/
theorem stopping_cancel (s : Supervisor) (reason : String) :
    (s.cancel reason).cancelled = true ∨ (s.cancel reason).isIdle = true := by
  cases hidle : s.isIdle with
  | true =>
    refine .inr ?_
    rw [Supervisor.cancel, if_pos hidle]
    exact hidle
  | false =>
    refine .inl ?_
    simp [Supervisor.cancel, hidle, Supervisor.wakeAll_eq, Supervisor.mapExecutions]

theorem obeys_stop (hJ : Kept may J) (hx : Ready J held ⟨w, gone⟩) (hp : p ∈ gone)
    (ho : p.origin = .source i) :
    Obeys may (fun y _ => Halted J held ⟨w, gone⟩ p y) ⟨w, gone⟩ (Plan.stop w i reason) := by
  have hcancel : Deed may ⟨w, gone⟩ ⟨w.modify i (·.cancel reason), gone⟩ := .cancel hp ho reason
  have hready : Ready J held ⟨w.modify i (·.cancel reason), gone⟩ :=
    hx.deed hJ hcancel (by rw [registry_modify])
  have howned := hx.inOrder.assigned.tidy.owned
  refine .deed hcancel ⟨_, .refl, rfl, ⟨⟨p, hp, ho⟩, fun s hs => ?_⟩, fun v hv hover => ?_⟩
  · rcases hosts_modify howned i (·.cancel reason) with ⟨h, hi, hh⟩ | ⟨hi, hh⟩
    · rw [supervisor?_of_set (s := { h.supervisor.cancel reason with effects := [] }) hi hh] at hs
      cases hs
      exact stopping_cancel h.supervisor reason
    · rw [supervisor?, hh, hi] at hs
      cases hs
  · have hv' := hready.stirs hJ hv
    have hnames := hv.names hready.inOrder
    rw [registry_modify] at hnames
    obtain ⟨u, hu, hdone, hsame⟩ : ∃ u, ReflTransGen (Deed may) ⟨v, gone⟩ ⟨u, gone⟩ ∧
        isDone i u = true ∧ u = v.recordCrash i ∧ u.registry = v.registry ∧ Ready J held ⟨u, gone⟩ := by
      rcases recordCrash_cases v i with h | ⟨r, h⟩
      · exact ⟨v, .refl, hover, h.symm, rfl, hv'⟩
      · exact ⟨v.record r, .single (.record r), hover, h.symm, rfl,
          hv'.deed hJ (.record r) rfl⟩
    obtain ⟨rfl, hreg, hu'⟩ := hsame
    have hrest : Deed may ⟨v.recordCrash i, gone⟩ ⟨(v.recordCrash i).modify i (·.rest), gone⟩ :=
      .rest hp ho hdone
    refine ⟨_, hu.tail hrest, rfl, hu'.deed hJ hrest (by rw [registry_modify]), rfl, ?_, ?_⟩
    · show (((v.recordCrash i).modify i (·.rest)).registry.paths.map (·.name)).Perm _
      rw [registry_modify, hreg]
      exact hnames
    · intro j s hj hs
      obtain rfl : i = j := Origin.source.inj (ho.symm.trans hj)
      exact Scene.Leads.isIdle_modify_rest hu'.inOrder.assigned.tidy.owned hs

theorem obeys_stopSource (hJ : Kept may J) (hx : Ready J held ⟨w, gone⟩) (hp : p ∈ gone) :
    Obeys may (fun y _ => Halted J held ⟨w, gone⟩ p y) ⟨w, gone⟩ (Plan.stopSource w p reason) := by
  unfold Plan.stopSource
  split
  · rename_i i hi
    exact obeys_stop hJ hx hp (origin_of_host? hi)
  · rename_i hnone
    refine .done ⟨hx, rfl, .refl _, fun i s ho => ?_⟩
    rw [ho] at hnone
    cases hnone

theorem obeys_close (hJ : Kept may J) (hx : Ready J held ⟨w, p :: gone⟩) :
    Obeys may (fun y _ => Ready J held y ∧ y.gone = gone) ⟨w, p :: gone⟩ (Plan.close w p reason) := by
  refine (obeys_stopSource hJ hx (List.mem_cons_self ..)).bind ?_
  rintro v g - ⟨hv, rfl, -, hrest⟩
  have hrecord : Deed may ⟨v, p :: gone⟩ ⟨v.record (.deactivated p.name reason), p :: gone⟩ := .record _
  have hbury : Deed may ⟨v.record (.deactivated p.name reason), p :: gone⟩ ⟨_, gone⟩ :=
    .bury (w := v.record _) hrest reason
  refine .deed hrecord (.deed hbury (.done ⟨?_, rfl⟩))
  exact (hv.deed hJ hrecord rfl).deed hJ hbury rfl

/-! ### Activating -/

theorem lock_build (hw : w.Owned) (name : String) (m : Match) (query : String) :
    (w.build name m query).1.registry.lock = w.registry.lock := by
  rcases registry_build hw name m query with ⟨o, -, hr⟩ | ⟨e, -, hr, -⟩ <;> rw [hr] <;> rfl

theorem obeys_activate (hJ : Kept may J) (hx : Ready J false ⟨w, []⟩) {name : String}
    (hmay : ∀ m, w.registry.store.find name = .ok m → may (.build name m)) (query : String) :
    Obeys may (fun x _ => Ready J false x ∧ x.gone = []) ⟨w, []⟩ (Plan.activate w name query) := by
  unfold Plan.activate
  split
  · exact .done ⟨hx, rfl⟩
  · rename_i m hm
    refine (obeys_acquire hJ hx).bind ?_
    rintro v g - ⟨hv, rfl⟩
    split
    · exact .deed (.release (hv.holds rfl)) (.done ⟨hv.release hJ, rfl⟩)
    · rename_i hn
      have hbuild : Deed may ⟨v, []⟩ ⟨(v.build name m query).1, []⟩ :=
        .build (hmay m hm) hn (List.forall_mem_nil _) query
      have hb := hv.deed hJ hbuild (lock_build hv.inOrder.assigned.tidy.owned name m query)
      exact .deed hbuild (.deed (.release (hb.holds rfl)) (.done ⟨hb.release hJ, rfl⟩))

theorem obeys_activateAll (hJ : Kept may J) (hx : Ready J false ⟨w, []⟩)
    (hmay : ∀ v, J ⟨v, []⟩ → ∀ n m, v.registry.store.find n = .ok m → may (.build n m)) (es : List Entry) :
    Obeys may (fun x _ => Ready J false x ∧ x.gone = []) ⟨w, []⟩ (Plan.activateAll w es) := by
  induction es generalizing w with
  | nil => exact .done ⟨hx, rfl⟩
  | cons e es ih =>
    refine (obeys_activate hJ hx (hmay w hx.kept e.name) "").bind ?_
    rintro v g result ⟨hv, rfl⟩
    cases result with
    | ok p => exact ih hv
    | error err => exact .done ⟨hv, rfl⟩

theorem obeys_activateAlwaysOn (hJ : Kept may J) (hx : Ready J false ⟨w, []⟩)
    (hmay : ∀ v, J ⟨v, []⟩ → ∀ n m, v.registry.store.find n = .ok m → may (.build n m)) :
    Obeys may (fun x _ => Ready J false x ∧ x.gone = []) ⟨w, []⟩ (Plan.activateAlwaysOn w) := by
  refine (obeys_activateAll hJ hx hmay _).bind ?_
  rintro v g result ⟨hv, rfl⟩
  cases result with
  | ok _ => exact .deed (.record _) (.done ⟨hv.deed hJ (.record _) rfl, rfl⟩)
  | error e => exact .done ⟨hv, rfl⟩

/-! ### Deactivating -/

theorem obeys_deactivate (hJ : Kept may J) (hx : Ready J false ⟨w, []⟩) (hmay : ∀ p, may (.remove p))
    (name reason : String) :
    Obeys may (fun x _ => Ready J false x ∧ x.gone = []) ⟨w, []⟩ (Plan.deactivate w name reason) := by
  refine (obeys_acquire hJ hx).bind ?_
  rintro v g - ⟨hv, rfl⟩
  simp only
  split
  · rename_i p hp
    obtain rfl := name_of_get? hp
    have hremove : Deed may ⟨v, []⟩ ⟨v.setRegistry (v.registry.remove p.name), [p]⟩ :=
      .remove (hmay _) hp
    have hr := hv.deed hJ hremove rfl
    refine .deed hremove (.deed (.release (hr.holds rfl)) ?_)
    exact (obeys_close hJ (hr.release hJ)).bind fun u g _ hu => .done hu
  · rename_i hn
    rw [Scene.Leads.remove_of_inactive hn]
    exact .deed (.release (hv.holds rfl)) (.done ⟨hv.release hJ, rfl⟩)

theorem obeys_shutdown (hJ : Kept may J) (hx : Ready J false ⟨w, []⟩) (hmay : ∀ p, may (.remove p)) :
    Obeys may (fun x _ => Ready J false x ∧ x.gone = []) ⟨w, []⟩ (Plan.shutdown w) := by
  have hclose : ∀ (ps : List ActivePath) (v : Server), Ready J false ⟨v, ps⟩ →
      Obeys may (fun x _ => Ready J false x ∧ x.gone = []) ⟨v, ps⟩
        (.each (fun w _ p => Plan.close w p "shutting down") v () ps) := by
    intro ps
    induction ps with
    | nil => exact fun v hv => .done ⟨hv, rfl⟩
    | cons p ps ih =>
      intro v hv
      refine (obeys_close hJ hv).bind ?_
      rintro u g - ⟨hu, rfl⟩
      exact ih u hu
  refine (obeys_acquire hJ hx).bind ?_
  rintro v g - ⟨hv, rfl⟩
  have hclear : Deed may ⟨v, []⟩ ⟨v.setRegistry { v.registry with paths := [] }, v.registry.paths⟩ :=
    .clear hmay
  have hr := hv.deed hJ hclear rfl
  refine .deed hclear (.deed (.release (hr.holds rfl)) ?_)
  refine (hclose _ _ (hr.release hJ)).bind ?_
  rintro u g - ⟨hu, rfl⟩
  exact .deed (.record _) (.done ⟨hu.deed hJ (.record _) rfl, rfl⟩)

end

end Server

end MediaPaths
