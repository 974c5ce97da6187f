import MediaPaths.Proofs.Server.Precedence

/-!
# Owners of activations that are over

The number of an activation is given once. The owner of a supervisor is known by it, so what the supervisor of
an earlier activation announces finds no path to change, even if a path of the same name is active again. It is
answered nevertheless: media are refused, and a loss is accepted.
-/

namespace MediaPaths

namespace Server

open Relation

variable {w v u : Server} {x y : Scene} {i j : Nat} {h : Host} {name : String} {id : Nat} {r : Request}
  {may : Touch → Prop} {p q : ActivePath} {l : List (Nat × Supervisor.Move)}

/-- What every moment keeps is kept. -/
theorem Passage.keep {K : Server → Prop} (step : ∀ {w v : Server}, w.Assigned → Moment w v → K w → K v)
    (hp : Passage w m v) (hw : w.Assigned) (hK : K w) : v.Assigned ∧ K v := by
  induction hp with
  | nil => exact ⟨hw, hK⟩
  | cons hm _ ih => exact ih (hm.assigned hw) (step hw hm hK)

/-! ## Numbers of activations -/

/-- Two active paths are of one activation. -/
structure Kin (p q : ActivePath) : Prop where
  id : p.id = q.id
  name : p.name = q.name
  query : p.query = q.query
  groups : p.groups = q.groups
  origin : p.origin = q.origin

/-- Whatever path is active later was so before, or has a later number. -/
structure Descends (w v : Server) : Prop where
  numbers : w.registry.nextId ≤ v.registry.nextId
  paths : ∀ q ∈ v.registry.paths,
    w.registry.nextId ≤ q.id ∨ ∃ p ∈ w.registry.paths, Kin p q

theorem Descends.refl (w : Server) : Descends w w :=
  ⟨Nat.le_refl _, fun q hq => .inr ⟨q, hq, rfl, rfl, rfl, rfl, rfl⟩⟩

/-- What descends from a server goes on descending from it. -/
theorem Descends.trans (h : Descends w v) (h' : Descends v u) : Descends w u := by
  refine ⟨Nat.le_trans h.numbers h'.numbers, fun q hq => ?_⟩
  rcases h'.paths q hq with hlater | ⟨p, hp, hpq⟩
  · exact .inl (Nat.le_trans h.numbers hlater)
  · rcases h.paths p hp with hlater | ⟨o, ho, hop⟩
    · exact .inl (hpq.id ▸ hlater)
    · exact .inr ⟨o, ho, hop.id.trans hpq.id, hop.name.trans hpq.name, hop.query.trans hpq.query,
        hop.groups.trans hpq.groups, hop.origin.trans hpq.origin⟩

/-- Paths with the same picture are kin, whatever their media. -/
theorem kin_of_still (h : p.still = q.still) : Kin p q := by
  simp only [ActivePath.still, ActivePath.mk.injEq] at h
  obtain ⟨hname, hid, -, hgroups, hquery, -, horigin⟩ := h
  exact ⟨hid, hname, hquery, hgroups, horigin⟩

/-- An operation that advances leaves every activation where it is, brings it to an end, or begins one with a new
number. -/
theorem Descends.advance (hw : w.Assigned) (ha : Advance w v l) : Descends w v := by
  have same : ∀ {u : Server}, u.registry = w.registry → Descends w u := fun hr =>
    ⟨hr ▸ Nat.le_refl _, fun q hq => .inr ⟨q, hr ▸ hq, rfl, rfl, rfl, rfl, rfl⟩⟩
  cases ha with
  | turn ht =>
    have ho : v.registry.outline = w.registry.outline :=
      congrArg Prod.fst (outline_of_turn hw.tidy ht)
    have hn : v.registry.outline.nextId = w.registry.outline.nextId := congrArg _ ho
    refine ⟨Nat.le_of_eq hn.symm, fun q hq => .inr ?_⟩
    have hmem : q.still ∈ v.registry.outline.paths := List.mem_map_of_mem hq
    rw [ho] at hmem
    obtain ⟨p, hp, hpq⟩ := List.mem_map.1 hmem
    exact ⟨p, hp, kin_of_still hpq⟩
  | recede _ hr =>
    refine ⟨hr.nextId, fun q hq => .inr ?_⟩
    obtain ⟨p, hp, heq⟩ := hr.paths q hq
    rw [heq]
    exact ⟨p, hp, rfl, rfl, rfl, rfl, rfl⟩
  | inform _ _ _ _ _ hr | dismiss _ _ _ _ hr | forsake _ _ _ hr => exact same hr
  | @build name query m result ms hn hb =>
    have insert : ∀ o, v.registry = w.numbered.insert (w.activation name m query o) →
        Descends w v := by
      intro o hr
      refine ⟨by rw [hr]; exact Nat.le_succ _, fun q hq => ?_⟩
      rw [paths_insert hr, List.mem_append, List.mem_singleton] at hq
      rcases hq with hq | rfl
      · exact .inr ⟨q, hq, rfl, rfl, rfl, rfl, rfl⟩
      · exact .inl (Nat.le_refl _)
    cases hb with
    | failed _ hr =>
      refine ⟨by rw [hr]; exact Nat.le_succ _, fun q hq => .inr ⟨q, ?_, rfl, rfl, rfl, rfl, rfl⟩⟩
      rw [hr] at hq
      exact hq
    | pulled _ _ hr | redirected _ _ _ hr | published _ _ _ hr => exact insert _ hr

/-- So does any moment, whoever operates the server. -/
theorem Descends.moment (hw : w.Assigned) (hm : Moment w v) : Descends w v := by
  cases hm with
  | stride hs =>
    obtain ⟨l, ha⟩ := advance_of_stride hw.tidy.owned hs
    exact .advance hw ha
  | relist hp =>
    exact ⟨Nat.le_refl _, fun q hq => .inr ⟨q, hp.mem_iff.1 hq, rfl, rfl, rfl, rfl, rfl⟩⟩

/-- The active paths by the numbers of their activations and by their names. -/
def tags (w : Server) : List (Nat × String) := w.registry.paths.map fun p => (p.id, p.name)

/-- Every active path has its tag. -/
theorem mem_tags (hp : p ∈ w.registry.paths) : (p.id, p.name) ∈ w.tags := List.mem_map_of_mem hp

/-- No number is of two active paths. -/
def Sole (w : Server) : Prop := ∀ a ∈ w.tags, ∀ b ∈ w.tags, a.1 = b.1 → a = b

/-- Fewer activations are as distinct as they were. -/
theorem Sole.subset (hs : w.Sole) (h : v.tags ⊆ w.tags) : v.Sole :=
  fun a ha b hb => hs a (h ha) b (h hb)

/-- An activation that begins takes a number that none has had. -/
theorem Sole.advance (hw : w.Assigned) (ha : Advance w v l) (hs : w.Sole) : v.Sole := by
  have same : v.registry = w.registry → v.Sole := fun hr => hs.subset (by rw [tags, hr, tags]; exact fun _ => id)
  cases ha with
  | turn ht =>
    have ho : v.registry.outline = w.registry.outline :=
      congrArg Prod.fst (outline_of_turn hw.tidy ht)
    have htags : ∀ u : Server, u.tags = u.registry.outline.paths.map fun p => (p.id, p.name) := by
      intro u
      simp only [tags, Registry.outline, List.map_map]
      rfl
    refine hs.subset ?_
    rw [htags v, htags w, ho]
    exact fun _ => id
  | recede _ hr =>
    refine hs.subset fun a ha => ?_
    obtain ⟨q, hq, rfl⟩ := List.mem_map.1 ha
    obtain ⟨p, hp, heq⟩ := hr.paths q hq
    refine List.mem_map.2 ⟨p, hp, ?_⟩
    rw [heq]
  | inform _ _ _ _ _ hr | dismiss _ _ _ _ hr | forsake _ _ _ hr => exact same hr
  | @build name query m result ms hn hb =>
    have insert : ∀ o, v.registry = w.numbered.insert (w.activation name m query o) → v.Sole := by
      intro o hr
      -- all other numbers were given before
      have hold : ∀ a ∈ w.tags, a.1 ≠ w.registry.nextId := by
        intro a ha
        obtain ⟨p, hp, rfl⟩ := List.mem_map.1 ha
        exact Nat.ne_of_lt (hw.ids p hp)
      have htags : v.tags = w.tags ++ [(w.registry.nextId, name)] := by
        rw [tags, paths_insert hr, List.map_append]
        rfl
      intro a ha b hb hab
      rw [htags, List.mem_append, List.mem_singleton] at ha hb
      rcases ha with ha | rfl <;> rcases hb with hb | rfl
      · exact hs a ha b hb hab
      · exact absurd hab (hold a ha)
      · exact absurd hab.symm (hold b hb)
      · rfl
    cases hb with
    | failed _ hr => exact hs.subset (by rw [tags, hr]; exact fun _ => id)
    | pulled _ _ hr | redirected _ _ _ hr | published _ _ _ hr => exact insert _ hr

/-- So whatever a moment brings, no two activations share a number. -/
theorem Sole.moment (hw : w.Assigned) (hm : Moment w v) (hs : w.Sole) : v.Sole := by
  cases hm with
  | stride hstride =>
    obtain ⟨l, ha⟩ := advance_of_stride hw.tidy.owned hstride
    exact hs.advance hw ha
  | relist hp =>
    refine hs.subset fun a ha => ?_
    obtain ⟨q, hq, rfl⟩ := List.mem_map.1 ha
    exact mem_tags (hp.mem_iff.1 hq)

/-! ## What an owner does about a request -/

/-- A request is turned away: media are refused, and a loss is accepted. -/
def TurnsAway (x : Answer) : Announcement → Prop
  | .ready _ => ∃ e, x = .refused e
  | .notReady => x = .accepted

/-- An owner that does not consider an announcement any more turns it away. -/
theorem turnsAway_declined (a : Announcement) : TurnsAway (declined a) a := by
  cases a with
  | ready => exact ⟨_, rfl⟩
  | notReady => rfl

/-- The owner of a supervisor has given an answer of some sort to a request, or it has got in line for the
lock. -/
def Replies (w : Server) (i : Nat) (h : Host) (r : Request) (v : Server) (P : Answer → Prop) : Prop :=
  (∃ x, P x ∧ v.hosts = w.hosts.set i (h.settled r (some x))) ∨
    .owner i ∉ w.registry.lock.parties ∧ v.hosts = w.hosts ∧ .owner i ∈ v.registry.lock.parties

/-- What an owner of the activation of a number has done about a request. -/
structure Handled (w : Server) (i : Nat) (h : Host) (id : Nat) (r : Request) (v : Server) : Prop where
  /-- The request is answered, if the owner was in line for the lock. -/
  replies : Replies w i h r v fun _ => True
  /-- Of the active paths, none but that of the activation is changed. -/
  others : List.Forall₂ (fun p q => q.id = p.id ∧ (p.id ≠ id → q = p)) w.registry.paths v.registry.paths
  /-- Without such a path, nothing is changed and nothing is told, and the request is turned away. -/
  stale : (∀ p ∈ w.registry.paths, p.id ≠ id) →
    v.registry.paths = w.registry.paths ∧ v.registry.sent = w.registry.sent ∧
      Replies w i h r v (TurnsAway · r.announcement)

theorem forall₂_refl (ps : List ActivePath) :
    List.Forall₂ (fun p q => q.id = p.id ∧ (p.id ≠ id → q = p)) ps ps := by
  induction ps with
  | nil => exact .nil
  | cons p ps ih => exact .cons ⟨rfl, fun _ => rfl⟩ ih

/-- Of the active paths, only the one of a name is changed. -/
theorem forall₂_set {r : Registry} (hr : (r.paths.map (·.name)).Nodup) (hp : p ∈ r.paths)
    (hid : p.id = id) {s : ActivePath} (hname : s.name = p.name) (hid' : s.id = p.id) :
    List.Forall₂ (fun p q => q.id = p.id ∧ (p.id ≠ id → q = p)) r.paths (r.set s).paths := by
  rw [Registry.set, List.forall₂_map_right_iff]
  refine List.forall₂_same.2 fun q hq => ?_
  split
  · rename_i hn
    obtain rfl := List.inj_on_of_nodup_map hr hq hp (hn.trans hname)
    exact ⟨hid', fun hne => absurd hid hne⟩
  · exact ⟨rfl, fun _ => rfl⟩

/-- An activation is looked up by its number, and is that of an active path. -/
theorem mem_of_activation? {r : Registry} (hp : r.activation? name id = some p) :
    p ∈ r.paths ∧ p.id = id := by
  obtain ⟨hget, hid⟩ := Option.filter_eq_some_iff.1 hp
  exact ⟨mem_of_get? hget, by simpa using hid⟩

/-- Considering an announcement changes the path of the activation, if that is active. -/
theorem consider_spec (hw : w.Tidy) (name : String) (id : Nat) (a : Announcement) :
    List.Forall₂ (fun p q => q.id = p.id ∧ (p.id ≠ id → q = p)) w.registry.paths
        (w.consider name id a).1.registry.paths ∧
      ((∀ p ∈ w.registry.paths, p.id ≠ id) →
        (w.consider name id a).1 = w ∧ TurnsAway (w.consider name id a).2 a) := by
  cases hact : w.registry.activation? name id with
  | none =>
    have hsame : (w.consider name id a).1 = w ∧ TurnsAway (w.consider name id a).2 a := by
      cases a with
      | ready medias => simp [consider, hact, TurnsAway]
      | notReady => simp [consider, hact, TurnsAway]
    rw [hsame.1]
    exact ⟨forall₂_refl _, fun _ => ⟨rfl, hsame.2⟩⟩
  | some p =>
    obtain ⟨hp, hid⟩ := mem_of_activation? hact
    refine ⟨?_, fun hnone => absurd hid (hnone p hp)⟩
    cases a with
    | ready medias =>
      simp only [consider, hact]
      exact forall₂_set (s := { p with medias := some medias }) hw.distinct hp hid rfl rfl
    | notReady =>
      simp only [consider, hact]
      split
      · exact forall₂_set (s := { p with medias := none }) hw.distinct hp hid rfl rfl
      · exact forall₂_refl _

/-- Whatever an owner does about a request that it is at, it is handled as it should be: only a path of the owner's
own activation is changed, and if there is none nothing is. -/
theorem handled_of_attends (hw : w.Tidy) (hi : w.hosts[i]? = some h)
    (ha : Attends w i h name id r v) : Handled w i h id r v := by
  have hreplies : Replies w i h r v fun _ => True :=
    (ha.hosts hw.owned hi).imp_left fun ⟨x, hx⟩ => ⟨x, trivial, hx⟩
  -- unless the owner considers the request, the active paths stay as they are
  have away : v.registry.paths = w.registry.paths → v.registry.sent = w.registry.sent →
      Replies w i h r v (TurnsAway · r.announcement) → Handled w i h id r v := fun hp hs hr =>
    ⟨hreplies, hp.symm ▸ forall₂_refl _, fun _ => ⟨hp, hs, hr⟩⟩
  have decline : v.hosts = w.hosts.set i (h.settled r (some (declined r.announcement))) →
      Replies w i h r v (TurnsAway · r.announcement) := fun hh => .inl ⟨_, turnsAway_declined _, hh⟩
  cases ha with
  | closed _ hv =>
    subst hv
    exact away (by rw [registry_settleRequest]) (by rw [registry_settleRequest])
      (decline (hosts_settleRequest hw.owned hi rfl r _))
  | answers _ hv =>
    obtain ⟨hothers, hstale⟩ := consider_spec hw name id r.announcement
    have hpaths : v.registry.paths = (w.consider name id r.announcement).1.registry.paths := by
      rw [hv, registry_release, registry_settleRequest]
    have hsent : v.registry.sent = (w.consider name id r.announcement).1.registry.sent := by
      rw [hv, registry_release, registry_settleRequest]
    refine ⟨hreplies, hpaths ▸ hothers, fun hnone => ?_⟩
    obtain ⟨hsame, hturns⟩ := hstale hnone
    rw [hsame] at hpaths hsent
    refine ⟨hpaths, hsent, .inl ⟨_, hturns, ?_⟩⟩
    rw [hv, hosts_release, hosts_settleRequest hw.owned hi (hosts_consider _ _ _ _)]
  | yields _ _ hv =>
    subst hv
    exact away (by rw [registry_release, registry_settleRequest])
      (by rw [registry_release, registry_settleRequest])
      (decline (by rw [hosts_release, hosts_settleRequest hw.owned hi rfl]))
  | declines _ _ _ hv =>
    have hu : (w.setRegistry { w.registry with lock := w.registry.lock.leave (.owner i) }).hosts = w.hosts := rfl
    exact away (by rw [hv, registry_settleRequest]; rfl) (by rw [hv, registry_settleRequest]; rfl)
      (decline (by rw [hv, hosts_settleRequest hw.owned hi hu]))
  | asks hp hv =>
    subst hv
    exact away rfl rfl (.inr ⟨hp, rfl, (Lock.parties_request _ _).mem_iff.2 (List.mem_cons_self ..)⟩)

/-- What owners do about the requests that they are at is as it should be. -/
def Handles (w : Server) : Prop :=
  ∀ i h name id r v, w.hosts[i]? = some h → h.owner = .path name id → h.supervisor.worker = .serving r →
    w.stepTask i .worker = some v → Handled w i h id r v

/-- On a tidy server all owners handle their requests so. -/
theorem Tidy.handles (hw : w.Tidy) : w.Handles := by
  intro i h name id r v hi ho hs hv
  rw [stepTask_serving hi ho hs] at hv
  exact handled_of_attends hw hi (attends_of_servePath hv)

/-! ## Servers that were given up -/

theorem Tidy.stir (hw : w.Tidy) (hs : Stir w v) : v.Tidy := by
  cases hs with
  | @task i t v _ ht =>
    obtain ⟨ms, hturn⟩ := turn_of_stepTask hw.owned ht
    exact hw.congr (outline_of_turn hw
      (hturn.congr (hosts_elim_setAlarms v i) (registry_elim_setAlarms v i)))
  | park => exact hw.congr rfl
  | pass => exact hw.congr (by rw [outline, marks, registry_passTo, hosts_passTo]; rfl)
  | relist hp => exact ⟨hw.owned, (hp.map _).nodup_iff.2 hw.distinct⟩

theorem Tidy.stirs (hw : w.Tidy) (hs : Stirs w v) : v.Tidy := by
  induction hs with
  | refl => exact hw
  | tail _ hs ih => exact ih.stir hs

theorem Tidy.abandon (hw : w.Tidy) : w.abandon.Tidy := by
  unfold Server.abandon
  simp only
  split <;> exact ⟨hw.owned, hw.distinct⟩

/-! ## Owners that go on -/

/-- An owner that is at a request goes on, or has to wait for the lock behind someone else. -/
inductive Pending (w : Server) (i : Nat) : Prop where
  /-- It is in line and can take a step. -/
  | turn (hq : (i, .worker) ∈ w.queue) (ht : (w.stepTask i .worker).isSome = true)
  /-- The holder of the lock is an owner that is in line and can take a step. -/
  | behind {j : Nat} (hi : .owner i ∈ w.registry.lock.waiting)
      (hl : w.registry.lock.holder = some (.owner j)) (hq : (j, .worker) ∈ w.queue)
      (ht : (w.stepTask j .worker).isSome = true)
  /-- Someone who operates the server holds the lock. -/
  | operated (hi : .owner i ∈ w.registry.lock.waiting) (hl : w.registry.lock.holder = some .operator)

/-- An owner that is at a request is in line to be run, or in line for the lock behind somebody who will give it
back. -/
theorem Diligent.pending_of_isAt (hd : w.Diligent) (hw : w.Owned) (hi : w.IsAt i r) : Pending w i := by
  obtain ⟨s, hs, hr⟩ := hi
  obtain ⟨h, hi, rfl⟩ := Option.map_eq_some_iff.1 hs
  obtain ⟨name, id, ho⟩ := hw.of_getElem? hi
  have behind : .owner i ∈ w.registry.lock.waiting → Pending w i := by
    intro hin
    obtain ⟨q, hq⟩ := Lock.exists_holder hd.fair hin
    cases q with
    | owner j =>
      obtain ⟨hq', ht⟩ := hd.holder_goes hw hq
      exact .behind hin hq hq' ht
    | operator => exact .operated hin hq
  rcases hd.pending i h.supervisor r hs hr with hq | ⟨hin, -⟩
  · cases hstep : w.stepTask i .worker with
    | some v => exact .turn hq (by rw [hstep]; rfl)
    | none =>
      rw [stepTask_serving hi ho hr] at hstep
      exact behind (servePath_eq_none hstep).1
  · exact behind hin

/-- Whoever is done with what was asked of a server does not hold the lock. -/
theorem Standing.waits {k : Plan Unit} (hk : Standing k x)
    (hl : k.server.registry.lock.isHeldBy .operator = true) : ∃ w u next, k = .wait w u next := by
  cases k with
  | wait w u next => exact ⟨w, u, next, rfl⟩
  | done w a =>
    obtain ⟨hw, hready, -⟩ := hk.poised
    refine absurd (Lock.mem_parties_of_isHeldBy hl) ?_
    have haway := hready.away rfl
    rwa [hw] at haway

/-- What is known of the owners of a server, whatever has happened to it. -/
structure Discerning (w : Server) : Prop where
  /-- No number is of two active paths. -/
  sole : w.Sole
  /-- The numbers of active paths are not given again. -/
  ids : ∀ p ∈ w.registry.paths, p.id < w.registry.nextId
  /-- Nor are those of owners, and no two owners are of one activation. -/
  owners : ∀ i j name name' id, w.owner? i = some (.path name id) → w.owner? j = some (.path name' id) →
    i = j ∧ id < w.registry.nextId
  /-- Of the active paths, what an owner does changes none but that of its activation. Without that, it changes
  and tells nothing. -/
  handles : w.Handles

/-- Since no two activations share a number, an owner never takes another activation of its name for its own. -/
theorem Assigned.discerning (hw : w.Assigned) (hs : w.Sole) : w.Discerning :=
  ⟨hs, hw.ids, fun i j name name' id hi hj => ⟨hw.sole i j name name' id hi hj, hw.owners i name id hi⟩,
    hw.tidy.handles⟩

/-- Nothing that an owner of an activation that is over is told has any consequences, and still it replies.
This is so whatever happens to a server, moment by moment, even if the path has become active again. The number
of an activation is given once, and a path that is no longer active is not active ever again. Of the active
paths, what an owner does changes none but that of its activation. Without that, nothing is changed and nothing
is told; media are refused, and a loss is accepted.

However many people operate the server, an owner that is at a request goes on, or waits for the lock behind
someone else, and an owner that goes on answers or gets in line. From then on it moves on each time the lock is
given back, until it answers. If one person operates the server, it is in the middle of something as long as it
holds the lock. -/
theorem stale_owners_powerless (store : Store) (factory : Workshop) (pause : Nat) :
    (∀ l w, Passage (fresh store factory pause) l w → w.Discerning ∧
      (∀ u, Stirs w.abandon u → u.Handles) ∧ ∀ m v, Passage w m v → Descends w v) ∧
    (∀ w, Bustles (fresh store factory pause) w → ∀ i r, w.IsAt i r → Pending w i ∧
      ∀ m v, Passage w m v → (∀ y ∈ m, Bustle y.1 y.2) → .owner i ∈ w.registry.lock.parties →
        (∃ y ∈ m, Responds i r y.1 y.2) ∨ v.InLine i r ∧
          v.registry.lock.place (.owner i) + handovers m ≤ w.registry.lock.place (.owner i)) ∧
    ∀ k, ReflTransGen Plan.Next (.fresh store factory pause) k →
      Bustles (fresh store factory pause) k.server ∧
        (k.server.registry.lock.isHeldBy .operator = true → ∃ w u next, k = .wait w u next) := by
  have hfresh := (inOrder_fresh store factory pause).assigned
  refine ⟨fun l w hl => ?_, fun w hb i r hi => ?_, fun k hk => ?_⟩
  · obtain ⟨hw, hsole⟩ := hl.keep (K := Sole) (fun hw hm hs => hs.moment hw hm) hfresh
      fun a ha => absurd ha List.not_mem_nil
    refine ⟨hw.discerning hsole, fun u hu => (hw.tidy.abandon.stirs hu).handles, fun m v hm => ?_⟩
    exact (hm.keep (fun hw hm h => h.trans (.moment hw hm)) hw (.refl w)).2
  · obtain ⟨hw, hd⟩ : w.Assigned ∧ w.Diligent :=
      ⟨hb.assigned hfresh, hb.keep (fun hord hb h => h.bustle hord hb) hfresh (diligent_fresh store factory pause)⟩
    exact ⟨hd.pending_of_isAt hw.tidy.owned hi, fun m v hm hbustle hp => hm.inLine hbustle hw hd ⟨hi, hp⟩⟩
  · obtain ⟨x, -, hstand⟩ := (standing_fresh store factory pause).nexts hk
    exact ⟨bustles_nexts store factory pause hk, hstand.waits⟩

/-- Whether an owner is the path of a name, from the activation of a number. -/
def isPath (name : String) (id : Nat) : Owner → Bool
  | .path n i => n == name && i == id
  | .judge _ => false

/-- Which activation an owner belongs to. -/
theorem isPath_iff {o : Owner} : isPath name id o = true ↔ o = .path name id := by
  cases o <;> simp [isPath]

/-- The path of a camera is deactivated and activated again while the owner from the earlier activation is about
to consider a track that was announced. The owner gets the lock when the path is active under another number, and
refuses the track. -/
theorem stale_owners_powerless_replaced :
    let tracks : List Media := [⟨.video, ["H264"]⟩]
    let camera : Workshop := ⟨fun _ _ _ _ => .ok { behaviour := fun _ =>
      [.announce (.ready tracks) true, .awaitStop] }⟩
    let entry : Entry := { name := "cam", settings := { source := "rtsp://10.0.0.1:554/live" } }
    let c := (({} : Configuration).insert "cam" entry.settings).toOption
    let asking (w : Server) := w.setRegistry { w.registry with lock := w.registry.lock.request .operator }
    -- two people ask for the lock, and the owner does
    let started := ((Plan.ofOperation (fresh ⟨c.getD {}⟩ camera 5000) .start).go.turns 6).server
    let waiting := (asking (asking started)).step
    -- one of them deactivates the path, and the other one activates it
    let removed := (waiting.setRegistry (waiting.registry.remove "cam")).release
    let w := (removed.build "cam" ⟨entry, none⟩ "").1.release
    ∃ h r v x p, Bustles (fresh ⟨c.getD {}⟩ camera 5000) w ∧ w.registry.paths = [p] ∧ p.name = "cam" ∧
      p.id = 2 ∧ w.hosts[0]? = some h ∧ h.owner = .path "cam" 1 ∧ h.supervisor.worker = .serving r ∧
      r.announcement = .ready tracks ∧ w.stepTask 0 .worker = some v ∧ TurnsAway x r.announcement ∧
      v.hosts = w.hosts.set 0 (h.settled r (some x)) ∧ v.registry.paths = [p] ∧
      v.registry.sent = w.registry.sent := by
  intro tracks camera entry c asking started waiting removed w
  have hstarted : Bustles (fresh ⟨c.getD {}⟩ camera 5000) started :=
    bustles_nexts _ _ _ (Plan.nexts_ask rfl .start 6)
  have hwaiting : Bustles (fresh ⟨c.getD {}⟩ camera 5000) waiting :=
    ((hstarted.tail .request).tail .request).trans (stirs_step _).bustles
  have hremoved : Bustles (fresh ⟨c.getD {}⟩ camera 5000) removed :=
    (hwaiting.tail (.remove "cam")).tail (.release (by decide +kernel))
  have hw : Bustles (fresh ⟨c.getD {}⟩ camera 5000) w :=
    (hremoved.tail (.build (by decide +kernel) _ _)).tail (.release (by decide +kernel))
  have hserving : (w.hosts[0]?.any fun h => isPath "cam" 1 h.owner &&
      h.supervisor.worker == .serving ⟨0, .ready tracks⟩) = true := by decide +kernel
  have hpaths : w.registry.paths.map (fun p => (p.name, p.id)) = [("cam", 2)] := by decide +kernel
  have hline : .owner 0 ∈ w.registry.lock.parties := by decide +kernel
  have hstep : (w.stepTask 0 .worker).isSome = true := by decide +kernel
  clear_value w
  obtain ⟨h, hi, hserving⟩ := (Option.any_eq_true _ _).1 hserving
  simp only [Bool.and_eq_true, beq_iff_eq, isPath_iff] at hserving
  obtain ⟨ho, hs⟩ := hserving
  obtain ⟨v, hv⟩ := Option.isSome_iff_exists.1 hstep
  obtain ⟨p, hp, hpair⟩ := List.map_eq_singleton_iff.1 hpaths
  obtain ⟨hname, hid⟩ := Prod.mk.inj hpair
  obtain ⟨l, hl, -⟩ := hw.passage
  have hhandled := (((stale_owners_powerless _ _ _).1 l w hl).1.handles) 0 h _ _ _ v hi ho hs hv
  obtain ⟨hkept, hsent, hreply⟩ := hhandled.stale fun q hq => by
    rw [hp, List.mem_singleton] at hq
    rw [hq, hid]
    decide
  rcases hreply with ⟨x, hx, hhosts⟩ | ⟨hnot, -⟩
  · exact ⟨h, _, v, x, p, hw, hp, hname, hid, hi, ho, hs, rfl, hv, hx, hhosts, hkept.trans hp, hsent⟩
  · exact absurd hline hnot

end Server

end MediaPaths
