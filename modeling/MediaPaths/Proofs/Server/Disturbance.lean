import MediaPaths.Proofs.Server.Stages

/-!
# What a reload disturbs

Whoever puts a configuration in force waits now and then, and meanwhile the server is stirred. What is done by
the reload itself is done in one go before the first wait, between two waits and after the last one: these are
the bouts of a plan. An active path is spared by a bout if it stays as it is, with its supervisor, and nothing
is told of it. It is informed if it comes under another entry and its supervisor is handed that entry, once.

Each bout is a chain of deeds. A deed by which another path is changed spares a path, because no two paths have
the same name or the same supervisor.
-/

namespace MediaPaths

namespace Server

open Relation

variable {w v u : Server} {x y z : Scene} {i j : Nat} {p q : ActivePath}
  {gone : List ActivePath} {may : Touch → Prop} {J : Scene → Prop} {c : Configuration} {b : Bool}
  {m : Match} {entry : Entry} {bs : List (Server × Server)}

/-! ## Bouts -/

/-- From one stage of a plan to another one, some bouts come to pass: each is a server before and after what
is done in one go. -/
inductive Plan.Bouts {α : Type} : Plan α → List (Server × Server) → Plan α → Prop where
  /-- Nothing happens. -/
  | refl (k : Plan α) : Bouts k [] k
  /-- The server is stirred. -/
  | stir {k l : Plan α} {v : Server} {bs : List (Server × Server)} (hs : Stir k.server v)
      (h : Bouts (k.atServer v) bs l) : Bouts k bs l
  /-- One waits no longer. -/
  | go {w : Server} {u : Wait} {next : Server → Plan α} {l : Plan α} {bs : List (Server × Server)}
      (ho : u.isOver w = true) (h : Bouts (next w) bs l) :
      Bouts (.wait w u next) ((w, (next w).server) :: bs) l

/-- What becomes of a scene: deeds are done in bouts, and between them the server is stirred. -/
inductive Scene.Bouts (may : Touch → Prop) : Scene → List (Server × Server) → Scene → Prop where
  | refl (x : Scene) : Bouts may x [] x
  | stir {w v : Server} {g : List ActivePath} {bs : List (Server × Server)} {y : Scene} (hs : Stir w v)
      (h : Bouts may ⟨v, g⟩ bs y) : Bouts may ⟨w, g⟩ bs y
  | deeds {x y z : Scene} {bs : List (Server × Server)} (hd : ReflTransGen (Deed may) x z)
      (h : Bouts may z bs y) : Bouts may x ((x.server, z.server) :: bs) y

section

variable {α : Type} {Q : Scene → α → Prop} {k l : Plan α}

/-- Deeds keep a scene in order. -/
theorem Scene.InOrder.deeds (hx : x.InOrder) (hd : ReflTransGen (Deed may) x y) : y.InOrder := by
  induction hd with
  | refl => exact hx
  | tail _ hd ih => exact ih.deed hd

/-- The bouts of a plan that obeys are made of deeds. -/
theorem Poised.bouts (hp : Poised may Q k x) (hx : x.InOrder)
    (hQ : ∀ w v g a, Scene.InOrder ⟨w, g⟩ → Q ⟨w, g⟩ a → Stir w v → Q ⟨v, g⟩ a)
    (hb : k.Bouts bs l) : ∃ y, Scene.Bouts may x bs y ∧ Poised may Q l y := by
  induction hb generalizing x with
  | refl => exact ⟨x, .refl x, hp⟩
  | @stir k l v bs hs _ ih =>
    obtain ⟨w, g⟩ := x
    rw [← hp.server] at hs
    have hstirred := hp.stir hx.assigned.tidy.owned (fun a hq => hQ _ _ _ a hx hq hs) hs
    obtain ⟨y, hy, hl⟩ := ih hstirred (hx.stir hs)
    exact ⟨y, .stir hs hy, hl⟩
  | @go w u next l bs ho _ ih =>
    obtain rfl : x.server = w := hp.server
    obtain ⟨z, hz, hp⟩ := hp.go ho
    obtain ⟨y, hy, hl⟩ := ih hp (hx.deeds hz)
    rw [← hp.server]
    exact ⟨y, .deeds hz hy, hl⟩

/-- What is done in one go before the first wait is a bout, too. -/
theorem Obeys.bouts (hk : Obeys may Q x k) (hx : x.InOrder)
    (hQ : ∀ w v g a, Scene.InOrder ⟨w, g⟩ → Q ⟨w, g⟩ a → Stir w v → Q ⟨v, g⟩ a)
    (hb : k.Bouts bs l) :
    ∃ y, Scene.Bouts may x ((x.server, k.server) :: bs) y ∧ Poised may Q l y := by
  obtain ⟨z, hz, hp⟩ := hk
  obtain ⟨y, hy, hl⟩ := hp.bouts (hx.deeds hz) hQ hb
  rw [← hp.server]
  exact ⟨y, .deeds hz hy, hl⟩

end

/-! ## Sparing a path -/

/-- A change of active paths is about other paths. -/
def Touch.Spares (name : String) : Touch → Prop
  | replace _ => True
  | amend p _ | remove p => p.name ≠ name
  | build n _ => n ≠ name

/-- What subscribers were told of a path, the latest first. -/
def sentAbout (w : Server) (name : String) : List PathEvent :=
  w.registry.sent.filter (·.path == name)

/-- A path stays active, with the same media, its supervisor stays as it is, and nothing is told of it. -/
structure Spared (p : ActivePath) (w v : Server) : Prop where
  /-- But for its media, the path is known. -/
  still : w.still? p.name = some p.still
  /-- It stays as it is. -/
  path : v.registry.get? p.name = w.registry.get? p.name
  /-- So does its supervisor. -/
  host : ∀ i, p.origin = .source i → v.hosts[i]? = w.hosts[i]?
  /-- Nothing is told of it. -/
  sent : v.sentAbout p.name = w.sentAbout p.name

theorem Spared.refl (hp : w.still? p.name = some p.still) : Spared p w w := ⟨hp, rfl, fun _ _ => rfl, rfl⟩

/-- A path that is spared has the same picture afterwards. -/
theorem Spared.after (h : Spared p w v) : v.still? p.name = some p.still := by
  rw [still?, h.path]
  exact h.still

/-- What spares a path twice spares it. -/
theorem Spared.trans (h : Spared p w v) (h' : Spared p v u) : Spared p w u :=
  ⟨h.still, h'.path.trans h.path, fun i ho => (h'.host i ho).trans (h.host i ho), h'.sent.trans h.sent⟩

/-- A picture is that of an active path. -/
theorem exists_of_still? (hp : w.still? p.name = some p.still) :
    ∃ q, w.registry.get? p.name = some q ∧ q.still = p.still :=
  Option.map_eq_some_iff.1 hp

/-- A supervisor is changed without the others. -/
theorem hosts_modify_of_ne (hw : w.Owned) (h : j ≠ i) (f : Supervisor → Supervisor) :
    (w.modify j f).hosts[i]? = w.hosts[i]? := by
  rcases hosts_modify hw j f with ⟨_, -, hh⟩ | ⟨-, hh⟩
  · rw [hh, List.getElem?_set_ne h]
  · rw [hh]

/-- Building a path sends no event. -/
theorem sent_build (hw : w.Owned) (name : String) (m : Match) (query : String) :
    (w.build name m query).1.registry.sent = w.registry.sent := by
  rcases registry_build hw name m query with ⟨o, -, hr⟩ | ⟨e, -, hr, -⟩ <;> rw [hr] <;> rfl

/-- The supervisor of an active path is not that of another one. -/
theorem Assigned.ne_of_name (hw : w.Assigned) (hp : p ∈ w.registry.paths) (hq : q ∈ w.registry.paths)
    (hn : p.name ≠ q.name) (hpo : p.origin = .source j) (hqo : q.origin = .source i) : j ≠ i := by
  rintro rfl
  have hown := (hw.claims p hp j).2 hpo
  rw [(hw.claims q hq j).2 hqo] at hown
  exact hn (Owner.path.inj (Option.some.inj hown)).1.symm

/-- A path that is not done with has another name than those that are active. -/
theorem Scene.InOrder.name_ne (hx : x.InOrder) (hp : p ∈ x.gone) (hq : q ∈ x.server.registry.paths) :
    p.name ≠ q.name := by
  intro hn
  have hd := hx.distinct
  rw [Scene.names, List.map_append, List.nodup_append] at hd
  exact hd.2.2 _ (List.mem_map_of_mem hq) _ (List.mem_map_of_mem hp) hn.symm

/-- Amending a path only concerns the host of its own source. -/
theorem hosts_amend_of_ne (hw : w.Owned) (h : ∀ j, q.origin = .source j → j ≠ i) (entry : Entry) :
    (w.amend q entry).hosts[i]? = w.hosts[i]? := by
  unfold Server.amend
  simp only
  split
  · rename_i j hj
    exact hosts_modify_of_ne (w := (w.record _).setRegistry _) hw (h j (origin_of_host? hj)) _
  · rfl

/-- A deed by which no change is made to a path leaves its supervisor alone. -/
theorem Deed.host (hd : Deed (Touch.Spares p.name) x y) (hx : x.InOrder) (hp : p ∈ x.server.registry.paths)
    (ho : p.origin = .source i) : y.server.hosts[i]? = x.server.hosts[i]? := by
  have howned := hx.assigned.tidy.owned
  have hlt : i < x.server.hosts.length := by
    obtain ⟨s, hs⟩ := supervisor?_of_owner? ((hx.assigned.claims p hp i).2 ho)
    exact lt_of_supervisor? hs
  -- whoever is not done with has another supervisor
  have hother {q : ActivePath} {j : Nat} (hq : q ∈ x.gone) (hqo : q.origin = .source j) : j ≠ i := by
    rintro rfl
    exact hx.unclaimed hq hqo p hp ho
  cases hd with
  | record | replace | request | remove | clear | lose | bury => rfl
  | release => rw [hosts_release]
  | amend hk hq => exact hosts_amend_of_ne howned (fun j hj => hx.assigned.ne_of_name hq hp hk hj ho) _
  | cancel hq hqo => exact hosts_modify_of_ne howned (hother hq hqo) _
  | rest hq hqo => exact hosts_modify_of_ne howned (hother hq hqo) _
  | build | renew | refuse => exact hosts_build_of_lt howned hlt _ _ _

/-- A deed by which no change is made to a path tells nothing of it. -/
theorem Deed.sent (hd : Deed (Touch.Spares p.name) x y) (hx : x.InOrder)
    (hp : p ∈ x.server.registry.paths) : y.server.sentAbout p.name = x.server.sentAbout p.name := by
  have howned := hx.assigned.tidy.owned
  have told {w : Server} {e : PathEvent} (hn : e.path ≠ p.name) :
      (w.setRegistry (w.registry.send e)).sentAbout p.name = w.sentAbout p.name :=
    List.filter_cons_of_neg (by simpa using hn)
  cases hd with
  | record | replace | request | remove | clear => rfl
  | release => rw [sentAbout, registry_release]; rfl
  | cancel | rest => rw [sentAbout, registry_modify]; rfl
  | amend => rw [sentAbout, registry_amend]; rfl
  | lose => exact told (hx.name_ne (List.mem_cons_self ..) hp)
  | bury => exact told (hx.name_ne (List.mem_cons_self ..) hp)
  | build | renew | refuse => rw [sentAbout, sent_build howned]; rfl

/-- A deed by which no change is made to a path spares it. -/
theorem Deed.spared (hd : Deed (Touch.Spares p.name) x y) (hx : x.InOrder)
    (hp : x.server.still? p.name = some p.still) : Spared p x.server y.server := by
  obtain ⟨q, hq, hstill⟩ := exists_of_still? hp
  have hname : q.name = p.name := name_of_get? hq
  have horigin : q.origin = p.origin := congrArg (·.origin) hstill
  have hmem := mem_of_get? hq
  refine ⟨hp, ?_, fun i ho => ?_, ?_⟩
  · cases hd.upshot hx p.name with
    | stays h => exact h
    | amended hk hn | removed hk hn => exact absurd hn hk
    | built hk => exact absurd rfl hk
  · exact Deed.host (p := q) (hname ▸ hd) hx hmem (horigin.trans ho)
  · rw [← hname]
    exact Deed.sent (p := q) (hname ▸ hd) hx hmem

section

variable (hspares : ∀ {x y : Scene}, x.InOrder → x.server.still? p.name = some p.still → Deed may x y →
  Deed (Touch.Spares p.name) x y)
include hspares

/-- If whatever is done makes no change to a path as long as that is active, deeds spare the path. -/
theorem spared_of_deeds (hd : ReflTransGen (Deed may) x y) (hx : x.InOrder)
    (hp : x.server.still? p.name = some p.still) : Spared p x.server y.server := by
  induction hd with
  | refl => exact .refl hp
  | tail hds hd ih =>
    have hord := hx.deeds hds
    exact ih.trans ((hspares hord ih.after hd).spared hord ih.after)

/-- What spares a path bout by bout spares it in every one of them. -/
theorem Scene.Bouts.spared (hb : Scene.Bouts may x bs y) (hx : x.InOrder)
    (hp : x.server.still? p.name = some p.still) : ∀ s ∈ bs, Spared p s.1 s.2 := by
  induction hb with
  | refl => exact List.forall_mem_nil _
  | stir hs _ ih => exact ih (hx.stir hs) (by rw [hs.still? hx.assigned.tidy, hp])
  | deeds hd _ ih =>
    have hspared := spared_of_deeds hspares hd hx hp
    exact List.forall_mem_cons.2 ⟨hspared, ih (hx.deeds hd) hspared.after⟩

end

/-! ## Informing a supervisor -/

/-- A path comes under another entry, which is sent to its supervisor once; nothing is told of it. -/
structure Informed (p : ActivePath) (entry : Entry) (w v : Server) : Prop where
  /-- The path stays as it is, but for the entry. -/
  path : ∃ q, q.still = p.still ∧ w.registry.get? p.name = some q ∧
    v.registry.get? p.name = some { q with entry := entry }
  /-- Its supervisor is at work, and the entry is on its way to it. -/
  host : ∀ i, p.origin = .source i → ∃ h, w.hosts[i]? = some h ∧ h.supervisor.isIdle = false ∧
    v.hosts[i]? = some
      (Host.flushed ⟨{ h.supervisor with entry := entry }.dispatch entry none, h.owner⟩)
  /-- Nothing is told of it. -/
  sent : v.sentAbout p.name = w.sentAbout p.name

/-- A path that was informed has the new entry afterwards. -/
theorem Informed.after (h : Informed p entry w v) :
    v.still? p.name = some { p with entry := entry }.still := by
  obtain ⟨q, hq, -, hv⟩ := h.path
  rw [still?, hv]
  exact congrArg (fun p => some { p with entry := entry }) hq

/-- A path that is spared first and then informed is informed. -/
theorem Spared.informed (h : Spared p w v) (h' : Informed p entry v u) : Informed p entry w u := by
  refine ⟨?_, fun i ho => ?_, h'.sent.trans h.sent⟩
  · rw [← h.path]
    exact h'.path
  · rw [← h.host i ho]
    exact h'.host i ho

/-- A path that is informed first and then spared is informed. -/
theorem Informed.spared (h : Informed p entry w v) (h' : Spared { p with entry := entry } v u) :
    Informed p entry w u := by
  obtain ⟨q, hq, hw, hv⟩ := h.path
  refine ⟨⟨q, hq, hw, h'.path.trans hv⟩, fun i ho => ?_, h'.sent.trans h.sent⟩
  rw [h'.host i ho]
  exact h.host i ho

/-- The supervisor of an active path is at work. -/
theorem Scene.Manned.isIdle_eq_false (hx : x.Manned) (hp : p ∈ x.server.registry.paths)
    (ho : p.origin = .source i) {s : Supervisor} (hs : x.server.supervisor? i = some s) :
    s.isIdle = false := by
  have halive := (hx.steadfast i s hs).alive (hx.wanted p hp i s ho hs)
  refine Bool.eq_false_iff.2 fun hidle => ?_
  rw [Supervisor.isIdle_iff.1 hidle] at halive
  cases halive

/-- Amending a path informs it, and its supervisor keeps its execution. -/
theorem informed_of_amend (hx : Scene.InOrder ⟨w, gone⟩) (hm : Scene.Manned ⟨w, gone⟩)
    (hq : q ∈ w.registry.paths) (hs : q.still = p.still) (entry : Entry) :
    Informed p entry w (w.amend q entry) := by
  have hname : q.name = p.name := congrArg (·.name) hs
  have horigin : q.origin = p.origin := congrArg (·.origin) hs
  have hget := get?_of_mem hx.assigned.tidy.distinct hq
  refine ⟨⟨q, hs, hname ▸ hget, by rw [get?_amend hget, if_pos hname]⟩, fun i ho => ?_, ?_⟩
  · rw [← horigin] at ho
    obtain ⟨s, hs⟩ := supervisor?_of_owner? ((hx.assigned.claims q hq i).2 ho)
    have hidle := hm.isIdle_eq_false hq ho hs
    obtain ⟨h, hi, rfl⟩ := Option.map_eq_some_iff.1 hs
    refine ⟨h, hi, hidle, ?_⟩
    have hreload : h.supervisor.reload entry = { h.supervisor with entry := entry }.dispatch entry none :=
      if_neg (by simp [hidle])
    have hlt := (List.getElem?_eq_some_iff.1 hi).1
    unfold Server.amend
    simp only [ho, Origin.host?]
    rcases hosts_modify (w := (w.record _).setRegistry _) hx.assigned.tidy.owned i (·.reload entry) with
        ⟨h', hi', hh⟩ | ⟨hnone, -⟩
    · obtain rfl : h = h' := Option.some.inj (hi.symm.trans hi')
      rw [reload, hh, ← hreload]
      exact List.getElem?_set_self hlt
    · cases hi.symm.trans hnone
  · rw [sentAbout, registry_amend]
    rfl

/-- The only change that may be made to a path is that it comes under another entry. -/
def Touch.Informs (p : ActivePath) (entry : Entry) (t : Touch) : Prop :=
  t.Spares p.name ∨ ∃ q, t = .amend q entry ∧ q.still = p.still

/-- A deed that may only inform a path spares it or amends it. -/
theorem Deed.spares_or_amends (hd : Deed may x y) (hmay : ∀ t, may t → t.Informs p entry) :
    Deed (Touch.Spares p.name) x y ∨
      ∃ q ∈ x.server.registry.paths, q.still = p.still ∧ y = ⟨x.server.amend q entry, x.gone⟩ := by
  have removes {q : ActivePath} (hk : may (.remove q)) : q.name ≠ p.name :=
    (hmay _ hk).resolve_right fun ⟨_, hq, _⟩ => Touch.noConfusion hq
  have builds {n : String} {m : Match} (hk : may (.build n m)) : n ≠ p.name :=
    (hmay _ hk).resolve_right fun ⟨_, hq, _⟩ => Touch.noConfusion hq
  cases hd with
  | record r => exact .inl (.record r)
  | replace => exact .inl (.replace trivial)
  | request hl => exact .inl (.request hl)
  | release hl => exact .inl (.release hl)
  | @amend w g q e hk hq hn =>
    rcases hmay _ hk with hk | ⟨r, hr, hs⟩
    · exact .inl (.amend hk hq hn)
    · cases hr
      exact .inr ⟨q, hq, hs, rfl⟩
  | remove hk hq => exact .inl (.remove (removes hk) hq)
  | clear hk => exact .inl (.clear fun q => removes (hk q))
  | cancel hq ho reason => exact .inl (.cancel hq ho reason)
  | rest hq ho hdone => exact .inl (.rest hq ho hdone)
  | lose hr => exact .inl (.lose hr)
  | bury hr reason => exact .inl (.bury hr reason)
  | build hk hn hg query => exact .inl (.build (builds hk) hn hg query)
  | renew hk hn hm hr hb => exact .inl (.renew (builds hk) hn hm hr hb)
  | refuse hn hr hb => exact .inl (.refuse hn hr hb)

/-- A deed keeps the supervisors of the active paths at work. -/
theorem Scene.Manned.deed (hx : x.Manned) (hd : Deed may x y) (hord : x.InOrder) : y.Manned :=
  (hd.leads hord).manned rfl hord hx

/-- So do deeds one after the other. -/
theorem Scene.Manned.deeds (hx : x.Manned) (hd : ReflTransGen (Deed may) x y) (hord : x.InOrder) :
    y.Manned := by
  induction hd with
  | refl => exact hx
  | tail hds hd ih => exact ih.deed hd (hord.deeds hds)

/-- So does a stir between them. -/
theorem Scene.Manned.stir (hx : Scene.Manned ⟨w, gone⟩) (hs : Stir w v) (hord : Scene.InOrder ⟨w, gone⟩) :
    Scene.Manned ⟨v, gone⟩ := by
  cases hs with
  | task _ ht => exact hx.next (k := thorough) (.task ht) rfl hord
  | park => exact ⟨hx.steadfast, hx.wanted, hx.idle, hx.succession⟩
  | pass => exact hx.next (k := thorough) (.pass _) rfl hord
  | relist hp => exact hx.next (k := thorough) (.relist hp) rfl hord

/-- That they are at work is kept by whatever happens. -/
theorem kept_manned (may : Touch → Prop) : Kept may Scene.Manned :=
  ⟨fun hx hd hm => hm.deed hd hx, fun hx hs hm => hm.stir hs hx⟩

section

variable (hmay : ∀ t, may t → t.Informs p entry) (he : p.entry ≠ entry)
include hmay he

/-- A path that has come under the other entry is spared. -/
theorem spares_of_informed (hx : x.InOrder)
    (hp : x.server.still? p.name = some { p with entry := entry }.still) (hd : Deed may x z) :
    Deed (Touch.Spares p.name) x z := by
  refine (hd.spares_or_amends hmay).resolve_right ?_
  rintro ⟨q, hq, hs, -⟩
  have hname : q.name = p.name := congrArg (·.name) hs
  have hstill := still?_of_get? (get?_of_mem hx.assigned.tidy.distinct hq)
  rw [hname, hp, hs] at hstill
  exact he (congrArg ActivePath.entry (Option.some.inj hstill)).symm

/-- Over deeds that may do no more than inform a path it is spared, or informed once. -/
theorem spared_or_informed (hd : ReflTransGen (Deed may) x z) (hx : x.InOrder) (hm : x.Manned)
    (hp : x.server.still? p.name = some p.still) :
    Spared p x.server z.server ∨ Informed p entry x.server z.server := by
  induction hd with
  | refl => exact .inl (.refl hp)
  | @tail y z hds hd ih =>
    have hord := hx.deeds hds
    rcases ih with h | h
    · rcases hd.spares_or_amends hmay with hd | ⟨q, hq, hs, rfl⟩
      · exact .inl (h.trans (hd.spared hord h.after))
      · exact .inr (h.informed (informed_of_amend hord (hm.deeds hds hx) hq hs entry))
    · have hd := spares_of_informed hmay he hord h.after hd
      exact .inr (h.spared (Deed.spared (p := { p with entry := entry }) hd hord h.after))

/-- There is no more than one bout that does not spare a path. By that one, its supervisor is informed. -/
theorem Scene.Bouts.informed (hb : Scene.Bouts may x bs y) (hx : x.InOrder) (hm : x.Manned)
    (hp : x.server.still? p.name = some p.still) :
    (∀ s ∈ bs, Spared p s.1 s.2) ∧ y.server.still? p.name = some p.still ∨
      ∃ ss s ts, bs = ss ++ s :: ts ∧ (∀ r ∈ ss, Spared p r.1 r.2) ∧ Informed p entry s.1 s.2 ∧
        ∀ r ∈ ts, Spared { p with entry := entry } r.1 r.2 := by
  induction hb with
  | refl => exact .inl ⟨List.forall_mem_nil _, hp⟩
  | stir hs _ ih => exact ih (hx.stir hs) (hm.stir hs hx) (by rw [hs.still? hx.assigned.tidy, hp])
  | @deeds x y z bs hd hb ih =>
    have hord := hx.deeds hd
    rcases spared_or_informed hmay he hd hx hm hp with h | h
    · rcases ih hord (hm.deeds hd hx) h.after with ⟨hall, hy⟩ | ⟨ss, s, ts, rfl, hss, hs, hts⟩
      · exact .inl ⟨List.forall_mem_cons.2 ⟨h, hall⟩, hy⟩
      · exact .inr ⟨_ :: ss, s, ts, rfl, List.forall_mem_cons.2 ⟨h, hss⟩, hs, hts⟩
    · refine .inr ⟨[], _, bs, rfl, List.forall_mem_nil _, h, ?_⟩
      exact Scene.Bouts.spared (p := { p with entry := entry })
        (spares_of_informed (p := p) hmay he) hb hord h.after

end

/-! ## Nothing to be done -/

/-- No path and no supervisor is changed, and nothing is told. -/
structure Unchanged (w v : Server) : Prop where
  /-- The active paths stay as they are. -/
  paths : v.registry.paths = w.registry.paths
  /-- So do the supervisors. -/
  hosts : v.hosts = w.hosts
  /-- Nothing is told. -/
  sent : v.registry.sent = w.registry.sent

/-- What changes nothing twice changes nothing. -/
theorem Unchanged.trans (h : Unchanged w v) (h' : Unchanged v u) : Unchanged w u :=
  ⟨h'.paths.trans h.paths, h'.hosts.trans h.hosts, h'.sent.trans h.sent⟩

section

variable (hmay : ∀ t, may t → ∃ s, t = .replace s)
include hmay

/-- Where no path is left to be done with and none is changed, a deed changes nothing. -/
theorem Deed.unchanged (hd : Deed may x y) (hg : x.gone = []) :
    Unchanged x.server y.server ∧ y.gone = [] := by
  cases hd with
  | record | replace | request => exact ⟨⟨rfl, rfl, rfl⟩, hg⟩
  | release => exact ⟨⟨by rw [registry_release], hosts_release _, by rw [registry_release]⟩, hg⟩
  | amend hk | remove hk | build hk =>
    obtain ⟨s, hs⟩ := hmay _ hk
    cases hs
  | @clear w hk =>
    cases hpaths : w.registry.paths with
    | nil => exact ⟨⟨hpaths.symm, rfl, rfl⟩, rfl⟩
    | cons p ps =>
      obtain ⟨s, hs⟩ := hmay _ (hk p)
      cases hs
  | cancel hp | rest hp =>
    obtain rfl : _ = [] := hg
    cases hp
  | lose | bury | renew | refuse => cases hg

/-- Deeds that may touch nothing change nothing. -/
theorem unchanged_of_deeds (hd : ReflTransGen (Deed may) x y) (hg : x.gone = []) :
    Unchanged x.server y.server ∧ y.gone = [] := by
  induction hd with
  | refl => exact ⟨⟨rfl, rfl, rfl⟩, hg⟩
  | tail _ hd ih =>
    obtain ⟨h, hg⟩ := Deed.unchanged hmay hd ih.2
    exact ⟨ih.1.trans h, hg⟩

/-- Nor do bouts of them. -/
theorem Scene.Bouts.unchanged (hb : Scene.Bouts may x bs y) (hg : x.gone = []) :
    ∀ s ∈ bs, Unchanged s.1 s.2 := by
  induction hb with
  | refl => exact List.forall_mem_nil _
  | stir _ _ ih => exact ih hg
  | deeds hd _ ih =>
    obtain ⟨hsame, hg⟩ := unchanged_of_deeds hmay hd hg
    exact List.forall_mem_cons.2 ⟨hsame, ih hg⟩

end

/-! ## Putting a configuration in force -/

/-- A path that need not be restarted is spared, or it comes under the entry that applies to it. -/
theorem Alters.informs {t : Touch} (ht : Alters c b w t) (hp : w.still? p.name = some p.still)
    (hf : c.find p.name = .ok m) (hr : ¬Restarts b p m) :
    t.Spares p.name ∨ p.entry ≠ m.entry ∧ ∃ q, t = .amend q m.entry ∧ q.still = p.still := by
  obtain ⟨r, hget, hstill⟩ := exists_of_still? hp
  -- a path of that name is the same but for its media, of which a restart takes no account
  have same {q : ActivePath} (hq : w.registry.get? q.name = some q) (hn : q.name = p.name) :
      q.still = p.still := by
    rw [hn, hget] at hq
    cases hq
    exact hstill
  have found {q : ActivePath} {m' : Match} (hm' : c.find q.name = .ok m') (hn : q.name = p.name) :
      m' = m := by
    rw [hn, hf] at hm'
    cases hm'
    rfl
  have stays {q : ActivePath} {m' : Match} (hq : w.registry.get? q.name = some q)
      (hm' : c.find q.name = .ok m') (hr' : Restarts b q m') : q.name ≠ p.name := by
    intro hn
    obtain rfl := found hm' hn
    have hrestarts : Restarts b q.still m' := hr'
    rw [same hq hn] at hrestarts
    exact hr hrestarts
  cases ht with
  | drop _ hf' =>
    refine .inl fun hn => ?_
    rw [hn, hf] at hf'
    cases hf'
  | halt hq hm' hr' => exact .inl (stays hq hm' hr')
  | resume hq hm' hr' => exact .inl (stays hq hm' hr')
  | @amend q m' hq hm' he _ =>
    by_cases hn : q.name = p.name
    · obtain rfl := found hm' hn
      have hs := same hq hn
      exact .inr ⟨fun h => he ((congrArg ActivePath.entry hs).trans h), q, rfl, hs⟩
    · exact .inl hn
  | ensure _ hnone =>
    refine .inl fun hn => ?_
    rw [hn, hget] at hnone
    cases hnone

/-- A path that has come under the entry that applies to it is restarted only if it is anyway. -/
theorem restarts_of_informed (hr : Restarts b { p with entry := m.entry } m) : Restarts b p m := by
  cases hstatic : b && p.origin.host?.isSome with
  | false =>
    have hsame := hr.1
    simp [hstatic] at hsame
  | true => simp [Restarts, needsRestart, hstatic]

section

variable {l : Plan (Except ServerError Unit)} (hc : c.check = .ok c)
include hc

/-- The bouts of a reload are made of deeds that the configuration asks for. -/
theorem bouts_of_apply (hserves : ∀ t, may t → t.Serves c) (hJ : Kept may J) (hx : Ready J false ⟨w, []⟩)
    (hstore : may (.replace (w.registry.store.replace c).1))
    (hmay : ∀ v, Ready J true ⟨v, []⟩ → ∀ t, Alters c (w.optionsChange c) v t → may t)
    (hb : (Plan.apply w c).Bouts bs l) :
    ∃ y, Scene.Bouts may ⟨w, []⟩ ((w, (Plan.apply w c).server) :: bs) y ∧
      Poised may (fun x r => Ready J false x ∧ x.gone = [] ∧ Settled c x.server r) l y := by
  refine (obeys_apply hserves hJ hx hc hstore hmay).bouts hx.inOrder ?_ hb
  rintro w v g r hord ⟨hready, hgone, hset⟩ hs
  exact ⟨hready.stir hJ hs, hgone, hset.stir hs hord.assigned.tidy⟩

/-- A path that is as the configuration has it is spared. -/
theorem reload_spares (hx : Ready (fun _ => True) false ⟨w, []⟩) (hp : p ∈ w.registry.paths)
    (hf : c.find p.name = .ok m) (ho : (w.optionsChange c && p.origin.host?.isSome) = false)
    (he : p.entry = m.entry) (hb : (Plan.apply w c).Bouts bs l) :
    ∀ s ∈ (w, (Plan.apply w c).server) :: bs, Spared p s.1 s.2 := by
  let may (t : Touch) : Prop := t.Serves c ∧ t.Spares p.name
  have hstill := still?_of_get? (get?_of_mem hx.inOrder.assigned.tidy.distinct hp)
  have hspares {x y : Scene} (hd : Deed may x y) : Deed (Touch.Spares p.name) x y :=
    hd.mono fun _ ht => ht.2
  have hJ : Kept may fun x => x.server.still? p.name = some p.still :=
    ⟨fun hx hd hp => ((hspares hd).spared hx hp).after, fun hx hs hp => by
      rw [hs.still? hx.assigned.tidy]
      exact hp⟩
  have hr : ¬Restarts (w.optionsChange c) p m := fun hr => by
    have hsame := hr.1
    simp [ho, he] at hsame
  obtain ⟨y, hy, -⟩ := bouts_of_apply hc (fun _ ht => ht.1) hJ (hx.mono hstill) ⟨rfl, trivial⟩
    (fun v hv t ht => ⟨ht.serves, (ht.informs hv.kept hf hr).resolve_right fun h => h.1 he⟩) hb
  exact Scene.Bouts.spared (fun _ _ hd => hspares hd) hy hx.inOrder hstill

/-- The supervisor of a path that comes under another entry without a restart is informed, once. -/
theorem reload_informs (hx : Ready (fun _ => True) false ⟨w, []⟩) (hm : Scene.Manned ⟨w, []⟩)
    (hp : p ∈ w.registry.paths) (hf : c.find p.name = .ok m)
    (hr : ¬Restarts (w.optionsChange c) p m) (he : p.entry ≠ m.entry) {r : Except ServerError Unit}
    (hb : (Plan.apply w c).Bouts bs (.done u r)) :
    ∃ ss s ts, (w, (Plan.apply w c).server) :: bs = ss ++ s :: ts ∧ (∀ r ∈ ss, Spared p r.1 r.2) ∧
      Informed p m.entry s.1 s.2 ∧ ∀ r ∈ ts, Spared { p with entry := m.entry } r.1 r.2 := by
  let may (t : Touch) : Prop := t.Serves c ∧ t.Informs p m.entry
  have hmay : ∀ t, may t → t.Informs p m.entry := fun _ ht => ht.2
  have hstill := still?_of_get? (get?_of_mem hx.inOrder.assigned.tidy.distinct hp)
  -- at any time the path comes under one entry or under the other
  have hJ : Kept may fun x => x.Manned ∧ (x.server.still? p.name = some p.still ∨
      x.server.still? p.name = some { p with entry := m.entry }.still) := by
    refine ⟨fun hx hd hj => ⟨hj.1.deed hd hx, ?_⟩, fun hx hs hj => ⟨hj.1.stir hs hx, ?_⟩⟩
    · rcases hj.2 with h | h
      · exact (spared_or_informed hmay he (.single hd) hx hj.1 h).imp Spared.after Informed.after
      · have hd := spares_of_informed hmay he hx h hd
        exact .inr (Deed.spared (p := { p with entry := m.entry }) hd hx h).after
    · rw [hs.still? hx.assigned.tidy]
      exact hj.2
  have halters : ∀ v, v.still? p.name = some p.still ∨
      v.still? p.name = some { p with entry := m.entry }.still →
      ∀ t, Alters c (w.optionsChange c) v t → t.Informs p m.entry := by
    rintro v (h | h) t ht
    · exact (ht.informs h hf hr).imp id And.right
    · refine .inl ((Alters.informs (p := { p with entry := m.entry }) ht h hf ?_).resolve_right
        fun h => h.1 rfl)
      exact fun hr' => hr (restarts_of_informed hr')
  obtain ⟨y, hy, hl⟩ := bouts_of_apply hc (fun _ ht => ht.1) hJ (hx.mono ⟨hm, .inl hstill⟩)
    ⟨rfl, .inl trivial⟩ (fun v hv t ht => ⟨ht.serves, halters v hv.kept.2 t ht⟩) hb
  refine (Scene.Bouts.informed hmay he hy hx.inOrder hm hstill).resolve_left ?_
  rintro ⟨-, hlast⟩
  obtain ⟨-, -, -, hset⟩ := hl
  obtain ⟨q, hq, hqs⟩ := exists_of_still? hlast
  obtain ⟨m', hm', hentry⟩ := hset.conforms p.name q hq
  cases hf.symm.trans hm'
  exact he ((congrArg ActivePath.entry hqs).symm.trans hentry)

/-- A configuration that is in force already, and in line with which all paths are, changes nothing. -/
theorem reload_idles (hx : Ready (fun _ => True) false ⟨w, []⟩) (hw : Settled c w (.ok ()))
    (hb : (Plan.apply w c).Bouts bs l) :
    ∀ s ∈ (w, (Plan.apply w c).server) :: bs, Unchanged s.1 s.2 := by
  let may (t : Touch) : Prop := ∃ s, t = .replace s ∧ s.current = c
  have hserves : ∀ t, may t → t.Serves c := by
    rintro t ⟨s, rfl, hs⟩
    exact hs
  have hreplace : ∀ t, may t → ∃ s, t = .replace s := fun t ⟨s, ht, _⟩ => ⟨s, ht⟩
  have hJ : Kept may fun x => Settled c x.server (.ok ()) := by
    refine ⟨fun hx hd hj => ⟨?_, fun n => ?_, fun hr e he => ?_⟩,
      fun hx hs hj => hj.stir hs hx.assigned.tidy⟩
    · exact (kept_current hserves).deed hx hd hj.current
    · exact (kept_conforms hserves n).deed hx hd (hj.conforms n)
    · cases hd.upshot hx e.name with
      | stays h =>
        rw [Registry.isActive, h]
        exact hj.active hr e he
      | amended hk | removed hk | built hk =>
        obtain ⟨s, hs⟩ := hreplace _ hk
        cases hs
  have hno : w.optionsChange c = false := by simp [optionsChange, hw.current]
  have halters : ∀ v, Settled c v (.ok ()) → ∀ t, Alters c (w.optionsChange c) v t → may t := by
    intro v hv t ht
    rw [hno] at ht
    have conforms {q : ActivePath} {m : Match} (hq : v.registry.get? q.name = some q)
        (hf : c.find q.name = .ok m) : q.entry = m.entry := by
      obtain ⟨m', hm', he⟩ := hv.conforms _ q hq
      cases hf.symm.trans hm'
      exact he
    cases ht with
    | drop hq hf =>
      obtain ⟨m', hm', -⟩ := hv.conforms _ _ hq
      cases hf.symm.trans hm'
    | halt hq hf hr | resume hq hf hr =>
      have hsame := hr.1
      simp [conforms hq hf] at hsame
    | amend hq hf he => exact absurd (conforms hq hf) he
    | ensure he hn =>
      have hactive := hv.active rfl _ he
      rw [Registry.isActive, hn] at hactive
      cases hactive
  obtain ⟨y, hy, -⟩ := bouts_of_apply hc hserves hJ (hx.mono hw) ⟨_, rfl, rfl⟩
    (fun v hv t ht => halters v hv.kept t ht) hb
  exact Scene.Bouts.unchanged hreplace hy rfl

end

/-- A plan is done, without an error. -/
def Plan.succeeded : Plan (Except ServerError Unit) → Bool
  | .done _ (.ok _) => true
  | _ => false

/-- What a plan waits for is over, and then it is done, without an error. -/
def Plan.endsNext : Plan (Except ServerError Unit) → Bool
  | .wait w u next => u.isOver w && (next w).succeeded
  | .done _ _ => false

/-- A plan that succeeded is done. -/
theorem Plan.eq_done_ok {k : Plan (Except ServerError Unit)} (hk : k.succeeded = true) :
    k = .done k.server (.ok ()) := by
  cases k with
  | wait w u next => cases hk
  | done w r =>
    cases r with
    | error e => cases hk
    | ok => rfl

/-- A plan that ends can be followed bout by bout to its end. -/
theorem Plan.bouts_of_endsNext {k : Plan (Except ServerError Unit)} (hk : k.endsNext = true) :
    ∃ u bs, k.Bouts bs (.done u (.ok ())) := by
  cases k with
  | done w r => cases hk
  | wait w u next =>
    obtain ⟨hover, hnext⟩ := Bool.and_eq_true_iff.1 hk
    have hbouts := Bouts.go hover (.refl (next w))
    rw [Plan.eq_done_ok hnext] at hbouts
    exact ⟨_, _, hbouts⟩

/-- An active path and the entry that applies to it, of which something has been computed. -/
theorem exists_find {w : Server} {c : Configuration} {name : String} {f : ActivePath → Match → Bool}
    (h : ((w.registry.get? name).any fun p => (c.find name).toOption.any (f p)) = true) :
    ∃ p m, w.registry.get? name = some p ∧ c.find name = .ok m ∧ f p m = true := by
  cases hp : w.registry.get? name with
  | none =>
    rw [hp] at h
    cases h
  | some p =>
    rw [hp] at h
    cases hm : c.find name with
    | error e =>
      rw [hm] at h
      cases h
    | ok m =>
      rw [hm] at h
      exact ⟨p, m, rfl, rfl, h⟩

/-- A valid configuration is checked as itself. -/
theorem check_eq_ok {c : Configuration} (hc : c.check.isOk = true) : c.check = .ok c := by
  cases h : c.check with
  | error e =>
    rw [h] at hc
    cases hc
  | ok c' => rw [check_eq h]

/-- A fresh server has nobody to man. -/
theorem manned_fresh (store : Store) (factory : Workshop) (pause : Nat) :
    Scene.Manned ⟨fresh store factory pause, []⟩ := by
  constructor <;> simp [fresh, supervisor?]

/-- A reload disturbs only what has changed. A path that is active and stays under the entry that applies to
it is spared by every bout, unless its source has to be made anew because of what is for all of them. If only
what a running source can be told has changed, the path is spared by all bouts but one, by which its supervisor
is informed. After a reload without an error, another one for the same configuration changes nothing. -/
theorem reload_disturbs_changes (store : Store) (factory : Workshop) (pause : Nat) {w : Server}
    (hk : ReflTransGen Plan.Next (.fresh store factory pause) (.done w ())) {c : Configuration}
    (hc : c.check = .ok c) {bs : List (Server × Server)} {l : Plan (Except ServerError Unit)}
    (hb : (Plan.apply w c).Bouts bs l) :
    (∀ p ∈ w.registry.paths, ∀ m, c.find p.name = .ok m →
      (w.optionsChange c && p.origin.host?.isSome) = false →
      (p.entry = m.entry → ∀ s ∈ (w, (Plan.apply w c).server) :: bs, Spared p s.1 s.2) ∧
      (p.entry ≠ m.entry → p.entry.name = m.entry.name →
        p.entry.settings.needsRestart m.entry.settings = false → ∀ u r, l = .done u r →
        ∃ ss s ts, (w, (Plan.apply w c).server) :: bs = ss ++ s :: ts ∧ (∀ r ∈ ss, Spared p r.1 r.2) ∧
          Informed p m.entry s.1 s.2 ∧ ∀ r ∈ ts, Spared { p with entry := m.entry } r.1 r.2)) ∧
    ∀ u, l = .done u (.ok ()) → ∀ v, Stirs u v → ∀ bs' l', (Plan.apply v c).Bouts bs' l' →
      ∀ s ∈ (v, (Plan.apply v c).server) :: bs', Unchanged s.1 s.2 := by
  obtain ⟨x, hx, hstand⟩ := (standing_fresh store factory pause).nexts hk
  have hmanned : x.Manned :=
    (kept_manned _).turns (inOrder_fresh store factory pause) (manned_fresh store factory pause) hx
  obtain ⟨v, g⟩ := x
  obtain ⟨rfl, hready, rfl⟩ := hstand.poised
  refine ⟨fun p hp m hf ho => ⟨fun he => reload_spares hc hready hp hf ho he hb, ?_⟩, ?_⟩
  · rintro he hn hs u r rfl
    refine reload_informs hc hready hmanned hp hf (fun hr => ?_) he hb
    have hneed := hr.2
    simp [needsRestart, ho, hn, hs] at hneed
  · rintro u rfl v hv bs' l' hb'
    have hserves : ∀ t, Touch.Serves c t → t.Serves c := fun _ ht => ht
    obtain ⟨y, -, hl⟩ := bouts_of_apply hc hserves (kept_trivial _) hready rfl
      (fun _ _ _ ht => ht.serves) hb
    obtain ⟨y, g⟩ := y
    obtain ⟨rfl, hready, rfl, hset⟩ := hl
    have hset := hset.stirs hv hready.inOrder
    exact reload_idles hc (hready.stirs (kept_trivial (Touch.Serves c)) hv) hset hb'

/-- Of two cameras, one may be watched by more readers than before. -/
theorem reload_disturbs_changes_readers :
    let camera : Workshop := ⟨fun _ _ _ _ => .ok { behaviour := fun _ => [.awaitStop] }⟩
    let configured (readers : UInt64) :=
      ((({} : Configuration).insert "cam" { source := "rtsp://10.0.0.1:554/live", maxReaders := readers }
        ).bind fun c => c.insert "yard" { source := "rtsp://10.0.0.2:554/live" }).toOption.getD {}
    let c := configured 3
    let idle := Plan.fresh ⟨configured 0⟩ camera 5000
    let first := (Plan.ofOperation idle.server (.activate "cam" "")).go.turns 6
    let w := ((Plan.ofOperation first.server (.activate "yard" "")).go.turns 6).server
    ∃ p q m bs u, w.registry.get? "yard" = some p ∧ w.registry.get? "cam" = some q ∧
      c.find "cam" = .ok m ∧ q.entry ≠ m.entry ∧ (Plan.apply w c).Bouts bs (.done u (.ok ())) ∧
      (∀ s ∈ (w, (Plan.apply w c).server) :: bs, Spared p s.1 s.2) ∧
      (∃ ss s ts, (w, (Plan.apply w c).server) :: bs = ss ++ s :: ts ∧ (∀ r ∈ ss, Spared q r.1 r.2) ∧
        Informed q m.entry s.1 s.2 ∧ ∀ r ∈ ts, Spared { q with entry := m.entry } r.1 r.2) ∧
      ∀ bs' l', (Plan.apply u c).Bouts bs' l' →
        ∀ s ∈ (u, (Plan.apply u c).server) :: bs', Unchanged s.1 s.2 := by
  intro camera configured c idle first w
  have hasked : first.isIdle = true := by decide +kernel
  have hlast : ((Plan.ofOperation first.server (.activate "yard" "")).go.turns 6).isIdle = true := by
    decide +kernel
  have hk := (Plan.nexts_ask (k := idle) rfl (.activate "cam" "") 6).trans
    (Plan.nexts_ask hasked (.activate "yard" "") 6)
  rw [Plan.eq_done hlast] at hk
  have hc : c.check.isOk = true := by decide +kernel
  have hoptions : w.optionsChange c = false := by decide +kernel
  have hyard : ((w.registry.get? "yard").any fun p => (c.find "yard").toOption.any fun m =>
      p.entry == m.entry) = true := by decide +kernel
  have hcam : ((w.registry.get? "cam").any fun q => (c.find "cam").toOption.any fun m =>
      q.entry != m.entry && q.entry.name == m.entry.name &&
        !q.entry.settings.needsRestart m.entry.settings) = true := by decide +kernel
  have hplan : (Plan.apply w c).endsNext = true := by decide +kernel
  change ReflTransGen Plan.Next (.fresh ⟨configured 0⟩ camera 5000) (.done w ()) at hk
  clear_value w c
  obtain ⟨p, m', hp, hm', hsame⟩ := exists_find hyard
  obtain ⟨q, m, hq, hm, hcam⟩ := exists_find hcam
  simp only [Bool.and_eq_true, beq_iff_eq, bne_iff_ne, Bool.not_eq_true'] at hsame hcam
  obtain ⟨⟨hdiff, hname⟩, hneed⟩ := hcam
  obtain ⟨u, bs, hb⟩ := Plan.bouts_of_endsNext hplan
  obtain ⟨hall, hidle⟩ := reload_disturbs_changes _ _ _ hk (check_eq_ok hc) hb
  have hpname := name_of_get? hp
  have hqname := name_of_get? hq
  have hspared := (hall p (mem_of_get? hp) m' (hpname ▸ hm') (by rw [hoptions]; rfl)).1 hsame
  have hinformed := (hall q (mem_of_get? hq) m (hqname ▸ hm) (by rw [hoptions]; rfl)).2
    hdiff hname hneed _ _ rfl
  exact ⟨p, q, m, bs, u, hp, hq, hm, hdiff, hb, hspared, hinformed, hidle u rfl u .refl⟩

/-- A path is restarted for an entry of another name, even if the settings are the same. -/
theorem reload_restarts_renamed :
    let camera : Workshop := ⟨fun _ _ _ _ => .ok { behaviour := fun _ => [.awaitStop] }⟩
    let configured (name : String) := ((({} : Configuration).insert name
      { source := "rtsp://10.0.0.1:554/live", sourceOnDemand := true }).toOption).getD {}
    let c := configured "cam1"
    let idle := Plan.fresh ⟨configured "~^cam"⟩ camera 5000
    let w := ((Plan.ofOperation idle.server (.activate "cam1" "")).go.turns 6).server
    let v := ((Plan.ofOperation w (.reload c)).go.turns 6).go.server
    ReflTransGen Plan.Next idle (.done w ()) ∧ c.check = .ok c ∧ w.optionsChange c = false ∧
      ReflTransGen Plan.Next (Plan.ofOperation w (.reload c)) (.done v ()) ∧
      ∃ p m q, w.registry.get? "cam1" = some p ∧ p.origin = .source 0 ∧ c.find "cam1" = .ok m ∧
        p.entry.settings = m.entry.settings ∧ v.registry.get? "cam1" = some q ∧ q.id ≠ p.id := by
  intro camera configured c idle w v
  have hasked : ((Plan.ofOperation idle.server (.activate "cam1" "")).go.turns 6).isIdle = true := by
    decide +kernel
  have hreloaded : ((Plan.ofOperation w (.reload c)).go.turns 6).go.isIdle = true := by decide +kernel
  have hfirst := Plan.nexts_ask (k := idle) rfl (.activate "cam1" "") 6
  have hsecond := (Plan.nexts_go (Plan.ofOperation w (.reload c))).trans
    ((Plan.nexts_turns 6 _).trans (Plan.nexts_go _))
  rw [Plan.eq_done hasked] at hfirst
  rw [Plan.eq_done hreloaded] at hsecond
  have hc : c.check.isOk = true := by decide +kernel
  have hoptions : w.optionsChange c = false := by decide +kernel
  have hpath : ((w.registry.get? "cam1").any fun p => (c.find "cam1").toOption.any fun m =>
      (v.registry.get? "cam1").any fun q =>
        p.origin == .source 0 && p.entry.settings == m.entry.settings && q.id != p.id) = true := by
    decide +kernel
  refine ⟨hfirst, check_eq_ok hc, hoptions, hsecond, ?_⟩
  clear_value v c w
  obtain ⟨p, m, hp, hm, hpath⟩ := exists_find hpath
  obtain ⟨q, hq, hpath⟩ := (Option.any_eq_true _ _).1 hpath
  simp only [Bool.and_eq_true, beq_iff_eq, bne_iff_ne] at hpath
  exact ⟨p, m, q, hp, hpath.1.1, hm, hpath.1.2, hq, hpath.2⟩

end Server

end MediaPaths
