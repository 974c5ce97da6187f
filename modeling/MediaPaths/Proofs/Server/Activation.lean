import MediaPaths.Proofs.Server.Attendance
import MediaPaths.Proofs.Server.Disturbance

/-!
# What an activation comes to

Whoever activates a path looks up its entry first, waits for the lock of the active paths, and only then sees whether
the path is active. That a path which is active can always be looked up is due to reloads, by which the paths are
removed that nothing applies to: whenever nothing is left to be done, every active path comes under its entry.

An activation comes to an end, for whoever has the lock goes on and gives it back. It finds the path active and changes
nothing, or there is an error and nothing changes, or one path is added.
-/

namespace MediaPaths

namespace Server

open Relation

variable {w v u : Server} {gone : List ActivePath} {p q : ActivePath} {name query : String} {m : Match}
  {bs : List (Server × Server)}

/-! ## Every active path comes under its entry -/

/-- Every active path comes under the entry that applies to it. -/
def Conformed (w : Server) : Prop := ∀ name, Conforms w.registry.store.current name w

theorem Conformed.stir (hw : Conformed w) (hs : Stir w v) (ht : w.Tidy) : Conformed v := by
  intro n
  rw [hs.store ht]
  exact (hw n).congr (hs.still? ht)

/-- Active paths come under their entries once more when something that was asked of a server is done: a reload brings
them in line, and whatever else is asked leaves the configuration alone. -/
theorem obeys_operation_conformed (hx : Ready (fun _ => True) false ⟨w, []⟩) (hw : Conformed w) (o : Operation) :
    Obeys anything (fun x _ => Ready (fun _ => True) false x ∧ x.gone = [] ∧ Conformed x.server) ⟨w, []⟩
      (Plan.ofOperation w o) := by
  have hserves : ∀ t, Touch.Serves w.registry.store.current t → t.Serves w.registry.store.current := fun _ ht => ht
  have hJ := (kept_current hserves).and (Kept.forall (kept_conforms hserves))
  refine obeys_operation hJ (hx.mono ⟨rfl, hw⟩) (fun v hv n m hm => ?_) (fun _ => trivial) (fun x hx hg => ?_)
    (fun c hc => ?_) o
  · show w.registry.store.current.find n = .ok m
    rw [← hv.1]
    exact hm
  · refine ⟨hx.mono trivial, hg, fun n => ?_⟩
    rw [hx.kept.1]
    exact hx.kept.2 n
  · refine (obeys_apply_settled hx hc).mono fun x _ hx => ⟨hx.1, hx.2.1, fun n => ?_⟩
    rw [hx.2.2.current]
    exact hx.2.2.conforms n

/-- What is known of a server at which nothing is left to be done. -/
structure Rested (w : Server) : Prop where
  /-- Whoever operates it has nothing to do with the lock. -/
  ready : Ready (fun _ => True) false ⟨w, []⟩
  /-- Every active path comes under the entry that applies to it. -/
  conformed : Conformed w
  /-- Whoever has the lock goes on. -/
  diligent : w.Diligent

theorem rested_of_nexts {store : Store} {factory : Workshop} {pause : Nat}
    (hk : ReflTransGen Plan.Next (.fresh store factory pause) (.done w ())) : Rested w := by
  have hfresh := standing_fresh store factory pause
  obtain ⟨-, hready, -⟩ := hfresh.poised
  have hstart : Poised anything (fun x _ => Ready (fun _ => True) false x ∧ x.gone = [] ∧ Conformed x.server)
      (.fresh store factory pause) ⟨Server.fresh store factory pause, []⟩ :=
    ⟨rfl, hready, rfl, fun n => conforms_of_inactive rfl⟩
  obtain ⟨y, hy, hw, hready, hg, hconformed⟩ := hstart.nexts
    (fun w g o hq => by
      obtain ⟨hready, rfl, hconformed⟩ := hq
      exact obeys_operation_conformed hready hconformed o)
    (fun w v g hq hs => ⟨hq.1.stir (kept_trivial anything) hs, hq.2.1,
      Conformed.stir hq.2.2 hs hq.1.inOrder.assigned.tidy⟩) hfresh.inOrder hk
  have hdiligent : y.server.Diligent :=
    (kept_diligent _).turns hfresh.inOrder (diligent_fresh store factory pause) hy
  obtain ⟨w', g⟩ := y
  obtain rfl : w' = w := hw
  obtain rfl : g = [] := hg
  exact ⟨hready, hconformed, hdiligent⟩

/-! ## The lock is got -/

/-- The owner that has the lock answers the request that it is at, and gives the lock back. -/
theorem Diligent.stir_release (hw : w.Diligent) (hord : w.Assigned) {j : Nat}
    (hl : w.registry.lock.holder = some (.owner j)) :
    ∃ v, Stir w v ∧ v.registry.lock = w.registry.lock.release := by
  obtain ⟨hq, ht⟩ := hw.holder_goes hord.tidy.owned hl
  obtain ⟨v, hv⟩ := Option.isSome_iff_exists.1 ht
  have hheld : w.registry.lock.isHeldBy (.owner j) = true := Lock.isHeldBy_iff.2 hl
  refine ⟨_, .task hq hv, ?_⟩
  rw [registry_elim_setAlarms]
  obtain ⟨s, r, hs, hr⟩ := hw.engaged j (Lock.mem_parties_of_isHeldBy hheld)
  obtain ⟨h, hi, rfl⟩ := Option.map_eq_some_iff.1 hs
  obtain ⟨name, id, ho⟩ := hord.tidy.owned.of_getElem? hi
  rw [stepTask_serving hi ho hr] at hv
  cases attends_of_servePath hv with
  | closed hreach =>
    rw [Registry.isReachable, hord.isOpen] at hreach
    cases hreach
  | answers _ hv =>
    rw [hv, registry_release, registry_settleRequest]
    exact congrArg Lock.release (lock_consider _ _ _ _)
  | yields _ _ hv => rw [hv, registry_release, registry_settleRequest]
  | declines hnot =>
    rw [hheld] at hnot
    cases hnot
  | asks hnot => exact absurd (Lock.mem_parties_of_isHeldBy hheld) hnot

/-- Whoever waits for the lock gets it: those in front give it back one after the other. -/
theorem Diligent.exists_isHeldBy (hw : w.Diligent) (hord : Scene.InOrder ⟨w, gone⟩)
    (hp : .operator ∈ w.registry.lock.parties) :
    ∃ v, Stirs w v ∧ v.registry.lock.isHeldBy .operator = true := by
  generalize hn : w.registry.lock.waiting.length = n
  induction n generalizing w with
  | zero =>
    refine ⟨w, .refl, Lock.isHeldBy_iff.2 ?_⟩
    rw [Lock.parties, List.length_eq_zero_iff.1 hn, List.append_nil] at hp
    exact Option.mem_toList.1 hp
  | succ n ih =>
    obtain ⟨q, hq⟩ : ∃ q, w.registry.lock.holder = some q := by
      refine Option.ne_none_iff_exists'.1 fun hnone => ?_
      rw [hw.fair (by simp [Lock.isFree, hnone])] at hn
      cases hn
    cases q with
    | operator => exact ⟨w, .refl, Lock.isHeldBy_iff.2 hq⟩
    | owner j =>
      obtain ⟨v, hv, hlock⟩ := hw.stir_release hord.assigned hq
      have hwaits : .operator ∈ w.registry.lock.waiting := by
        rw [Lock.parties, hq] at hp
        simpa using hp
      obtain ⟨u, hu, hheld⟩ := ih (hw.stir hord.assigned hv) (hord.stir hv)
        (by rw [hlock, Lock.parties_release]; exact hwaits)
        (by rw [hlock, Lock.release, List.length_tail, hn]; rfl)
      exact ⟨u, .head hv hu, hheld⟩

/-- While one waits for the lock, one goes on waiting, and calls are attended to. -/
theorem Stirs.awaits (hs : Stirs w v) (hx : Scene.InOrder ⟨w, gone⟩) (hw : w.Diligent)
    (hp : .operator ∈ w.registry.lock.parties) : v.Diligent ∧ .operator ∈ v.registry.lock.parties := by
  induction hs with
  | refl => exact ⟨hw, hp⟩
  | tail hpath hs ih =>
    have hord := (hx.stirs hpath).assigned
    obtain ⟨i, hsteps⟩ := hs.lock hord.tidy.owned
    have hne : Party.operator ≠ .owner i := nofun
    exact ⟨ih.1.stir hord hs, (hsteps.mem_iff hne).2 ih.2⟩

/-! ## The bouts of a plan -/

section

variable {α : Type} {a : α} {k l : Plan α} {next : Server → Plan α} {t : Wait}

theorem Plan.Bouts.of_done (hb : (Plan.done w a).Bouts bs l) : bs = [] ∧ ∃ v, Stirs w v ∧ l = .done v a := by
  generalize hk : Plan.done w a = k at hb
  induction hb generalizing w with
  | refl => exact ⟨rfl, w, .refl, hk.symm⟩
  | stir hs _ ih =>
    subst hk
    obtain ⟨hnil, u, hu, hl⟩ := ih rfl
    exact ⟨hnil, u, .head hs hu, hl⟩
  | go => cases hk

/-- One waits still, or what one waits for is over at some moment, and one has gone on from there. -/
theorem Plan.Bouts.of_wait (hb : (Plan.wait w t next).Bouts bs l) :
    (bs = [] ∧ ∃ v, Stirs w v ∧ l = .wait v t next) ∨
      ∃ v bs', Stirs w v ∧ t.isOver v = true ∧ bs = (v, (next v).server) :: bs' ∧ (next v).Bouts bs' l := by
  generalize hk : Plan.wait w t next = k at hb
  induction hb generalizing w with
  | refl => exact .inl ⟨rfl, w, .refl, hk.symm⟩
  | stir hs _ ih =>
    subst hk
    rcases ih rfl with ⟨hnil, u, hu, hl⟩ | ⟨u, bs', hu, hover, hbs, hb⟩
    · exact .inl ⟨hnil, u, .head hs hu, hl⟩
    · exact .inr ⟨u, bs', .head hs hu, hover, hbs, hb⟩
  | go hover hb =>
    cases hk
    exact .inr ⟨_, _, .refl, hover, rfl, hb⟩

/-- As soon as what one waits for is over, one goes on. -/
theorem Plan.bouts_of_isOver (hs : Stirs w v) (ho : t.isOver v = true) :
    (Plan.wait w t next).Bouts [(v, (next v).server)] (next v) := by
  induction hs using ReflTransGen.head_induction_on with
  | refl => exact .go ho (.refl _)
  | head hs _ ih => exact .stir hs ih

end

/-! ## What an activation does at once -/

/-- Nothing changes but who has to do with the lock, who stands in line, and how many numbers were given to
activations. -/
structure Untouched (w v : Server) : Prop where
  /-- The supervisors stay as they are, and none is made. -/
  hosts : v.hosts = w.hosts
  /-- The active paths, the configuration and what subscribers were told stay as they are. -/
  registry : v.registry = { w.registry with lock := v.registry.lock, nextId := v.registry.nextId }
  /-- Nothing is logged. -/
  log : v.log = w.log
  /-- No time passes, and no alarm is set. -/
  clock : v.now = w.now ∧ v.alarms = w.alarms

theorem untouched_refl (w : Server) : Untouched w w := ⟨rfl, rfl, rfl, rfl, rfl⟩

theorem untouched_numbered (w : Server) : Untouched w (w.setRegistry w.numbered) := ⟨rfl, rfl, rfl, rfl, rfl⟩

theorem Untouched.trans (h : Untouched w v) (h' : Untouched v u) : Untouched w u := by
  refine ⟨h'.hosts.trans h.hosts, ?_, h'.log.trans h.log, h'.clock.1.trans h.clock.1, h'.clock.2.trans h.clock.2⟩
  rw [h'.registry, h.registry]

theorem untouched_release (w : Server) : Untouched w w.release := by
  refine ⟨hosts_release w, by rw [registry_release], ?_, clock_release w⟩
  unfold release
  dsimp only
  split
  · unfold enqueue
    split <;> rfl
  · rfl

/-- A path is added as it is at first, and a supervisor if it needs one. -/
structure Adds (name query : String) (m : Match) (p : ActivePath) (w v : Server) : Prop where
  /-- The path was not active. -/
  inactive : w.registry.get? name = none
  /-- It comes under the entry that was looked up, with its groups and the query. -/
  path : p = w.activation name m query p.origin
  /-- It is not ready. -/
  unready : p.isReady = false
  /-- It is the one that is added. -/
  registry : v.registry = { w.registry with
    paths := w.registry.paths ++ [p]
    nextId := w.registry.nextId + 1
    lock := v.registry.lock }
  /-- It needs no supervisor, or one was made and started for it. -/
  hosts : p.origin.host? = none ∧ v.hosts = w.hosts ∨
    p.origin = .source w.hosts.length ∧ ∃ s, v.hosts = w.hosts ++ [hired s name w.registry.nextId m query]

theorem adds_build (hw : w.Owned) (hn : w.registry.get? name = none) (h : (w.build name m query).2 = .ok p) :
    Adds name query m p w (w.build name m query).1.release := by
  obtain ⟨ms, hb⟩ := built_of_build hw name m query
  rw [h] at hb
  have hregistry : ∀ {x : Server} {q : ActivePath}, x.registry = w.numbered.insert q → x.release.registry =
      { w.registry with
        paths := w.registry.paths ++ [q]
        nextId := w.registry.nextId + 1
        lock := x.release.registry.lock } := by
    intro x q hx
    rw [registry_release, hx]
    rfl
  cases hb with
  | pulled hs hh hr =>
    exact ⟨hn, rfl, rfl, hregistry hr, .inr ⟨rfl, _, (hosts_release _).trans hh⟩⟩
  | redirected _ _ hh hr | published _ _ hh hr =>
    exact ⟨hn, rfl, rfl, hregistry hr, .inl ⟨rfl, (hosts_release _).trans hh⟩⟩

/-- The factory refuses to make the source of an entry. -/
def Refused (w : Server) (e : Entry) (err : SourceError) : Prop :=
  ∃ kind, e.settings.sourceKind? = some kind ∧
    w.registry.factory.factory w.registry.nextId kind e w.registry.store.current.options = .error err

theorem map_eq_error {ε α β : Type} {f : α → β} {x : Except ε α} {err : ε} (h : x.map f = .error err) :
    x = .error err := by
  cases x with
  | error e =>
    cases h
    rfl
  | ok => cases h

/-- When a path cannot be made active, the factory has refused, and nothing has changed. -/
theorem refused_of_build {err : SourceError} (h : (w.build name m query).2 = .error err) :
    w.Refused m.entry err ∧ Untouched w (w.build name m query).1.release := by
  unfold build at h ⊢
  dsimp only at h ⊢
  split at h
  · rename_i e he
    cases h
    unfold originate at he
    dsimp only at he
    split at he
    · rename_i hstatic
      obtain ⟨kind, hkind⟩ := Option.isSome_iff_exists.1 hstatic
      have hcreate := map_eq_error (map_eq_error he)
      rw [Supervisor.create, hkind] at hcreate
      exact ⟨⟨kind, hkind, map_eq_error hcreate⟩, (untouched_numbered w).trans (untouched_release _)⟩
    · split at he <;> cases he
  · cases h

/-- The lock is asked for. -/
def asking (w : Server) : Server :=
  w.setRegistry { w.registry with lock := w.registry.lock.request .operator }

theorem untouched_asking (w : Server) : Untouched w w.asking := ⟨rfl, rfl, rfl, rfl, rfl⟩

/-! ## What an activation comes to -/

/-- What an activation comes to, and what its bouts have done. -/
inductive Activates (w : Server) (name query : String) (bs : List (Server × Server)) :
    Except ServerError ActivePath → Prop where
  /-- The path is active, and is found as it is at some moment. Nothing changes. -/
  | found {p q : ActivePath} {v v' : Server} (hp : w.registry.get? name = some p) (hq : q.still = p.still)
      (hbs : (v, v') ∈ bs) (hv : v.registry.get? name = some q)
      (hsame : ∀ s ∈ bs, Untouched s.1 s.2 ∧ s.2.registry.nextId = s.1.registry.nextId) :
      Activates w name query bs (.ok q)
  /-- The path is not active, and no entry applies to it. Nothing changes. -/
  | unknown {e : LookupError} (hn : w.registry.get? name = none) (he : w.registry.store.find name = .error e)
      (hsame : ∀ s ∈ bs, Untouched s.1 s.2) : Activates w name query bs (.error (.lookup e))
  /-- The path is not active, and the factory refuses to make its source. Nothing changes. -/
  | refused {m : Match} {e : SourceError} {v v' : Server} (hn : w.registry.get? name = none)
      (hm : w.registry.store.find name = .ok m) (hbs : (v, v') ∈ bs) (he : v.Refused m.entry e)
      (hsame : ∀ s ∈ bs, Untouched s.1 s.2) : Activates w name query bs (.error (.source e))
  /-- The path is not active. It is added by the last bout, and nothing else changes. -/
  | added {m : Match} {p : ActivePath} {ss : List (Server × Server)} {v v' : Server}
      (hn : w.registry.get? name = none) (hm : w.registry.store.find name = .ok m) (hbs : bs = ss ++ [(v, v')])
      (hsame : ∀ s ∈ ss, Untouched s.1 s.2) (hp : Adds name query m p v v') : Activates w name query bs (.ok p)

theorem Stirs.still? (hs : Stirs w v) (hx : Scene.InOrder ⟨w, gone⟩) : v.still? = w.still? := by
  induction hs with
  | refl => rfl
  | tail hpath hs ih => exact (hs.still? (hx.stirs hpath).assigned.tidy).trans ih

/-- A path that is active can be looked up. -/
theorem Rested.get?_eq_none {e : LookupError} (hw : w.Rested) (he : w.registry.store.find name = .error e) :
    w.registry.get? name = none := by
  cases hp : w.registry.get? name with
  | none => rfl
  | some p =>
    obtain ⟨m, hm, -⟩ := hw.conformed name p hp
    cases hm.symm.trans he

/-- What is done once the lock is got, and what has come of it. -/
def settleActivation (w : Server) (name : String) (m : Match) (query : String) :
    Server × Except ServerError ActivePath :=
  match w.registry.get? name with
  | some p => (w.release, .ok p)
  | none => ((w.build name m query).1.release, (w.build name m query).2.mapError .source)

theorem Plan.activate_eq (hm : w.registry.store.find name = .ok m) : Plan.activate w name query =
    .wait w.asking .lock fun v =>
      .done (v.settleActivation name m query).1 (v.settleActivation name m query).2 := by
  unfold Plan.activate
  rw [hm]
  refine congrArg (Plan.wait _ _) (funext fun v => ?_)
  simp only [Plan.bind, settleActivation]
  cases v.registry.get? name <;> rfl

/-- Once the lock is got, the path is found active, or the factory refuses, or it is added. -/
theorem activates_of_held (hm : w.registry.store.find name = .ok m) {x : Server} (hx : Untouched w x)
    (hnumber : x.registry.nextId = w.registry.nextId) (hv : v.Owned) (hstill : v.still? = w.still?) :
    Activates w name query [(w, x), (v, (v.settleActivation name m query).1)]
      (v.settleActivation name m query).2 := by
  have hlast : ∀ {y : Server}, (v, y) ∈ [(w, x), (v, y)] := List.mem_cons_of_mem _ (List.mem_singleton_self _)
  unfold settleActivation
  cases hq : v.registry.get? name with
  | some q =>
    obtain ⟨p, hp, hstill⟩ := Option.map_eq_some_iff.1 (hstill ▸ still?_of_get? hq)
    have hnumber' : v.release.registry.nextId = v.registry.nextId := by rw [registry_release]
    exact .found hp hstill.symm hlast hq (by simpa using ⟨⟨hx, hnumber⟩, untouched_release v, hnumber'⟩)
  | none =>
    have hn : w.registry.get? name = none := still?_eq_none.1 (hstill ▸ still?_eq_none.2 hq)
    cases hresult : (v.build name m query).2 with
    | error err =>
      obtain ⟨hrefused, hsame⟩ := refused_of_build hresult
      exact .refused hn hm hlast hrefused (by simpa using ⟨hx, hsame⟩)
    | ok p =>
      exact .added hn hm (show _ = [(w, x)] ++ [_] from rfl) (by simpa using hx) (adds_build hv hq hresult)

/-- Whatever has been asked of a server before, an activation comes to an end from wherever it stands. It finds the path
active, if it is, and changes nothing; it fails and changes nothing; or it adds the path. -/
theorem activate_outcome (store : Store) (factory : Workshop) (pause : Nat) {w : Server}
    (hk : ReflTransGen Plan.Next (.fresh store factory pause) (.done w ())) (name query : String) :
    (∀ bs l, (Plan.activate w name query).Bouts bs l → ∃ bs' u r, l.Bouts bs' (.done u r)) ∧
    ∀ bs u r, (Plan.activate w name query).Bouts bs (.done u r) →
      Activates w name query ((w, (Plan.activate w name query).server) :: bs) r := by
  have hrested := rested_of_nexts hk
  cases hfind : w.registry.store.find name with
  | error e =>
    have hplan : Plan.activate w name query = .done w (.error (.lookup e)) := by rw [Plan.activate, hfind]
    rw [hplan]
    refine ⟨fun bs l hb => ?_, fun bs u r hb => ?_⟩
    · obtain ⟨-, v, -, rfl⟩ := hb.of_done
      exact ⟨[], v, _, .refl _⟩
    · obtain ⟨rfl, v, -, hl⟩ := hb.of_done
      cases hl
      exact .unknown (hrested.get?_eq_none hfind) hfind (List.forall_mem_singleton.2 (untouched_refl w))
  | ok m =>
    have hrequest : Deed anything ⟨w, []⟩ ⟨w.asking, []⟩ := .request (hrested.ready.away rfl)
    have hord := hrested.ready.inOrder.deed hrequest
    rw [Plan.activate_eq hfind]
    refine ⟨fun bs l hb => ?_, fun bs u r hb => ?_⟩
    · rcases hb.of_wait with ⟨-, v, hv, rfl⟩ | ⟨v, bs', -, -, -, hrest⟩
      · -- one waits still
        obtain ⟨hdiligent, hparty⟩ := hv.awaits hord hrested.diligent.request
          ((Lock.parties_request _ _).mem_iff.2 (List.mem_cons_self ..))
        obtain ⟨u, hu, hheld⟩ := hdiligent.exists_isHeldBy (hord.stirs hv) hparty
        exact ⟨_, _, _, Plan.bouts_of_isOver hu hheld⟩
      · obtain ⟨-, u, -, rfl⟩ := hrest.of_done
        exact ⟨[], u, _, .refl _⟩
    · rcases hb.of_wait with ⟨-, v, -, hl⟩ | ⟨v, bs', hv, -, rfl, hrest⟩
      · cases hl
      · obtain ⟨rfl, x, -, hl⟩ := hrest.of_done
        cases hl
        exact activates_of_held hfind (untouched_asking w) rfl (hord.stirs hv).assigned.tidy.owned (hv.still? hord)

/-- The one camera that is configured was activated, and it was configured anew. It is activated again, with another
query, and then a door that there is not. -/
theorem activate_outcome_again :
    let camera : Workshop := ⟨fun _ _ _ _ => .ok { behaviour := fun _ => [.awaitStop] }⟩
    let configured (readers : UInt64) := ((({} : Configuration).insert "cam"
      { source := "rtsp://10.0.0.1:554/live", sourceOnDemand := true, maxReaders := readers }).toOption).getD {}
    let idle := Plan.fresh ⟨configured 0⟩ camera 5000
    let first := (Plan.ofOperation idle.server (.activate "cam" "a")).go.turns 6
    let w := ((Plan.ofOperation first.server (.reload (configured 3))).go.turns 6).server
    (∃ p bs u, p.query = "a" ∧ (Plan.activate w "cam" "b").Bouts bs (.done u (.ok p)) ∧
      Activates w "cam" "b" ((w, (Plan.activate w "cam" "b").server) :: bs) (.ok p)) ∧
    Activates w "door" "" [(w, w)] (.error (.lookup (.notConfigured "door"))) := by
  intro camera configured idle first w
  have hfirst : first.isIdle = true := by decide +kernel
  have hlast : ((Plan.ofOperation first.server (.reload (configured 3))).go.turns 6).isIdle = true := by
    decide +kernel
  have hk := (Plan.nexts_ask (k := idle) rfl (.activate "cam" "a") 6).trans
    (Plan.nexts_ask hfirst (.reload (configured 3)) 6)
  rw [Plan.eq_done hlast] at hk
  have hcam : ((w.registry.get? "cam").any fun p => (w.registry.store.find "cam").toOption.any fun _ =>
      p.query == "a" && Wait.lock.isOver w.asking) = true := by decide +kernel
  have hdoor : (w.registry.store.find "door").map (fun _ => ()) = .error (.notConfigured "door") := by decide +kernel
  change ReflTransGen Plan.Next (.fresh ⟨configured 0⟩ camera 5000) (.done w ()) at hk
  clear_value w
  obtain ⟨p, m, hp, hm, hfound⟩ := exists_find (c := w.registry.store.current) hcam
  obtain ⟨hquery, hover⟩ := Bool.and_eq_true_iff.1 hfound
  have hresult : w.asking.settleActivation "cam" m "b" = (w.asking.release, .ok p) := by
    rw [settleActivation, show w.asking.registry.get? "cam" = some p from hp]
  have hbouts : (Plan.activate w "cam" "b").Bouts [(w.asking, w.asking.release)] (.done w.asking.release (.ok p)) := by
    rw [Plan.activate_eq hm]
    have hgo : (Plan.wait w.asking .lock fun v => .done (v.settleActivation "cam" m "b").1
        (v.settleActivation "cam" m "b").2).Bouts _ _ := Plan.bouts_of_isOver .refl hover
    simpa only [hresult, Plan.server] using hgo
  have hcamera := (activate_outcome _ _ _ hk "cam" "b").2 _ _ _ hbouts
  refine ⟨⟨p, _, _, by simpa using hquery, hbouts, hcamera⟩, ?_⟩
  have hplan : Plan.activate w "door" "" = .done w (.error (.lookup (.notConfigured "door"))) := by
    rw [Plan.activate, map_eq_error hdoor]
  have hunknown := (activate_outcome _ _ _ hk "door" "").2 [] w (.error (.lookup (.notConfigured "door")))
  rw [hplan] at hunknown
  exact hunknown (.refl _)

end Server

end MediaPaths
