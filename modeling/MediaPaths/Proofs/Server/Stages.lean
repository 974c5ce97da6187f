import MediaPaths.Proofs.Server.Alignment

/-!
# The stages of operations

A stage is what is left of an operation. It is left behind when what one waits for is there; meanwhile the
server is stirred. All operations obey, so what deeds and stirs keep is kept at every stage.
-/

namespace MediaPaths

namespace Server

open Relation

variable {w v : Server} {x y z : Scene} {i : Nat} {p q : ActivePath} {name reason : String}
  {gone : List ActivePath} {may : Touch → Prop} {J : Scene → Prop}

/-! ## Stages -/

namespace Plan

/-- What becomes of a plan. -/
inductive Goes {α : Type} : Plan α → Plan α → Prop where
  /-- The server is stirred. -/
  | stir {p : Plan α} {v : Server} (hs : Stir p.server v) : Goes p (p.atServer v)
  /-- One waits no longer. -/
  | go {w : Server} {u : Wait} {next : Server → Plan α} (ho : u.isOver w = true) :
      Goes (wait w u next) (next w)

/-- What comes next at a server of which one thing is asked after the other. -/
inductive Next : Plan Unit → Plan Unit → Prop where
  /-- Something is asked of it. -/
  | ask (w : Server) (o : Operation) : Next (done w ()) (ofOperation w o)
  /-- What was asked of it is going on, or nothing is. -/
  | goes {p q : Plan Unit} (h : Goes p q) : Next p q

end Plan

/-- Any change of active paths may be made. -/
def anything (_ : Touch) : Prop := True

/-- Nothing further is to be kept. -/
theorem kept_trivial (may : Touch → Prop) : Kept may fun _ => True :=
  ⟨fun _ _ _ => trivial, fun _ _ _ => trivial⟩

/-- Everything that is asked of a server obeys, if it does to put a configuration in force. -/
theorem obeys_operation {Q : Scene → Prop} (hJ : Kept may J) (hx : Ready J false ⟨w, []⟩)
    (hbuild : ∀ v, J ⟨v, []⟩ → ∀ n m, v.registry.store.find n = .ok m → may (.build n m))
    (hremove : ∀ p, may (.remove p)) (hQ : ∀ x, Ready J false x → x.gone = [] → Q x)
    (happly : ∀ c, c.check = .ok c → Obeys anything (fun x _ => Q x) ⟨w, []⟩ (Plan.apply w c)) (o : Operation) :
    Obeys anything (fun x _ => Q x) ⟨w, []⟩ (Plan.ofOperation w o) := by
  have weaken : ∀ {α : Type} {k : Plan α}, Obeys may (fun x _ => Ready J false x ∧ x.gone = []) ⟨w, []⟩ k →
      Obeys anything (fun x _ => Q x) ⟨w, []⟩ k :=
    fun hk => (hk.widen fun _ _ => trivial).mono fun x _ hx => hQ x hx.1 hx.2
  have ignore : ∀ {α : Type} {k : Plan α}, Obeys anything (fun x _ => Q x) ⟨w, []⟩ k →
      Obeys anything (fun x _ => Q x) ⟨w, []⟩ k.ignore :=
    fun hk => hk.bind fun v g _ hv => .done hv
  cases o with
  | start => exact ignore (weaken (obeys_activateAlwaysOn hJ hx hbuild))
  | activate name query => exact ignore (weaken (obeys_activate hJ hx (hbuild w hx.kept name) query))
  | deactivate name reason => exact ignore (weaken (obeys_deactivate hJ hx hremove name reason))
  | reload c =>
    cases hc : c.check with
    | error e =>
      have hp : Plan.apply w c = .done w (.error (.configuration e)) := by rw [Plan.apply, hc]
      rw [Plan.ofOperation, hp]
      exact ignore (.done (hQ _ hx rfl))
    | ok c' =>
      obtain rfl := check_eq hc
      exact ignore (happly _ hc)
  | shutdown => exact weaken (obeys_shutdown hJ hx hremove)
  | look =>
    refine weaken ((obeys_acquire hJ hx).bind ?_)
    rintro v g - ⟨hv, rfl⟩
    exact .deed (.release (hv.holds rfl)) (.done ⟨hv.release hJ, rfl⟩)

/-- After a configuration was put in force, every active path comes under the entry that applies to it. -/
theorem obeys_apply_settled (hx : Ready J false ⟨w, []⟩) {c : Configuration} (hc : c.check = .ok c) :
    Obeys anything (fun x r => Ready (fun _ => True) false x ∧ x.gone = [] ∧ Settled c x.server r) ⟨w, []⟩
      (Plan.apply w c) := by
  have hk := obeys_apply (fun _ ht => ht) (kept_trivial (Touch.Serves c)) (hx.mono trivial) hc rfl
    fun _ _ _ ht => ht.serves
  exact hk.widen fun _ _ => trivial

/-! ## Every stage -/

/-- What becomes of a scene: a deed is done, or the server is stirred. -/
inductive Scene.Turns (may : Touch → Prop) : Scene → Scene → Prop where
  | deed {x y : Scene} (hd : Deed may x y) : Turns may x y
  | stir {w v : Server} {g : List ActivePath} (hs : Stir w v) : Turns may ⟨w, g⟩ ⟨v, g⟩

theorem Scene.InOrder.turns (hx : x.InOrder) (hs : ReflTransGen (Scene.Turns may) x y) : y.InOrder := by
  induction hs with
  | refl => exact hx
  | tail _ hs ih =>
    cases hs with
    | deed hd => exact ih.deed hd
    | stir hs => exact ih.stir hs

/-- What deeds and stirs keep is kept as a scene goes on. -/
theorem Kept.turns (hJ : Kept may J) (hord : x.InOrder) (hx : J x)
    (hs : ReflTransGen (Scene.Turns may) x y) : J y := by
  induction hs with
  | refl => exact hx
  | tail hpath hs ih =>
    have hord := hord.turns hpath
    cases hs with
    | deed hd => exact hJ.deed hord hd ih
    | stir hs => exact hJ.stir hord hs ih

/-- What becomes of a supervisor while one waits: it goes on by itself. -/
theorem Stir.supervisor (hs : Stir w v) (hw : w.Owned) {t : Supervisor}
    (ht : v.supervisor? i = some t) :
    ∃ s ms, w.supervisor? i = some s ∧ s.run ms = some t ∧ ∀ m ∈ ms, m.isRoutine = true := by
  have same : v.hosts = w.hosts → ∃ s ms, w.supervisor? i = some s ∧ s.run ms = some t ∧
      ∀ m ∈ ms, m.isRoutine = true := fun hh =>
    ⟨t, [], by rw [supervisor?, ← hh, ← supervisor?, ht], rfl, List.forall_mem_nil _⟩
  cases hs with
  | @task j k u hq hu =>
    obtain ⟨ms, hturn⟩ := turn_of_stepTask hw hu
    have hturn := hturn.congr (hosts_elim_setAlarms u j) (registry_elim_setAlarms u j)
    rcases run_of_turn hturn with hh | ⟨h, s, hj, hrun, hh, hms⟩
    · exact same hh
    · by_cases hij : j = i
      · subst hij
        obtain rfl := Option.some.inj ((supervisor?_of_set hj hh).symm.trans ht)
        exact ⟨h.supervisor, ms, by rw [supervisor?, hj]; rfl, hrun, hms⟩
      · rw [supervisor?_of_set_ne hij hh] at ht
        exact ⟨t, [], ht, rfl, List.forall_mem_nil _⟩
  | park | relist => exact same rfl
  | pass => exact same (hosts_passTo _ _)

/-- One still waits for what one has asked for. -/
theorem Wait.Suits.stir {u : Wait} (hu : u.Suits ⟨w, gone⟩) (hw : w.Owned) (hs : Stir w v) :
    u.Suits ⟨v, gone⟩ := by
  cases u with
  | lock =>
    obtain ⟨i, hsteps⟩ := hs.lock hw
    have hne : Party.operator ≠ .owner i := nofun
    exact (hsteps.mem_iff hne).2 hu
  | worker i =>
    refine ⟨hu.1, fun t ht => ?_⟩
    obtain ⟨s, ms, hs, hrun, hms⟩ := hs.supervisor hw ht
    refine (hu.2 s hs).imp (fun hc => ?_) fun hidle => ?_
    · exact Supervisor.cancelled_of_run hc (fun m hm => (Supervisor.gentle_of_routine (hms m hm)).2) hrun
    · have hgentle := fun m hm => Supervisor.gentle_of_routine (hms m hm)
      exact (Supervisor.continues_of_gentle hgentle hrun).1.idle hidle

section

variable {α : Type} {Q : Scene → α → Prop} {k l : Plan α}

/-- However the server is stirred, one stands where a plan begins. -/
theorem Poised.stir (hp : Poised may Q k ⟨w, gone⟩) (hw : w.Owned) (hQ : ∀ a, Q ⟨w, gone⟩ a → Q ⟨v, gone⟩ a)
    (hs : Stir w v) : Poised may Q (k.atServer v) ⟨v, gone⟩ := by
  cases k with
  | done u a =>
    obtain ⟨rfl, hq⟩ := hp
    exact ⟨rfl, hQ a hq⟩
  | wait u wt next =>
    obtain ⟨rfl, hsuits, hnext⟩ := hp
    exact ⟨rfl, hsuits.stir hw hs, fun v' hv' => hnext v' (.head hs hv')⟩

theorem Poised.go {u : Wait} {next : Server → Plan α} (hp : Poised may Q (.wait w u next) x)
    (ho : u.isOver w = true) : ∃ y, ReflTransGen (Deed may) x y ∧ Poised may Q (next w) y := by
  obtain ⟨rfl, -, hnext⟩ := hp
  exact hnext _ .refl ho

theorem Poised.goes (hp : Poised may Q k x) (hx : x.InOrder)
    (hQ : ∀ w v g a, Q ⟨w, g⟩ a → Stir w v → Q ⟨v, g⟩ a) (hg : k.Goes l) :
    ∃ y, ReflTransGen (Scene.Turns may) x y ∧ Poised may Q l y := by
  obtain ⟨w, g⟩ := x
  cases hg with
  | @stir _ v hs =>
    rw [← hp.server] at hs
    exact ⟨⟨v, g⟩, .single (.stir hs), hp.stir hx.assigned.tidy.owned (fun a hq => hQ _ _ _ a hq hs) hs⟩
  | go ho =>
    obtain ⟨y, hy, hp⟩ := hp.go ho
    exact ⟨y, ReflTransGen.mono (fun _ _ => .deed) _ _ hy, hp⟩

end

/-- Where one stands at a stage, deeds and stirs have led from where one stood at an earlier one, as long as
whatever is asked of a server obeys. -/
theorem Poised.nexts {Q : Scene → Prop} {k l : Plan Unit}
    (hask : ∀ w g o, Q ⟨w, g⟩ → Obeys anything (fun x _ => Q x) ⟨w, g⟩ (Plan.ofOperation w o))
    (hQ : ∀ w v g, Q ⟨w, g⟩ → Stir w v → Q ⟨v, g⟩) (hx : x.InOrder) (hp : Poised anything (fun x _ => Q x) k x)
    (hn : ReflTransGen Plan.Next k l) :
    ∃ y, ReflTransGen (Scene.Turns anything) x y ∧ Poised anything (fun x _ => Q x) l y := by
  induction hn with
  | refl => exact ⟨x, .refl, hp⟩
  | tail _ hn ih =>
    obtain ⟨y, hy, hp⟩ := ih
    cases hn with
    | ask w o =>
      obtain ⟨v, g⟩ := y
      obtain ⟨rfl, hq⟩ := hp
      obtain ⟨z, hz, hl⟩ := hask v g o hq
      exact ⟨z, hy.trans (ReflTransGen.mono (fun _ _ => .deed) _ _ hz), hl⟩
    | goes h =>
      obtain ⟨z, hz, hl⟩ := hp.goes (hx.turns hy) (fun w v g _ hq hs => hQ w v g hq hs) h
      exact ⟨z, hy.trans hz, hl⟩

/-- A scene at which a stage stands. -/
structure Standing (k : Plan Unit) (x : Scene) : Prop where
  inOrder : x.InOrder
  poised : Poised anything (fun x _ => Ready (fun _ => True) false x ∧ x.gone = []) k x

theorem Standing.server {k : Plan Unit} (hk : Standing k x) : x.server = k.server := hk.poised.server

/-- Whatever comes next, deeds and stirs have led to it. -/
theorem Standing.nexts {k l : Plan Unit} (hk : Standing k x) (hn : ReflTransGen Plan.Next k l) :
    ∃ y, ReflTransGen (Scene.Turns anything) x y ∧ Standing l y := by
  have hask : ∀ w g o, Ready (fun _ => True) false ⟨w, g⟩ ∧ g = [] → Obeys anything
      (fun x _ => Ready (fun _ => True) false x ∧ x.gone = []) ⟨w, g⟩ (Plan.ofOperation w o) := by
    rintro w g o ⟨hready, rfl⟩
    refine obeys_operation (kept_trivial anything) hready (fun _ _ _ _ _ => trivial) (fun _ => trivial)
      (fun x hx hg => ⟨hx, hg⟩) (fun c hc => ?_) o
    exact (obeys_apply_settled hready hc).mono fun x _ hx => ⟨hx.1, hx.2.1⟩
  obtain ⟨y, hy, hl⟩ := hk.poised.nexts hask
    (fun w v g hq hs => ⟨hq.1.stir (kept_trivial anything) hs, hq.2⟩) hk.inOrder hn
  exact ⟨y, hy, hk.inOrder.turns hy, hl⟩

/-- The stage before anything was asked. -/
def Plan.fresh (store : Store) (factory : Workshop) (pause : Nat) : Plan Unit :=
  .done (Server.fresh store factory pause) ()

theorem standing_fresh (store : Store) (factory : Workshop) (pause : Nat) :
    Standing (.fresh store factory pause) ⟨Server.fresh store factory pause, []⟩ := by
  have hord := inOrder_fresh store factory pause
  refine ⟨hord, rfl, ⟨hord, trivial, List.nodup_nil, nofun, fun _ => List.not_mem_nil⟩, rfl⟩

/-! ## Stages that are computed -/

namespace Plan

/-- One goes on unless one still has to wait. -/
def go : Plan Unit → Plan Unit
  | done w a => done w a
  | wait w u next => if u.isOver w then next w else wait w u next

/-- Some number of times, the first task in line takes a step or leaves the line. -/
def turns : Nat → Plan Unit → Plan Unit
  | 0, k => k
  | n + 1, k => turns n (k.atServer k.server.step)

theorem nexts_go (k : Plan Unit) : ReflTransGen Next k k.go := by
  cases k with
  | done w a => exact .refl
  | wait w u next =>
    cases ho : u.isOver w with
    | true => exact .single (by rw [go, if_pos ho]; exact .goes (.go ho))
    | false => rw [go, if_neg (by simp [ho])]

theorem nexts_stirs {k : Plan Unit} (hs : Stirs k.server v) : ReflTransGen Next k (k.atServer v) := by
  induction hs with
  | refl => cases k <;> exact .refl
  | @tail u v _ hs ih =>
    have hself : (k.atServer u).server = u := by cases k <;> rfl
    have hgoes := Goes.stir (p := k.atServer u) (hself.symm ▸ hs)
    have hcollapse : (k.atServer u).atServer v = k.atServer v := by cases k <;> rfl
    exact ih.tail (.goes (hcollapse ▸ hgoes))

theorem nexts_turns (n : Nat) (k : Plan Unit) : ReflTransGen Next k (k.turns n) := by
  induction n generalizing k with
  | zero => exact .refl
  | succ n ih => exact (nexts_stirs (stirs_step _)).trans (ih _)

/-- Nothing is left to be done. -/
def isIdle : Plan Unit → Bool
  | done _ _ => true
  | wait _ _ _ => false

theorem eq_done {k : Plan Unit} (hk : k.isIdle = true) : k = done k.server () := by
  cases k with
  | done w a => rfl
  | wait w u next => cases hk

/-- Something is asked of a server at which nothing is left to be done, and for a while tasks take steps. -/
theorem nexts_ask {k : Plan Unit} (hk : k.isIdle = true) (o : Operation) (n : Nat) :
    ReflTransGen Next k ((ofOperation k.server o).go.turns n) := by
  cases k with
  | done w a => exact .head (.ask w o) ((nexts_go _).trans (nexts_turns _ _))
  | wait w u next => cases hk

end Plan

end Server

end MediaPaths
