import Mathlib.Logic.Function.Basic
import MediaPaths.Proofs.Server.Scenes

/-!
# What subscribers learn

Whoever puts together all events that a server has sent knows which paths are ready and with which media. A
path that is no longer active may have been ready, and subscribers believe so until they are told: in every
scene, what they believe is the media of the active paths and of those that are not done with.

That a path is no longer active is told once each time that this happens. In a reload this is decided once
all active paths were brought in line: a path of which it was told then may be made active again afterwards.
-/

namespace MediaPaths

/-- The media of each path that is ready. -/
abbrev Picture : Type := String → Option (List Media)

namespace PathEvent

/-- The picture after one more event. -/
def paint (m : Picture) : PathEvent → Picture
  | ready path medias => Function.update m path (some medias)
  | notReady path | removed path _ => Function.update m path none

end PathEvent

/-- What some events tell, the earliest first. -/
def told (es : List PathEvent) : Picture := es.foldl PathEvent.paint fun _ => none

/-- The picture that some paths make. -/
def view (ps : List ActivePath) : Picture := fun name =>
  (ps.find? (·.name == name)).bind (·.medias)

namespace Server

open Scene

variable {w v w' : Server} {x y x₀ : Scene} {ps qs : List ActivePath} {p q : ActivePath} {name : String}
  {es : List PathEvent} {e : PathEvent} {k : Manner}

/-- Which paths are ready, and with which media. -/
def media (w : Server) : Picture := view w.registry.paths

/-! ## Subscribers -/

/-- How many events a subscriber has missed, and the others that it was sent, if it looks up the news after
each of some lives of a server in turn and was sent some number of events before. -/
def heard (w : Server) (known : Nat) : List (List Incident) → Nat × List PathEvent
  | [] => (0, [])
  | is :: iss =>
    let v := w.life is
    let news := v.registry.news known
    let later := v.heard v.registry.sent.length iss
    (news.1 + later.1, news.2 ++ later.2)

/-! ## Departures -/

/-- How often a path is told to be no longer active. -/
def farewells (w : Server) (name : String) : Nat :=
  (w.registry.sent.filterMap (·.removed?)).count name

/-- The servers among which an incident decides about the paths that are active. In a reload some become
inactive first, and then others become active. -/
def stages (w : Server) : Incident → List Server
  | .event (.operation (.reload c)) =>
    match c.check with
    | .ok c => [(w.aligned c).1, (w.apply c).1]
    | .error _ => []
  | n => [w.undergo n]

/-- The servers among which some incidents decide about the paths that are active. -/
def moments (w : Server) : List Incident → List Server
  | [] => []
  | n :: is => w.stages n ++ (w.undergo n).moments is

/-- Whether a path has become inactive, as a number. -/
def departure (name : String) (w v : Server) : Nat :=
  if w.registry.isActive name && !v.registry.isActive name then 1 else 0

/-- How often a path becomes inactive from a server to the first of others and among these. -/
def departures (name : String) (w : Server) : List Server → Nat
  | [] => 0
  | v :: vs => departure name w v + departures name v vs

/-! ## Pictures -/

theorem told_concat (es : List PathEvent) (e : PathEvent) : told (es ++ [e]) = e.paint (told es) := by
  simp [told, List.foldl_append]

theorem view_of_mem (hn : (ps.map (·.name)).Nodup) (hp : p ∈ ps) : view ps p.name = p.medias := by
  have hg := get?_of_mem (r := { factory := ⟨fun _ _ _ _ => .error .exited⟩, paths := ps }) hn hp
  change ps.find? (·.name == p.name) = some p at hg
  rw [view, hg]
  rfl

theorem view_of_not_mem (hn : ∀ p ∈ ps, p.name ≠ name) : view ps name = none := by
  have hnone : ps.find? (·.name == name) = none :=
    List.find?_eq_none.2 fun p hp => by simpa using hn p hp
  rw [view, hnone]
  rfl

/-- In which order paths of different names are does not matter. -/
theorem view_perm (hn : (ps.map (·.name)).Nodup) (hp : qs.Perm ps) : view qs = view ps := by
  funext name
  by_cases hname : ∃ p ∈ ps, p.name = name
  · obtain ⟨p, hmem, rfl⟩ := hname
    rw [view_of_mem hn hmem, view_of_mem ((hp.map _).nodup_iff.2 hn) (hp.mem_iff.2 hmem)]
  · simp only [not_exists, not_and] at hname
    rw [view_of_not_mem hname, view_of_not_mem fun q hq => hname q (hp.mem_iff.1 hq)]

theorem view_cons (p : ActivePath) (ps : List ActivePath) :
    view (p :: ps) = Function.update (view ps) p.name p.medias := by
  funext name
  by_cases hn : p.name = name
  · subst hn
    simp [view]
  · rw [Function.update_of_ne (Ne.symm hn), view, List.find?_cons_of_neg (by simpa using hn), view]

/-- The picture of paths among which there is one of some name. -/
theorem view_middle (hn : ((ps ++ p :: qs).map (·.name)).Nodup) :
    view (ps ++ p :: qs) = Function.update (view (ps ++ qs)) p.name p.medias := by
  rw [← view_cons]
  exact view_perm ((List.perm_middle.map _).nodup_iff.1 hn) List.perm_middle

/-- The picture after an active path was changed. -/
theorem view_set {r : Registry} (hp : r.get? p.name = some p) (hq : q.name = p.name) :
    view ((r.set q).paths ++ ps) = Function.update (view (r.paths ++ ps)) p.name q.medias := by
  have hview : ∀ (r : Registry) name, view (r.paths ++ ps) name =
      ((r.get? name).or (ps.find? (·.name == name))).bind (·.medias) := fun r name => by
    rw [view, List.find?_append]
    rfl
  funext name
  rw [hview, get?_set, hq]
  by_cases hn : name = p.name
  · subst hn
    rw [hp, Function.update_self]
    simp
  · rw [Function.update_of_ne hn, hview]
    cases hg : r.get? name with
    | none => rfl
    | some o =>
      have ho : o.name ≠ p.name := fun h => hn ((name_of_get? hg).symm.trans h)
      simp [ho]

/-- Nothing changes if it is told of a path what is known of it. -/
theorem view_known (hn : (ps.map (·.name)).Nodup) (hp : p ∈ ps) :
    Function.update (view ps) p.name p.medias = view ps := by
  rw [← view_of_mem hn hp]
  exact Function.update_eq_self ..

/-- A path that is not ready is not in the picture. -/
theorem view_unready (hn : ((ps ++ p :: qs).map (·.name)).Nodup) :
    Function.update (view (ps ++ qs)) p.name none = view (ps ++ qs) := by
  have hnot := (List.nodup_cons.1 ((List.perm_middle.map _).nodup_iff.1 hn)).1
  have hnone : view (ps ++ qs) p.name = none :=
    view_of_not_mem fun q hq heq => hnot (heq ▸ List.mem_map_of_mem hq)
  rw [← hnone]
  exact Function.update_eq_self ..

/-! ## Scenes and what is told of them -/

/-- That a path is no longer ready was only told if it had been told before that it is; the latest event
is first. -/
def Warned (es : List PathEvent) : Prop :=
  ∀ later name earlier, es = later ++ .notReady name :: earlier →
    (told earlier.reverse name).isSome = true

theorem warned_nil : Warned [] := fun later _ _ h => by cases later <;> cases h

theorem Warned.cons (hes : Warned es)
    (he : ∀ name, e = .notReady name → (told es.reverse name).isSome = true) : Warned (e :: es) := by
  intro later name earlier h
  cases later with
  | nil =>
    obtain ⟨rfl, rfl⟩ := List.cons.inj h
    exact he name rfl
  | cons e' later => exact hes later name earlier (List.cons.inj h).2

/-- What was told is the media of the paths that are active or not done with. -/
structure Scene.Mirrored (x : Scene) : Prop where
  /-- The picture. -/
  picture : told x.server.registry.sent.reverse = view (x.server.registry.paths ++ x.gone)
  /-- Only what was told to be ready is told not to be any longer. -/
  warned : Warned x.server.registry.sent

/-- Nothing is told, and no media change. -/
theorem Scene.Mirrored.same (hx : x.Mirrored)
    (hs : y.server.registry.sent = x.server.registry.sent)
    (hv : view (y.server.registry.paths ++ y.gone) = view (x.server.registry.paths ++ x.gone)) :
    y.Mirrored :=
  ⟨by rw [hs, hx.picture, hv], hs ▸ hx.warned⟩

/-- It is told how the media of one path have changed. -/
theorem Scene.Mirrored.tell (hx : x.Mirrored)
    (hs : y.server.registry.sent = e :: x.server.registry.sent)
    (hv : view (y.server.registry.paths ++ y.gone) = e.paint (view (x.server.registry.paths ++ x.gone)))
    (he : ∀ name, e = .notReady name →
      (view (x.server.registry.paths ++ x.gone) name).isSome = true) : y.Mirrored := by
  refine ⟨?_, ?_⟩
  · rw [hs, List.reverse_cons, told_concat, hx.picture, hv]
  · rw [hs]
    exact hx.warned.cons fun name hn => by rw [hx.picture]; exact he name hn

/-- The owner considers an announcement, and tells what it has made of it. -/
theorem Scene.Mirrored.consider {gone : List ActivePath} {id : Nat} {a : Announcement}
    (hx : Scene.Mirrored ⟨w, gone⟩) (hord : Scene.InOrder ⟨w, gone⟩)
    (hr : v.registry = { (w.consider name id a).1.registry with lock := v.registry.lock }) :
    Scene.Mirrored ⟨v, gone⟩ := by
  have hget : ∀ {p}, w.registry.activation? name id = some p →
      w.registry.get? p.name = some p := fun hp => by
    obtain ⟨hp, -⟩ := Option.filter_eq_some_iff.1 hp
    exact name_of_get? hp ▸ hp
  have hsame : v.registry = { w.registry with lock := v.registry.lock } →
      Scene.Mirrored ⟨v, gone⟩ := fun hr =>
    ⟨by rw [show v.registry.sent = w.registry.sent by rw [hr],
        show v.registry.paths = w.registry.paths by rw [hr]]; exact hx.picture,
      by rw [show v.registry.sent = w.registry.sent by rw [hr]]; exact hx.warned⟩
  unfold Server.consider at hr
  split at hr
  · rename_i medias p hp
    refine hx.tell (e := .ready p.name medias) (by rw [hr]; rfl) ?_ nofun
    rw [show v.registry.paths = (w.registry.set { p with medias := some medias }).paths by rw [hr]; rfl]
    exact view_set (hget hp) rfl
  · exact hsame hr
  · rename_i p hp
    split at hr
    · rename_i hready
      refine hx.tell (e := .notReady p.name) (by rw [hr]; rfl) ?_ fun n hn => ?_
      · rw [show v.registry.paths = (w.registry.set { p with medias := none }).paths by rw [hr]; rfl]
        exact view_set (hget hp) rfl
      · cases hn
        rw [view_of_mem hord.distinct (List.mem_append_left _ (mem_of_get? (hget hp)))]
        exact hready
    · exact hsame hr
  · exact hsame hr

theorem Scene.Mirrored.task {gone : List ActivePath} {i : Nat} {t : Task}
    (hx : Scene.Mirrored ⟨w, gone⟩) (hord : Scene.InOrder ⟨w, gone⟩) (ht : w.stepTask i t = some v) :
    Scene.Mirrored ⟨v.hosts[i]?.elim v (v.setAlarms i), gone⟩ := by
  have hsame : ∀ {u : Server}, u.registry = { w.registry with lock := u.registry.lock } →
      Scene.Mirrored ⟨u, gone⟩ := fun hr =>
    ⟨by rw [hr]; exact hx.picture, by rw [hr]; exact hx.warned⟩
  obtain ⟨ms, hturn⟩ := turn_of_stepTask hord.assigned.tidy.owned ht
  have hturn := hturn.congr (hosts_elim_setAlarms v i) (registry_elim_setAlarms v i)
  cases hturn with
  | own _ _ _ hr => exact hsame (by rw [hr])
  | line _ hr | decline _ _ _ _ hr => exact hsame hr
  | answer _ _ _ _ hr => exact hx.consider hord hr

/-- What was told stays in line with the paths, whatever happens next. -/
theorem Scene.Mirrored.next (hx : x.Mirrored) (hord : x.InOrder) (hs : Scene.Next k x y) :
    y.Mirrored := by
  have htidy := hord.assigned.tidy
  have hd := hord.distinct
  have hdy : ((y.server.registry.paths ++ y.gone).map (·.name)).Nodup := (hord.next hs).distinct
  cases hs with
  | task ht => exact hx.task hord ht
  | park | record | request | replace => exact hx.same rfl rfl
  | @pass w g t => exact hx.same (by rw [registry_passTo]) (by rw [registry_passTo])
  | @release w g => exact hx.same (by rw [registry_release]) (by rw [registry_release])
  | relist hp => exact hx.same rfl (view_perm hd (hp.append_right _))
  | @amend w g p hp entry hn =>
    have hset : view ((w.registry.set { p with entry := entry }).paths ++ g) = _ :=
      view_set (get?_of_mem htidy.distinct hp) rfl
    exact hx.same rfl (hset.trans (view_known hd (List.mem_append_left _ hp)))
  | @inform w g i entry hp => exact hx.same (by rw [registry_reload]) (by rw [registry_reload])
  | cancel | rest => exact hx.same (by rw [registry_modify]) (by rw [registry_modify])
  | @remove w g p hk hp =>
    have hperm := ((paths_remove htidy.distinct hp).append_right g).trans List.perm_middle.symm
    exact hx.same rfl (view_perm hd hperm.symm)
  | clear hk => exact hx.same rfl (by rw [List.append_nil]; rfl)
  | @lose w g p hr =>
    refine hx.tell (e := .notReady p.name) rfl ?_ fun name hn => ?_
    · refine (view_middle hdy).trans ?_
      rw [view_middle hd]
      exact (Function.update_idem ..).symm
    · obtain rfl := PathEvent.notReady.inj hn
      rw [view_of_mem hd (List.mem_append_right _ (List.mem_cons_self ..))]
      exact hr
  | @bury w g p hr reason =>
    refine hx.tell (e := .removed p.name reason) rfl ?_ nofun
    rw [view_middle hd]
    exact (view_unready hd).symm.trans (Function.update_idem ..).symm
  | @build w g name hk hn hg m query =>
    rcases registry_build htidy.owned name m query with ⟨o, -, hr⟩ | ⟨e, -, hr, -⟩
    · refine hx.same (by rw [hr]; rfl) ?_
      rw [paths_insert hr, List.append_assoc] at hdy ⊢
      exact (view_middle hdy).trans (view_unready hdy)
    · exact hx.same (by rw [hr]; rfl) (by rw [hr]; rfl)
  | @renew w g p q m hn hm hr hb =>
    rcases registry_build htidy.owned p.name m p.query with ⟨o, -, hr⟩ | ⟨e, he, -⟩
    · refine hx.same (by rw [hr]; rfl) ?_
      rw [paths_insert hr, List.append_assoc] at hdy ⊢
      rw [view_middle hd, hm]
      exact view_middle hdy
    · cases hb.symm.trans he
  | @refuse w g p m e hn hr hb =>
    rcases registry_build htidy.owned p.name m p.query with ⟨o, ho, -⟩ | ⟨e, -, hr, -⟩
    · cases hb.symm.trans ho
    · exact hx.same (by rw [hr]; rfl) (by rw [hr]; rfl)

theorem Scene.Leads.mirrored (hx : Scene.Leads k x₀ x) (h₀ : x₀.InOrder) (hm : x₀.Mirrored) :
    x.Mirrored :=
  hx.induction h₀ hm fun hord hs hm => hm.next hord hs

/-- Events that were sent stay sent. -/
theorem Scene.Leads.sent_suffix (hx : Scene.Leads k x₀ x) (h₀ : x₀.InOrder) :
    x₀.server.registry.sent <:+ x.server.registry.sent := by
  have hgrow : ∀ {x y : Scene}, x.InOrder → Scene.Next k x y →
      x.server.registry.sent <:+ y.server.registry.sent := fun hord hs => by
    cases hs.outcome hord with
    | quiet hs => exact ⟨_, hs.symm⟩
    | buried _ hs => exact ⟨[_], hs.symm⟩
    | built _ hs => exact ⟨[], hs.symm⟩
  exact hx.induction h₀ (P := fun x => x₀.server.registry.sent <:+ x.server.registry.sent)
    (List.suffix_refl _) fun hord hs h => h.trans (hgrow hord hs)

/-- If none of the later events is lost, the news are all of them. -/
theorem news_eq {r : Registry} {old : List PathEvent} (hs : r.sent = es ++ old)
    (hnone : (r.news old.length).1 = 0) : (r.news old.length).2 = es.reverse := by
  have hfresh : r.sent.take (r.sent.length - old.length) = es := by
    rw [hs]
    simp
  simp only [Registry.news, hfresh] at hnone ⊢
  rw [List.take_of_length_le (Nat.sub_eq_zero_iff_le.1 hnone)]

/-- A subscriber who has missed nothing has heard all that was sent meanwhile. -/
theorem heard_eq {iss : List (List Incident)} (hw : Scene.InOrder ⟨w, []⟩)
    (hmissed : (w.heard w.registry.sent.length iss).1 = 0) :
    w.registry.sent.reverse ++ (w.heard w.registry.sent.length iss).2 =
      (w.life iss.flatten).registry.sent.reverse := by
  induction iss generalizing w with
  | nil => exact List.append_nil _
  | cons is iss ih =>
    have hlife := hw.life is
    obtain ⟨es, hes⟩ := hlife.sent_suffix hw
    obtain ⟨hnow, hlater⟩ := Nat.add_eq_zero_iff.1 hmissed
    calc w.registry.sent.reverse ++ (w.heard w.registry.sent.length (is :: iss)).2
        = (es ++ w.registry.sent).reverse ++
            ((w.life is).heard (w.life is).registry.sent.length iss).2 := by
          rw [heard, news_eq hes.symm hnow, List.reverse_append, List.append_assoc]
      _ = ((w.life is).life iss.flatten).registry.sent.reverse := by
          rw [hes]
          exact ih hlife.inOrder hlater
      _ = (w.life (is :: iss).flatten).registry.sent.reverse := by
          rw [List.flatten_cons, life_append]

/-! ## Counting departures -/

theorem farewells_append {es : List PathEvent}
    (hs : v.registry.sent = es ++ w.registry.sent) :
    v.farewells name = (es.filterMap (·.removed?)).count name + w.farewells name := by
  rw [farewells, hs, List.filterMap_append, List.count_append, farewells]

/-- Where no path is added, names go only with a farewell. -/
theorem Scene.Outcome.farewells (ho : Scene.Outcome k x y) (hk : k.building = false) (name : String) :
    y.server.farewells name + y.names.count name = x.server.farewells name + x.names.count name := by
  cases ho with
  | @quiet es hs he hn =>
    rw [farewells_append hs, List.filterMap_eq_nil_iff.2 he, hn.count_eq]
    simp
  | @buried n reason _ hs hn =>
    have hsent : y.server.registry.sent = [.removed n reason] ++ x.server.registry.sent := hs
    rw [farewells_append hsent, hn.count_eq, List.count_cons]
    simp only [List.filterMap_cons, PathEvent.removed?, List.filterMap_nil, List.count_cons,
      List.count_nil]
    omega
  | built hk' =>
    rw [hk] at hk'
    cases hk'

theorem isActive_iff : w.registry.isActive name = true ↔ name ∈ Scene.names ⟨w, []⟩ := by
  simp [Registry.isActive, Registry.get?, Scene.names]

theorem count_names (hw : Scene.InOrder ⟨w, []⟩) :
    (Scene.names ⟨w, []⟩).count name = if w.registry.isActive name then 1 else 0 := by
  split
  · exact List.count_eq_one_of_mem hw.distinct (isActive_iff.1 ‹_›)
  · exact List.count_eq_zero.2 fun hn => absurd (isActive_iff.2 hn) ‹_›

/-- Where no path is added, there is a farewell for each path that is no longer active. -/
theorem Scene.Leads.farewells_of_removing (hv : Scene.Leads k ⟨w, []⟩ ⟨v, []⟩)
    (hw : Scene.InOrder ⟨w, []⟩) (hk : k.building = false) (name : String) :
    v.farewells name = w.farewells name + departure name w v := by
  have hsum : v.farewells name + (Scene.names ⟨v, []⟩).count name =
      w.farewells name + (Scene.names ⟨w, []⟩).count name :=
    hv.induction hw (P := fun x => x.server.farewells name + x.names.count name =
      w.farewells name + (Scene.names ⟨w, []⟩).count name) rfl
      fun hord hs h => ((hs.outcome hord).farewells hk name).trans h
  obtain ⟨es, hes⟩ := hv.sent_suffix hw
  have hge : v.farewells name = _ + w.farewells name := farewells_append hes.symm
  rw [count_names hw, count_names hv.inOrder] at hsum
  unfold departure
  cases hwa : w.registry.isActive name <;> cases hva : v.registry.isActive name <;>
    simp only [hwa, hva, Bool.false_eq_true, if_true, if_false, Bool.not_true, Bool.not_false,
      Bool.and_true, Bool.and_false] at hsum ⊢ <;>
    omega

/-- Where no path is removed, no path is done with. -/
theorem Scene.Next.gone_eq_nil (hs : Scene.Next k x y) (hk : k.removing = false)
    (hx : x.gone = []) : y.gone = [] := by
  cases hs with
  | remove h | clear h =>
    rw [hk] at h
    cases h
  | lose | bury | renew | refuse => cases hx
  | _ => exact hx

/-- Where no path is removed, there is no farewell, and paths stay active. -/
theorem Scene.Leads.farewells_of_building (hv : Scene.Leads k ⟨w, []⟩ ⟨v, []⟩)
    (hw : Scene.InOrder ⟨w, []⟩) (hk : k.removing = false) (name : String) :
    v.farewells name = w.farewells name + departure name w v := by
  have hkeep : ([] : List ActivePath) = [] ∧ v.farewells name = w.farewells name ∧
      (name ∈ Scene.names ⟨w, []⟩ → name ∈ Scene.names ⟨v, []⟩) :=
    hv.induction hw (P := fun x => x.gone = [] ∧ x.server.farewells name = w.farewells name ∧
      (name ∈ Scene.names ⟨w, []⟩ → name ∈ x.names)) ⟨rfl, rfl, id⟩ fun hord hs h => by
        obtain ⟨hgone, hsame, hstay⟩ := h
        refine ⟨hs.gone_eq_nil hk hgone, ?_⟩
        cases hs.outcome hord with
        | quiet hs he hn =>
          rw [farewells_append hs, List.filterMap_eq_nil_iff.2 he, hsame]
          exact ⟨Nat.zero_add _, fun h => hn.mem_iff.2 (hstay h)⟩
        | buried hg => exact absurd hgone hg
        | @built n _ hs _ hn =>
          rw [farewells, hs, ← farewells, hsame]
          exact ⟨rfl, fun h => hn.mem_iff.2 (List.mem_cons_of_mem _ (hstay h))⟩
  obtain ⟨-, hsame, hstay⟩ := hkeep
  rw [hsame, departure, if_neg, Nat.add_zero]
  simp only [Bool.and_eq_true, Bool.not_eq_true', not_and, Bool.not_eq_false]
  exact fun h => isActive_iff.2 (hstay (isActive_iff.1 h))

/-- There is a farewell for each path that is no longer active after something has happened. -/
theorem farewells_undergo (hw : Scene.InOrder ⟨w, []⟩) (n : Incident) (name : String) :
    (w.undergo n).farewells name = w.farewells name + departures name w (w.stages n) := by
  have grow : ∀ {v : Server}, Scene.Leads { removing := false } ⟨w, []⟩ ⟨v, []⟩ →
      v.farewells name = w.farewells name + departure name w v := fun h =>
    h.farewells_of_building hw rfl name
  have shrink : ∀ {v : Server}, Scene.Leads { building := false } ⟨w, []⟩ ⟨v, []⟩ →
      v.farewells name = w.farewells name + departure name w v := fun h =>
    h.farewells_of_removing hw rfl name
  have more := hw.leads { removing := false }
  have fewer := hw.leads { building := false }
  by_cases hn : ∃ o, n = .event (.operation o)
  · obtain ⟨o, rfl⟩ := hn
    cases o with
    | start => exact grow (more.activateAlwaysOn rfl)
    | activate name' query => exact grow (more.activate rfl name' query)
    | deactivate name' reason => exact shrink (fewer.deactivate rfl name' reason nofun)
    | shutdown => exact shrink (fewer.shutdown rfl nofun)
    | look => exact grow more.acquire.release
    | reload c =>
      change (w.apply c).1.farewells name = _
      cases hc : c.check with
      | error e => simp [stages, hc, apply_of_error hc, departures]
      | ok c' =>
        obtain rfl := check_eq hc
        -- the paths that are added come after those that are removed
        have hfirst := fewer.aligned rfl hc nofun
        have hsecond : Scene.Leads { removing := false } ⟨(w.aligned c').1, []⟩
            ⟨((alwaysOn c').foldl ensure (w.aligned c')).1, []⟩ :=
          (hfirst.inOrder.leads { removing := false }).ensures rfl
        have hfewer := shrink hfirst
        have hmore := hsecond.release.farewells_of_building hfirst.inOrder rfl name
        simp only [stages, hc, departures, apply_eq hc, hmore, hfewer]
        omega
  · have hs := grow (more.undergo_of_not_operation (not_exists.1 hn))
    have hstages : w.stages n = [w.undergo n] := by
      unfold stages
      split
      · exact absurd ⟨_, rfl⟩ hn
      · rfl
    rw [hs, hstages]
    rfl

theorem departures_stages (w : Server) (n : Incident) (vs : List Server) :
    departures name w (w.stages n ++ vs) =
      departures name w (w.stages n) + departures name (w.undergo n) vs := by
  unfold stages
  split
  · rename_i c
    cases hc : c.check with
    | error e =>
      have hsame : w.undergo (.event (.operation (.reload c))) = w :=
        congrArg Prod.fst (apply_of_error hc)
      simp [hsame, departures]
    | ok c' =>
      obtain rfl := check_eq hc
      have hlast : w.undergo (.event (.operation (.reload c'))) = (w.apply c').1 := rfl
      simp [hlast, departures, Nat.add_assoc]
  · simp [departures]

theorem farewells_life {is : List Incident} (hw : Scene.InOrder ⟨w, []⟩) (name : String) :
    (w.life is).farewells name = w.farewells name + departures name w (w.moments is) := by
  induction is generalizing w with
  | nil => rfl
  | cons n is ih =>
    have hnext := (hw.leads {}).undergo ⟨rfl, rfl⟩ n nofun
    rw [moments, departures_stages, ← Nat.add_assoc, ← farewells_undergo hw]
    exact ih hnext.inOrder

/-- The events are in line with the paths. Whoever has heard all of them knows after each operation which
paths are ready and with which media; that a path is no longer active is told once each time that this
happens; and that a path is no longer ready is told only if it was told before that it is. -/
theorem events_mirror (store : Store) (factory : Workshop) (pause : Nat)
    (iss : List (List Incident)) :
    ((heard (fresh store factory pause) 0 iss).1 = 0 →
      told (heard (fresh store factory pause) 0 iss).2 =
        ((fresh store factory pause).life iss.flatten).media) ∧
    (∀ name, ((fresh store factory pause).life iss.flatten).farewells name =
      departures name (fresh store factory pause) (moments (fresh store factory pause) iss.flatten)) ∧
    Warned ((fresh store factory pause).life iss.flatten).registry.sent := by
  have h₀ := inOrder_fresh store factory pause
  have hlife := h₀.life iss.flatten
  have hm := hlife.mirrored h₀ ⟨rfl, warned_nil⟩
  refine ⟨fun hmissed => ?_, fun name => ?_, hm.warned⟩
  · have hpicture := hm.picture
    rw [List.append_nil] at hpicture
    refine Eq.trans (congrArg told ?_) hpicture
    exact heard_eq h₀ hmissed
  · rw [farewells_life h₀]
    exact Nat.zero_add _

/-- A subscriber learns of media that a source announces, and is told once that the path was deactivated. -/
theorem events_mirror_deactivated :
    let announcing : Workshop := ⟨fun _ _ _ _ => .ok { behaviour := fun _ =>
      [.announce (.ready [⟨.video, ["H264"]⟩]) false] }⟩
    let c := (({} : Configuration).insert "cam" { source := "rtsp://10.0.0.1:554/live" }).toOption
    let w := fresh ⟨c.getD {}⟩ announcing 5000
    let first : List Incident := (.operation .start :: List.replicate 14 .step).map .event
    let second : List Incident := [.event (.operation (.deactivate "cam" "not needed"))]
    told (w.heard 0 [first]).2 "cam" = some [⟨.video, ["H264"]⟩] ∧
      told (w.heard 0 [first, second]).2 "cam" = none ∧
      (w.life (first ++ second)).farewells "cam" = 1 := by
  intro announcing c w first second
  have hfirst := (events_mirror ⟨c.getD {}⟩ announcing 5000 [first]).1 (by decide +kernel)
  have hboth := events_mirror ⟨c.getD {}⟩ announcing 5000 [first, second]
  refine ⟨(congrFun hfirst "cam").trans (by decide +kernel),
    (congrFun (hboth.1 (by decide +kernel)) "cam").trans (by decide +kernel), ?_⟩
  have hcount := hboth.2.1 "cam"
  rw [show [first, second].flatten = first ++ second by simp] at hcount
  exact hcount.trans (by decide +kernel)

end Server

end MediaPaths
