import MediaPaths.Proofs.Server.Deeds
import MediaPaths.Proofs.Server.Outcome

/-!
# Bringing paths in line, deed by deed

Putting a configuration in force is a round of deeds. `Alters` lists the changes of active paths that are among
them, each with the reason for which it is made. In the end every active path comes under the entry that
applies to it, and unless there is an error, the paths are active whose sources are to be pulled all the time.
-/

namespace MediaPaths

namespace Server

open Relation

variable {w v : Server} {x y : Scene} {p q : ActivePath} {name : String} {gone : List ActivePath}
  {may : Touch → Prop} {J : Scene → Prop} {c : Configuration} {b held : Bool} {m : Match}

/-! ## The path of a name -/

theorem get?_remove_of_ne (r : Registry) {n : String} (hn : n ≠ name) :
    (r.remove name).get? n = r.get? n := by
  rw [Registry.get?, Registry.remove, List.find?_filter]
  refine congrArg (List.find? · r.paths) (funext fun q => ?_)
  by_cases hq : q.name = n
  · simp [hq, hn]
  · simp [hq]

theorem get?_insert (hn : w.registry.get? q.name = none) (hr : v.registry = w.numbered.insert q)
    (n : String) : v.registry.get? n = if q.name = n then some q else w.registry.get? n := by
  rw [Registry.get?, paths_insert hr, List.find?_append]
  by_cases h : q.name = n
  · subst h
    rw [if_pos rfl, ← Registry.get?, hn]
    simp
  · rw [if_neg h, List.find?_cons_of_neg (by simpa using h), List.find?_nil, Option.or_none, Registry.get?]

theorem registry_amend (w : Server) (p : ActivePath) (entry : Entry) :
    (w.amend p entry).registry = w.registry.set { p with entry := entry } := by
  unfold Server.amend
  simp only
  split
  · rw [registry_reload]
    rfl
  · rfl

theorem get?_amend (hp : w.registry.get? p.name = some p) (entry : Entry) (n : String) :
    (w.amend p entry).registry.get? n =
      if p.name = n then some { p with entry := entry } else w.registry.get? n := by
  rw [registry_amend, get?_set]
  by_cases h : p.name = n
  · subst h
    rw [if_pos rfl, hp]
    simp
  · rw [if_neg h]
    cases hg : w.registry.get? n with
    | none => rfl
    | some q => simp [name_of_get? hg, Ne.symm h]

theorem get?_relisted {ps : List ActivePath} (hw : w.Tidy) (hp : ps.Perm w.registry.paths) (n : String) :
    (w.relisted ps).registry.get? n = w.registry.get? n := by
  cases hg : w.registry.get? n with
  | none =>
    refine List.find?_eq_none.2 fun q hq => ?_
    exact List.find?_eq_none.1 hg q (hp.mem_iff.1 hq)
  | some q =>
    obtain rfl := name_of_get? hg
    exact get?_of_mem ((hp.map _).nodup_iff.2 hw.distinct) (hp.mem_iff.2 (mem_of_get? hg))

/-- Stirring a server changes nothing about paths but their media. -/
theorem Stir.still? (hs : Stir w v) (hw : w.Tidy) : v.still? = w.still? := by
  cases hs with
  | @task i t v _ ht =>
    obtain ⟨ms, hturn⟩ := turn_of_stepTask hw.owned ht
    exact still?_of_outline (outline_of_turn hw
      (hturn.congr (hosts_elim_setAlarms v i) (registry_elim_setAlarms v i)))
  | park => rfl
  | pass => exact funext fun n => by rw [Server.still?, registry_passTo]; rfl
  | relist hp => exact funext fun n => congrArg (Option.map _) (get?_relisted hw hp n)

theorem Stir.store (hs : Stir w v) (hw : w.Tidy) : v.registry.store = w.registry.store := by
  cases hs with
  | @task i t v _ ht =>
    obtain ⟨ms, hturn⟩ := turn_of_stepTask hw.owned ht
    exact store_of_outline (outline_of_turn hw
      (hturn.congr (hosts_elim_setAlarms v i) (registry_elim_setAlarms v i)))
  | park | relist => rfl
  | pass => rw [registry_passTo]

/-- What a deed makes of the path of a name. -/
inductive Upshot (may : Touch → Prop) (name : String) (before after : Option ActivePath) : Prop where
  /-- It stays as it is. -/
  | stays (h : after = before)
  /-- It comes under another entry. -/
  | amended {p : ActivePath} {entry : Entry} (hk : may (.amend p entry)) (hn : p.name = name)
      (hb : before = some p) (ha : after = some { p with entry := entry })
  /-- It is no longer active. -/
  | removed {p : ActivePath} (hk : may (.remove p)) (hn : p.name = name) (hb : before = some p)
      (ha : after = none)
  /-- It is made active. -/
  | built {q : ActivePath} {m : Match} (hk : may (.build name m)) (hq : q.entry = m.entry)
      (hb : before = none) (ha : after = some q)

theorem upshot_build (hw : w.Owned) (hk : may (.build name m)) (hn : w.registry.get? name = none)
    (query : String) (n : String) :
    Upshot may n (w.registry.get? n) ((w.build name m query).1.registry.get? n) := by
  rcases registry_build hw name m query with ⟨o, -, hr⟩ | ⟨e, -, hr, -⟩
  · rw [get?_insert hn hr]
    split
    · obtain rfl := ‹_ = n›
      exact .built hk rfl hn rfl
    · exact .stays rfl
  · exact .stays (by rw [hr]; rfl)

theorem Deed.upshot (hd : Deed may x y) (hx : x.InOrder) (n : String) :
    Upshot may n (x.server.registry.get? n) (y.server.registry.get? n) := by
  have same (h : y.server.registry.paths = x.server.registry.paths) :
      Upshot may n (x.server.registry.get? n) (y.server.registry.get? n) :=
    .stays (by rw [Registry.get?, Registry.get?, h])
  have howned := hx.assigned.tidy.owned
  cases hd with
  | record | replace | request | lose | bury => exact same rfl
  | release => exact same (by rw [registry_release])
  | cancel | rest => exact same (by rw [registry_modify])
  | @amend w g p entry hk hp =>
    have hget := get?_of_mem hx.assigned.tidy.distinct hp
    rw [get?_amend hget]
    split
    · rename_i h
      obtain rfl := h
      exact .amended hk rfl hget rfl
    · exact .stays rfl
  | @remove w g p hk hp =>
    by_cases h : p.name = n
    · subst h
      exact .removed hk rfl hp (get?_remove _ _)
    · exact .stays (get?_remove_of_ne _ (Ne.symm h))
  | @clear w hk =>
    cases hg : w.registry.get? n with
    | none => exact .stays rfl
    | some p => exact .removed (hk p) (name_of_get? hg) rfl rfl
  | build hk hn => exact upshot_build howned hk hn _ n
  | renew hk hn => exact upshot_build howned hk hn _ n
  | @refuse w g p m e hn _ hb =>
    rcases registry_build howned p.name m p.query with ⟨o, ho, -⟩ | ⟨e, -, hr, -⟩
    · cases hb.symm.trans ho
    · exact same (by rw [hr]; rfl)

/-! ## Serving a configuration -/

/-- A change of active paths that a configuration asks for. -/
def Touch.Serves (c : Configuration) : Touch → Prop
  | replace s => s.current = c
  | amend p entry => ∃ m, c.find p.name = .ok m ∧ entry = m.entry
  | remove _ => True
  | build name m => c.find name = .ok m

/-- The path of a name, if it is active, comes under the entry that applies to it. -/
def Conforms (c : Configuration) (name : String) (w : Server) : Prop :=
  ∀ p, w.registry.get? name = some p → ∃ m, c.find name = .ok m ∧ p.entry = m.entry

theorem conforms_of_inactive (hn : w.registry.get? name = none) : Conforms c name w := fun p hp => by
  cases hn.symm.trans hp

theorem Conforms.congr (hw : Conforms c name w) (h : v.still? = w.still?) : Conforms c name v := by
  intro p hp
  have hstill := still?_of_get? hp
  rw [h] at hstill
  obtain ⟨q, hq, heq⟩ := Option.map_eq_some_iff.1 hstill
  obtain ⟨m, hm, he⟩ := hw q hq
  exact ⟨m, hm, (congrArg ActivePath.entry heq).symm.trans he⟩

theorem kept_conforms (hmay : ∀ t, may t → t.Serves c) (name : String) :
    Kept may fun x => Conforms c name x.server := by
  refine ⟨fun hx hd hj p hp => ?_, fun hx hs hj => hj.congr (hs.still? hx.assigned.tidy)⟩
  cases hd.upshot hx name with
  | stays h => exact hj p (h ▸ hp)
  | amended hk hn _ ha =>
    obtain ⟨m, hm, rfl⟩ := hmay _ hk
    cases hp.symm.trans ha
    exact ⟨m, hn ▸ hm, rfl⟩
  | removed _ _ _ ha => cases hp.symm.trans ha
  | built hk hq _ ha =>
    cases hp.symm.trans ha
    exact ⟨_, hmay _ hk, hq⟩

theorem store_build (hw : w.Owned) (name : String) (m : Match) (query : String) :
    (w.build name m query).1.registry.store = w.registry.store := by
  rcases registry_build hw name m query with ⟨o, -, hr⟩ | ⟨e, -, hr, -⟩ <;> rw [hr] <;> rfl

theorem kept_current (hmay : ∀ t, may t → t.Serves c) :
    Kept may fun x => x.server.registry.store.current = c := by
  refine ⟨fun hx hd hj => ?_, fun hx hs hj => (congrArg _ (hs.store hx.assigned.tidy)).trans hj⟩
  have howned := hx.assigned.tidy.owned
  cases hd with
  | replace hk => exact hmay _ hk
  | record | request | remove | clear | lose | bury => exact hj
  | release => rw [registry_release]; exact hj
  | cancel | rest => rw [registry_modify]; exact hj
  | amend => rw [registry_amend]; exact hj
  | build | renew | refuse => rw [store_build howned]; exact hj

/-! ## Aligning -/

/-- A change of active paths that is made to put a configuration in force. -/
inductive Alters (c : Configuration) (optionsChanged : Bool) (w : Server) : Touch → Prop where
  /-- No entry applies to a path any longer. -/
  | drop {p : ActivePath} {e : LookupError} (hp : w.registry.get? p.name = some p)
      (hf : c.find p.name = .error e) : Alters c optionsChanged w (.remove p)
  /-- The source of a path has to be made anew, so it is not active for a while. -/
  | halt {p : ActivePath} {m : Match} (hp : w.registry.get? p.name = some p) (hf : c.find p.name = .ok m)
      (hr : Restarts optionsChanged p m) : Alters c optionsChanged w (.remove p)
  /-- Then it is made active anew. -/
  | resume {p : ActivePath} {m : Match} (hp : w.registry.get? p.name = some p)
      (hf : c.find p.name = .ok m) (hr : Restarts optionsChanged p m) :
      Alters c optionsChanged w (.build p.name m)
  /-- A path comes under an entry for which its source need not be made anew. -/
  | amend {p : ActivePath} {m : Match} (hp : w.registry.get? p.name = some p) (hf : c.find p.name = .ok m)
      (he : p.entry ≠ m.entry) (hn : ¬Restarts optionsChanged p m) :
      Alters c optionsChanged w (.amend p m.entry)
  /-- The source of a path that is not active is to be pulled all the time. -/
  | ensure {e : Entry} (he : e ∈ alwaysOn c) (hn : w.registry.get? e.name = none) :
      Alters c optionsChanged w (.build e.name ⟨e, none⟩)

theorem Alters.serves {t : Touch} (ht : Alters c b w t) : t.Serves c := by
  cases ht with
  | drop | halt => trivial
  | resume _ hf => exact hf
  | amend _ hf => exact ⟨_, hf, rfl⟩
  | ensure he => exact find_of_alwaysOn he

theorem obeys_rebuild_unready (hJ : Kept may J) (hx : Ready J held ⟨w, [p]⟩) (hk : may (.build p.name m))
    (hr : w.AtRest p) (hn : w.registry.get? p.name = none) (hm : p.medias = none) {a : Option SourceError} :
    Obeys may (fun x _ => Ready J held x ∧ x.gone = []) ⟨w, [p]⟩ (.done (Plan.rebuild w p m).1 a) := by
  have howned := hx.inOrder.assigned.tidy.owned
  have hlock := lock_build howned p.name m p.query
  have hready : ¬ p.isReady = true := by simp [ActivePath.isReady, hm]
  unfold Plan.rebuild
  rw [if_neg hready]
  dsimp only
  rcases registry_build howned p.name m p.query with ⟨o, hok, -⟩ | ⟨e, herr, -, hh⟩
  · have hd : Deed may ⟨w, [p]⟩ ⟨(w.build p.name m p.query).1, []⟩ := .renew hk hn hm hr hok
    have hb := hx.deed hJ hd hlock
    refine .deed hd ?_
    generalize w.build p.name m p.query = built at hok hb ⊢
    obtain ⟨u, result⟩ := built
    cases hok
    exact .done ⟨hb, rfl⟩
  · have hd : Deed may ⟨w, [p]⟩ ⟨(w.build p.name m p.query).1, [p]⟩ := .refuse hn hr herr
    have hb := hx.deed hJ hd hlock
    refine .deed hd ?_
    generalize w.build p.name m p.query = built at herr hb hh ⊢
    obtain ⟨u, result⟩ := built
    cases herr
    have hrecord : Deed may ⟨u, [p]⟩ ⟨u.record (.restartFailed p.name e.message), [p]⟩ := .record _
    have hbury : Deed may ⟨u.record (.restartFailed p.name e.message), [p]⟩ ⟨_, []⟩ :=
      .bury (fun i s ho hs => hr i s ho (by
        rw [supervisor?] at hs ⊢
        rw [← show u.hosts = w.hosts from hh]
        exact hs)) e.message
    exact .deed hrecord (.deed hbury (.done ⟨(hb.deed hJ hrecord rfl).deed hJ hbury rfl, rfl⟩))

theorem obeys_rebuild (hJ : Kept may J) (hx : Ready J held ⟨w, [q]⟩) (hk : may (.build q.name m))
    (hr : w.AtRest q) (hn : w.registry.get? q.name = none) {a : Option SourceError} :
    Obeys may (fun x _ => Ready J held x ∧ x.gone = []) ⟨w, [q]⟩
      (.done (Plan.rebuild w q m).1 a) := by
  cases hready : q.isReady with
  | true =>
    -- a path that was ready has no media any longer when it is made active anew
    have hlose : Deed may ⟨w, [q]⟩
        ⟨w.setRegistry (w.registry.send (.notReady q.name)), [{ q with medias := none }]⟩ :=
      .lose hready
    have hrebuild : Plan.rebuild w q m =
        Plan.rebuild (w.setRegistry (w.registry.send (.notReady q.name))) { q with medias := none } m := by
      unfold Plan.rebuild
      rw [if_pos hready]
      rfl
    rw [hrebuild]
    exact .deed hlose (obeys_rebuild_unready hJ (hx.deed hJ hlose rfl) hk hr hn rfl)
  | false => exact obeys_rebuild_unready hJ hx hk hr hn (by simpa [ActivePath.isReady] using hready)

theorem obeys_restart (hJ : Kept may J) (hr : may (.remove p)) (hk : may (.build p.name m))
    (hp : w.registry.get? p.name = some p)
    (hx : Ready J held ⟨w.setRegistry (w.registry.remove p.name), [p]⟩) :
    Obeys may (fun x _ => Ready J held x ∧ x.gone = []) ⟨w, []⟩ (Plan.restart w p m) := by
  refine .deed (.remove hr hp) ?_
  refine (obeys_stopSource hJ hx (List.mem_singleton_self p)).bind ?_
  rintro v g - ⟨hv, rfl, hnames, hrest⟩
  exact obeys_rebuild hJ hv hk hrest (get?_eq_none_of_names hnames (get?_remove _ _))

/-- A path that is removed is not under a wrong entry. -/
theorem Ready.removed (hJ : Kept may J) (hx : Ready J held ⟨w, []⟩) (hr : may (.remove p))
    (hp : w.registry.get? p.name = some p) :
    Ready (fun x => J x ∧ Conforms c p.name x.server) held
      ⟨w.setRegistry (w.registry.remove p.name), [p]⟩ :=
  have hy := hx.deed hJ (.remove hr hp) rfl
  hy.mono ⟨hy.kept, conforms_of_inactive (get?_remove _ _)⟩

section

variable (hserves : ∀ t, may t → t.Serves c)
include hserves

theorem obeys_align (hJ : Kept may J) (hx : Ready J held ⟨w, []⟩)
    (hp : w.registry.get? p.name = some p) (hmay : ∀ t, Alters c b w t → may t) :
    Obeys may (fun x _ => Ready (fun x => J x ∧ Conforms c p.name x.server) held x ∧ x.gone = [])
      ⟨w, []⟩ (Plan.align c b w p) := by
  have hboth := hJ.and (kept_conforms hserves p.name)
  have hremoved (hr : may (.remove p)) := hx.removed (c := c) hJ hr hp
  unfold Plan.align
  split
  · rename_i e hf
    have hr := hmay _ (.drop hp hf)
    refine .deed (.remove hr hp) ?_
    exact (obeys_close hboth (hremoved hr)).bind fun u g _ hu => .done hu
  · rename_i m hf
    simp only
    split
    · rename_i hsame
      have he : p.entry = m.entry := beq_iff_eq.1 (Bool.and_eq_true_iff.1 hsame).1
      refine .done ⟨hx.mono ⟨hx.kept, fun q hq => ?_⟩, rfl⟩
      cases hp.symm.trans hq
      exact ⟨m, hf, he⟩
    · rename_i hsame
      split
      · rename_i hn
        have hr : Restarts b p m := ⟨Bool.eq_false_iff.2 hsame, hn⟩
        have hstop := hmay _ (.halt hp hf hr)
        exact obeys_restart hboth hstop (hmay _ (.resume hp hf hr)) hp (hremoved hstop)
      · rename_i hn
        have hneed := Bool.eq_false_iff.2 hn
        simp only [needsRestart, Bool.or_eq_false_iff] at hneed
        have he : p.entry ≠ m.entry := fun he => hsame (by simp [he, hneed.1.1])
        have hamend : Deed may ⟨w, []⟩ ⟨w.amend p m.entry, []⟩ := by
          refine .amend (hmay _ (.amend hp hf he fun hr => hn hr.2)) (mem_of_get? hp) ?_
          simp only [needsRestart, hneed, Bool.or_false]
        have hy := hx.deed hJ hamend (by rw [registry_amend]; rfl)
        refine .deed hamend (.done ⟨hy.mono ⟨hy.kept, fun q hq => ?_⟩, rfl⟩)
        rw [get?_amend hp, if_pos rfl] at hq
        cases hq
        exact ⟨m, hf, rfl⟩

theorem obeys_alignName (hJ : Kept may J) (hx : Ready J held ⟨w, []⟩) (e : Option ServerError)
    (hmay : ∀ t, Alters c b w t → may t) :
    Obeys may (fun x _ => Ready (fun x => J x ∧ Conforms c name x.server) held x ∧ x.gone = [])
      ⟨w, []⟩ (Plan.alignName c b w e name) := by
  unfold Plan.alignName
  split
  · rename_i hn
    exact .done ⟨hx.mono ⟨hx.kept, conforms_of_inactive hn⟩, rfl⟩
  · rename_i p hp
    obtain rfl := name_of_get? hp
    exact (obeys_align hserves hJ hx hp hmay).bind fun v g a hv => .done hv

/-- Once the paths of some names are in line, they stay so while the others are brought in line. -/
theorem obeys_alignNames (hJ : Kept may J) (hx : Ready J true ⟨w, []⟩)
    (hmay : ∀ v, Ready J true ⟨v, []⟩ → ∀ t, Alters c b v t → may t) :
    Obeys may (fun x _ => Ready (fun x => J x ∧ ∀ n, Conforms c n x.server) true x ∧ x.gone = [])
      ⟨w, []⟩ (.each (Plan.alignName c b) w none (w.registry.paths.map (·.name))) := by
  let K (names : List String) (x : Scene) : Prop := J x ∧ ∀ n, n ∉ names → Conforms c n x.server
  have hK (names : List String) : Kept may (K names) :=
    hJ.and (Kept.forall fun n => Kept.forall fun _ => kept_conforms hserves n)
  refine Obeys.mono (Obeys.each (P := fun names x => Ready (K names) true x ∧ x.gone = []) ?_ ?_)
    fun x _ hx => ?_
  · rintro v g e name names ⟨hv, rfl⟩
    have hplain : Ready J true ⟨v, []⟩ := hv.mono hv.kept.1
    refine (obeys_alignName hserves (hK (name :: names)) hv e (hmay v hplain)).mono fun x _ hx => ?_
    refine ⟨hx.1.mono ⟨hx.1.kept.1.1, fun n hn => ?_⟩, hx.2⟩
    by_cases h : n = name
    · exact h ▸ hx.1.kept.2
    · exact hx.1.kept.1.2 n (by simp [h, hn])
  · refine ⟨hx.mono ⟨hx.kept, fun n hn => conforms_of_inactive ?_⟩, rfl⟩
    simpa using mt mem_names.2 hn
  · exact ⟨hx.1.mono ⟨hx.1.kept.1, fun n => hx.1.kept.2 n List.not_mem_nil⟩, hx.2⟩

end

/-! ## Activating what is to be pulled all the time -/

/-- Without an error the path of an entry is active in the end, and no path is lost. -/
theorem isActive_ensure {s : Server × Option ServerError} (hs : s.1.Tidy) (e : Entry) :
    (ensure s e).1.Tidy ∧
    (∀ n, s.1.registry.isActive n = true → (ensure s e).1.registry.isActive n = true) ∧
      ((ensure s e).2 = none → s.2 = none ∧ (ensure s e).1.registry.isActive e.name = true) := by
  unfold ensure
  split
  · rename_i hactive
    exact ⟨hs, fun _ h => h, fun h => ⟨h, hactive⟩⟩
  · rename_i hactive
    have hn : s.1.registry.get? e.name = none := by simpa [Registry.isActive] using hactive
    have htidy := hs.build hn ⟨e, none⟩ ""
    rcases registry_build hs.owned e.name ⟨e, none⟩ "" with ⟨o, hok, hr⟩ | ⟨err, herr, hr, -⟩
    · generalize s.1.build e.name ⟨e, none⟩ "" = built at hok hr htidy ⊢
      obtain ⟨v, result⟩ := built
      cases hok
      refine ⟨htidy, fun n h => ?_, fun h => ⟨h, ?_⟩⟩
      · rw [Registry.isActive, get?_insert hn hr]
        split
        · rfl
        · exact h
      · simp [Registry.isActive, get?_insert hn hr, activation]
    · generalize s.1.build e.name ⟨e, none⟩ "" = built at herr hr htidy ⊢
      obtain ⟨v, result⟩ := built
      cases herr
      refine ⟨htidy, fun n h => ?_, fun h => ?_⟩
      · rw [Registry.isActive, show v.registry = s.1.numbered from hr]
        exact h
      · cases (firstError_eq_none.1 h).2

theorem isActive_ensures {s : Server × Option ServerError} (hs : s.1.Tidy) (es : List Entry)
    (h : (es.foldl ensure s).2 = none) :
    s.2 = none ∧ ∀ n, (s.1.registry.isActive n = true ∨ ∃ e ∈ es, e.name = n) →
      (es.foldl ensure s).1.registry.isActive n = true := by
  induction es generalizing s with
  | nil => exact ⟨h, fun n hn => hn.resolve_right (by simp)⟩
  | cons e es ih =>
    obtain ⟨htidy, hkeeps, hactive⟩ := isActive_ensure hs e
    obtain ⟨hnone, hes⟩ := ih htidy h
    obtain ⟨hnone, he⟩ := hactive hnone
    refine ⟨hnone, fun n hn => hes n ?_⟩
    rcases hn with hn | ⟨e', he', rfl⟩
    · exact .inl (hkeeps n hn)
    · rcases List.mem_cons.1 he' with rfl | he'
      · exact .inl he
      · exact .inr ⟨e', he', rfl⟩

theorem obeys_ensure (hJ : Kept may J) (hx : Ready J held ⟨w, []⟩) {s : Server × Option ServerError}
    {α : Type} {a : α} (hs : s.1 = w) {es : List Entry} (hes : ∀ e ∈ es, e ∈ alwaysOn c)
    (hmay : ∀ v, Ready J held ⟨v, []⟩ → ∀ t, Alters c b v t → may t) :
    Obeys may (fun x _ => Ready J held x ∧ x.gone = [] ∧ x.server = (es.foldl ensure s).1) ⟨w, []⟩
      (.done (es.foldl ensure s).1 a) := by
  subst hs
  induction es generalizing s with
  | nil => exact .done ⟨hx, rfl, rfl⟩
  | cons e es ih =>
    obtain ⟨he, hes⟩ := List.forall_mem_cons.1 hes
    rw [List.foldl_cons]
    cases hact : s.1.registry.isActive e.name with
    | true =>
      have hs : ensure s e = s := by rw [ensure, if_pos hact]
      rw [hs]
      exact ih hes hx
    | false =>
      have hn : s.1.registry.get? e.name = none := by simpa [Registry.isActive] using hact
      have hd : Deed may ⟨s.1, []⟩ ⟨(s.1.build e.name ⟨e, none⟩ "").1, []⟩ :=
        .build (hmay _ hx _ (.ensure he hn)) hn (List.forall_mem_nil _) _
      have hb := hx.deed hJ hd (lock_build hx.inOrder.assigned.tidy.owned _ _ _)
      have hs : (ensure s e).1 = (s.1.build e.name ⟨e, none⟩ "").1 := by
        rw [ensure, if_neg (by simp [hact])]
        split <;> rename_i hv <;> rw [hv]
      rw [← hs] at hd hb
      exact .deed hd (ih hes hb)

/-! ## Putting a configuration in force -/

/-- What is known of a server once a configuration was put in force. -/
structure Settled (c : Configuration) (w : Server) (r : Except ServerError Unit) : Prop where
  /-- The configuration is in force. -/
  current : w.registry.store.current = c
  /-- Every active path comes under the entry that applies to it. -/
  conforms : ∀ name, Conforms c name w
  /-- Unless there was an error, the paths are active whose sources are to be pulled all the time. -/
  active : r = .ok () → ∀ e ∈ alwaysOn c, w.registry.isActive e.name = true

theorem isActive_eq_isSome (w : Server) (name : String) :
    w.registry.isActive name = (w.still? name).isSome := by
  rw [still?, Option.isSome_map, Registry.isActive]

theorem Settled.stir {r : Except ServerError Unit} (hw : Settled c w r) (hs : Stir w v) (ht : w.Tidy) :
    Settled c v r := by
  have hstill := hs.still? ht
  refine ⟨(congrArg _ (hs.store ht)).trans hw.current, fun n => (hw.conforms n).congr hstill, ?_⟩
  intro hr e he
  rw [isActive_eq_isSome, hstill, ← isActive_eq_isSome]
  exact hw.active hr e he

theorem Settled.stirs {r : Except ServerError Unit} (hw : Settled c w r) (hs : Stirs w v)
    (hx : Scene.InOrder ⟨w, gone⟩) : Settled c v r := by
  induction hs with
  | refl => exact hw
  | tail hpath hs ih => exact ih.stir hs (hx.stirs hpath).assigned.tidy

section

variable (hserves : ∀ t, may t → t.Serves c)
include hserves

theorem obeys_realign (hJ : Kept may J) (hx : Ready J true ⟨w, []⟩) (hc : w.registry.store.current = c)
    (hmay : ∀ v, Ready J true ⟨v, []⟩ → ∀ t, Alters c b v t → may t) :
    Obeys may (fun x r => Ready J false x ∧ x.gone = [] ∧ Settled c x.server r) ⟨w, []⟩
      (Plan.realign c b w) := by
  have hcur := hJ.and (kept_current hserves)
  have hall := hcur.and (Kept.forall (kept_conforms hserves))
  have hstart : Ready (fun x => J x ∧ x.server.registry.store.current = c) true ⟨w, []⟩ :=
    hx.mono ⟨hx.kept, hc⟩
  refine (obeys_alignNames hserves hcur hstart fun v hv => hmay v (hv.mono hv.kept.1)).bind ?_
  rintro v g e ⟨hv, rfl⟩
  refine (obeys_ensure hall hv (s := (v, e)) (a := ()) rfl (fun e he => he)
    fun u hu => hmay u (hu.mono hu.kept.1.1)).bind
      (k := .done _ ()) (f := fun u _ => .done u.release (Plan.settle c v e).2) ?_
  rintro u g - ⟨hu, rfl, rfl⟩
  have hr := hu.release hall
  refine .deed (.release (hu.holds rfl)) (.done ⟨hr.mono hr.kept.1.1, rfl, hr.kept.1.2, hr.kept.2, ?_⟩)
  intro hok e' he'
  have hnone : ((alwaysOn c).foldl ensure (v, e)).2 = none := by
    unfold Plan.settle at hok
    cases hfold : ((alwaysOn c).foldl ensure (v, e)).2 with
    | none => rfl
    | some err =>
      simp only [hfold] at hok
      cases hok
  rw [registry_release]
  exact (isActive_ensures (s := (v, e)) hv.inOrder.assigned.tidy _ hnone).2 _ (.inr ⟨e', he', rfl⟩)

theorem obeys_apply (hJ : Kept may J) (hx : Ready J false ⟨w, []⟩) (hc : c.check = .ok c)
    (hstore : may (.replace (w.registry.store.replace c).1))
    (hmay : ∀ v, Ready J true ⟨v, []⟩ → ∀ t, Alters c (w.optionsChange c) v t → may t) :
    Obeys may (fun x r => Ready J false x ∧ x.gone = [] ∧ Settled c x.server r) ⟨w, []⟩
      (Plan.apply w c) := by
  unfold Plan.apply
  rw [hc]
  let v := w.setRegistry { w.registry with store := (w.registry.store.replace c).1 }
  have hreplace : Deed may ⟨w, []⟩ ⟨v, []⟩ := .replace hstore
  have hrecord : Deed may ⟨v, []⟩ ⟨v.record (.replaced c.table.entries.length), []⟩ := .record _
  have hready := (hx.deed hJ hreplace rfl).deed hJ hrecord rfl
  have hcur := hJ.and (kept_current hserves)
  refine .deed hreplace (.deed hrecord ?_)
  refine (obeys_acquire hcur (hready.mono ⟨hready.kept, rfl⟩)).bind ?_
  rintro u g - ⟨hu, rfl⟩
  exact obeys_realign hserves hJ (hu.mono hu.kept.1) hu.kept.2 hmay

end

end Server

end MediaPaths
