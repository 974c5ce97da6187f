import MediaPaths.Proofs.Configuration.Lookup
import MediaPaths.Proofs.Server.Build
import MediaPaths.Proofs.Server.History

/-!
# Active paths and the configuration in force

Whenever a server has done what it was asked for, each active path is as the configuration in force
says: its entry and the texts of the groups, where it gets its media from, and for which kind of source
and with which settings its supervisor was made.

Settings that a running source is handed leave the origin of the path alone, and the texts of its
groups. They stay right all the same: settings under which the origin would be another one have the path
restarted, and the texts depend on the names of the path and of the entry only.
-/

namespace MediaPaths

namespace Server

/-! ## What a configuration says of a path -/

/-- For what kind of source a supervisor was made, and with which settings. -/
def made? (w : Server) (i : Nat) : Option (SourceKind × SourceOptions) :=
  (w.supervisor? i).map (·.made)

/-- An origin is the one that the settings of a path ask for. A source was made for the kind of its
address and with the settings for all sources. -/
def Suits (w : Server) (o : Origin) (s : Settings) (options : SourceOptions) : Prop :=
  match o with
  | .source i => ∃ kind, s.sourceKind? = some kind ∧ w.made? i = some (kind, options)
  | .redirect target =>
    s.hasStaticSource = false ∧ s.source = Settings.redirect ∧ target = s.sourceRedirect
  | .publisher => s.hasStaticSource = false ∧ s.source ≠ Settings.redirect

/-- An active path is as a configuration says. -/
def Follows (w : Server) (c : Configuration) (p : ActivePath) : Prop :=
  ∃ m, c.find p.name = .ok m ∧ p.entry = m.entry ∧ p.groups = m.groups ∧
    w.Suits p.origin m.entry.settings c.options

/-- All active paths are as the configuration in force says. -/
structure Coherent (w : Server) : Prop where
  /-- Paths and supervisors are in order. -/
  tidy : w.Tidy
  /-- Each active path is as the configuration says. -/
  follows : ∀ p ∈ w.registry.paths, w.Follows w.registry.store.current p

/-- Supervisors are only added. -/
def Grows (w w' : Server) : Prop := ∀ i x, w.made? i = some x → w'.made? i = some x

variable {w w' v : Server} {c prev : Configuration} {p q : ActivePath} {name : String}

theorem made?_eq (w : Server) (i : Nat) : w.made? i = w.marks[i]?.map (·.1) := by
  simp only [made?, supervisor?, marks, List.getElem?_map, Option.map_map]
  rfl

theorem grows_of_outline (h : w'.outline = w.outline) : Grows w w' := by
  intro i x hx
  rw [made?_eq, show w'.marks = w.marks from congrArg Prod.snd h, ← made?_eq, hx]

theorem Grows.trans (h : Grows w w') (h' : Grows w' v) : Grows w v := fun i x hx =>
  h' i x (h i x hx)

theorem Follows.of_grows (h : w.Follows c p) (hg : Grows w w') : w'.Follows c p := by
  obtain ⟨m, hm, he, hp, hs⟩ := h
  refine ⟨m, hm, he, hp, ?_⟩
  cases ho : p.origin with
  | source i =>
    rw [ho] at hs
    obtain ⟨kind, hk, hi⟩ := hs
    exact ⟨kind, hk, hg i _ hi⟩
  | redirect target =>
    rw [ho] at hs
    exact hs
  | publisher =>
    rw [ho] at hs
    exact hs

/-- Media are of no account. -/
theorem follows_still (w : Server) (c : Configuration) (p : ActivePath) :
    w.Follows c p.still ↔ w.Follows c p := Iff.rfl

/-- Another configuration says the same of a path under an entry of the same name and source, if a
source is made with the same settings. -/
theorem Follows.amend {m : Match} (h : w.Follows prev p) (hm : c.find p.name = .ok m)
    (hn : p.entry.name = m.entry.name) (hs : p.entry.settings.source = m.entry.settings.source)
    (hr : p.entry.settings.sourceRedirect = m.entry.settings.sourceRedirect)
    (ho : p.origin.host?.isSome → prev.options = c.options) :
    w.Follows c { p with entry := m.entry } := by
  obtain ⟨m₀, hm₀, he, hg, hsuits⟩ := h
  rw [he] at hn hs hr
  have hgroups : p.groups = m.groups := hg.trans (Table.groups_eq_of_name_eq hm₀ hm hn)
  have hkind : m₀.entry.settings.sourceKind? = m.entry.settings.sourceKind? := by
    simp only [Settings.sourceKind?, hs]
  refine ⟨m, hm, rfl, hgroups, ?_⟩
  show w.Suits p.origin m.entry.settings c.options
  cases horigin : p.origin with
  | source i =>
    rw [horigin] at hsuits ho
    obtain ⟨kind, hk, hi⟩ := hsuits
    exact ⟨kind, hkind ▸ hk, by rw [hi, ho rfl]⟩
  | redirect target =>
    rw [horigin] at hsuits
    obtain ⟨h₁, h₂, h₃⟩ := hsuits
    exact ⟨by rw [Settings.hasStaticSource, ← hkind]; exact h₁, hs ▸ h₂, h₃.trans hr⟩
  | publisher =>
    rw [horigin] at hsuits
    exact ⟨by rw [Settings.hasStaticSource, ← hkind]; exact hsuits.1, hs ▸ hsuits.2⟩

/-! ## Changing one path -/

/-- The path of a name is made to be as a configuration says, or it is no longer active; other paths
are left alone. -/
structure Adjusts (c : Configuration) (name : String) (w w' : Server) : Prop where
  /-- Paths and supervisors stay in order. -/
  tidy : w'.Tidy
  /-- The configuration in force stays. -/
  store : w'.registry.store = w.registry.store
  /-- Supervisors are only added. -/
  grows : Grows w w'
  /-- An active path is another one that was active before, or it is as the configuration says. -/
  paths : ∀ q ∈ w'.registry.paths, q.name ≠ name ∧ q.still ∈ w.registry.outline.paths ∨
    q.name = name ∧ w'.Follows c q

theorem store_of_outline (h : w'.outline = w.outline) : w'.registry.store = w.registry.store :=
  congrArg (fun o => o.1.store) h

theorem Adjusts.after (h : Adjusts c name w w') (ho : v.outline = w'.outline) :
    Adjusts c name w v := by
  have hg := grows_of_outline ho
  refine ⟨h.tidy.congr ho, (store_of_outline ho).trans h.store, h.grows.trans hg, ?_⟩
  refine forall_paths_congr (P := fun q => q.name ≠ name ∧ q.still ∈ w.registry.outline.paths ∨
    q.name = name ∧ v.Follows c q) (fun q => Iff.rfl) (congrArg Prod.fst ho) fun q hq => ?_
  exact (h.paths q hq).imp_right fun hf => ⟨hf.1, hf.2.of_grows hg⟩

theorem Adjusts.before (h : Adjusts c name w w') (ho : w.outline = v.outline) :
    Adjusts c name v w' := by
  refine ⟨h.tidy, h.store.trans (store_of_outline ho), (grows_of_outline ho).trans h.grows, ?_⟩
  rw [← show w.registry.outline = v.registry.outline from congrArg Prod.fst ho]
  exact h.paths

/-- What holds of the other paths goes on to hold. -/
theorem Adjusts.forall_paths (h : Adjusts c name w w') {P Q : ActivePath → Prop}
    (hP : ∀ q, P q.still ↔ P q) (hw : ∀ q ∈ w.registry.paths, P q)
    (hother : ∀ q, q.name ≠ name → P q → Q q) (hsame : ∀ q, q.name = name → w'.Follows c q → Q q) :
    ∀ q ∈ w'.registry.paths, Q q := by
  intro q hq
  rcases h.paths q hq with ⟨hn, hmem⟩ | ⟨hn, hf⟩
  · obtain ⟨x, hx, heq⟩ := List.mem_map.1 hmem
    refine hother q hn ?_
    rw [← hP, ← heq, hP]
    exact hw x hx
  · exact hsame q hn hf

theorem still_mem_outline (hp : p ∈ w.registry.paths) : p.still ∈ w.registry.outline.paths :=
  List.mem_map_of_mem hp

/-- A path that is not active is left alone. -/
theorem adjusts_of_inactive (hw : w.Tidy) (hn : w.registry.get? name = none) (c : Configuration) :
    Adjusts c name w w := by
  refine ⟨hw, rfl, fun _ _ hx => hx, fun q hq => .inl ⟨?_, still_mem_outline hq⟩⟩
  exact name_ne_of_inactive hw hn q hq

theorem Tidy.remove (hw : w.Tidy) (name : String) :
    (w.setRegistry (w.registry.remove name)).Tidy :=
  ⟨hw.owned, hw.distinct.sublist (List.filter_sublist.map _)⟩

/-- A path is no longer active. -/
theorem adjusts_remove (hw : w.Tidy) (c : Configuration) (name : String) :
    Adjusts c name w (w.setRegistry (w.registry.remove name)) := by
  refine ⟨hw.remove name, rfl, fun _ _ hx => hx, fun q hq => .inl ?_⟩
  obtain ⟨hq, hn⟩ := List.mem_filter.1 hq
  exact ⟨by simpa using hn, still_mem_outline hq⟩

/-- A path is as the configuration says, perhaps after its entry was replaced. -/
theorem adjusts_set (hw : w.Tidy) {entry : Entry}
    (hf : w.Follows c { p with entry := entry }) :
    Adjusts c p.name w (w.setRegistry (w.registry.set { p with entry := entry })) := by
  have hnames := names_set w.registry { p with entry := entry }
  refine ⟨⟨hw.owned, by rw [setRegistry, hnames]; exact hw.distinct⟩, rfl, fun _ _ hx => hx,
    fun q hq => ?_⟩
  obtain ⟨x, hx, rfl⟩ := List.mem_map.1 hq
  dsimp only
  split
  · exact .inr ⟨rfl, hf⟩
  · exact .inl ⟨‹_›, still_mem_outline hx⟩

/-! ## Activating a path -/

/-- A path of a new name is added. -/
theorem adjusts_insert (hw : w.Tidy) (hn : w.registry.get? name = none) (ho : w'.Owned)
    (hg : Grows w w') (hp : p.name = name) (hr : w'.registry = w.numbered.insert p)
    (hf : w'.Follows c p) : Adjusts c name w w' := by
  refine ⟨hw.insert hn ho hp hr, by rw [hr]; rfl, hg, fun q hq => ?_⟩
  rw [paths_insert hr, List.mem_append, List.mem_singleton] at hq
  rcases hq with hq | rfl
  · exact .inl ⟨name_ne_of_inactive hw hn q hq, still_mem_outline hq⟩
  · exact .inr ⟨hp, hf⟩

theorem made_hired (s : Supervisor) (name : String) (id : Nat) (m : Match) (query : String) :
    (hired s name id m query).supervisor.made = s.made := by
  show (s.start m.entry.settings.sourceOnDemand query).made = s.made
  unfold Supervisor.start
  split <;> rfl

/-- Making a path active makes it as the configuration in force says, if it is made active. -/
theorem adjusts_build {m : Match} (hw : w.Tidy) (hn : w.registry.get? name = none)
    (hm : w.registry.store.current.find name = .ok m) (query : String) :
    Adjusts w.registry.store.current name w (w.build name m query).1 := by
  obtain ⟨ms, hb⟩ := built_of_build hw.owned name m query
  have hsame : ∀ {v : Server}, v.hosts = w.hosts → Grows w v := by
    intro v hv i x hx
    rwa [made?_eq, marks, hv, ← marks, ← made?_eq]
  generalize (w.build name m query).1 = v at hb ⊢
  generalize (w.build name m query).2 = result at hb
  cases hb with
  | failed hh hr =>
    have h := adjusts_of_inactive hw hn w.registry.store.current
    have hpaths : v.registry.paths = w.registry.paths := by
      rw [hr]
      rfl
    refine ⟨⟨hw.owned.congr hh, hpaths ▸ hw.distinct⟩, by rw [hr]; rfl, hsame hh, fun q hq => ?_⟩
    rcases h.paths q (hpaths ▸ hq) with hq | ⟨hq, hf⟩
    · exact .inl hq
    · exact .inr ⟨hq, hf.of_grows (hsame hh)⟩
  | pulled hs hh hr =>
    rename_i s
    obtain ⟨kind, hk, hmade⟩ := Supervisor.made_create hs
    have hg : Grows w v := by
      intro i x hx
      rw [made?_eq] at hx
      rw [made?_eq, marks, hh, List.map_append, ← marks]
      obtain ⟨y, hy, -⟩ := Option.map_eq_some_iff.1 hx
      rw [List.getElem?_append_left (List.getElem?_eq_some_iff.1 hy).1, hx]
    refine adjusts_insert hw hn (hw.owned.hire hh) hg rfl hr ⟨m, hm, rfl, rfl, kind, hk, ?_⟩
    rw [← hmade, made?, supervisor?, hh]
    simp [made_hired]
  | redirected hs ht hh hr =>
    exact adjusts_insert hw hn (hw.owned.congr hh) (hsame hh) rfl hr ⟨m, hm, rfl, rfl, hs, ht, rfl⟩
  | published hs ht hh hr =>
    exact adjusts_insert hw hn (hw.owned.congr hh) (hsame hh) rfl hr ⟨m, hm, rfl, rfl, hs, ht⟩

/-! ## Operations other than a reload -/

theorem Coherent.congr (hw : w.Coherent) (ho : w'.outline = w.outline) : w'.Coherent := by
  refine ⟨hw.tidy.congr ho, ?_⟩
  rw [store_of_outline ho]
  exact forall_paths_congr (follows_still _ _) (congrArg Prod.fst ho) fun p hp =>
    (hw.follows p hp).of_grows (grows_of_outline ho)

theorem Coherent.adjust (hw : w.Coherent) (ha : Adjusts w.registry.store.current name w w') :
    w'.Coherent := by
  refine ⟨ha.tidy, ?_⟩
  rw [ha.store]
  exact ha.forall_paths (follows_still w _) hw.follows (fun q _ hq => hq.of_grows ha.grows)
    fun q _ hq => hq

/-- Tasks and time keep active paths as the configuration says. -/
theorem steady_coherent : Steady Coherent := by
  constructor
  · intro w w' hh hr hw
    exact hw.congr (by rw [outline, outline, marks, marks, hh, hr])
  · intro w w' i t ht hw
    obtain ⟨ms, hturn⟩ := turn_of_stepTask hw.tidy.owned ht
    exact hw.congr (outline_of_turn hw.tidy hturn)

theorem coherent_activate (hw : w.Coherent) (name query : String) :
    (w.activate name query).1.Coherent := by
  unfold activate
  split
  · exact hw
  · rename_i m hm
    have ho := outline_acquire hw.tidy
    have ha := hw.congr ho
    simp only
    split
    · exact ha.congr (outline_release _)
    · rename_i hn
      have hm' : w.acquire.registry.store.current.find name = .ok m := by
        rw [store_of_outline ho]
        exact hm
      exact (ha.adjust (adjusts_build ha.tidy hn hm' query)).congr (outline_release _)

theorem coherent_activateAll (hw : w.Coherent) (es : List Entry) : (w.activateAll es).1.Coherent := by
  induction es generalizing w with
  | nil => exact hw
  | cons e es ih =>
    have ha := coherent_activate hw e.name ""
    unfold activateAll
    split
    · rename_i v _ hv
      rw [hv] at ha
      exact ih ha
    · rename_i v _ hv
      rw [hv] at ha
      exact ha

theorem coherent_start (hw : w.Coherent) : w.activateAlwaysOn.1.Coherent := by
  have ha := coherent_activateAll hw (alwaysOn w.registry.store.current)
  unfold activateAlwaysOn
  simp only
  split
  · rename_i v _ hv
    rw [hv] at ha
    exact ha.congr rfl
  · rename_i v _ hv
    rw [hv] at ha
    exact ha

theorem Coherent.remove (hw : w.Coherent) (name : String) :
    (w.setRegistry (w.registry.remove name)).Coherent :=
  hw.adjust (adjusts_remove hw.tidy _ name)

theorem coherent_deactivate (hw : w.Coherent) (name reason : String) :
    (w.deactivate name reason).1.Coherent := by
  have ha := ((hw.congr (outline_acquire hw.tidy)).remove name).congr (outline_release _)
  unfold deactivate
  simp only
  split
  · exact ha.congr (outline_close ha.tidy _ _)
  · exact ha

theorem coherent_shutdown (hw : w.Coherent) : w.shutdown.Coherent := by
  have hclose : ∀ (ps : List ActivePath) (v : Server), v.Coherent →
      (ps.foldl (fun w p => w.close p "shutting down") v).Coherent := by
    intro ps
    induction ps with
    | nil => exact fun v hv => hv
    | cons p ps ih => exact fun v hv => ih _ (hv.congr (outline_close hv.tidy _ _))
  have ha := hw.congr (outline_acquire hw.tidy)
  have hnone : (w.acquire.setRegistry { w.acquire.registry with paths := [] }).Coherent :=
    ⟨⟨ha.tidy.owned, List.nodup_nil⟩, fun p hp => by cases hp⟩
  exact (hclose _ _ (hnone.congr (outline_release _))).congr rfl

/-! ## Reloads -/

/-- While another configuration is put in force: the paths still to be brought in line are as the
earlier configuration says, the others as the new one does. -/
structure Midway (prev c : Configuration) (todo : List String) (w : Server) : Prop where
  /-- Paths and supervisors are in order. -/
  tidy : w.Tidy
  /-- The new configuration is in force. -/
  current : w.registry.store.current = c
  /-- Paths are as one of the two configurations says. -/
  follows : ∀ p ∈ w.registry.paths,
    (p.name ∈ todo → w.Follows prev p) ∧ (p.name ∉ todo → w.Follows c p)

theorem Midway.adjust {todo : List String} (hw : Midway prev c (name :: todo) w)
    (hn : name ∉ todo) (ha : Adjusts c name w w') : Midway prev c todo w' := by
  refine ⟨ha.tidy, by rw [ha.store, hw.current], ?_⟩
  refine ha.forall_paths (P := fun p => (p.name ∈ name :: todo → w.Follows prev p) ∧
    (p.name ∉ name :: todo → w.Follows c p)) (fun q => Iff.rfl) hw.follows (fun q hq hf => ?_)
    fun q hq hf => ⟨fun hm => absurd (hq ▸ hm) hn, fun _ => hf⟩
  refine ⟨fun hm => (hf.1 (List.mem_cons_of_mem _ hm)).of_grows ha.grows, fun hm => ?_⟩
  exact (hf.2 (by simp [hq, hm])).of_grows ha.grows

theorem Adjusts.trans (h : Adjusts c name w w') (h' : Adjusts c name w' v) :
    Adjusts c name w v := by
  refine ⟨h'.tidy, h'.store.trans h.store, h.grows.trans h'.grows, fun q hq => ?_⟩
  rcases h'.paths q hq with ⟨hn, hmem⟩ | hq
  · obtain ⟨x, hx, heq⟩ := List.mem_map.1 hmem
    have hxn : x.still.name = q.still.name := by rw [heq]
    change x.name = q.name at hxn
    rcases h.paths x hx with ⟨-, hx⟩ | ⟨hx, -⟩
    · exact .inl ⟨hn, heq ▸ hx⟩
    · exact absurd (hxn ▸ hx) hn
  · exact .inr hq

/-- A path that was restarted is as the new configuration says, if it is active. -/
theorem adjusts_restart {m : Match} (hw : w.Tidy)
    (hm : w.registry.store.current.find p.name = .ok m) :
    Adjusts w.registry.store.current p.name w (w.restart p m).1 := by
  have hv := adjusts_remove hw w.registry.store.current p.name
  have hu := outline_stopSource hv.tidy p "configuration changed"
  have hx : ∀ u : Server, (if p.isReady then u.setRegistry (u.registry.send (.notReady p.name))
      else u).outline = u.outline := by
    intro u
    split <;> rfl
  have hbuild : ∀ u : Server,
      u.outline = (w.setRegistry (w.registry.remove p.name)).outline →
      Adjusts w.registry.store.current p.name w (u.build p.name m p.query).1 := by
    intro u ho
    have hstore := store_of_outline ho
    have hb := adjusts_build (m := m) (hv.tidy.congr ho)
      (get?_eq_none_congr (congrArg Prod.fst ho) (get?_remove _ _)) (by rw [hstore]; exact hm) p.query
    rw [hstore] at hb
    exact (hv.after ho).trans hb
  have hb := hbuild _ ((hx _).trans hu)
  unfold restart
  simp only
  split
  · rename_i y _ hy
    rw [hy] at hb
    exact hb
  · rename_i y _ hy
    rw [hy] at hb
    exact hb.after rfl

/-- A path whose source can go on is handed the settings. -/
theorem adjusts_amend {entry : Entry} (hw : w.Tidy)
    (hf : w.Follows c { p with entry := entry }) : Adjusts c p.name w (w.amend p entry) := by
  have hs := adjusts_set (w := w.record (.reloaded p.name)) (p := p) (hw.congr rfl) hf
  have hb := hs.before (v := w) rfl
  unfold amend
  simp only
  split
  · exact hb.after (outline_reload hs.tidy _ _)
  · exact hb

/-- A path that was brought in line is as the new configuration says, if it is active. -/
theorem adjusts_align (hw : w.Tidy) (hc : w.registry.store.current = c)
    (hp : p ∈ w.registry.paths) (hf : w.Follows prev p) :
    Adjusts c p.name w (align c (prev.options != c.options) w p).1 := by
  unfold align
  split
  · have hr := adjusts_remove hw c p.name
    exact hr.after (outline_close hr.tidy _ _)
  · rename_i m hm
    simp only
    -- a source that was made with other settings is made anew
    have hopt : ((prev.options != c.options) && p.origin.host?.isSome) = false →
        p.origin.host?.isSome → prev.options = c.options := by
      intro hb ho
      simpa [ho] using hb
    split
    · rename_i hsame
      simp only [Bool.and_eq_true, beq_iff_eq, Bool.not_eq_true'] at hsame
      obtain ⟨hentry, hb⟩ := hsame
      have ha := hf.amend hm (by rw [hentry]) (by rw [hentry]) (by rw [hentry]) (hopt hb)
      rw [← hentry] at ha
      refine ⟨hw, rfl, fun _ _ hx => hx, fun q hq => ?_⟩
      by_cases hn : q.name = p.name
      · rw [List.inj_on_of_nodup_map hw.distinct hq hp hn]
        exact .inr ⟨rfl, ha⟩
      · exact .inl ⟨hn, still_mem_outline hq⟩
    · split
      · have hr := adjusts_restart (p := p) (m := m) hw (by rw [hc]; exact hm)
        rwa [hc] at hr
      · rename_i hneed
        simp only [needsRestart, Settings.needsRestart, Bool.or_eq_true, not_or,
          Bool.not_eq_true, bne_eq_false_iff_eq] at hneed
        obtain ⟨⟨hb, hname⟩, hset⟩ := hneed
        refine adjusts_amend hw (hf.amend hm hname ?_ ?_ (hopt hb))
        · exact hset.1.1.1.1.1.1.1.1.1
        · exact hset.2

/-- Bringing the path of a name in line. -/
theorem midway_alignName {todo : List String} {e : Option ServerError}
    (hw : Midway prev c (name :: todo) w) (hn : name ∉ todo) :
    Midway prev c todo (alignName c (prev.options != c.options) (w, e) name).1 := by
  unfold alignName
  split
  · exact hw.adjust hn (adjusts_of_inactive hw.tidy ‹_› c)
  · rename_i p hp
    obtain rfl := name_of_get? hp
    have hmem := mem_of_get? hp
    have hf := (hw.follows p hmem).1 (List.mem_cons_self ..)
    exact hw.adjust hn (adjusts_align hw.tidy hw.current hmem hf)

theorem midway_alignNames {todo : List String} (hn : todo.Nodup) {s : Server × Option ServerError}
    (hs : Midway prev c todo s.1) :
    Midway prev c [] (todo.foldl (alignName c (prev.options != c.options)) s).1 := by
  induction todo generalizing s with
  | nil => exact hs
  | cons name todo ih =>
    obtain ⟨hname, hn⟩ := List.nodup_cons.1 hn
    exact ih hn (midway_alignName (e := s.2) hs hname)

/-- Once all paths were brought in line, they are as the new configuration says. -/
theorem Midway.coherent (hw : Midway prev c [] w) : w.Coherent := by
  refine ⟨hw.tidy, fun p hp => ?_⟩
  rw [hw.current]
  exact (hw.follows p hp).2 (List.not_mem_nil)

/-- A path whose source is to be pulled all the time is activated as the configuration says. -/
theorem coherent_ensure {s : Server × Option ServerError} {e : Entry} (hs : s.1.Coherent)
    (hc : s.1.registry.store.current = c) (he : e ∈ alwaysOn c) :
    (ensure s e).1.Coherent ∧ (ensure s e).1.registry.store.current = c := by
  obtain ⟨hmem, hon⟩ := List.mem_filter.1 he
  have hp : e.pattern = none := by
    simp only [isAlwaysOn, Entry.isPattern, Bool.and_eq_true, Bool.not_eq_true'] at hon
    simpa using hon.1.1
  unfold ensure
  split
  · exact ⟨hs, hc⟩
  · rename_i hn
    have hn : s.1.registry.get? e.name = none := by simpa [Registry.isActive] using hn
    have hm : s.1.registry.store.current.find e.name = .ok ⟨e, none⟩ := by
      rw [hc]
      exact Table.find_of_mem hmem hp
    have ha := adjusts_build hs.tidy hn hm ""
    have hb : (s.1.build e.name ⟨e, none⟩ "").1.Coherent ∧
        (s.1.build e.name ⟨e, none⟩ "").1.registry.store.current = c :=
      ⟨hs.adjust ha, by rw [ha.store, hc]⟩
    split
    · rename_i v _ hv
      rw [hv] at hb
      exact hb
    · rename_i v _ hv
      rw [hv] at hb
      exact hb

theorem coherent_ensures {es : List Entry} (hes : ∀ e ∈ es, e ∈ alwaysOn c)
    {s : Server × Option ServerError} (hs : s.1.Coherent) (hc : s.1.registry.store.current = c) :
    (es.foldl ensure s).1.Coherent := by
  induction es generalizing s with
  | nil => exact hs
  | cons e es ih =>
    rw [List.forall_mem_cons] at hes
    obtain ⟨hs, hc⟩ := coherent_ensure hs hc hes.1
    exact ih hes.2 hs hc

/-- While paths are as one configuration says and another one has just been put in force, all of them
are still to be brought in line. -/
theorem midway_of_coherent (hw : w.Coherent) (ho : v.Tidy)
    (hr : v.registry.outline = { w.registry.outline with store := ⟨c⟩ }) (hm : v.marks = w.marks) :
    Midway w.registry.store.current c (v.registry.paths.map (·.name)) v := by
  have hg : Grows w v := by
    intro i x hx
    rwa [made?_eq, hm, ← made?_eq]
  have hstore : v.registry.outline.store = ⟨c⟩ := by rw [hr]
  refine ⟨ho, congrArg Store.current hstore, fun p hp => ⟨fun _ => ?_, fun hn => ?_⟩⟩
  · have hmem : p.still ∈ v.registry.outline.paths := still_mem_outline hp
    rw [hr] at hmem
    obtain ⟨q, hq, heq⟩ := List.mem_map.1 hmem
    rw [← follows_still, ← heq, follows_still]
    exact (hw.follows q hq).of_grows hg
  · exact absurd (List.mem_map_of_mem hp) hn

/-- A configuration that is put in force, or fails to be, leaves each active path as the configuration
in force says. -/
theorem coherent_reload (hw : w.Coherent) (c : Configuration) : (w.apply c).1.Coherent := by
  unfold apply
  split
  · exact hw
  · rename_i c' _
    simp only [Store.previous_replace]
    let v := (w.setRegistry { w.registry with store := (w.registry.store.replace c').1 }).record
      (.replaced c'.table.entries.length)
    have hv : v.Tidy := ⟨hw.tidy.owned, hw.tidy.distinct⟩
    have ho := outline_acquire hv
    have hbegin := midway_of_coherent (c := c') hw (hv.congr ho) (congrArg Prod.fst ho)
      (congrArg Prod.snd ho)
    have haligned := midway_alignNames (s := (v.acquire, none)) (hv.congr ho).distinct hbegin
    exact (coherent_ensures (fun e he => he) haligned.coherent haligned.current).congr
      (outline_release _)

/-! ## Every history -/

theorem coherent_operate (hw : w.Coherent) (o : Operation) : (w.operate o).Coherent := by
  cases o with
  | start => exact coherent_start hw
  | activate name query => exact coherent_activate hw name query
  | deactivate name reason => exact coherent_deactivate hw name reason
  | reload c => exact coherent_reload hw c
  | shutdown => exact coherent_shutdown hw
  | look => exact (hw.congr (outline_acquire hw.tidy)).congr (outline_release _)

/-- After every history, the active paths have different names, and each of them is as the
configuration in force says: the configuration has an entry for it, which is the entry that applies to
the path, with the texts of the groups; its origin is the one that the entry asks for; and if that is a
source, its supervisor was made for the kind of the source and with the settings in force. -/
theorem follows_configuration (store : Store) (factory : Workshop) (pause : Nat) (es : List Event) :
    (((fresh store factory pause).history es).registry.paths.map (·.name)).Nodup ∧
      ∀ p ∈ ((fresh store factory pause).history es).registry.paths,
        ((fresh store factory pause).history es).Follows
          ((fresh store factory pause).history es).registry.store.current p := by
  have hfresh : (fresh store factory pause).Coherent :=
    ⟨tidy_fresh store factory pause, fun p hp => by cases hp⟩
  have hw := history_induction steady_coherent (fun _ o hw => coherent_operate hw o) es hfresh
  exact ⟨hw.tidy.distinct, hw.follows⟩

/-- A path goes on under the settings of a configuration that was put in force while it was active. -/
theorem follows_configuration_reloaded :
    let silent : Workshop := ⟨fun _ _ _ _ => .ok { behaviour := fun _ => [] }⟩
    let configured (s : Settings) := ((({} : Configuration).insert "cam" s).toOption).getD {}
    let old : Settings := { source := "rtsp://10.0.0.1:554/live" }
    let es : List Event :=
      [.operation .start, .operation (.reload (configured { old with maxReaders := 7 }))]
    let w := (fresh ⟨configured old⟩ silent 5000).history es
    ∃ p ∈ w.registry.paths, p.entry.settings.maxReaders = 7 ∧ p.origin = .source 0 ∧
      w.Follows w.registry.store.current p := by
  intro silent configured old es w
  obtain ⟨p, hp, hreaders⟩ : ∃ p ∈ w.registry.paths,
      p.entry.settings.maxReaders = 7 ∧ p.origin = .source 0 := by decide +kernel
  exact ⟨p, hp, hreaders.1, hreaders.2,
    (follows_configuration ⟨configured old⟩ silent 5000 es).2 p hp⟩

end Server

end MediaPaths
