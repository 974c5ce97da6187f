import MediaPaths.Proofs.Server.Outline

/-!
# What making a path active does

`Built` lists the outcomes of making a path active: it may fail, it may need a supervisor, which is made
and started, and it may do without one.
-/

namespace MediaPaths

namespace Server

variable {w w' : Server} {name query : String} {id : Nat} {m : Match}

/-- The active path as it is registered. -/
def activation (w : Server) (name : String) (m : Match) (query : String) (origin : Origin) :
    ActivePath :=
  { name := name
    id := w.registry.nextId
    entry := m.entry
    groups := m.groups
    query := query
    origin := origin }

/-- The registry after one more number was given to an activation. -/
def numbered (w : Server) : Registry := { w.registry with nextId := w.registry.nextId + 1 }

/-- The supervisor of a path after it was made and started. -/
def hired (s : Supervisor) (name : String) (id : Nat) (m : Match) (query : String) : Host :=
  Host.flushed ⟨s.start m.entry.settings.sourceOnDemand query, .path name id⟩

/-- The outcomes of making a path active, with the moves of a supervisor that is made for it. -/
inductive Built (w : Server) (name : String) (m : Match) (query : String) (w' : Server) :
    Except SourceError ActivePath → List Supervisor.Move → Prop where
  /-- There is no source for it. -/
  | failed {e : SourceError} (hh : w'.hosts = w.hosts) (hr : w'.registry = w.numbered) :
      Built w name m query w' (.error e) []
  /-- A supervisor was made and started for it. -/
  | pulled {s : Supervisor}
      (hs : Supervisor.create w.now m.entry m.groups w.registry.store.current.options
        (w.registry.factory.factory w.registry.nextId) w.registry.pause = .ok s)
      (hh : w'.hosts = w.hosts ++ [hired s name w.registry.nextId m query])
      (hr : w'.registry =
        w.numbered.insert (w.activation name m query (.source w.hosts.length))) :
      Built w name m query w' (.ok (w.activation name m query (.source w.hosts.length)))
        [.start m.entry.settings.sourceOnDemand query, .flush]
  /-- It leads elsewhere. -/
  | redirected (hs : m.entry.settings.hasStaticSource = false)
      (ht : m.entry.settings.source = Settings.redirect) (hh : w'.hosts = w.hosts)
      (hr : w'.registry = w.numbered.insert
        (w.activation name m query (.redirect m.entry.settings.sourceRedirect))) :
      Built w name m query w'
        (.ok (w.activation name m query (.redirect m.entry.settings.sourceRedirect))) []
  /-- A client is to publish to it. -/
  | published (hs : m.entry.settings.hasStaticSource = false)
      (ht : m.entry.settings.source ≠ Settings.redirect) (hh : w'.hosts = w.hosts)
      (hr : w'.registry = w.numbered.insert (w.activation name m query .publisher)) :
      Built w name m query w' (.ok (w.activation name m query .publisher)) []

/-- A supervisor is made, added and started. -/
theorem pull_spec {i : Nat} (hw : w.Owned) (h : w.pull name id m query = .ok (w', i)) :
    i = w.hosts.length ∧ ∃ s, Supervisor.create w.now m.entry m.groups
        w.registry.store.current.options (w.registry.factory.factory id) w.registry.pause = .ok s ∧
      w'.hosts = w.hosts ++ [hired s name id m query] ∧ w'.registry = w.registry := by
  unfold pull at h
  simp only at h
  cases hc : Supervisor.create w.now m.entry m.groups w.registry.store.current.options
      (w.registry.factory.factory id) w.registry.pause with
  | error e =>
    rw [hc] at h
    cases h
  | ok s =>
    rw [hc] at h
    cases h
    refine ⟨rfl, s, rfl, ?_, registry_modify _ _ _⟩
    have hadd : (w.addHost s (.path name id)).Owned := by
      intro x hx
      rcases List.mem_append.1 hx with hx | hx
      · exact hw x hx
      · rw [List.mem_singleton.1 hx]
        exact ⟨name, id, rfl⟩
    have hget : (w.addHost s (.path name id)).hosts[w.hosts.length]? =
        some ⟨s, .path name id⟩ := by
      simp [addHost]
    rcases hosts_modify hadd w.hosts.length (·.start m.entry.settings.sourceOnDemand query) with
        ⟨x, hx, hh⟩ | ⟨hx, -⟩
    · obtain rfl := Option.some.inj (hget.symm.trans hx)
      refine hh.trans ?_
      simp [addHost, hired]
    · rw [hget] at hx
      cases hx

/-- Making a path active has one of the outcomes listed. -/
theorem built_of_build (hw : w.Owned) (name : String) (m : Match) (query : String) :
    ∃ ms, Built w name m query (w.build name m query).1 (w.build name m query).2 ms := by
  have hnum : (w.setRegistry w.numbered).Owned := hw
  unfold build originate
  simp only
  split
  · rename_i e he
    exact ⟨_, .failed rfl rfl⟩
  · rename_i v origin he
    split at he
    · rename_i hs
      obtain ⟨⟨u, i⟩, hu, heq⟩ : ∃ x, (w.setRegistry w.numbered).pull name w.registry.nextId m
          query = .ok x ∧ (x.1, Origin.source x.2) = (v, origin) := by
        change Except.map _ ((w.setRegistry w.numbered).pull name w.registry.nextId m query) =
          _ at he
        cases hp : (w.setRegistry w.numbered).pull name w.registry.nextId m query with
        | error e =>
          rw [hp] at he
          cases he
        | ok x =>
          rw [hp] at he
          exact ⟨x, rfl, Except.ok.inj he⟩
      cases heq
      obtain ⟨rfl, s, hc, hh, hr⟩ := pull_spec hnum hu
      refine ⟨_, .pulled hc hh ?_⟩
      show u.registry.insert _ = _
      rw [hr]
      rfl
    · rename_i hs
      have hs : m.entry.settings.hasStaticSource = false := by simpa using hs
      split at he
      · rename_i ht
        cases he
        exact ⟨_, .redirected hs (by simpa using ht) rfl rfl⟩
      · rename_i ht
        cases he
        exact ⟨_, .published hs (by simpa using ht) rfl rfl⟩

/-! ## What the outcomes have in common -/

/-- A path that is built comes with a host of its own and changes no other. -/
theorem hosts_build_of_lt {i : Nat} (hw : w.Owned) (hi : i < w.hosts.length) (name : String) (m : Match)
    (query : String) : (w.build name m query).1.hosts[i]? = w.hosts[i]? := by
  obtain ⟨ms, hb⟩ := built_of_build hw name m query
  generalize (w.build name m query).1 = v at hb ⊢
  generalize (w.build name m query).2 = result at hb
  cases hb with
  | failed hh | redirected _ _ hh | published _ _ hh => rw [hh]
  | pulled _ hh => rw [hh, List.getElem?_append_left hi]

/-- A path of a name that is not active has another name than those that are. -/
theorem name_ne_of_inactive (hw : w.Tidy) (hn : w.registry.get? name = none) :
    ∀ q ∈ w.registry.paths, q.name ≠ name := by
  intro q hq heq
  have hget := get?_of_mem hw.distinct hq
  rw [heq, hn] at hget
  cases hget

theorem paths_insert {p : ActivePath} (hr : w'.registry = w.numbered.insert p) :
    w'.registry.paths = w.registry.paths ++ [p] := by
  rw [hr]
  rfl

/-- Adding a path of a new name keeps paths and supervisors in order. -/
theorem Tidy.insert {p : ActivePath} (hw : w.Tidy) (hn : w.registry.get? name = none)
    (ho : w'.Owned) (hp : p.name = name) (hr : w'.registry = w.numbered.insert p) : w'.Tidy := by
  refine ⟨ho, ?_⟩
  rw [paths_insert hr, List.map_append, List.nodup_append]
  refine ⟨hw.distinct, by simp, fun x hx y hy hxy => ?_⟩
  obtain ⟨q, hq, rfl⟩ := List.mem_map.1 hx
  obtain rfl : y = name := by simpa [hp] using hy
  exact name_ne_of_inactive hw hn q hq hxy

/-- Adding the supervisor of a path keeps supervisors owned by paths. -/
theorem Owned.hire (hw : w.Owned) {s : Supervisor}
    (hh : w'.hosts = w.hosts ++ [hired s name id m query]) : w'.Owned := by
  intro x hx
  rw [hh] at hx
  rcases List.mem_append.1 hx with hx | hx
  · exact hw x hx
  · rw [List.mem_singleton.1 hx]
    exact ⟨name, id, rfl⟩

end Server

end MediaPaths
