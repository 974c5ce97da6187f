import MediaPaths.Proofs.Server.Coherence
import MediaPaths.Proofs.Server.Scenes

/-!
# What another configuration leaves active

If what a factory answers depends only on what it is asked, then for each path one can tell from the path
itself, the configuration and the answers of the factory whether it is active once the configuration is in
force, and with what. No other path is of account, and neither is the order in which the paths were brought
in line.

Two rounds make this up: active paths are brought in line by their names, and then the paths whose sources
are to be pulled all the time are activated. Each step of a round decides about one path and leaves the
others alone (`Decides`), so a round in which no path comes up twice decides about each of its paths by what
it was at first.
-/

namespace MediaPaths

namespace Server

variable {w v w' : Server} {name query : String} {m : Match} {p q : ActivePath} {f g : Factory}
  {c : Configuration} {s t : Server × Option ServerError}

/-! ## Refusals -/

/-- Whether a factory refuses to make a source for an entry. -/
def refuses (f : Factory) (options : SourceOptions) (e : Entry) : Bool :=
  e.settings.sourceKind?.any fun kind => !(f kind e options).isOk

/-- Whether something succeeds does not depend on what is made of its result. -/
theorem isOk_map {ε α β : Type} (k : α → β) (x : Except ε α) : (x.map k).isOk = x.isOk := by
  cases x <;> rfl

/-- Where media come from is known unless a source is refused. -/
theorem isOk_originate (w : Server) (name : String) (id : Nat) (m : Match) (query : String) :
    (w.originate name id m query).isOk =
      !refuses (w.registry.factory.factory id) w.registry.store.current.options m.entry := by
  cases hk : m.entry.settings.sourceKind? with
  | none =>
    simp only [originate, refuses, Settings.hasStaticSource, hk, Option.isSome_none, Option.any_none,
      Bool.false_eq_true, if_false]
    split <;> rfl
  | some kind =>
    simp only [originate, pull, Supervisor.create, refuses, Settings.hasStaticSource, hk,
      Option.isSome_some, if_true, Option.any_some, isOk_map, Bool.not_not]

/-- A path can be made active unless its source is refused. -/
theorem isOk_build (w : Server) (name : String) (m : Match) (query : String) :
    (w.build name m query).2.isOk = !refuses (w.registry.factory.factory w.registry.nextId)
      w.registry.store.current.options m.entry := by
  have ho := isOk_originate (w.setRegistry w.numbered) name w.registry.nextId m query
  refine Eq.trans ?_ ho
  unfold build
  simp only
  split <;> rename_i h <;> exact (congrArg Except.isOk h).symm

/-! ## Paths without their media -/

/-- The active path of a name without its media. -/
def still? (w : Server) (name : String) : Option ActivePath :=
  (w.registry.get? name).map ActivePath.still

/-- The picture of an active path is part of the outline of a server. -/
theorem still?_of_outline (ho : v.outline = w.outline) : v.still? = w.still? := by
  funext name
  rw [still?, still?, ← get?_outline, ← get?_outline,
    show v.registry.outline = w.registry.outline from congrArg Prod.fst ho]

/-- An active path has a picture, made of its entry, its groups and its query. -/
theorem still?_of_get? (hp : w.registry.get? name = some p) : w.still? name = some p.still := by
  rw [still?, hp]
  rfl

/-- A name without a picture is not active. -/
theorem still?_eq_none : w.still? name = none ↔ w.registry.get? name = none :=
  Option.map_eq_none_iff

/-- Removing a path takes its picture away and keeps all others. -/
theorem still?_remove (w : Server) (name : String) :
    (w.setRegistry (w.registry.remove name)).still? = Function.update w.still? name none := by
  funext n
  by_cases hn : n = name
  · subst hn
    rw [Function.update_self]
    exact still?_eq_none.2 (get?_remove _ _)
  · rw [Function.update_of_ne hn]
    refine congrArg (Option.map _) ?_
    rw [Registry.get?, setRegistry, Registry.remove, List.find?_filter]
    refine congrArg (List.find? · w.registry.paths) (funext fun q => ?_)
    by_cases hq : q.name = n
    · simp [hq, hn]
    · simp [hq]

/-- Replacing a path changes its own picture only. -/
theorem still?_set (hp : w.registry.get? q.name = some p) :
    (w.setRegistry (w.registry.set q)).still? = Function.update w.still? q.name (some q.still) := by
  funext n
  have hset : (w.setRegistry (w.registry.set q)).still? n =
      ((w.registry.get? n).map fun r => if r.name = q.name then q else r).map ActivePath.still := by
    rw [still?, setRegistry, get?_set]
  rw [hset]
  by_cases hn : n = q.name
  · subst hn
    rw [Function.update_self, hp]
    simp [name_of_get? hp]
  · rw [Function.update_of_ne hn, still?]
    cases hg : w.registry.get? n with
    | none => rfl
    | some r =>
      have hr : r.name ≠ q.name := fun h => hn ((name_of_get? hg).symm.trans h)
      simp [hr]

/-- Adding a path adds its picture. -/
theorem still?_insert (hn : w.registry.get? q.name = none) (hr : v.registry = w.numbered.insert q) :
    v.still? = Function.update w.still? q.name (some q.still) := by
  have hget : ∀ n, v.registry.get? n = (w.registry.get? n).or ([q].find? (·.name == n)) := fun n => by
    rw [Registry.get?, paths_insert hr, List.find?_append]
    rfl
  funext n
  rw [still?, hget]
  by_cases h : n = q.name
  · subst h
    rw [Function.update_self, hn]
    simp
  · rw [Function.update_of_ne h, List.find?_cons_of_neg (by simpa using Ne.symm h), List.find?_nil,
      Option.or_none]
    rfl

/-- A server in which a configuration is in force, with a factory whose answers do not change. -/
structure Under (f : Factory) (c : Configuration) (w : Server) : Prop where
  tidy : w.Tidy
  factory : w.registry.factory = f
  current : w.registry.store.current = c

/-- Being under a configuration is a matter of the outline. -/
theorem Under.congr (hw : Under f c w) (ho : v.outline = w.outline) : Under f c v := by
  refine ⟨hw.tidy.congr ho, ?_, (congrArg _ (store_of_outline ho)).trans hw.current⟩
  have hfactory : v.registry.outline.factory = w.registry.outline.factory := by
    rw [show v.registry.outline = w.registry.outline from congrArg Prod.fst ho]
  exact hfactory.trans hw.factory

/-- A server stays under its configuration when a path is removed. -/
theorem Under.remove (hw : Under f c w) (name : String) :
    Under f c (w.setRegistry (w.registry.remove name)) :=
  ⟨hw.tidy.remove name, hw.factory, hw.current⟩

/-- A path that is built is added in an orderly way, or not at all. -/
theorem Tidy.build (hw : w.Tidy) (hn : w.registry.get? name = none) (m : Match) (query : String) :
    (w.build name m query).1.Tidy := by
  obtain ⟨ms, hb⟩ := built_of_build hw.owned name m query
  generalize (w.build name m query).1 = v at hb ⊢
  generalize (w.build name m query).2 = result at hb
  cases hb with
  | failed hh hr => exact ⟨hw.owned.congr hh, by rw [hr]; exact hw.distinct⟩
  | pulled _ hh hr => exact hw.insert hn (hw.owned.hire hh) rfl hr
  | redirected _ _ hh hr | published _ _ hh hr => exact hw.insert hn (hw.owned.congr hh) rfl hr

/-- Making a path active changes no other path. It fails if the source is refused. -/
theorem Under.build (hw : Under f c w) (hn : w.registry.get? name = none) (m : Match) (query : String) :
    Under f c (w.build name m query).1 ∧
      ((∃ e, (w.build name m query).2 = .error e ∧ refuses f c.options m.entry = true ∧
        (w.build name m query).1.still? = w.still?) ∨
      ∃ q, (∃ o, (w.build name m query).2 = .ok o) ∧ refuses f c.options m.entry = false ∧
        q.query = query ∧
        (w.build name m query).1.still? = Function.update w.still? name (some q)) := by
  have hok := isOk_build w name m query
  rw [hw.factory, hw.current] at hok
  have htidy := hw.tidy.build hn m query
  rcases registry_build hw.tidy.owned name m query with ⟨o, hq, hr⟩ | ⟨e, he, hr, -⟩
  · refine ⟨⟨htidy, by rw [hr]; exact hw.factory, by rw [hr]; exact hw.current⟩, .inr ?_⟩
    refine ⟨(w.activation name m query o).still, ⟨_, hq⟩, ?_, rfl, still?_insert hn hr⟩
    rw [hq] at hok
    exact Bool.not_eq_true' _ ▸ hok.symm
  · refine ⟨⟨htidy, by rw [hr]; exact hw.factory, by rw [hr]; exact hw.current⟩, .inl ?_⟩
    refine ⟨e, he, ?_, ?_⟩
    · rw [he] at hok
      exact Bool.not_eq_false' _ ▸ hok.symm
    · funext n
      rw [still?, hr]
      rfl

/-! ## Rounds -/

/-- A step decides about the path of a name by what it is before, and leaves the others alone. -/
structure Settles (f : Factory) (c : Configuration) (s t : Server × Option ServerError) (name : String)
    (Becomes : Option ActivePath → Option ActivePath → Prop) (Fails : Option ActivePath → Prop) :
    Prop where
  /-- The configuration stays in force. -/
  under : Under f c t.1
  /-- What the path becomes. -/
  becomes : ∃ x, Becomes (s.1.still? name) x ∧ t.1.still? = Function.update s.1.still? name x
  /-- When there is an error. -/
  error : t.2 = none ↔ s.2 = none ∧ ¬Fails (s.1.still? name)

/-- Each step of a round decides about one path. -/
def Decides {α : Type} (f : Factory) (c : Configuration)
    (step : Server × Option ServerError → α → Server × Option ServerError) (key : α → String)
    (Becomes : α → Option ActivePath → Option ActivePath → Prop)
    (Fails : α → Option ActivePath → Prop) : Prop :=
  ∀ s a, Under f c s.1 → Settles f c s (step s a) (key a) (Becomes a) (Fails a)

section

variable {α : Type} {step : Server × Option ServerError → α → Server × Option ServerError}
  {key : α → String} {Becomes : α → Option ActivePath → Option ActivePath → Prop}
  {Fails : α → Option ActivePath → Prop}

/-- If every step of a pass keeps the server under its configuration, the pass does. -/
theorem Decides.under_foldl (hd : Decides f c step key Becomes Fails) (hs : Under f c s.1)
    (as : List α) : Under f c (as.foldl step s).1 := by
  induction as generalizing s with
  | nil => exact hs
  | cons a as ih => exact ih (hd s a hs).under

/-- A path about which no step of a round decides stays as it is. -/
theorem Decides.still?_foldl (hd : Decides f c step key Becomes Fails) (hs : Under f c s.1)
    {as : List α} (hn : name ∉ as.map key) : (as.foldl step s).1.still? name = s.1.still? name := by
  induction as generalizing s with
  | nil => rfl
  | cons a as ih =>
    rw [List.map_cons, List.mem_cons, not_or] at hn
    obtain ⟨hs', ⟨x, -, hx⟩, -⟩ := hd s a hs
    rw [List.foldl_cons, ih hs' hn.2, hx, Function.update_of_ne hn.1]

/-- A round decides about each of its paths by what it was at first. -/
theorem Decides.becomes_foldl (hd : Decides f c step key Becomes Fails) (hs : Under f c s.1)
    {as : List α} (hn : (as.map key).Nodup) :
    ∀ a ∈ as, Becomes a (s.1.still? (key a)) ((as.foldl step s).1.still? (key a)) := by
  induction as generalizing s with
  | nil => exact List.forall_mem_nil _
  | cons b as ih =>
    obtain ⟨hb, hn⟩ := List.nodup_cons.1 hn
    obtain ⟨hs', ⟨x, hbecomes, hx⟩, -⟩ := hd s b hs
    refine List.forall_mem_cons.2 ⟨?_, fun a ha => ?_⟩
    · rw [List.foldl_cons, hd.still?_foldl hs' hb, hx, Function.update_self]
      exact hbecomes
    · have hne : key a ≠ key b := fun heq => hb (heq ▸ List.mem_map_of_mem ha)
      have h := ih hs' hn a ha
      rwa [hx, Function.update_of_ne hne] at h

/-- There is no error in a round if none of its steps fails. -/
theorem Decides.error_foldl (hd : Decides f c step key Becomes Fails) (hs : Under f c s.1)
    {as : List α} (hn : (as.map key).Nodup) :
    (as.foldl step s).2 = none ↔ s.2 = none ∧ ∀ a ∈ as, ¬Fails a (s.1.still? (key a)) := by
  induction as generalizing s with
  | nil => simp
  | cons b as ih =>
    obtain ⟨hb, hn⟩ := List.nodup_cons.1 hn
    obtain ⟨hs', ⟨x, -, hx⟩, herror⟩ := hd s b hs
    have hsame : ∀ a ∈ as, (step s b).1.still? (key a) = s.1.still? (key a) := fun a ha => by
      have hne : key a ≠ key b := fun heq => hb (heq ▸ List.mem_map_of_mem ha)
      rw [hx, Function.update_of_ne hne]
    rw [List.foldl_cons, ih hs' hn, herror, List.forall_mem_cons, and_assoc]
    refine and_congr_right fun _ => and_congr_right fun _ => forall₂_congr fun a ha => ?_
    rw [hsame a ha]

end

/-! ## The first round -/

/-- What becomes of the path of a name when it is brought in line. -/
inductive Aligned (f : Factory) (c : Configuration) (optionsChanged : Bool) (name : String) :
    Option ActivePath → Option ActivePath → Prop where
  /-- It was not active. -/
  | inactive : Aligned f c optionsChanged name none none
  /-- No entry applies to it. -/
  | dropped {p : ActivePath} {e : LookupError} (hf : c.find name = .error e) :
      Aligned f c optionsChanged name (some p) none
  /-- Its source has to be made anew and is refused. -/
  | refused {p : ActivePath} {m : Match} (hf : c.find name = .ok m) (hr : Restarts optionsChanged p m)
      (ho : refuses f c.options m.entry = true) : Aligned f c optionsChanged name (some p) none
  /-- It is restarted. -/
  | restarted {p q : ActivePath} {m : Match} (hf : c.find name = .ok m)
      (hr : Restarts optionsChanged p m) (ho : refuses f c.options m.entry = false)
      (hq : q.query = p.query) : Aligned f c optionsChanged name (some p) (some q)
  /-- It goes on under the entry that applies to it. -/
  | kept {p : ActivePath} {m : Match} (hf : c.find name = .ok m) (hr : ¬Restarts optionsChanged p m) :
      Aligned f c optionsChanged name (some p) (some { p with entry := m.entry })

/-- Bringing the path of a name in line fails. -/
def Misaligned (f : Factory) (c : Configuration) (optionsChanged : Bool) (name : String)
    (before : Option ActivePath) : Prop :=
  ∃ p ∈ before, ∃ m, c.find name = .ok m ∧ Restarts optionsChanged p m ∧
    refuses f c.options m.entry = true

/-- A restart either takes the path away, if the factory refuses the new source, or puts a path with the new entry
in its place; it never touches another path. -/
theorem restart_spec (hw : Under f c w) (p : ActivePath) (m : Match) :
    Under f c (w.restart p m).1 ∧
      (((w.restart p m).2 ≠ none ∧ refuses f c.options m.entry = true ∧
        (w.restart p m).1.still? = Function.update w.still? p.name none) ∨
      ∃ q, (w.restart p m).2 = none ∧ refuses f c.options m.entry = false ∧ q.query = p.query ∧
        (w.restart p m).1.still? = Function.update w.still? p.name (some q)) := by
  have hv := hw.remove p.name
  have hout : ∀ u : Server, (if p.isReady then u.setRegistry (u.registry.send (.notReady p.name))
      else u).outline = u.outline := by
    intro u
    split <;> rfl
  have ho := (hout _).trans (outline_stopSource hv.tidy p "configuration changed")
  have hn := get?_eq_none_congr (congrArg Prod.fst ho) (get?_remove _ _)
  have hstill := (still?_of_outline ho).trans (still?_remove w p.name)
  obtain ⟨hu, h⟩ := (hv.congr ho).build hn m p.query
  unfold restart
  simp only
  split
  · rename_i y r hy
    rw [hy] at hu h
    refine ⟨hu, .inr ?_⟩
    rcases h with ⟨e, he, -⟩ | ⟨q, -, hr, hq, heq⟩
    · cases he
    · refine ⟨q, rfl, hr, hq, heq.trans ?_⟩
      rw [hstill, Function.update_idem]
  · rename_i y e hy
    rw [hy] at hu h
    refine ⟨hu.congr rfl, .inl ?_⟩
    rcases h with ⟨e, -, hr, heq⟩ | ⟨q, ⟨r, hr⟩, -⟩
    · exact ⟨Option.some_ne_none _, hr, (still?_of_outline rfl).trans (heq.trans hstill)⟩
    · cases hr

/-- Amending a path changes its entry and nothing else. -/
theorem amend_spec (hw : Under f c w) (hp : w.registry.get? p.name = some p) (entry : Entry) :
    Under f c (w.amend p entry) ∧ (w.amend p entry).still? =
      Function.update w.still? p.name (some { p.still with entry := entry }) := by
  let v := (w.record (.reloaded p.name)).setRegistry (w.registry.set { p with entry := entry })
  have hnames := names_set w.registry { p with entry := entry }
  have hv : Under f c v :=
    ⟨⟨hw.tidy.owned, hnames ▸ hw.tidy.distinct⟩, hw.factory, hw.current⟩
  have hset : v.still? = Function.update w.still? p.name (some { p.still with entry := entry }) :=
    still?_set (q := { p with entry := entry }) hp
  have ho : (w.amend p entry).outline = v.outline := by
    unfold amend
    simp only
    split
    · exact outline_reload hv.tidy _ _
    · rfl
  exact ⟨hv.congr ho, (still?_of_outline ho).trans hset⟩

/-- Aligning one path brings it to what the configuration says of its name, and reports an error just when that
cannot be had. -/
theorem align_spec (hw : Under f c w) (hp : w.registry.get? p.name = some p) (optionsChanged : Bool) :
    Under f c (align c optionsChanged w p).1 ∧
      (∃ x, Aligned f c optionsChanged p.name (some p.still) x ∧
        (align c optionsChanged w p).1.still? = Function.update w.still? p.name x) ∧
      ((align c optionsChanged w p).2 = none ↔
        ¬Misaligned f c optionsChanged p.name (some p.still)) := by
  unfold align
  split
  · rename_i e hf
    have hv := hw.remove p.name
    have ho := outline_close hv.tidy p "removed from configuration"
    refine ⟨hv.congr ho, ⟨none, .dropped hf, (still?_of_outline ho).trans (still?_remove w p.name)⟩,
      iff_of_true rfl ?_⟩
    rintro ⟨_, _, m, hm, -⟩
    cases hf.symm.trans hm
  · rename_i m hf
    -- a path that is not restarted is kept, and there is no error
    have hkept : ∀ v : Server, Under f c v → ¬Restarts optionsChanged p m →
        v.still? = Function.update w.still? p.name (some { p.still with entry := m.entry }) →
        Under f c v ∧ (∃ x, Aligned f c optionsChanged p.name (some p.still) x ∧
          v.still? = Function.update w.still? p.name x) ∧
        ((none : Option SourceError) = none ↔
          ¬Misaligned f c optionsChanged p.name (some p.still)) := by
      intro v hv hr heq
      refine ⟨hv, ⟨_, .kept hf hr, heq⟩, iff_of_true rfl ?_⟩
      rintro ⟨_, hp', m', hm', hr', -⟩
      cases hp'
      cases hf.symm.trans hm'
      exact hr hr'
    simp only
    split
    · rename_i hsame
      refine hkept w hw (fun hr => Bool.eq_false_iff.1 hr.1 hsame) ?_
      have hentry : p.entry = m.entry := beq_iff_eq.1 (Bool.and_eq_true_iff.1 hsame).1
      have hbefore : w.still? p.name = some { p.still with entry := m.entry } := by
        rw [← hentry]
        exact (still?_of_get? hp).trans rfl
      rw [← hbefore, Function.update_eq_self]
    · rename_i hsame
      split
      · rename_i hneed
        have hr : Restarts optionsChanged p m := ⟨Bool.eq_false_iff.2 hsame, hneed⟩
        obtain ⟨hv, h⟩ := restart_spec hw p m
        refine ⟨hv, ?_⟩
        rcases h with ⟨he, ho, heq⟩ | ⟨q, he, ho, hq, heq⟩
        · refine ⟨⟨none, .refused hf hr ho, heq⟩, iff_of_false he fun h => ?_⟩
          exact h ⟨_, rfl, m, hf, hr, ho⟩
        · refine ⟨⟨some q, .restarted hf hr ho hq, heq⟩, iff_of_true he ?_⟩
          rintro ⟨_, _, m', hm', -, ho'⟩
          cases hf.symm.trans hm'
          cases ho.symm.trans ho'
      · rename_i hneed
        obtain ⟨hv, heq⟩ := amend_spec hw hp m.entry
        exact hkept _ hv (fun hr => hneed hr.2) heq

/-- Nothing is reported if neither of the two went wrong. -/
theorem firstError_eq_none {a : Option ServerError} {b : Option SourceError} :
    firstError a b = none ↔ a = none ∧ b = none := by
  cases a <;> cases b <;> simp [firstError]

/-- Whether a name gets aligned, and to what, is decided by its own picture. -/
theorem decides_alignName (f : Factory) (c : Configuration) (optionsChanged : Bool) :
    Decides f c (alignName c optionsChanged) id (Aligned f c optionsChanged)
      (Misaligned f c optionsChanged) := by
  intro s name hs
  unfold alignName
  split
  · rename_i hn
    have hbefore : s.1.still? name = none := still?_eq_none.2 hn
    refine ⟨hs, ⟨none, ?_, ?_⟩, ?_⟩
    · rw [id, hbefore]
      exact .inactive
    · rw [id, ← hbefore, Function.update_eq_self]
    · simp [id, hbefore, Misaligned]
  · rename_i p hp
    obtain rfl := name_of_get? hp
    obtain ⟨hv, hbecomes, herror⟩ := align_spec hs hp optionsChanged
    refine ⟨hv, ?_, ?_⟩
    · rw [id, still?_of_get? hp]
      exact hbecomes
    · rw [id, still?_of_get? hp, firstError_eq_none, herror]

/-! ## The second round -/

/-- What becomes of the path of an entry whose source is to be pulled all the time. -/
inductive Ensured (f : Factory) (c : Configuration) (e : Entry) :
    Option ActivePath → Option ActivePath → Prop where
  /-- It is active already. -/
  | active {p : ActivePath} : Ensured f c e (some p) (some p)
  /-- Its source is refused. -/
  | refused (ho : refuses f c.options e = true) : Ensured f c e none none
  /-- It is activated. -/
  | activated {q : ActivePath} (ho : refuses f c.options e = false) (hq : q.query = "") :
      Ensured f c e none (some q)

/-- Whether an entry gets activated is decided by its own picture. -/
theorem decides_ensure (f : Factory) (c : Configuration) :
    Decides f c ensure Entry.name (Ensured f c)
      (fun e before => before = none ∧ refuses f c.options e = true) := by
  intro s e hs
  unfold ensure
  split
  · rename_i hactive
    obtain ⟨p, hp⟩ := Option.isSome_iff_exists.1 hactive
    have hbefore := still?_of_get? hp
    refine ⟨hs, ⟨some p.still, ?_, ?_⟩, ?_⟩
    · rw [hbefore]
      exact .active
    · rw [← hbefore, Function.update_eq_self]
    · simp [hbefore]
  · rename_i hactive
    have hn : s.1.registry.get? e.name = none := by simpa [Registry.isActive] using hactive
    have hbefore : s.1.still? e.name = none := still?_eq_none.2 hn
    obtain ⟨hv, h⟩ := hs.build hn ⟨e, none⟩ ""
    split
    · rename_i v r hr
      rw [hr] at hv h
      rcases h with ⟨err, herr, -⟩ | ⟨q, -, ho, hq, heq⟩
      · cases herr
      · refine ⟨hv, ⟨some q, ?_, heq⟩, ?_⟩
        · rw [hbefore]
          exact .activated ho hq
        · simp [hbefore, show refuses f c.options e = false from ho]
    · rename_i v err hr
      rw [hr] at hv h
      rcases h with ⟨_, -, ho, heq⟩ | ⟨q, ⟨r, hr⟩, -⟩
      · refine ⟨hv, ⟨none, ?_, ?_⟩, ?_⟩
        · rw [hbefore]
          exact .refused ho
        · rw [← hbefore, Function.update_eq_self]
          exact heq
        · rw [firstError_eq_none]
          simp [hbefore, show refuses f c.options e = true from ho]
      · cases hr

/-! ## Both rounds -/

/-- The names that a reload goes through are those of the active paths. -/
theorem mem_names : name ∈ w.registry.paths.map (·.name) ↔ w.registry.get? name ≠ none := by
  rw [Registry.get?, Ne, List.find?_eq_none, List.mem_map]
  simp

/-- Putting a configuration in force does not wait for anything that changes paths. -/
theorem adopt_spec (hw : w.Tidy) (hf : w.registry.factory = f) (c : Configuration) :
    Under f c (w.adopt c) ∧ (w.adopt c).still? = w.still? := by
  let v := (w.setRegistry { w.registry with store := (w.registry.store.replace c).1 }).record
    (.replaced c.table.entries.length)
  have hv : Under f c v := ⟨⟨hw.owned, hw.distinct⟩, hf, rfl⟩
  have ho : (w.adopt c).outline = v.outline := outline_acquire hv.tidy
  exact ⟨hv.congr ho, (still?_of_outline ho).trans rfl⟩

/-- The first pass of a reload aligns every active path, whatever the order of their names. -/
theorem aligned_spec (hw : w.Tidy) (hf : w.registry.factory = f) (c : Configuration) :
    Under f c (w.aligned c).1 ∧
      (∀ name, Aligned f c (w.optionsChange c) name (w.still? name) ((w.aligned c).1.still? name)) ∧
      ((w.aligned c).2 = none ↔
        ∀ name, ¬Misaligned f c (w.optionsChange c) name (w.still? name)) := by
  obtain ⟨hs, hstill⟩ := adopt_spec hw hf c
  have hd := decides_alignName f c (w.optionsChange c)
  have hn : (((w.adopt c).registry.paths.map (·.name)).map id).Nodup := by
    rw [List.map_id]
    exact hs.tidy.distinct
  have hmem : ∀ name, name ∈ (w.adopt c).registry.paths.map (·.name) ↔ w.still? name ≠ none := by
    intro name
    rw [mem_names, ← hstill, Ne, Ne, still?_eq_none]
  refine ⟨hd.under_foldl (s := (w.adopt c, none)) hs _, fun name => ?_, ?_⟩
  · rw [← hstill]
    by_cases hname : name ∈ (w.adopt c).registry.paths.map (·.name)
    · exact hd.becomes_foldl (s := (w.adopt c, none)) hs hn name hname
    · have hafter := hd.still?_foldl (s := (w.adopt c, none)) hs (by rwa [List.map_id])
      rw [hmem, not_not, ← hstill] at hname
      rw [aligned, hafter, hname]
      exact .inactive
  · rw [aligned, hd.error_foldl (s := (w.adopt c, none)) hs hn]
    simp only [true_and, hstill, id]
    refine ⟨fun h name => ?_, fun h name _ => h name⟩
    rintro ⟨p, hp, hfails⟩
    exact h name ((hmem name).2 (Option.ne_none_iff_exists'.2 ⟨p, hp⟩)) ⟨p, hp, hfails⟩

/-- What becomes of the path of a name when a configuration is put in force. -/
inductive Applied (f : Factory) (c : Configuration) (optionsChanged : Bool) (name : String) :
    Option ActivePath → Option ActivePath → Prop where
  /-- It was active and was brought in line. -/
  | aligned {p : ActivePath} {x : Option ActivePath}
      (hx : Aligned f c optionsChanged name (some p) x) : Applied f c optionsChanged name (some p) x
  /-- It was not active, and its source is not to be pulled all the time or is refused. -/
  | idle (he : ∀ e ∈ alwaysOn c, e.name = name → refuses f c.options e = true) :
      Applied f c optionsChanged name none none
  /-- It is activated because its source is to be pulled all the time. -/
  | activated {e : Entry} {q : ActivePath} (he : e ∈ alwaysOn c) (hn : e.name = name)
      (ho : refuses f c.options e = false) (hq : q.query = "") :
      Applied f c optionsChanged name none (some q)

/-- The entry of a path whose source is to be pulled all the time is the one that applies to it. -/
theorem find_of_alwaysOn {e : Entry} (he : e ∈ alwaysOn c) : c.find e.name = .ok ⟨e, none⟩ := by
  obtain ⟨hmem, hon⟩ := List.mem_filter.1 he
  refine Table.find_of_mem hmem ?_
  simp only [isAlwaysOn, Entry.isPattern, Bool.and_eq_true, Bool.not_eq_true'] at hon
  simpa using hon.1.1

/-- A path that was brought in line and is not active stays so: if its source was refused once, it is
refused again. -/
theorem Aligned.ensured {e : Entry} {x y : Option ActivePath} {b : Bool} (he : e ∈ alwaysOn c)
    (hx : Aligned f c b e.name (some p) x) (hy : Ensured f c e x y) : y = x := by
  cases hy with
  | active | refused => rfl
  | activated ho =>
    have hfind := find_of_alwaysOn he
    cases hx with
    | dropped hf => cases hf.symm.trans hfind
    | refused hf _ ho' =>
      cases hf.symm.trans hfind
      cases ho.symm.trans ho'

/-- If nothing failed, a path whose source is to be pulled all the time is inactive only if it was. -/
theorem Aligned.eq_none {e : Entry} {x : Option ActivePath} {b : Bool} (he : e ∈ alwaysOn c)
    (hx : Aligned f c b e.name x none) (hm : ¬Misaligned f c b e.name x) : x = none := by
  cases hx with
  | inactive => rfl
  | dropped hf => cases hf.symm.trans (find_of_alwaysOn he)
  | refused hf hr ho => exact absurd ⟨_, rfl, _, hf, hr, ho⟩ hm

/-- The outline after a reload is that of its two passes. -/
theorem outline_apply (hc : c.check = .ok c) :
    (w.apply c).1.outline = ((alwaysOn c).foldl ensure (w.aligned c)).1.outline := by
  rw [apply_eq hc]
  exact outline_release _

/-- A reload of a valid configuration succeeds just when both passes do. -/
theorem apply_eq_ok (hc : c.check = .ok c) :
    (w.apply c).2 = .ok () ↔ ((alwaysOn c).foldl ensure (w.aligned c)).2 = none := by
  rw [apply_eq hc]
  cases ((alwaysOn c).foldl ensure (w.aligned c)).2 <;> simp

/-- No entry is ensured twice. -/
theorem nodup_alwaysOn (c : Configuration) : ((alwaysOn c).map Entry.name).Nodup :=
  c.table.distinct.sublist (List.filter_sublist.map _)

/-- After a reload the server is under the new configuration. -/
theorem under_apply (hw : w.Tidy) (hf : w.registry.factory = f) (hc : c.check = .ok c) :
    Under f c (w.apply c).1 :=
  ((decides_ensure f c).under_foldl (aligned_spec hw hf c).1 _).congr (outline_apply hc)

/-- What becomes of a path depends on nothing but what it was. -/
theorem applied (hw : w.Tidy) (hf : w.registry.factory = f) (hc : c.check = .ok c) (name : String) :
    Applied f c (w.optionsChange c) name (w.still? name) ((w.apply c).1.still? name) := by
  obtain ⟨hs, haligned, -⟩ := aligned_spec hw hf c
  have hname := haligned name
  rw [still?_of_outline (outline_apply hc)]
  generalize hb : w.still? name = before at hname
  by_cases hmem : name ∈ (alwaysOn c).map Entry.name
  · obtain ⟨e, he, rfl⟩ := List.mem_map.1 hmem
    have hensured := (decides_ensure f c).becomes_foldl hs (nodup_alwaysOn c) e he
    generalize (w.aligned c).1.still? e.name = x at hname hensured
    generalize (List.foldl ensure (w.aligned c) (alwaysOn c)).1.still? e.name = y at hensured ⊢
    cases before with
    | some p =>
      rw [hname.ensured he hensured]
      exact .aligned hname
    | none =>
      cases hname
      cases hensured with
      | refused ho =>
        refine .idle fun e' he' hn => ?_
        rwa [List.inj_on_of_nodup_map (nodup_alwaysOn c) he' he hn]
      | activated ho hq => exact .activated he rfl ho hq
  · rw [(decides_ensure f c).still?_foldl hs hmem]
    generalize (w.aligned c).1.still? name = x at hname ⊢
    cases before with
    | some p => exact .aligned hname
    | none =>
      cases hname
      exact .idle fun e he hn => absurd (hn ▸ List.mem_map_of_mem he) hmem

/-- All goes well if and only if no source is refused that is asked for. -/
theorem apply_ok_iff (hw : w.Tidy) (hf : w.registry.factory = f) (hc : c.check = .ok c) :
    (w.apply c).2 = .ok () ↔
      (∀ name, ¬Misaligned f c (w.optionsChange c) name (w.still? name)) ∧
      ∀ e ∈ alwaysOn c, w.still? e.name = none → refuses f c.options e = false := by
  obtain ⟨hs, haligned, herror⟩ := aligned_spec hw hf c
  rw [apply_eq_ok hc, (decides_ensure f c).error_foldl hs (nodup_alwaysOn c), herror]
  refine and_congr_right fun hm => forall₂_congr fun e he => ?_
  have hname := haligned e.name
  rw [not_and, Bool.not_eq_true]
  refine imp_congr_left ⟨fun ha => ?_, fun hb => ?_⟩
  · rw [ha] at hname
    exact hname.eq_none he (hm e.name)
  · rw [hb] at hname
    generalize (w.aligned c).1.still? e.name = x at hname ⊢
    cases hname
    rfl

/-! ## What is left active -/

/-- With what query the path of a name was asked for that is active once a configuration is in force. -/
def asked (f : Factory) (c : Configuration) (optionsChanged : Bool) (name : String) :
    Option ActivePath → Option String
  | some p =>
    match c.find name with
    | .error _ => none
    | .ok m =>
      if Restarts optionsChanged p m ∧ refuses f c.options m.entry = true then none else some p.query
  | none =>
    if ∃ e ∈ alwaysOn c, e.name = name ∧ refuses f c.options e = false then some "" else none

/-- The query of a path after a reload is told by the factory, the configuration and the picture before. -/
theorem Applied.asked {b : Bool} {x y : Option ActivePath} (h : Applied f c b name x y) :
    y.map (·.query) = Server.asked f c b name x := by
  cases h with
  | idle he =>
    refine (if_neg ?_).symm
    rintro ⟨e, hmem, hn, ho⟩
    cases ho.symm.trans (he e hmem hn)
  | activated he hn ho hq => exact (congrArg some hq).trans (if_pos ⟨_, he, hn, ho⟩).symm
  | aligned h =>
    cases h with
    | dropped hf => simp only [Server.asked, hf, Option.map_none]
    | refused hf hr ho => simp only [Server.asked, hf, hr, ho, and_self, if_true, Option.map_none]
    | restarted hf _ ho hq =>
      simp only [Server.asked, hf, ho, Bool.false_eq_true, and_false, if_false, Option.map_some, hq]
    | kept hf hr => simp only [Server.asked, hf, hr, false_and, if_false, Option.map_some]

/-- Whether a path is active depends on no other source than its own. -/
theorem asked_congr {b : Bool} {x : Option ActivePath}
    (hg : ∀ m, c.find name = .ok m → refuses g c.options m.entry = refuses f c.options m.entry) :
    asked g c b name x = asked f c b name x := by
  cases x with
  | some p =>
    cases hf : c.find name with
    | error e => simp only [asked, hf]
    | ok m => simp only [asked, hf, hg m hf]
  | none =>
    have hiff : ∀ e, (e ∈ alwaysOn c ∧ e.name = name ∧ refuses g c.options e = false) ↔
        (e ∈ alwaysOn c ∧ e.name = name ∧ refuses f c.options e = false) := by
      refine fun e => and_congr_right fun he => and_congr_right fun hn => ?_
      rw [hg ⟨e, none⟩ (hn ▸ find_of_alwaysOn he)]
    simp only [asked, hiff]

/-- What is known of an active path, but for its media and its activation: its entry, the texts of the
groups and the query that it was asked for with. -/
def terms? (w : Server) (name : String) : Option (Entry × Option (List String) × String) :=
  (w.registry.get? name).map fun p => (p.entry, p.groups, p.query)

/-- A name is active just when it has terms. -/
theorem isActive_eq (w : Server) (name : String) :
    w.registry.isActive name = (w.terms? name).isSome := by
  rw [terms?, Option.isSome_map, Registry.isActive]

/-- An active path is under the entry that applies to it. -/
theorem Coherent.terms? (hw : w.Coherent) (hc : w.registry.store.current = c) (name : String) :
    w.terms? name = ((w.still? name).map (·.query)).bind fun query =>
      (c.find name).toOption.map fun m => (m.entry, m.groups, query) := by
  rw [Server.terms?, still?]
  cases hp : w.registry.get? name with
  | none => rfl
  | some p =>
    obtain ⟨m, hm, he, hg, -⟩ := hw.follows p (mem_of_get? hp)
    rw [hc, name_of_get? hp] at hm
    simp only [Option.map_some, Option.bind_some, hm, he, hg]
    rfl

/-- The server with another factory, whose answers do not change. -/
def equip (w : Server) (f : Factory) : Server :=
  w.setRegistry { w.registry with factory := f }

/-- The terms of every name after a reload: the query that is asked for, with the entry and the groups that the new
configuration finds for the name. -/
theorem terms?_apply (hw : w.Coherent) (hf : w.registry.factory = f) (hc : c.check = .ok c)
    (name : String) :
    (w.apply c).1.terms? name =
      (asked f c (w.optionsChange c) name (w.still? name)).bind fun query =>
        (c.find name).toOption.map fun m => (m.entry, m.groups, query) := by
  rw [(coherent_reload hw c).terms? (under_apply hw.tidy hf hc).current,
    (applied hw.tidy hf hc name).asked]

/-- What a server makes of a configuration that is put in force. -/
structure Reloads (w : Server) (f : Factory) (c : Configuration) : Prop where
  /-- A path that was active is not active any longer if no entry applies to it. -/
  dropped : ∀ p ∈ w.registry.paths, ∀ e, c.find p.name = .error e →
    (w.apply c).1.registry.isActive p.name = false
  /-- If an entry applies to it, it is active under this entry and for the query that it was asked for with,
  unless its source has to be made anew and is refused. -/
  resolved : ∀ p ∈ w.registry.paths, ∀ m, c.find p.name = .ok m →
    if Restarts (w.optionsChange c) p m ∧ refuses f c.options m.entry = true then
      (w.apply c).1.registry.isActive p.name = false
    else (w.apply c).1.terms? p.name = some (m.entry, m.groups, p.query)
  /-- If it does not have to be restarted, its activation goes on. -/
  kept : ∀ p ∈ w.registry.paths, ∀ m, c.find p.name = .ok m → ¬Restarts (w.optionsChange c) p m →
    (w.apply c).1.still? p.name = some { p.still with entry := m.entry }
  /-- A path that was not active is active if and only if the entry of its very name has a source that is
  neither on demand nor refused. -/
  added : ∀ name, w.registry.isActive name = false →
    ((w.apply c).1.registry.isActive name = true ↔ ∃ e ∈ c.table.entries, e.name = name ∧
      e.isPattern = false ∧ e.settings.hasStaticSource = true ∧ e.settings.sourceOnDemand = false ∧
      refuses f c.options e = false)
  /-- All goes well if and only if no source is refused: neither one that has to be made anew nor one of a
  path that is to be activated. -/
  result : (w.apply c).2 = .ok () ↔
    (∀ p ∈ w.registry.paths, ∀ m, c.find p.name = .ok m → Restarts (w.optionsChange c) p m →
      refuses f c.options m.entry = false) ∧
    ∀ e ∈ alwaysOn c, w.registry.isActive e.name = false → refuses f c.options e = false
  /-- A factory that does the same for a path and anything else for the others leaves it the same. -/
  apart : ∀ (g : Factory) (name : String),
    (∀ m, c.find name = .ok m → refuses g c.options m.entry = refuses f c.options m.entry) →
    ((w.equip g).apply c).1.terms? name = (w.apply c).1.terms? name

/-- The entries that are always on: a literal name, a static source, and not on demand. -/
theorem mem_alwaysOn {e : Entry} : e ∈ alwaysOn c ↔ e ∈ c.table.entries ∧ e.isPattern = false ∧
    e.settings.hasStaticSource = true ∧ e.settings.sourceOnDemand = false := by
  simp [alwaysOn, isAlwaysOn, and_assoc]

theorem isActive_eq_false : w.registry.isActive name = false ↔ w.still? name = none := by
  rw [still?_eq_none, Registry.isActive, Option.isSome_eq_false_iff, Option.isNone_iff_eq_none]

/-- Each active path has its own picture. -/
theorem still?_of_mem (hw : w.Tidy) (hp : p ∈ w.registry.paths) : w.still? p.name = some p.still :=
  still?_of_get? (get?_of_mem hw.distinct hp)

/-- An active path that need not be restarted goes on. -/
theorem kept_of_not_restarts (hw : w.Tidy) (hf : w.registry.factory = f) (hc : c.check = .ok c)
    (hp : p ∈ w.registry.paths) (hm : c.find p.name = .ok m) (hr : ¬Restarts (w.optionsChange c) p m) :
    (w.apply c).1.still? p.name = some { p.still with entry := m.entry } := by
  have h := applied hw hf hc p.name
  rw [still?_of_mem hw hp] at h
  generalize (w.apply c).1.still? p.name = y at h ⊢
  cases h with
  | aligned h =>
    cases h with
    | dropped hf' => cases hm.symm.trans hf'
    | refused hf' hr' | restarted hf' hr' =>
      cases hm.symm.trans hf'
      exact absurd hr' hr
    | kept hf' =>
      cases hm.symm.trans hf'
      rfl

/-- An inactive path is activated if its source is to be pulled all the time and is not refused. -/
theorem isActive_apply_iff (hw : w.Coherent) (hf : w.registry.factory = f) (hc : c.check = .ok c)
    (hn : w.registry.isActive name = false) :
    (w.apply c).1.registry.isActive name = true ↔
      ∃ e ∈ alwaysOn c, e.name = name ∧ refuses f c.options e = false := by
  rw [isActive_eq, terms?_apply hw hf hc, isActive_eq_false.1 hn]
  simp only [asked]
  constructor
  · intro h
    split at h
    · assumption
    · cases h
  · rintro ⟨e, he, rfl, ho⟩
    rw [if_pos ⟨e, he, rfl, ho⟩, find_of_alwaysOn he]
    rfl

/-- What fails for a path fails for an active path that has to be restarted. -/
theorem forall_not_misaligned_iff (hw : w.Tidy) {b : Bool} :
    (∀ name, ¬Misaligned f c b name (w.still? name)) ↔
      ∀ p ∈ w.registry.paths, ∀ m, c.find p.name = .ok m → Restarts b p m →
        refuses f c.options m.entry = false := by
  refine ⟨fun h p hp m hm hr => ?_, fun h name => ?_⟩
  · refine Bool.eq_false_iff.2 fun ho => h p.name ⟨p.still, ?_, m, hm, hr, ho⟩
    exact Option.mem_def.2 (still?_of_mem hw hp)
  · rintro ⟨q, hq, m, hm, hr, ho⟩
    obtain ⟨p, hp, rfl⟩ := Option.map_eq_some_iff.1 (Option.mem_def.1 hq)
    obtain rfl := name_of_get? hp
    exact Bool.eq_false_iff.1 (h p (mem_of_get? hp) m hm hr) ho

/-- A coherent server does with a valid configuration what is asked of a reload. -/
theorem reloads (hw : w.Coherent) (hf : w.registry.factory = f) (hc : c.check = .ok c) :
    w.Reloads f c := by
  have hactive : ∀ p ∈ w.registry.paths, (w.apply c).1.terms? p.name =
      (asked f c (w.optionsChange c) p.name (some p)).bind fun query =>
        (c.find p.name).toOption.map fun m => (m.entry, m.groups, query) := fun p hp => by
    rw [terms?_apply hw hf hc, still?_of_mem hw.tidy hp]
    rfl
  refine ⟨fun p hp e he => ?_, fun p hp m hm => ?_,
    fun p hp m hm => kept_of_not_restarts hw.tidy hf hc hp hm, fun name hn => ?_, ?_, fun g name hg => ?_⟩
  · rw [isActive_eq, hactive p hp]
    simp only [asked, he]
    rfl
  · rw [isActive_eq, hactive p hp]
    simp only [asked, hm]
    split <;> rfl
  · rw [isActive_apply_iff hw hf hc hn]
    refine exists_congr fun e => ?_
    rw [mem_alwaysOn]
    tauto
  · rw [apply_ok_iff hw.tidy hf hc, forall_not_misaligned_iff hw.tidy]
    exact and_congr_right fun _ => forall₂_congr fun e _ => imp_congr_left isActive_eq_false.symm
  · have hcoherent : (w.equip g).Coherent := ⟨⟨hw.tidy.owned, hw.tidy.distinct⟩, hw.follows⟩
    rw [terms?_apply hcoherent rfl hc, terms?_apply hw hf hc]
    exact congrArg (Option.bind · _) (asked_congr hg)

/-! ## Every life -/

/-- The factory is part of the outline. -/
theorem factory_of_outline (ho : v.outline = w.outline) : v.registry.factory = w.registry.factory :=
  congrArg (fun o => o.1.factory) ho

/-- The factory stays. -/
theorem factory_of_stride (hw : w.Tidy) (hs : Stride w v) :
    v.registry.factory = w.registry.factory := by
  cases hs with
  | @task i t v ht =>
    obtain ⟨ms, hturn⟩ := turn_of_stepTask hw.owned ht
    exact factory_of_outline (outline_of_turn hw
      (hturn.congr (hosts_elim_setAlarms v i) (registry_elim_setAlarms v i)))
  | pass t => rw [registry_passTo]
  | release => rw [registry_release]
  | inform | cancel | rest => exact congrArg _ (registry_modify _ _ _)
  | @build name _ m query =>
    rcases registry_build hw.owned name m query with ⟨o, -, hr⟩ | ⟨e, -, hr, -⟩ <;> rw [hr] <;> rfl
  | park | record | request | send | replace | remove | clear | amend => rfl

/-- A server keeps its factory for life. -/
theorem factory_life (store : Store) (factory : Workshop) (pause : Nat) (is : List Incident) :
    ((fresh store factory pause).life is).registry.factory = factory := by
  have hfresh := inOrder_fresh store factory pause
  refine (hfresh.life is).induction (P := fun x => x.server.registry.factory = factory) hfresh rfl ?_
  intro x y hx hs hP
  rcases hs.stride hx with hstride | ⟨ps, -, rfl⟩
  · exact (factory_of_stride hx.assigned.tidy hstride).trans hP
  · exact hP

/-- Every incident leaves the server coherent. -/
theorem Coherent.undergo (hw : w.Coherent) (n : Incident) : (w.undergo n).Coherent := by
  cases n with
  | event e => exact history_induction steady_coherent (fun _ o hw => coherent_operate hw o) [e] hw
  | relist l =>
    have hperm := l.perm w.registry.paths
    exact ⟨⟨hw.tidy.owned, (hperm.map _).nodup_iff.2 hw.tidy.distinct⟩,
      fun p hp => hw.follows p (hperm.mem_iff.1 hp)⟩

/-- So a server is coherent all its life. -/
theorem coherent_life (store : Store) (factory : Workshop) (pause : Nat) (is : List Incident) :
    ((fresh store factory pause).life is).Coherent := by
  have hfresh : (fresh store factory pause).Coherent :=
    ⟨tidy_fresh store factory pause, fun p hp => by cases hp⟩
  suffices h : ∀ (w : Server), w.Coherent → (w.life is).Coherent from h _ hfresh
  induction is with
  | nil => exact fun w hw => hw
  | cons n is ih => exact fun w hw => ih _ (hw.undergo n)

/-- Whatever has happened to a server whose factory answers by what it is asked alone, and in whatever
order its active paths are listed: a configuration that cannot be used changes nothing; any other one
decides for each path whether it is active then, and with what, whether or not all goes well. -/
theorem reload_outcome (store : Store) (f : Factory) (pause : Nat) (is : List Incident)
    (c : Configuration) :
    (∀ e, c.check = .error e → ((fresh store f pause).life is).apply c =
      ((fresh store f pause).life is, .error (.configuration e))) ∧
    (c.check = .ok c → ((fresh store f pause).life is).Reloads f c) :=
  ⟨fun _ hc => apply_of_error hc, fun hc =>
    reloads (coherent_life store f pause is) (factory_life store f pause is) hc⟩

/-- A source is made anew and refused, another one is activated, and there is an error. -/
theorem reload_outcome_refused :
    let picky : Factory := fun _ e _ =>
      if e.settings.source = "rtsp://10.0.0.2:554/" then .error (.failed "unreachable")
      else .ok { behaviour := fun _ => [] }
    let configured (c : Configuration) (name source : String) :=
      ((c.insert name { source := source }).toOption).getD {}
    let old := configured {} "cam" "rtsp://10.0.0.1:554/"
    let new := configured (configured {} "cam" "rtsp://10.0.0.2:554/") "door" "rtsp://10.0.0.3:554/"
    let w := (fresh ⟨old⟩ picky 5000).life [.event (.operation .start)]
    new.check = .ok new ∧ w.registry.isActive "cam" = true ∧
      (w.apply new).1.registry.isActive "cam" = false ∧
      (w.apply new).1.registry.isActive "door" = true ∧ (w.apply new).2 ≠ .ok () := by
  intro picky configured old new w
  have hcheck : new.check = .ok new := if_pos (by decide +kernel)
  have h := (reload_outcome ⟨old⟩ picky 5000 [.event (.operation .start)] new).2 hcheck
  obtain ⟨p, hp, hn, m, hm, hr, ho⟩ : ∃ p ∈ w.registry.paths, p.name = "cam" ∧
      ∃ m ∈ (new.find p.name).toOption, Restarts (w.optionsChange new) p m ∧
        refuses picky new.options m.entry = true := by decide +kernel
  have hfind : new.find p.name = .ok m := by
    cases hf : new.find p.name with
    | error e => rw [hf] at hm; cases hm
    | ok m' => rw [hf] at hm; cases hm; rfl
  refine ⟨hcheck, by decide +kernel, ?_, (h.added "door" (by decide +kernel)).2 (by decide +kernel), ?_⟩
  · have hcam := h.resolved p hp m hfind
    rwa [if_pos ⟨hr, ho⟩, hn] at hcam
  · intro hok
    exact Bool.eq_false_iff.1 ((h.result.1 hok).1 p hp m hfind hr) ho

end Server

end MediaPaths
