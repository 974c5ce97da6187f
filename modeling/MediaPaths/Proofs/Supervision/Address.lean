import MediaPaths.Proofs.Supervision.Launches
import MediaPaths.Proofs.Supervision.Roster
import MediaPaths.Proofs.Supervision.Shipping

/-!
# The address that a source is pulled from

A supervisor has many copies of the settings of its source: those that it was handed last, those with which
the worker launches executions, and those on their way between. As long as it is handed nothing that has
its source pulled from elsewhere, all of them have it pulled from the same address.
-/

namespace MediaPaths

/-- What of an entry bears on the address that its source is pulled from. -/
def Entry.aim (e : Entry) : String × String × String :=
  (e.settings.source, e.settings.username, e.settings.password)

/-- The address that the source of an entry is pulled from. -/
def Entry.address (e : Entry) (groups : List String) (query : String) : Except SourceError String :=
  Template.resolve e.settings.source groups query e.settings.username e.settings.password

namespace Supervisor

/-- All entries that lie about in a supervisor. -/
def Depot.luggage (d : Depot) : List Entry :=
  d.entry :: d.launchEntry :: (d.reloadBox.content.toList ++ d.couriers.map (·.entry))

/-- Moves of tasks and of the owner. -/
def Move.isRoutine : Move → Bool
  | .task _ _ | .reply _ _ | .resume | .flush => true
  | _ => false

variable {s t : Supervisor} {m : Move} {d d' : Depot} {told : List Tiding} {e entry : Entry}
  {groups : List String} {query : String}

theorem address_congr {f : Entry} (h : e.aim = f.aim) (groups : List String) (query : String) :
    e.address groups query = f.address groups query := by
  simp only [Entry.aim, Prod.mk.injEq] at h
  rw [Entry.address, Entry.address, h.1, h.2.1, h.2.2]

theorem mem_luggage : e ∈ d.luggage ↔
    e = d.entry ∨ e = d.launchEntry ∨ e ∈ d.reloadBox.content ∨ ∃ c ∈ d.couriers, c.entry = e := by
  simp [Depot.luggage]

theorem mem_luggage_dispatch {place : Option Nat} (h : e ∈ (d.dispatch entry place).luggage) :
    e ∈ d.luggage ∨ e = entry := by
  rw [mem_luggage] at h
  rcases h with rfl | rfl | h | ⟨c, hc, rfl⟩
  · exact .inl (mem_luggage.2 (.inl rfl))
  · exact .inl (mem_luggage.2 (.inr (.inl rfl)))
  · exact .inl (mem_luggage.2 (.inr (.inr (.inl h))))
  · rcases List.mem_append.1 hc with hc | hc
    · exact .inl (mem_luggage.2 (.inr (.inr (.inr ⟨c, hc, rfl⟩))))
    · rw [List.mem_singleton.1 hc]
      exact .inr rfl

/-- No entry lies about in a supervisor that did not before and that it was not handed. -/
theorem luggage_of_ships (hs : Ships d m told d') (h : e ∈ d'.luggage) :
    e ∈ d.luggage ∨ m = .reload e := by
  cases hs with
  | still | cancel | flush | launch | reap | receive | ends | leaves => exact .inl h
  | start =>
    rcases mem_luggage.1 h with rfl | rfl | h | ⟨c, hc, -⟩
    · exact .inl (mem_luggage.2 (.inl rfl))
    · exact .inl (mem_luggage.2 (.inl rfl))
    · cases h
    · cases hc
  | hand entry =>
    rcases mem_luggage_dispatch h with h | rfl
    · rcases mem_luggage.1 h with rfl | h
      · exact .inr rfl
      · exact .inl (mem_luggage.2 (.inr h))
    · exact .inr rfl
  | @store now entry b next hd hb =>
    obtain ⟨hcontent, hempty⟩ := Mailbox.content_of_take? hb
    have hentry : entry ∈ d.luggage := mem_luggage.2 (.inr (.inr (.inl hcontent)))
    have hold : ∀ f ∈ Depot.luggage { d with launchEntry := entry, reloadBox := b }, f ∈ d.luggage := by
      intro f hf
      rcases mem_luggage.1 hf with rfl | rfl | hf | hf
      · exact mem_luggage.2 (.inl rfl)
      · exact hentry
      · cases hf.symm.trans hempty
      · exact mem_luggage.2 (.inr (.inr (.inr hf)))
    rcases store_cases ({ d with reloadBox := b }.summon next.toList) entry with ⟨-, heq⟩ | ⟨x, -, heq⟩
    · rw [heq] at h
      exact .inl (hold e h)
    · rw [heq] at h
      rcases mem_luggage_dispatch h with h | rfl
      · exact .inl (hold e h)
      · exact .inl hentry
  | halt | crash =>
    rcases mem_luggage.1 h with rfl | rfl | h | h
    · exact .inl (mem_luggage.2 (.inl rfl))
    · exact .inl (mem_luggage.2 (.inr (.inl rfl)))
    · cases h
    · exact .inl (mem_luggage.2 (.inr (.inr (.inr h))))
  | dismiss =>
    rcases mem_luggage.1 h with rfl | rfl | h | ⟨c, hc, rfl⟩
    · exact .inl (mem_luggage.2 (.inl rfl))
    · exact .inl (mem_luggage.2 (.inr (.inl rfl)))
    · exact .inl (mem_luggage.2 (.inr (.inr (.inl h))))
    · exact .inl (mem_luggage.2 (.inr (.inr (.inr ⟨c, (List.mem_filter.1 hc).1, rfl⟩))))
  | @put now c b b' hc hb hp =>
    have hcourier : c.entry ∈ d.luggage :=
      mem_luggage.2 (.inr (.inr (.inr ⟨c, List.mem_of_find?_eq_some hc, rfl⟩)))
    have hdesk : e ∈ (d.setDesk c.execution b').luggage → e ∈ d.luggage := by
      intro h
      rcases drawer_cases hb with ⟨-, -, -, hset⟩ | ⟨x, -, -, -, -, hset⟩
      · rw [hset] at h
        rcases mem_luggage.1 h with rfl | rfl | h | h
        · exact mem_luggage.2 (.inl rfl)
        · exact mem_luggage.2 (.inr (.inl rfl))
        · have hcontent := (Mailbox.content_of_post? hp).2
          obtain rfl : c.entry = e := Option.some.inj (hcontent.symm.trans h)
          exact hcourier
        · exact mem_luggage.2 (.inr (.inr (.inr h)))
      · rw [hset] at h
        exact h
    refine .inl (hdesk ?_)
    rcases mem_luggage.1 h with rfl | rfl | h | ⟨c', hc', rfl⟩
    · exact mem_luggage.2 (.inl rfl)
    · exact mem_luggage.2 (.inr (.inl rfl))
    · exact mem_luggage.2 (.inr (.inr (.inl h)))
    · exact mem_luggage.2 (.inr (.inr (.inr ⟨c', (List.mem_filter.1 hc').1, rfl⟩)))
  | @wait now c b hc hb =>
    refine .inl ?_
    rcases drawer_cases hb with ⟨-, -, rfl, hset⟩ | ⟨x, -, -, -, -, hset⟩ <;> rw [hset] at h <;> exact h

/-- A supervisor has its source pulled from the address of an entry, for the groups and the query of a
path. -/
structure Aims (entry : Entry) (groups : List String) (query : String) (s : Supervisor) : Prop where
  orderly : s.Orderly
  groups_eq : s.groups = groups
  query_eq : s.query = query
  luggage : ∀ e ∈ s.depot.luggage, e.aim = entry.aim
  address : ∀ x ∈ s.execution, entry.address groups query = .ok x.address
  orphans : s.orphans = []

theorem Aims.congr {f : Entry} (hs : Aims entry groups query s) (h : entry.aim = f.aim) :
    Aims f groups query s :=
  { hs with
    luggage := fun e he => (hs.luggage e he).trans h
    address := fun x hx => address_congr h groups query ▸ hs.address x hx }

theorem address_of_deed (h : t.deed = s.deed) {x : Execution} (hx : x ∈ t.execution) :
    ∃ y ∈ s.execution, y.address = x.address := by
  have hmem : x.fixed ∈ s.deed := by
    rw [← h, deed, Option.mem_def.1 hx]
    rfl
  obtain ⟨y, hy, hfixed⟩ := Option.map_eq_some_iff.1 hmem
  exact ⟨y, hy, Execution.address_of_fixed hfixed⟩

/-- A supervisor that is handed nothing that has its source pulled from elsewhere keeps to its address. -/
theorem Aims.move (hs : Aims entry groups query s) (h : s.move m = some t)
    (hm : m.isRoutine = true ∨ ∃ e, m = .reload e ∧ e.aim = entry.aim) : Aims entry groups query t := by
  have hbrief := brief_move h
  have hgroups : t.brief.groups = s.brief.groups := by
    rw [hbrief]
    cases m <;> rfl
  have hquery : t.brief.query = s.brief.query := by
    rw [hbrief]
    cases m with
    | start => simp [Move.isRoutine] at hm
    | _ => rfl
  have hcrash : m ≠ .crash := by
    rintro rfl
    simp [Move.isRoutine] at hm
  refine ⟨hs.orderly.move h, hgroups.trans hs.groups_eq, hquery.trans hs.query_eq, fun e he => ?_,
    fun x hx => ?_, orphans_move hs.orphans hcrash h⟩
  · rcases luggage_of_ships (hs.orderly.ships h) he with he | rfl
    · exact hs.luggage e he
    · obtain ⟨f, heq, hf⟩ := hm.resolve_left Bool.false_ne_true
      cases heq
      exact hf
  · cases lays_move h with
    | keeps hd =>
      obtain ⟨y, hy, haddr⟩ := address_of_deed hd hx
      rw [← haddr]
      exact hs.address y hy
    | loses hnone => cases hx.symm.trans hnone
    | warns _ hd =>
      have hmem : x.fixed ∈ s.deed.map fun e => { e with cancelled := true } := by
        rw [← hd, deed, Option.mem_def.1 hx]
        rfl
      obtain ⟨f, hf, hfx⟩ := Option.map_eq_some_iff.1 hmem
      obtain ⟨y, hy, rfl⟩ := Option.map_eq_some_iff.1 hf
      have haddr := congrArg Execution.address hfx
      change y.address = x.address at haddr
      rw [← haddr]
      exact hs.address y hy
    | launches hx' _ _ _ ha =>
      obtain rfl := Option.some.inj (hx'.symm.trans hx)
      have hlaunch : s.launchEntry.aim = entry.aim :=
        hs.luggage _ (mem_luggage.2 (.inr (.inl rfl)))
      rw [hs.groups_eq, hs.query_eq] at ha
      rw [← address_congr hlaunch]
      exact ha

theorem Aims.run {ms : List Move} (hs : Aims entry groups query s) (h : s.run ms = some t)
    (hms : ∀ m ∈ ms, m.isRoutine = true ∨ ∃ e, m = .reload e ∧ e.aim = entry.aim) :
    Aims entry groups query t := by
  refine run_induction (P := fun ms t => (∀ m ∈ ms, m.isRoutine = true ∨
    ∃ e, m = .reload e ∧ e.aim = entry.aim) → Aims entry groups query t) (fun _ => hs) ?_ h hms
  intro ms u m v _ hu hm hms
  exact (hu fun m hm => hms m (List.mem_append_left _ hm)).move hm (hms m (by simp))

/-- A supervisor that was made for an entry and has just been started pulls from the address of that. -/
theorem aims_start {now pause : Nat} {gs : Option (List String)} {options : SourceOptions}
    {factory : Factory} {onDemand : Bool}
    (hs : create now entry gs options factory pause = .ok s)
    (h : s.move (.start onDemand query) = some t) : Aims entry (gs.getD []) query t := by
  have hbrief := brief_move h
  have hship := (orderly_create hs).ships h
  have horphans : t.orphans = [] := by
    refine orphans_move ?_ (by simp) h
    obtain ⟨kind, source, -, rfl⟩ := create_eq hs
    rfl
  have hstarted : t.execution = none := by
    simp only [Supervisor.move] at h
    split at h <;> cases h
    rename_i hi
    rw [start, if_pos hi]
    rfl
  refine ⟨(orderly_create hs).move h, ?_, congrArg Brief.query hbrief, fun e he => ?_, ?_, horphans⟩
  · refine (congrArg Brief.groups hbrief).trans ?_
    obtain ⟨kind, source, -, rfl⟩ := create_eq hs
    rfl
  · have hmem := (luggage_of_ships hship he).resolve_right (by simp)
    obtain ⟨kind, source, -, rfl⟩ := create_eq hs
    rcases mem_luggage.1 hmem with rfl | rfl | hb | ⟨c, hc, -⟩
    · rfl
    · rfl
    · cases hb
    · cases hc
  · rw [hstarted]
    exact fun x hx => by cases hx

end Supervisor

end MediaPaths
