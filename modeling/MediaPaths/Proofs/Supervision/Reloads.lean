import MediaPaths.Proofs.Supervision.Delivery

/-!
# Changes of the settings are neither lost nor reordered

`Account` says what the tale of a run tells of changes of the settings, from the start of the supervisor
until it is asked to stop, while its tasks step in the order in which they could go on. The invariant is
`Carried`: what is kept of executions and routes, with what the tale tells of settings and launches.
-/

namespace MediaPaths

namespace Supervisor

variable {k₀ n : Nat} {first e : Entry} {d d' : Depot} {m : Move} {told h : List Tiding} {q : List Nat}

/-! ## Launches -/

theorem launchEntry_of_ships (hs : Ships d m told d') (hm : m.isSwitch = false) :
    d'.launchEntry = (storedIn told).getLast?.getD d.launchEntry := by
  cases hs with
  | start | cancel => cases hm
  | store => exact launchEntry_store _ _
  | put | wait => exact launchEntry_setDesk d _ _
  | _ => rfl

theorem entry_of_ships (hs : Ships d m told d') (hm : m.isSwitch = false) :
    d'.entry = (handedIn told).getLast?.getD d.entry := by
  cases hs with
  | start | cancel => cases hm
  | store => exact entry_store ({ d with reloadBox := _ }.summon _) _
  | put | wait => exact entry_setDesk d _ _
  | _ => rfl

theorem launched_of_ships (hs : Ships d m told d') (hl : .launched n e ∈ told) :
    told = [.launched n e] ∧ e = d.launchEntry ∧ n = d.launches := by
  cases hs with
  | launch =>
    cases List.mem_singleton.1 hl
    exact ⟨rfl, rfl, rfl⟩
  | _ => simp at hl

/-- What a tale tells of the settings, where `first` are those with which the supervisor was started. -/
structure Tells (first : Entry) (d : Depot) (h : List Tiding) : Prop where
  entry : d.entry = (handedIn h).getLast?.getD first
  launchEntry : d.launchEntry = (storedIn h).getLast?.getD first
  /-- An execution is launched with what was stored last before. -/
  launches : ∀ h₁ n e h₂, h = h₁ ++ .launched n e :: h₂ → e = (storedIn h₁).getLast?.getD first

theorem Tells.ships (ht : Tells first d h) (hs : Ships d m told d') (hm : m.isSwitch = false) :
    Tells first d' (h ++ told) := by
  refine ⟨?_, ?_, fun h₁ n e h₂ heq => ?_⟩
  · rw [entry_of_ships hs hm, ht.entry, handedIn_append, List.getLast?_append]
    cases (handedIn told).getLast? <;> rfl
  · rw [launchEntry_of_ships hs hm, ht.launchEntry, storedIn_append, List.getLast?_append]
    cases (storedIn told).getLast? <;> rfl
  · rcases List.append_eq_append_iff.1 heq with ⟨as, rfl, htold⟩ | ⟨as, hh, hrest⟩
    · obtain ⟨hone, rfl, -⟩ := launched_of_ships (n := n) (e := e) hs (by simp [htold])
      obtain rfl : as = [] := by
        rw [hone] at htold
        have hlen := congrArg List.length htold
        simp only [List.length_append, List.length_cons, List.length_nil] at hlen
        exact List.eq_nil_of_length_eq_zero (by omega)
      rw [List.append_nil]
      exact ht.launchEntry
    · cases as with
      | nil =>
        rw [List.append_nil] at hh
        subst hh
        have hmem : .launched n e ∈ [] ++ told := hrest ▸ List.mem_cons_self ..
        obtain ⟨-, rfl, -⟩ := launched_of_ships hs hmem
        exact ht.launchEntry
      | cons a as =>
        obtain ⟨rfl, -⟩ := List.cons.inj hrest
        exact ht.launches h₁ n e as hh

/-! ## The account of a run -/

theorem nextCourier_of_ships (hs : Ships d m told d') : d.nextCourier ≤ d'.nextCourier := by
  cases hs with
  | hand => exact Nat.le_succ _
  | store => exact nextCourier_le_store ({ d with reloadBox := _ }.summon _) _
  | put | wait => exact (nextCourier_setDesk d _ _).ge
  | _ => exact Nat.le_refl _

/-- Whenever something is stored, there is a worker. -/
theorem stored_of_ships (hs : Ships d m told d') : storedIn told = [] ∨ d'.isOpen = true := by
  cases hs with
  | store ho => exact .inr ((isOpen_store _ _).trans ho)
  | _ => exact .inl rfl

/-- Whenever something is taken up, it is by an execution that goes on. -/
theorem received_of_ships (hs : Ships d m told d') (n : Nat) :
    receivedIn n told = [] ∨ ∃ x ∈ d'.slots, x.number = n ∧ x.isAlive = true := by
  cases hs with
  | @receive _ x entry b next hx ha =>
    by_cases hn : x.number = n
    · refine .inr ⟨{ x with inbox := b }, ?_, hn, ha⟩
      show _ ∈ (d.setSlot { x with inbox := b }).slots
      rw [slots_setSlot, List.mem_map]
      exact ⟨x, (mem_of_slot? hx).1, if_pos rfl⟩
    · exact .inl (by simp [receivedIn, Tiding.received?, hn])
  | _ => exact .inl rfl

/-- The account of a run in which `k₀` executions had been launched before it was started with the
settings `first`: the couriers in line and the tale so far. -/
structure Carried (k₀ : Nat) (first : Entry) (d : Depot) (q : List Nat) (h : List Tiding) : Prop where
  kept : Kept k₀ d h
  flows : Flows k₀ d q h
  tells : Tells first d h
  summoned : d.summoned = []
  nodup : q.Nodup
  sent : ∀ n ∈ q, n < d.nextCourier
  stored : storedIn h <+: handedIn h
  received : ∀ n e, .launched n e ∈ h → receivedIn n h <+: storedIn (lifetime n h)

theorem Carried.ships (hc : Carried k₀ first d q h) (hs : Ships d m told d') (hm : m.isSwitch = false)
    (hhead : ∀ now n, m = .task now (.courier n) → ∃ rest, q = n :: rest) :
    Carried k₀ first { d' with summoned := [] } (d'.summoned.foldl enter q) (h ++ told) := by
  have hk := hc.kept.ships hs hm
  have hf := hc.flows.ships hc.kept hc.summoned hc.nodup hc.sent hhead hs hm
  have hflush : Kept k₀ { d' with summoned := [] } (h ++ told) := by
    have hkf := hk.ships .flush rfl
    rwa [List.append_nil] at hkf
  have ht := hc.tells.ships hs hm
  refine ⟨hflush, ⟨hf.worker, hf.executions⟩,
    ⟨ht.entry, ht.launchEntry, ht.launches⟩, rfl,
    nodup_enters hc.nodup _, fun n hn => ?_, ?_, fun n e hl => ?_⟩
  · rcases mem_enters.1 hn with hn | hn
    · have hle : d.nextCourier ≤ d'.nextCourier := nextCourier_of_ships hs
      exact Nat.lt_of_lt_of_le (hc.sent n hn) hle
    · exact hk.numbered.summoned n hn
  · rcases stored_of_ships hs with hnil | ho
    · rw [storedIn_append, hnil, List.append_nil, handedIn_append]
      exact hc.stored.trans (List.prefix_append _ _)
    · exact (hf.worker ho).taken_le_sent
  · rcases List.mem_append.1 hl with hl | hl
    · rcases received_of_ships hs n with hnil | ⟨x, hx, rfl, ha⟩
      · rw [receivedIn_append, hnil, List.append_nil]
        exact (hc.received n e hl).trans (storedIn_mono (lifetime_le hl told))
      · have hn := hc.kept.launched _ e hl
        rw [lifetime_eq ((hk.slots x hx hn).2.2 ha)]
        exact (hf.executions x hx hn ha).taken_le_sent
    · obtain ⟨rfl, -, rfl⟩ := launched_of_ships hs hl
      have hnone : receivedIn d.launches (h ++ [.launched d.launches e]) = [] := by
        refine receivedIn_eq_nil fun e' he => ?_
        rcases List.mem_append.1 he with he | he
        · exact Nat.lt_irrefl _ (hc.kept.told (.received d.launches e') he _ rfl)
        · simp at he
      rw [hnone]
      exact List.nil_prefix

/-- A courier leaves the line that has nothing left to do there. -/
theorem Carried.park (hc : Carried k₀ first d (n :: q) h)
    (hw : ∀ c, d.couriers.find? (·.number == n) = some c →
      ∃ b, d.desk c.execution = some b ∧ n ∈ b.senders) : Carried k₀ first d q h :=
  { hc with
    flows := hc.flows.park hc.kept hw
    nodup := (List.nodup_cons.1 hc.nodup).2
    sent := fun i hi => hc.sent i (List.mem_cons_of_mem _ hi) }

/-- A run begins with nothing on its way. -/
theorem carried_start (hd : d.Numbered) (ho : d.isOpen = false) (hq : q.Nodup)
    (hlt : ∀ n ∈ q, n < d.nextCourier) : Carried d.launches d.entry
      { d.renew with summoned := [] } (d.summoned.foldl enter q) [] := by
  have hnum : d.renew.Numbered := hd.ships (@Ships.start d false "" ho)
  have hslots : d.renew.slots = d.orphans := List.nil_append _
  have hold : ∀ x ∈ d.orphans, x.number < d.launches := fun x hx =>
    hd.launched x (List.mem_append_right _ hx)
  constructor
  case kept =>
    refine ⟨hnum.ships .flush, rfl, fun x hx hn => ?_, by simp [Depot.renew], fun _ n hn => ?_,
      by simp, by simp, Nat.le_refl _⟩
    · exact absurd hn (Nat.not_le.2 (hold x (hslots ▸ hx)))
    · obtain ⟨x, hx, rfl⟩ := List.mem_map.1 hn
      exact hold x hx
  case flows =>
    refine ⟨fun _ => Route.nil _, fun x hx hn => ?_⟩
    exact absurd hn (Nat.not_le.2 (hold x (hslots ▸ hx)))
  case tells => exact ⟨rfl, rfl, fun h₁ n e h₂ heq => by simp at heq⟩
  case summoned => rfl
  case nodup => exact nodup_enters hq _
  case sent =>
    intro n hn
    rcases mem_enters.1 hn with hn | hn
    · exact hlt n hn
    · exact hd.summoned n hn
  case stored => exact List.nil_prefix
  case received => exact fun n e hl => absurd hl List.not_mem_nil

/-! ## Tasks in line -/

variable {x y : Shift} {o : Occasion} {s t : Supervisor} {line : List Task}

theorem tidings_flush (s t : Supervisor) (m : Move) :
    s.tidings m { t with effects := [] } = s.tidings m t := by
  cases m with
  | task now k => cases k <;> rfl
  | _ => rfl

/-- A move whose effects come about. -/
theorem Carried.flush (hc : Carried k₀ first s.depot (couriersIn line) h) (hs : s.Orderly)
    (ht : s.move m = some t) (hm : m.isSwitch = false)
    (hhead : ∀ now n, m = .task now (.courier n) → ∃ rest, couriersIn line = n :: rest) :
    (Shift.flush ⟨t, line⟩).supervisor.Orderly ∧
      Carried k₀ first (Shift.flush ⟨t, line⟩).supervisor.depot
        (couriersIn (Shift.flush ⟨t, line⟩).line)
        (h ++ s.tidings m (Shift.flush ⟨t, line⟩).supervisor) := by
  rw [supervisor_flush, couriersIn_flush, tidings_flush]
  exact ⟨(hs.move ht).move (m := .flush) rfl, hc.ships (hs.ships ht) hm hhead⟩

/-- Where a task has to wait, nothing is told. -/
theorem tidings_park (s : Supervisor) (now : Nat) (k : Task) : s.tidings (.task now k) s = [] := by
  cases k with
  | worker => exact tidings_worker rfl fun _ => rfl
  | execution n => simp [tidings]
  | courier n => rfl

/-- Every occasion keeps the account of a run that is not being stopped. -/
theorem Carried.after (hc : Carried k₀ first x.supervisor.depot (couriersIn x.line) h)
    (hs : x.supervisor.Orderly) (ho : ∀ m, o = .act m → m.isSwitch = false)
    (hy : x.after o = some y) :
    y.supervisor.Orderly ∧
      Carried k₀ first y.supervisor.depot (couriersIn y.line) (h ++ x.tidings o y) := by
  cases o with
  | act m =>
    simp only [Shift.after] at hy
    split at hy
    · cases hy
    · rename_i htask
      obtain ⟨t, ht, rfl⟩ := Option.map_eq_some_iff.1 hy
      refine hc.flush hs ht (ho m rfl) ?_
      rintro now n rfl
      exact absurd rfl htask
  | turn now =>
    simp only [Shift.after] at hy
    split at hy
    · cases hy
    · rename_i k rest hline
      have htidings : ∀ z : Shift, x.tidings (.turn now) z =
          x.supervisor.tidings (.task now k) z.supervisor := by
        intro z
        simp only [Shift.tidings, hline]
        rfl
      rw [htidings]
      split at hy <;> cases hy
      · rename_i t ht
        refine hc.flush (m := .task now k) hs ht rfl ?_
        rintro now' n heq
        cases heq
        exact ⟨couriersIn rest, by rw [hline]; rfl⟩
      · rename_i hnone
        rw [tidings_park, List.append_nil]
        refine ⟨hs, ?_⟩
        rw [hline] at hc
        cases k with
        | courier n => exact Carried.park hc fun c hfind => waits_of_stepCourier hnone hfind
        | worker | execution => exact hc
  | rouse k =>
    simp only [Shift.after] at hy
    split at hy <;> cases hy
    rename_i hk
    have hnone : k.courier? = none := by simpa using hk
    refine ⟨hs, ?_⟩
    show Carried k₀ first x.supervisor.depot (couriersIn (enter x.line k)) (h ++ [])
    rw [couriersIn_enter, hnone, List.append_nil]
    exact hc

theorem carried_run {os : List Occasion} (hc : Carried k₀ first x.supervisor.depot (couriersIn x.line) [])
    (hs : x.supervisor.Orderly) (hos : ∀ m, .act m ∈ os → m.isSwitch = false)
    (hy : x.run os = some y) :
    y.supervisor.Orderly ∧
      Carried k₀ first y.supervisor.depot (couriersIn y.line) (x.tale os) := by
  induction os using List.reverseRecOn generalizing y with
  | nil =>
    cases hy
    exact ⟨hs, hc⟩
  | append_singleton os o ih =>
    obtain ⟨z, hz, ho⟩ := Shift.run_concat.1 hy
    obtain ⟨hs', hc'⟩ := ih (fun m hm => hos m (List.mem_append_left _ hm)) hz
    rw [Shift.tale_concat hz ho]
    refine hc'.after hs' (fun m hm => hos m ?_) ho
    simp [hm]

/-! ## What an account says -/

/-- What a tale `h` tells of a supervisor that was started with the settings `first`. -/
structure Account (first : Entry) (h : List Tiding) (s : Supervisor) : Prop where
  /-- What the worker stored is the beginning of what was handed over, in the same order. -/
  stored : storedIn h <+: handedIn h
  /-- Every execution was launched with what was stored last before, or with the settings at the start. -/
  launches : ∀ h₁ n e h₂, h = h₁ ++ .launched n e :: h₂ → e = (storedIn h₁).getLast?.getD first
  /-- What an execution took up is the beginning of what was stored after it was launched and before it
  ended. -/
  received : ∀ n e, .launched n e ∈ h → receivedIn n h <+: storedIn (lifetime n h)
  /-- The supervisor has the settings that it was handed last. -/
  entry : s.entry = (handedIn h).getLast?.getD first
  /-- If nothing is on its way to the worker, it has stored everything, and launches with what was handed
  over last. -/
  delivered : s.worker.isAlive = true → s.reloadBox.content = none →
    (∀ c ∈ s.couriers, c.execution ≠ none) → storedIn h = handedIn h ∧
      s.launchEntry = (handedIn h).getLast?.getD first
  /-- If nothing is on its way to the execution that is held and goes on, it has taken up everything that
  was stored since its launch. -/
  forwarded : ∀ e ∈ s.execution, e.isAlive = true → e.inbox.content = none →
    (∀ c ∈ s.couriers, c.execution ≠ some e.number) →
    receivedIn e.number h = storedIn (lifetime e.number h)

theorem bound_eq_nil {place : Option Nat} (h : ∀ c ∈ s.couriers, c.execution ≠ place) :
    s.depot.bound place = [] :=
  List.filter_eq_nil_iff.2 fun c hmem hp => h c hmem (beq_iff_eq.1 hp)

/-- Nothing was lost on a route on which nothing is any more. -/
theorem Route.complete {cs : List Courier} {b : Mailbox Entry} {sent taken : List Entry}
    (hr : Route cs q b sent taken) (hcs : cs = []) (hb : b.content = none) : taken = sent := by
  have hentries := hr.entries
  rw [hcs, hb] at hentries
  simpa using hentries.symm

theorem Carried.account (hc : Carried k₀ first s.depot q h) : Account first h s := by
  refine ⟨hc.stored, hc.tells.launches, hc.received, hc.tells.entry, fun ha hb hnone => ?_,
    fun e he ha hb hnone => ?_⟩
  · have hall := (hc.flows.worker ha).complete (bound_eq_nil hnone) hb
    exact ⟨hall, by rw [← hall]; exact hc.tells.launchEntry⟩
  · have hmem : e.slot ∈ s.depot.slots := by
      refine List.mem_append_left _ (Option.mem_toList.2 ?_)
      rw [depot, Option.mem_def.1 he]
      rfl
    have hn : k₀ ≤ e.slot.number := by
      refine hc.kept.watched e.slot.number ?_
      rw [depot, Option.mem_def.1 he]
      rfl
    have hlife : lifetime e.number h = since e.number h :=
      lifetime_eq ((hc.kept.slots e.slot hmem hn).2.2 ha)
    rw [hlife]
    exact (hc.flows.executions e.slot hmem hn ha).complete (bound_eq_nil hnone) hb

/-- A shift begins with the start of its supervisor. -/
theorem carried_shift {onDemand : Bool} {query : String} {os : List Occasion} (hs : s.Orderly)
    (hi : s.isIdle = true) (hline : line.Nodup) (hsent : ∀ n, .courier n ∈ line → n < s.nextCourier)
    (hos : ∀ m, .act m ∈ os → m.isSwitch = false)
    (hx : (Shift.flush ⟨s.start onDemand query, line⟩).run os = some x) :
    Carried s.launches s.entry x.supervisor.depot (couriersIn x.line)
      ((Shift.flush ⟨s.start onDemand query, line⟩).tale os) := by
  have hstart : s.move (.start onDemand query) = some (s.start onDemand query) := if_pos hi
  have hq : ∀ n ∈ couriersIn line, n < s.depot.nextCourier := fun n hn => hsent n (mem_couriersIn.1 hn)
  have hclosed : s.depot.isOpen = false := by
    have hidle : s.worker = .idle := by simpa [isIdle] using hi
    simp [depot, hidle, WorkerState.isAlive]
  have hbegin := carried_start hs.numbered hclosed (nodup_couriersIn hline) hq
  have hcarried : Carried s.launches s.entry
      (Shift.flush ⟨s.start onDemand query, line⟩).supervisor.depot
      (couriersIn (Shift.flush ⟨s.start onDemand query, line⟩).line) [] := by
    rw [supervisor_flush, couriersIn_flush]
    have hdepot : ∀ t : Supervisor, ({ t with effects := [] } : Supervisor).depot =
        { t.depot with summoned := [] } := fun _ => rfl
    rw [hdepot, depot_start hi]
    exact hbegin
  have horderly : (Shift.flush ⟨s.start onDemand query, line⟩).supervisor.Orderly := by
    rw [supervisor_flush]
    exact (hs.move hstart).move (m := .flush) rfl
  exact (carried_run hcarried horderly hos hx).2

/-- What is told of a supervisor from its start until it is asked to stop, whatever came to pass before and
whichever tasks stood in line, while tasks take steps in turn. -/
theorem reloads_in_order {now pause : Nat} {entry : Entry} {groups : Option (List String)}
    {options : SourceOptions} {factory : Factory} {s₀ s : Supervisor} {ms : List Move}
    {onDemand : Bool} {query : String} {line : List Task} {os : List Occasion} {x : Shift}
    (hs₀ : create now entry groups options factory pause = .ok s₀) (hs : s₀.run ms = some s)
    (hi : s.isIdle = true) (hline : line.Nodup) (hsent : ∀ n, .courier n ∈ line → n < s.nextCourier)
    (hos : ∀ m, .act m ∈ os → m.isSwitch = false)
    (hx : (Shift.flush ⟨s.start onDemand query, line⟩).run os = some x) :
    Account s.entry ((Shift.flush ⟨s.start onDemand query, line⟩).tale os) x.supervisor := by
  have horderly : s.Orderly := orderly_run (orderly_create hs₀) hs
  exact (carried_shift horderly hi hline hsent hos hx).account

/-- Three changes are handed over at once. The execution takes up the first one and ends while the others
are on their way; the worker stores all of them, and launches the next execution with the last one. -/
theorem reloads_in_order_burst :
    let brief : Factory := fun _ _ _ =>
      .ok { behaviour := fun n => if n = 0 then [.awaitReload, .finish .exited] else [] }
    let readers (n : UInt64) : Entry := { settings := { source := "rtsp://h/x", maxReaders := n } }
    let os : List Occasion := .turn 0 :: .turn 0 ::
      [1, 2, 3].map (fun n => .act (.reload (readers n))) ++ List.replicate 26 (.turn 0) ++
      [.rouse .worker, .turn 5000]
    ∃ s₀ x, create 0 { settings := { source := "rtsp://h/x" } } none {} brief 5000 = .ok s₀ ∧
      (Shift.flush ⟨s₀.start false "", []⟩).run os = some x ∧
      let h := (Shift.flush ⟨s₀.start false "", []⟩).tale os
      storedIn h = [readers 1, readers 2, readers 3] ∧ .launched 1 (readers 3) ∈ h ∧
      receivedIn 0 h <+: storedIn (lifetime 0 h) ∧ receivedIn 0 h = [readers 1] ∧
      x.supervisor.launchEntry = readers 3 := by
  intro brief readers os
  obtain ⟨s₀, hs₀, hi, hrun, hquiet, hhanded, hfirst, hnext, hreceived⟩ : ∃ s₀,
      create 0 { settings := { source := "rtsp://h/x" } } none {} brief 5000 = .ok s₀ ∧
      s₀.isIdle = true ∧ ((Shift.flush ⟨s₀.start false "", []⟩).run os).isSome ∧
      ((Shift.flush ⟨s₀.start false "", []⟩).run os).map (fun x => (x.supervisor.worker.isAlive,
        x.supervisor.reloadBox.content.isNone, x.supervisor.couriers.isEmpty)) =
        some (true, true, true) ∧
      handedIn ((Shift.flush ⟨s₀.start false "", []⟩).tale os) = [readers 1, readers 2, readers 3] ∧
      .launched 0 { settings := { source := "rtsp://h/x" } } ∈
        (Shift.flush ⟨s₀.start false "", []⟩).tale os ∧
      .launched 1 (readers 3) ∈ (Shift.flush ⟨s₀.start false "", []⟩).tale os ∧
      receivedIn 0 ((Shift.flush ⟨s₀.start false "", []⟩).tale os) = [readers 1] :=
    ⟨_, rfl, rfl, by decide +kernel, by decide +kernel, by decide +kernel, by decide +kernel,
      by decide +kernel, by decide +kernel⟩
  obtain ⟨x, hx⟩ := Option.isSome_iff_exists.1 hrun
  rw [hx] at hquiet
  simp only [Option.map_some, Option.some.injEq, Prod.mk.injEq, Option.isNone_iff_eq_none,
    List.isEmpty_iff] at hquiet
  obtain ⟨halive, hbox, hnone⟩ := hquiet
  have hos : ∀ m, .act m ∈ os → m.isSwitch = false := by
    have hall : ∀ o ∈ os, ∀ m, o = .act m → m.isSwitch = false := by
      simp [os, Move.isSwitch]
    exact fun m hm => hall _ hm m rfl
  have haccount := reloads_in_order hs₀ (run_nil s₀) hi List.nodup_nil (by simp) hos hx
  obtain ⟨hall, hlast⟩ := haccount.delivered halive hbox (by simp [hnone])
  rw [hhanded] at hall hlast
  exact ⟨s₀, x, hs₀, hx, hall, hnext, haccount.received 0 _ hfirst, hreceived, hlast⟩

end Supervisor

end MediaPaths
