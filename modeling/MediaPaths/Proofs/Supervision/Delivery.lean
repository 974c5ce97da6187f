import MediaPaths.Proofs.Supervision.Route

/-!
# Changes of the settings are delivered in order

While tasks step in the order in which they could go on, changes of the settings reach the worker in the
order in which they were handed over, and reach each execution in the order in which the worker stored
them. None is lost on its way to a worker or to an execution that goes on, and none comes twice. `Kept`
keeps account of the executions of a run and `Flows` of the routes of changes.
-/

namespace MediaPaths

namespace Supervisor

/-- Whether the supervisor is started or stopped by a move. -/
def Move.isSwitch : Move → Bool
  | .start _ _ | .cancel _ => true
  | _ => false

variable {k₀ n : Nat} {first entry : Entry} {d d' : Depot} {m : Move} {told h : List Tiding}
  {q q' : List Nat} {x : Slot} {b : Mailbox Entry} {place : Option Nat}

/-! ## What becomes of executions -/

/-- Unless the supervisor is stopped, an execution is one that there was or has just been launched. -/
theorem slot_of_ships (hs : Ships d m told d') (hm : m.isSwitch = false) (hx : x ∈ d'.slots) :
    (∃ y ∈ d.slots, y.number = x.number ∧ y.cancelled = x.cancelled ∧
      (x.isAlive = true → y.isAlive = true ∧ .ended x.number ∉ told)) ∨
    x = ⟨d.launches, d.cancelled, true, {}⟩ ∧ told = [.launched d.launches d.launchEntry] := by
  have same : x ∈ d.slots → (∀ n, .ended n ∉ told) → ∃ y ∈ d.slots, y.number = x.number ∧
      y.cancelled = x.cancelled ∧ (x.isAlive = true → y.isAlive = true ∧ .ended x.number ∉ told) :=
    fun hx ht => ⟨x, hx, rfl, rfl, fun ha => ⟨ha, ht _⟩⟩
  have unwatched : ∀ y ∈ d.orphans, y ∈ d.slots := fun y hy => List.mem_append_right _ hy
  cases hs with
  | start | cancel => cases hm
  | still | hand | flush => exact .inl (same hx (by simp))
  | store hd hb =>
    rw [slots_store] at hx
    exact .inl (same hx (by simp))
  | launch =>
    rcases List.mem_cons.1 hx with rfl | hx
    · exact .inr ⟨rfl, rfl⟩
    · exact .inl (same (unwatched x hx) (by simp))
  | reap | halt => exact .inl (same (unwatched x hx) (by simp))
  | crash =>
    have hslots : (d.orphans ++ d.watched.toList).Perm d.slots := List.perm_append_comm
    exact .inl (same (hslots.mem_iff.1 hx) (by simp))
  | @receive _ y _ _ _ hy ha =>
    rcases mem_slots_setSlot hx with rfl | ⟨hx, -⟩
    · exact .inl ⟨y, (mem_of_slot? hy).1, rfl, rfl, fun _ => ⟨ha, by simp⟩⟩
    · exact .inl (same hx (by simp))
  | @ends _ y hy ha =>
    rcases mem_slots_setSlot hx with rfl | ⟨hx, hne⟩
    · exact .inl ⟨y, (mem_of_slot? hy).1, rfl, rfl, nofun⟩
    · exact .inl ⟨x, hx, rfl, rfl, fun ha => ⟨ha, by simpa using hne⟩⟩
  | @leaves _ y hy ha hw =>
    rcases List.mem_append.1 hx with hx | hx
    · have hne : x.number ≠ y.number := hw x (Option.mem_toList.1 hx)
      exact .inl ⟨x, List.mem_append_left _ hx, rfl, rfl, fun ha => ⟨ha, by simpa using hne⟩⟩
    · obtain ⟨hx, hne⟩ := List.mem_filter.1 hx
      exact .inl ⟨x, unwatched x hx, rfl, rfl, fun ha => ⟨ha, by simpa using hne⟩⟩
  | dismiss => exact .inl (same hx (by simp))
  | put _ _ hb | wait _ _ hb =>
    rcases drawer_cases hb with ⟨-, -, -, hset⟩ | ⟨y, hy, ha, -, -, hset⟩
    · simp only [hset] at hx
      exact .inl (same hx (by simp))
    · simp only [hset] at hx
      rcases mem_slots_setSlot hx with rfl | ⟨hx, -⟩
      · exact .inl ⟨y, (mem_of_slot? hy).1, rfl, rfl, fun _ => ⟨ha, by simp⟩⟩
      · exact .inl (same hx (by simp))

/-- The worker watches the execution that it watched, or the one that it has just launched. -/
theorem watched_of_ships (hs : Ships d m told d') (hm : m.isSwitch = false) :
    ∀ n ∈ d'.watched.map (·.number), n ∈ d.watched.map (·.number) ∨ n = d.launches := by
  intro n hn
  cases hs with
  | start | cancel => cases hm
  | still | hand | flush | leaves | dismiss => exact .inl hn
  | store =>
    rw [watched_store] at hn
    exact .inl hn
  | launch => exact .inr (by simpa using hn.symm)
  | reap | halt | crash => cases hn
  | receive | ends => exact .inl (numbers_watched_setSlot d _ ▸ hn)
  | put | wait => exact .inl (numbers_watched_setDesk d _ _ ▸ hn)

/-- As long as there is a worker, it leaves no execution behind. -/
theorem orphans_of_ships (hs : Ships d m told d') (hm : m.isSwitch = false)
    (ho : d'.isOpen = true) :
    d.isOpen = true ∧ ∀ n ∈ d'.orphans.map (·.number), n ∈ d.orphans.map (·.number) := by
  cases hs with
  | start | cancel => cases hm
  | halt | crash => cases ho
  | still | hand | flush | launch | reap | dismiss => exact ⟨ho, fun _ hn => hn⟩
  | store hd =>
    rw [orphans_store]
    exact ⟨hd, fun _ hn => hn⟩
  | receive | ends => exact ⟨ho, fun n hn => numbers_orphans_setSlot d _ ▸ hn⟩
  | leaves => exact ⟨ho, fun n hn => (List.filter_sublist.map _).subset hn⟩
  | put | wait => exact ⟨isOpen_setDesk d _ _ ▸ ho, fun n hn => numbers_orphans_setDesk d _ _ ▸ hn⟩

/-- Of executions that were not launched yet, nothing is told. -/
theorem told_of_ships (hd : d.Numbered) (hs : Ships d m told d') :
    d.launches ≤ d'.launches ∧ ∀ t ∈ told, ∀ n, t.execution? = some n → n < d'.launches := by
  cases hs with
  | launch =>
    refine ⟨Nat.le_succ _, fun t ht n hn => ?_⟩
    obtain rfl := List.mem_singleton.1 ht
    cases hn
    exact Nat.lt_succ_self _
  | receive hx | ends hx | leaves hx =>
    refine ⟨Nat.le_refl _, fun t ht n hn => ?_⟩
    obtain rfl := List.mem_singleton.1 ht
    cases hn
    exact hd.launched _ (mem_of_slot? hx).1
  | store =>
    rw [launches_store]
    refine ⟨Nat.le_refl _, fun t ht n hn => ?_⟩
    obtain rfl := List.mem_singleton.1 ht
    cases hn
  | hand =>
    refine ⟨Nat.le_refl _, fun t ht n hn => ?_⟩
    obtain rfl := List.mem_singleton.1 ht
    cases hn
  | put | wait => exact ⟨(launches_setDesk d _ _).ge, by simp⟩
  | _ => exact ⟨Nat.le_refl _, by simp⟩

/-- The worker is not being stopped. -/
theorem calm_of_ships (hs : Ships d m told d') (hm : m.isSwitch = false) (hc : d.cancelled = false) :
    d'.cancelled = false := by
  cases hs with
  | start | cancel => cases hm
  | store => exact (cancelled_store _ _).trans hc
  | put | wait => exact (cancelled_setDesk d _ _).trans hc
  | _ => exact hc

/-- The account of a run: `k₀` executions were launched before it, and it is not being stopped. -/
structure Kept (k₀ : Nat) (d : Depot) (h : List Tiding) : Prop where
  numbered : d.Numbered
  calm : d.cancelled = false
  /-- Of each of its executions it is told how it was launched, and that it has ended only if so. -/
  slots : ∀ x ∈ d.slots, k₀ ≤ x.number → x.cancelled = false ∧ (∃ e, .launched x.number e ∈ h) ∧
    (x.isAlive = true → .ended x.number ∉ h)
  watched : ∀ n ∈ d.watched.map (·.number), k₀ ≤ n
  orphans : d.isOpen = true → ∀ n ∈ d.orphans.map (·.number), n < k₀
  told : ∀ t ∈ h, ∀ n, t.execution? = some n → n < d.launches
  launched : ∀ n e, .launched n e ∈ h → k₀ ≤ n
  launches : k₀ ≤ d.launches

theorem Kept.ships (hk : Kept k₀ d h) (hs : Ships d m told d') (hm : m.isSwitch = false) :
    Kept k₀ d' (h ++ told) := by
  -- only what is told of launches is new; all else comes from the lists of outcomes above
  obtain ⟨hle, htold⟩ := told_of_ships hk.numbered hs
  refine ⟨hk.numbered.ships hs, calm_of_ships hs hm hk.calm, fun x hx hn => ?_, fun n hn => ?_,
    fun ho n hn => ?_, fun t ht n hn => ?_, fun n e hl => ?_, hk.launches.trans hle⟩
  · rcases slot_of_ships hs hm hx with ⟨y, hy, hnum, hcan, ha⟩ | ⟨rfl, rfl⟩
    · obtain ⟨hc, ⟨e, hl⟩, hend⟩ := hk.slots y hy (hnum ▸ hn)
      rw [hnum] at hl hend
      refine ⟨hcan ▸ hc, ⟨e, List.mem_append_left _ hl⟩, fun hx => ?_⟩
      rw [List.mem_append, not_or]
      exact ⟨hend (ha hx).1, (ha hx).2⟩
    · refine ⟨hk.calm, ⟨d.launchEntry, by simp⟩, fun _ => ?_⟩
      rw [List.mem_append, not_or]
      refine ⟨fun he => ?_, by simp⟩
      exact Nat.lt_irrefl _ (hk.told _ he _ rfl)
  · rcases watched_of_ships hs hm n hn with hn | rfl
    · exact hk.watched n hn
    · exact hk.launches
  · obtain ⟨ho', hsub⟩ := orphans_of_ships hs hm ho
    exact hk.orphans ho' n (hsub n hn)
  · rcases List.mem_append.1 ht with ht | ht
    · exact Nat.lt_of_lt_of_le (hk.told t ht n hn) hle
    · exact htold t ht n hn
  · rcases List.mem_append.1 hl with hl | hl
    · exact hk.launched n e hl
    · cases hs with
      | launch =>
        cases List.mem_singleton.1 hl
        exact hk.launches
      | _ => simp at hl

/-! ## What flows on the routes -/

/-- The couriers of a route. -/
def Depot.bound (d : Depot) (place : Option Nat) : List Courier :=
  d.couriers.filter (·.execution == place)

theorem mem_bound {c : Courier} : c ∈ d.bound place ↔ c ∈ d.couriers ∧ c.execution = place := by
  simp [Depot.bound]

theorem bound_dispatch (d : Depot) (entry : Entry) (place : Option Nat) :
    (d.dispatch entry place).bound place = d.bound place ++ [⟨d.nextCourier, entry, place⟩] := by
  simp [Depot.bound, Depot.dispatch, List.filter_append]

theorem bound_dispatch_of_ne {place' : Option Nat} (hp : place ≠ place') (d : Depot) (entry : Entry) :
    (d.dispatch entry place).bound place' = d.bound place' := by
  simp [Depot.bound, Depot.dispatch, List.filter_append, hp]

theorem bound_dismiss (d : Depot) (n : Nat) (place : Option Nat) :
    (d.dismiss n).bound place = (d.bound place).filter (·.number != n) := by
  simp only [Depot.bound, Depot.dismiss, List.filter_filter, Bool.and_comm]

theorem numbers_bound (hd : d.Numbered) (place : Option Nat) :
    ((d.bound place).map (·.number)).Nodup := by
  have hp := (hd.couriers.sublist (List.filter_sublist (p := (·.execution == place)))).imp Nat.ne_of_lt
  exact List.pairwise_map.2 hp

/-- Of the couriers, each is known by its number. -/
theorem courier_unique (hd : d.Numbered) {c c' : Courier} (hc : c ∈ d.couriers)
    (hc' : c' ∈ d.couriers) (hn : c.number = c'.number) : c = c' := by
  have hnodup : (d.couriers.map (·.number)).Nodup := List.pairwise_map.2 (hd.couriers.imp Nat.ne_of_lt)
  exact List.inj_on_of_nodup_map hnodup hc hc' hn

theorem bound_dismiss_of_ne (hd : d.Numbered) {c : Courier} (hc : c ∈ d.couriers)
    (hp : c.execution ≠ place) : (d.dismiss c.number).bound place = d.bound place := by
  rw [bound_dismiss, List.filter_eq_self]
  intro c' hc'
  obtain ⟨hmem, hplace⟩ := mem_bound.1 hc'
  refine bne_iff_ne.2 fun hn => hp ?_
  rw [courier_unique hd hc hmem hn.symm, hplace]

theorem bound_of_couriers (hc : d'.couriers = d.couriers) (place : Option Nat) :
    d'.bound place = d.bound place := by
  rw [Depot.bound, hc]
  rfl

/-- The changes on the routes of a run. -/
structure Flows (k₀ : Nat) (d : Depot) (q : List Nat) (h : List Tiding) : Prop where
  /-- What was handed over is on the route to the worker. -/
  worker : d.isOpen = true → Route (d.bound none) q d.reloadBox (handedIn h) (storedIn h)
  /-- What was stored since an execution was launched is on the route to it. -/
  executions : ∀ x ∈ d.slots, k₀ ≤ x.number → x.isAlive = true →
    Route (d.bound (some x.number)) q x.inbox (storedIn (since x.number h)) (receivedIn x.number h)

namespace Flows

/-- An execution of which nothing is told. -/
theorem execution (hf : Flows k₀ d q h) (hk : Kept k₀ d h) (hx : x ∈ d.slots) (hn : k₀ ≤ x.number)
    (ha : x.isAlive = true) (hs : storedIn told = []) (hr : receivedIn x.number told = [])
    (hq : q.Sublist q') : Route (d.bound (some x.number)) q' x.inbox
      (storedIn (since x.number (h ++ told))) (receivedIn x.number (h ++ told)) := by
  obtain ⟨-, ⟨e, hl⟩, -⟩ := hk.slots x hx hn
  rw [since_append hl, storedIn_append, receivedIn_append, hs, hr, List.append_nil, List.append_nil]
  exact (hf.executions x hx hn ha).mono hq

/-- A worker of which nothing is told. -/
theorem box (hf : Flows k₀ d q h) (ho : d.isOpen = true) (hh : handedIn told = [])
    (hs : storedIn told = []) (hq : q.Sublist q') :
    Route (d.bound none) q' d.reloadBox (handedIn (h ++ told)) (storedIn (h ++ told)) := by
  rw [handedIn_append, storedIn_append, hh, hs, List.append_nil, List.append_nil]
  exact (hf.worker ho).mono hq

/-- Where neither mailboxes nor couriers change. -/
theorem still (hf : Flows k₀ d q h) (hk : Kept k₀ d h) (hc : d'.couriers = d.couriers)
    (ho : d'.isOpen = true → d.isOpen = true ∧ d'.reloadBox = d.reloadBox)
    (hx : ∀ x ∈ d'.slots, x.isAlive = true → x ∈ d.slots) (hh : handedIn told = [])
    (hs : storedIn told = []) (hr : ∀ n, receivedIn n told = []) (hq : q.Sublist q') :
    Flows k₀ d' q' (h ++ told) := by
  refine ⟨fun ho' => ?_, fun x hx' hn ha => ?_⟩
  · obtain ⟨hopen, hbox⟩ := ho ho'
    rw [bound_of_couriers hc, hbox]
    exact hf.box hopen hh hs hq
  · rw [bound_of_couriers hc]
    exact hf.execution hk (hx x hx' ha) hn ha hs (hr _) hq

end Flows

/-- One who enters a line that it does not stand in comes to its end. -/
theorem enters_concat {as : List Nat} (hq : n ∉ q) (ha : n ∉ as) :
    (q ++ [n]).Sublist ((as ++ [n]).foldl enter q) := by
  have hmem : n ∉ as.foldl enter q := by
    rw [mem_enters, not_or]
    exact ⟨hq, ha⟩
  rw [List.foldl_append, List.foldl_cons, List.foldl_nil, enter,
    if_neg (mt List.contains_iff_mem.1 hmem)]
  exact (prefix_enters q as).sublist.append_right [n]

/-- The executions of a run are the one that the worker watches, as long as there is a worker. -/
theorem Kept.watched_of_open (hk : Kept k₀ d h) (ho : d.isOpen = true) (hx : x ∈ d.slots)
    (hn : k₀ ≤ x.number) : d.watched = some x := by
  rcases List.mem_append.1 hx with hx | hx
  · exact Option.mem_toList.1 hx
  · have hlt := hk.orphans ho x.number (List.mem_map_of_mem hx)
    exact absurd hn (Nat.not_le.2 hlt)

/-- What the worker stores goes on to the execution that it watches. -/
theorem Flows.store (hf : Flows k₀ d q h) (hk : Kept k₀ d h) (hsum : d.summoned = [])
    (hq : ∀ n ∈ q, n < d.nextCourier) (ho : d.isOpen = true) {next : Option Nat}
    (hb : d.reloadBox.take? = some (entry, b, next)) :
    Flows k₀ (({ d with reloadBox := b }.summon next.toList).store entry)
      ((({ d with reloadBox := b }.summon next.toList).store entry).summoned.foldl enter q)
      (h ++ [.stored entry]) := by
  have hlt := (Depot.Numbered.lt_of_take? hk.numbered.senders hb).2
  have hhand : handedIn (h ++ [.stored entry]) = handedIn h := by simp [handedIn, Tiding.handed?]
  have hstored : storedIn (h ++ [.stored entry]) = storedIn h ++ [entry] := by
    simp [storedIn, Tiding.stored?]
  have hworker := (hf.worker ho).take hb
  rcases store_cases ({ d with reloadBox := b }.summon next.toList) entry with ⟨hw, hd⟩ | ⟨x₀, hw, hd⟩
  · rw [hd]
    refine ⟨fun _ => ?_, fun x hx hn ha => ?_⟩
    · rw [hhand, hstored]
      exact hworker.mono (prefix_enters _ _).sublist
    · cases (hk.watched_of_open ho hx hn).symm.trans hw
  · rw [hd]
    refine ⟨fun _ => ?_, fun x hx hn ha => ?_⟩
    · rw [hhand, hstored, bound_dispatch_of_ne (by simp)]
      exact hworker.mono (prefix_enters _ _).sublist
    · obtain rfl : x = x₀ := Option.some.inj ((hk.watched_of_open ho hx hn).symm.trans hw)
      obtain ⟨-, ⟨e, hl⟩, -⟩ := hk.slots x hx hn
      have hsince : storedIn (since x.number (h ++ [.stored entry])) =
          storedIn (since x.number h) ++ [entry] := by
        rw [since_append hl, storedIn_append]
        rfl
      have hreceived : receivedIn x.number (h ++ [.stored entry]) = receivedIn x.number h := by
        simp [receivedIn, Tiding.received?]
      rw [bound_dispatch, hsince, hreceived]
      refine (hf.executions x hx hn ha).dispatch ⟨d.nextCourier, entry, some x.number⟩ ?_
      show (q ++ [d.nextCourier]).Sublist
        (((d.summoned ++ next.toList) ++ [d.nextCourier]).foldl enter q)
      rw [hsum, List.nil_append]
      exact enters_concat (fun h => Nat.lt_irrefl _ (hq _ h)) fun h => Nat.lt_irrefl _ (hlt _ h)

/-- What is handed over goes to the worker. -/
theorem Flows.hand (hf : Flows k₀ d q h) (hk : Kept k₀ d h) (hsum : d.summoned = [])
    (hq : ∀ n ∈ q, n < d.nextCourier) (entry : Entry) :
    Flows k₀ ({ d with entry := entry }.dispatch entry none)
      (({ d with entry := entry }.dispatch entry none).summoned.foldl enter q)
      (h ++ [.handed entry]) := by
  refine ⟨fun ho => ?_, fun x hx hn ha => ?_⟩
  · have hhand : handedIn (h ++ [.handed entry]) = handedIn h ++ [entry] := by
      simp [handedIn, Tiding.handed?]
    have hstored : storedIn (h ++ [.handed entry]) = storedIn h := by
      simp [storedIn, Tiding.stored?]
    rw [bound_dispatch, hhand, hstored]
    refine (hf.worker ho).dispatch ⟨d.nextCourier, entry, none⟩ ?_
    show (q ++ [d.nextCourier]).Sublist ((d.summoned ++ [d.nextCourier]).foldl enter q)
    rw [hsum]
    exact enters_concat (fun h => Nat.lt_irrefl _ (hq _ h)) (by simp)
  · rw [bound_dispatch_of_ne (by simp)]
    exact hf.execution hk hx hn ha rfl rfl (prefix_enters _ _).sublist

/-- An execution takes up what lies in its mailbox. -/
theorem Flows.receive (hf : Flows k₀ d q h) (hk : Kept k₀ d h) {next : Option Nat}
    (hx : x ∈ d.slots) (hb : x.inbox.take? = some (entry, b, next)) (hq : q.Sublist q') :
    Flows k₀ ((d.setSlot { x with inbox := b }).summon next.toList) q'
      (h ++ [.received x.number entry]) := by
  refine ⟨fun ho => hf.box ho rfl rfl hq, fun y hy hn ha => ?_⟩
  rcases mem_slots_setSlot hy with rfl | ⟨hy, hne⟩
  · obtain ⟨-, ⟨e, hl⟩, -⟩ := hk.slots x hx hn
    have hsince : storedIn (since x.number (h ++ [.received x.number entry])) =
        storedIn (since x.number h) := by
      rw [since_append hl, storedIn_append]
      exact List.append_nil _
    have hreceived : receivedIn x.number (h ++ [.received x.number entry]) =
        receivedIn x.number h ++ [entry] := by
      simp [receivedIn, Tiding.received?]
    rw [hsince, hreceived]
    exact ((hf.executions x hx hn ha).take hb).mono hq
  · refine hf.execution hk hy hn ha rfl ?_ hq
    have hne' : x.number ≠ y.number := fun h => hne h.symm
    simp [receivedIn, Tiding.received?, hne']

/-- The first courier in line puts what it brings in the mailbox. -/
theorem Flows.put {c : Courier} {b' : Mailbox Entry} (hf : Flows k₀ d (c.number :: q) h)
    (hk : Kept k₀ d h) (hq : (c.number :: q).Nodup) (hc : c ∈ d.couriers)
    (hb : d.drawer c.execution = some b) (hp : b.post? c.number c.entry = some b') :
    Flows k₀ ((d.setDesk c.execution b').dismiss c.number) (c.number :: q) h := by
  have own : ∀ {sent taken : List Entry}, Route (d.bound c.execution) (c.number :: q) b sent taken →
      Route ((d.dismiss c.number).bound c.execution) (c.number :: q) b' sent taken := by
    intro sent taken hr
    rw [bound_dismiss]
    exact hr.put hq (numbers_bound hk.numbered _) (mem_bound.2 ⟨hc, rfl⟩) hp
  -- no other route has this courier
  have other : ∀ {place : Option Nat} {b : Mailbox Entry} {sent taken : List Entry},
      c.execution ≠ place → Route (d.bound place) (c.number :: q) b sent taken →
      Route ((d.dismiss c.number).bound place) (c.number :: q) b sent taken := by
    intro place b sent taken hplace hr
    rw [bound_dismiss_of_ne hk.numbered hc hplace]
    exact hr
  rcases drawer_cases hb with ⟨hplace, ho, rfl, hset⟩ | ⟨x, hx, ha, hplace, rfl, hset⟩
  · rw [hset]
    rw [hplace] at own other
    exact ⟨fun _ => own (hf.worker ho), fun y hy hn ha => other (by simp) (hf.executions y hy hn ha)⟩
  · rw [hset]
    rw [hplace] at own other
    refine ⟨fun ho => other (by simp) (hf.worker ho), fun y hy hn ha' => ?_⟩
    rcases mem_slots_setSlot hy with rfl | ⟨hy, hne⟩
    · exact own (hf.executions x (mem_of_slot? hx).1 hn ha)
    · exact other (fun h => hne (Option.some.inj h).symm) (hf.executions y hy hn ha')

/-- The first courier in line begins to wait. -/
theorem Flows.wait {c : Courier} (hf : Flows k₀ d (c.number :: q) h)
    (hq : (c.number :: q).Nodup) (hc : c ∈ d.couriers)
    (hb : d.drawer c.execution = some b) (ha : b.awaits c.number = false) :
    Flows k₀ (d.setDesk c.execution (b.join c.number)) (c.number :: q) h := by
  have hmem : c ∈ d.bound c.execution := mem_bound.2 ⟨hc, rfl⟩
  have hnot : c.number ∉ b.senders := by
    rw [← Mailbox.awaits_iff, ha]
    exact Bool.false_ne_true
  rcases drawer_cases hb with ⟨hplace, ho, rfl, hset⟩ | ⟨x, hx, halive, hplace, rfl, hset⟩
  · rw [hset]
    rw [hplace] at hmem
    exact ⟨fun _ => (hf.worker ho).wait hq hmem hnot, hf.executions⟩
  · rw [hset]
    rw [hplace] at hmem
    refine ⟨hf.worker, fun y hy hn ha' => ?_⟩
    rcases mem_slots_setSlot hy with rfl | ⟨hy, -⟩
    · exact (hf.executions x (mem_of_slot? hx).1 hn halive).wait hq hmem hnot
    · exact hf.executions y hy hn ha'

/-- A courier gives up only what neither a worker nor an execution of the run would take out. -/
theorem Flows.dismiss {c : Courier} (hf : Flows k₀ d q h) (hk : Kept k₀ d h) (hc : c ∈ d.couriers)
    (hb : d.desk c.execution = none) : Flows k₀ (d.dismiss c.number) q h := by
  refine ⟨fun ho => ?_, fun x hx hn ha => ?_⟩
  · have hplace : c.execution ≠ none := by
      intro hplace
      have hopen : d.isOpen = true := ho
      simp [hplace, Depot.desk, hk.calm, hopen] at hb
    rw [bound_dismiss_of_ne hk.numbered hc hplace]
    exact hf.worker ho
  · have hplace : c.execution ≠ some x.number := by
      intro hplace
      obtain ⟨hcan, -, -⟩ := hk.slots x hx hn
      simp [hplace, Depot.desk, slot?_of_mem hk.numbered.slots hx, hcan, ha] at hb
    rw [bound_dismiss_of_ne hk.numbered hc hplace]
    exact hf.executions x hx hn ha

/-- A courier leaves the line that has nothing left to do there. -/
theorem Flows.park (hf : Flows k₀ d (n :: q) h) (hk : Kept k₀ d h)
    (hw : ∀ c, d.couriers.find? (·.number == n) = some c →
      ∃ b, d.desk c.execution = some b ∧ n ∈ b.senders) : Flows k₀ d q h := by
  have hwait : ∀ c ∈ d.couriers, c.number = n → ∃ b, d.desk c.execution = some b ∧ n ∈ b.senders := by
    rintro c hc rfl
    refine hw c ?_
    cases hfind : d.couriers.find? (·.number == c.number) with
    | none => simpa using List.find?_eq_none.1 hfind c hc
    | some c' =>
      have hn : c'.number = c.number := by simpa using List.find?_some hfind
      rw [courier_unique hk.numbered (List.mem_of_find?_eq_some hfind) hc hn]
  refine ⟨fun ho => (hf.worker ho).park (numbers_bound hk.numbered _) fun c hc hn => ?_,
    fun x hx hn ha => (hf.executions x hx hn ha).park (numbers_bound hk.numbered _) fun c hc hnum => ?_⟩
  · obtain ⟨hmem, hplace⟩ := mem_bound.1 hc
    obtain ⟨b, hb, hin⟩ := hwait c hmem hn
    obtain rfl : d.reloadBox = b := by simpa [hplace, Depot.desk, hk.calm, ho] using hb
    exact hin
  · obtain ⟨hmem, hplace⟩ := mem_bound.1 hc
    obtain ⟨b, hb, hin⟩ := hwait c hmem hnum
    obtain ⟨hcan, -, -⟩ := hk.slots x hx hn
    obtain rfl : x.inbox = b := by
      simpa [hplace, Depot.desk, slot?_of_mem hk.numbered.slots hx, hcan, ha] using hb
    exact hin

/-- An execution that has just been launched: nothing is on its way to it. -/
theorem Flows.launch (hf : Flows k₀ d q h) (hk : Kept k₀ d h) (hq : q.Sublist q') :
    Flows k₀ { d with watched := some ⟨d.launches, d.cancelled, true, {}⟩, launches := d.launches + 1 }
      q' (h ++ [.launched d.launches d.launchEntry]) := by
  have hnew : ∀ t ∈ h, t.execution? ≠ some d.launches := by
    intro t ht hn
    exact Nat.lt_irrefl _ (hk.told t ht _ hn)
  refine ⟨fun ho => hf.box ho rfl rfl hq, fun x hx hn ha => ?_⟩
  rcases List.mem_cons.1 hx with rfl | hx
  · have hbound : d.bound (some d.launches) = [] := by
      refine List.filter_eq_nil_iff.2 fun c hc hp => ?_
      exact Nat.lt_irrefl _ (hk.numbered.places c hc _ (beq_iff_eq.1 hp))
    have hsince : since d.launches (h ++ [.launched d.launches d.launchEntry]) = [] :=
      since_launched (fun e he => hnew _ he rfl) _
    have hreceived : receivedIn d.launches (h ++ [.launched d.launches d.launchEntry]) = [] := by
      refine receivedIn_eq_nil fun e he => ?_
      rcases List.mem_append.1 he with he | he
      · exact hnew _ he rfl
      · simp at he
    show Route (d.bound (some d.launches)) q' {} (storedIn (since d.launches _))
      (receivedIn d.launches _)
    rw [hbound, hsince, hreceived]
    exact Route.nil q'
  · exact hf.execution hk (List.mem_append_right _ hx) hn ha rfl rfl hq

/-- Every move keeps to the routes, where a courier steps only if it is the first in line. -/
theorem Flows.ships (hf : Flows k₀ d q h) (hk : Kept k₀ d h) (hsum : d.summoned = []) (hq : q.Nodup)
    (hlt : ∀ n ∈ q, n < d.nextCourier)
    (hhead : ∀ now n, m = .task now (.courier n) → ∃ rest, q = n :: rest)
    (hs : Ships d m told d') (hm : m.isSwitch = false) :
    Flows k₀ d' (d'.summoned.foldl enter q) (h ++ told) := by
  have hsub : ∀ ns : List Nat, q.Sublist (ns.foldl enter q) := fun ns => (prefix_enters q ns).sublist
  cases hs with
  | start | cancel => cases hm
  | still =>
    rw [hsum, List.append_nil]
    exact hf
  | hand => exact hf.hand hk hsum hlt _
  | flush =>
    exact hf.still hk rfl (fun ho => ⟨ho, rfl⟩) (fun _ hx _ => hx) rfl rfl (fun _ => rfl) (hsub _)
  | store ho hb => exact hf.store hk hsum hlt ho hb
  | launch => exact hf.launch hk (hsub _)
  | reap =>
    exact hf.still hk rfl (fun ho => ⟨ho, rfl⟩) (fun _ hx _ => List.mem_append_right _ hx) rfl rfl
      (fun _ => rfl) (hsub _)
  | halt hc => cases hc.symm.trans hk.calm
  | crash =>
    refine hf.still hk rfl nofun (fun x hx _ => ?_) rfl rfl (fun _ => rfl) (hsub _)
    have hslots : (d.orphans ++ d.watched.toList).Perm d.slots := List.perm_append_comm
    exact hslots.mem_iff.1 hx
  | receive hx _ hb => exact hf.receive hk (mem_of_slot? hx).1 hb (hsub _)
  | ends =>
    refine hf.still hk rfl (fun ho => ⟨ho, rfl⟩) (fun x hx ha => ?_) rfl rfl (fun _ => rfl) (hsub _)
    rcases mem_slots_setSlot hx with rfl | ⟨hx, -⟩
    · cases ha
    · exact hx
  | leaves =>
    refine hf.still hk rfl (fun ho => ⟨ho, rfl⟩) (fun x hx _ => ?_) rfl rfl (fun _ => rfl) (hsub _)
    exact ((List.Sublist.refl d.watched.toList).append List.filter_sublist).subset hx
  | dismiss _ hc hb =>
    rw [List.append_nil]
    show Flows k₀ _ (d.summoned.foldl enter q) h
    rw [hsum]
    exact hf.dismiss hk (List.mem_of_find?_eq_some hc) hb
  | put now hc hb hp =>
    obtain ⟨rest, rfl⟩ := hhead now _ rfl
    rw [List.append_nil]
    show Flows k₀ _ ((d.setDesk _ _).summoned.foldl enter _) h
    rw [summoned_setDesk, hsum]
    exact hf.put hk hq (List.mem_of_find?_eq_some hc) hb hp
  | wait now hc hb _ ha =>
    obtain ⟨rest, rfl⟩ := hhead now _ rfl
    rw [List.append_nil, summoned_setDesk, hsum]
    exact hf.wait hq (List.mem_of_find?_eq_some hc) hb ha

end Supervisor

end MediaPaths
