import Mathlib.Data.List.Nodup
import MediaPaths.Proofs.Supervision.Conduct
import MediaPaths.Proofs.Supervision.Run

/-!
# Changes of the settings on their way

Changes of the settings are brought by couriers, first to the worker and from there to the execution that
it watches. `depot` singles out what bears on this, and `Ships` lists what a move can do to it, with what
is told of that: which settings were handed over, stored by the worker and taken up by executions, and
which executions were launched and ended meanwhile.
-/

namespace MediaPaths

namespace Supervisor

/-! ## The depot -/

/-- An execution as couriers see it. -/
structure Slot where
  /-- Its number. -/
  number : Nat
  /-- Whether it is being stopped. -/
  cancelled : Bool
  /-- Whether it has not ended. -/
  isAlive : Bool
  /-- The next change of its settings. -/
  inbox : Mailbox Entry

/-- What bears on changes of the settings. -/
structure Depot where
  /-- Whether the worker goes on. -/
  isOpen : Bool
  /-- Whether the supervisor is being stopped. -/
  cancelled : Bool
  /-- The entry with which the supervisor will be started or was changed last. -/
  entry : Entry
  /-- The entry with which the worker launches executions. -/
  launchEntry : Entry
  /-- The change that the worker is to take note of. -/
  reloadBox : Mailbox Entry
  /-- The changes that are on their way. -/
  couriers : List Courier
  /-- The number of the next courier. -/
  nextCourier : Nat
  /-- The number of executions launched so far. -/
  launches : Nat
  /-- The execution that the worker watches. -/
  watched : Option Slot
  /-- Executions that nobody watches. -/
  orphans : List Slot
  /-- The couriers that were woken. -/
  summoned : List Nat

/-- What is told of changes of the settings. -/
inductive Tiding where
  /-- They are handed to the supervisor. -/
  | handed (entry : Entry)
  /-- The worker stores them. -/
  | stored (entry : Entry)
  /-- An execution is launched with them. -/
  | launched (execution : Nat) (entry : Entry)
  /-- An execution takes them up. -/
  | received (execution : Nat) (entry : Entry)
  /-- An execution has ended. -/
  | ended (execution : Nat)
  deriving DecidableEq

end Supervisor

/-- How couriers see it. -/
def Execution.slot (e : Execution) : Supervisor.Slot := ⟨e.number, e.cancelled, e.isAlive, e.inbox⟩

namespace Supervisor

/-- What bears on changes of the settings of a supervisor. -/
def depot (s : Supervisor) : Depot where
  isOpen := s.worker.isAlive
  cancelled := s.cancelled
  entry := s.entry
  launchEntry := s.launchEntry
  reloadBox := s.reloadBox
  couriers := s.couriers
  nextCourier := s.nextCourier
  launches := s.launches
  watched := s.execution.map (·.slot)
  orphans := s.orphans.map (·.slot)
  summoned := s.summoned

/-- What is told of a move between two moments. -/
def tidings (s : Supervisor) (m : Move) (t : Supervisor) : List Tiding :=
  match m with
  | .reload entry => [.handed entry]
  | .task _ .worker =>
    (if t.launches = s.launches then []
      else t.execution.toList.map fun e => .launched e.number e.entry) ++
    if t.worker.isAlive && t.reloadBox.content.isNone then s.reloadBox.content.toList.map .stored
    else []
  | .task _ (.execution n) =>
    (t.takenUp.take (t.takenUp.length - s.takenUp.length)).map (.received n) ++
      if s.isLive n && !t.isLive n then [.ended n] else []
  | _ => []

namespace Depot

/-- All executions that have not been done with. -/
def slots (d : Depot) : List Slot := d.watched.toList ++ d.orphans

/-- The execution of a number. -/
def slot? (d : Depot) (n : Nat) : Option Slot := d.slots.find? (·.number == n)

/-- Does something to each execution. -/
def mapSlots (d : Depot) (f : Slot → Slot) : Depot :=
  { d with watched := d.watched.map f, orphans := d.orphans.map f }

/-- Puts an execution in the place of the one of its number. -/
def setSlot (d : Depot) (x : Slot) : Depot := d.mapSlots fun y => if y.number = x.number then x else y

/-- The mailbox for changes that are brought to the worker or to an execution, if they are not pointless. -/
def desk (d : Depot) : Option Nat → Option (Mailbox Entry)
  | none => if d.cancelled || !d.isOpen then none else some d.reloadBox
  | some n => (d.slot? n).bind fun x => if x.cancelled || !x.isAlive then none else some x.inbox

/-- The mailbox for changes that are brought to the worker or to an execution, if that goes on. They may be
pointless, because it is being stopped. -/
def drawer (d : Depot) : Option Nat → Option (Mailbox Entry)
  | none => if d.isOpen then some d.reloadBox else none
  | some n => (d.slot? n).bind fun x => if x.isAlive then some x.inbox else none

/-- Changes the mailbox of the worker or of an execution. -/
def setDesk (d : Depot) (place : Option Nat) (b : Mailbox Entry) : Depot :=
  match place with
  | none => { d with reloadBox := b }
  | some n => (d.slot? n).elim d fun x => d.setSlot { x with inbox := b }

/-- Some couriers are woken. -/
def summon (d : Depot) (ns : List Nat) : Depot := { d with summoned := d.summoned ++ ns }

/-- A courier is done. -/
def dismiss (d : Depot) (n : Nat) : Depot :=
  { d with couriers := d.couriers.filter (·.number != n) }

/-- A change is sent on its way. -/
def dispatch (d : Depot) (entry : Entry) (place : Option Nat) : Depot :=
  { d with
    couriers := d.couriers ++ [⟨d.nextCourier, entry, place⟩]
    nextCourier := d.nextCourier + 1
    summoned := d.summoned ++ [d.nextCourier] }

/-- The worker takes note of a change and has it brought to the execution that it watches. -/
def store (d : Depot) (entry : Entry) : Depot :=
  let d := { d with launchEntry := entry }
  d.watched.elim d fun x => d.dispatch entry (some x.number)

/-- Nothing is on its way any more, and the supervisor is started. -/
def renew (d : Depot) : Depot :=
  { d with
    isOpen := true
    cancelled := false
    launchEntry := d.entry
    reloadBox := {}
    couriers := []
    watched := none }

end Depot

/-- What a move can do to changes on their way, and what is told of it. -/
inductive Ships (d : Depot) : Move → List Tiding → Depot → Prop where
  /-- Nothing. -/
  | still (m : Move) : Ships d m [] d
  /-- Nothing is on its way any more, and the supervisor is started. -/
  | start {onDemand : Bool} {query : String} (hd : d.isOpen = false) :
      Ships d (.start onDemand query) [] d.renew
  /-- The supervisor is being stopped, and all couriers are woken. -/
  | cancel {reason : String} : Ships d (.cancel reason) []
      (({ d with cancelled := true }.mapSlots fun x =>
        { x with cancelled := true }).summon (d.couriers.map Courier.number))
  /-- Other settings are handed over. -/
  | hand (entry : Entry) : Ships d (.reload entry) [.handed entry]
      ({ d with entry := entry }.dispatch entry none)
  /-- The effects of the moves so far have come about. -/
  | flush : Ships d .flush [] { d with summoned := [] }
  /-- The worker stores a change. -/
  | store {now : Nat} {entry : Entry} {b : Mailbox Entry} {next : Option Nat} (hd : d.isOpen = true)
      (hb : d.reloadBox.take? = some (entry, b, next)) :
      Ships d (.task now .worker) [.stored entry]
        (({ d with reloadBox := b }.summon next.toList).store entry)
  /-- The worker launches an execution. -/
  | launch {now : Nat} (hd : d.isOpen = true) :
      Ships d (.task now .worker) [.launched d.launches d.launchEntry]
        { d with watched := some ⟨d.launches, d.cancelled, true, {}⟩, launches := d.launches + 1 }
  /-- The worker is done with an execution that has ended. -/
  | reap {now : Nat} (ha : ∀ x ∈ d.watched, x.isAlive = false) :
      Ships d (.task now .worker) [] { d with watched := none }
  /-- The worker ends, because the supervisor is being stopped. -/
  | halt {now : Nat} (hc : d.cancelled = true) (ha : ∀ x ∈ d.watched, x.isAlive = false) :
      Ships d (.task now .worker) [] { d with isOpen := false, reloadBox := {}, watched := none }
  /-- The worker crashes, and nobody watches the execution any more. -/
  | crash : Ships d .crash []
      ({ d with
        isOpen := false
        reloadBox := {}
        watched := none
        orphans := d.orphans ++ d.watched.toList }.summon d.reloadBox.senders)
  /-- An execution takes up a change. -/
  | receive {now : Nat} {x : Slot} {entry : Entry} {b : Mailbox Entry} {next : Option Nat}
      (hx : d.slot? x.number = some x) (ha : x.isAlive = true)
      (hb : x.inbox.take? = some (entry, b, next)) :
      Ships d (.task now (.execution x.number)) [.received x.number entry]
        ((d.setSlot { x with inbox := b }).summon next.toList)
  /-- An execution ends, and the worker learns of it. -/
  | ends {now : Nat} {x : Slot} (hx : d.slot? x.number = some x) (ha : x.isAlive = true) :
      Ships d (.task now (.execution x.number)) [.ended x.number]
        ((d.setSlot { x with isAlive := false }).summon x.inbox.senders)
  /-- An execution ends that nobody watches. -/
  | leaves {now : Nat} {x : Slot} (hx : d.slot? x.number = some x) (ha : x.isAlive = true)
      (hw : ∀ y ∈ d.watched, y.number ≠ x.number) :
      Ships d (.task now (.execution x.number)) [.ended x.number]
        ({ d with orphans := d.orphans.filter (·.number != x.number) }.summon x.inbox.senders)
  /-- A courier gives up what has become pointless. -/
  | dismiss (now : Nat) {c : Courier} (hc : d.couriers.find? (·.number == c.number) = some c)
      (hb : d.desk c.execution = none) :
      Ships d (.task now (.courier c.number)) [] (d.dismiss c.number)
  /-- A courier puts what it brings in the mailbox. -/
  | put (now : Nat) {c : Courier} {b b' : Mailbox Entry}
      (hc : d.couriers.find? (·.number == c.number) = some c) (hb : d.drawer c.execution = some b)
      (hp : b.post? c.number c.entry = some b') :
      Ships d (.task now (.courier c.number)) [] ((d.setDesk c.execution b').dismiss c.number)
  /-- A courier begins to wait for room. -/
  | wait (now : Nat) {c : Courier} {b : Mailbox Entry}
      (hc : d.couriers.find? (·.number == c.number) = some c) (hb : d.drawer c.execution = some b)
      (hp : b.post? c.number c.entry = none) (ha : b.awaits c.number = false) :
      Ships d (.task now (.courier c.number)) [] (d.setDesk c.execution (b.join c.number))

variable {d d' : Depot} {m : Move} {told : List Tiding} {n : Nat} {x : Slot} {place : Option Nat}
  {b : Mailbox Entry}

/-! ## Executions and mailboxes -/

/-- Setting a slot replaces every slot of its number, watched or not. -/
theorem slots_setSlot (d : Depot) (x : Slot) :
    (d.setSlot x).slots = d.slots.map fun y => if y.number = x.number then x else y := by
  simp only [Depot.slots, Depot.setSlot, Depot.mapSlots, List.map_append]
  cases d.watched <;> rfl

theorem slots_mapSlots (d : Depot) (f : Slot → Slot) : (d.mapSlots f).slots = d.slots.map f := by
  simp only [Depot.slots, Depot.mapSlots, List.map_append]
  cases d.watched <;> rfl

/-- A slot is only replaced by one of its own number. -/
theorem number_replace (x y : Slot) : (if y.number = x.number then x else y).number = y.number := by
  by_cases hy : y.number = x.number
  · rw [if_pos hy, hy]
  · rw [if_neg hy]

theorem numbers_watched_setSlot (d : Depot) (x : Slot) :
    (d.setSlot x).watched.map (·.number) = d.watched.map (·.number) := by
  simp [Depot.setSlot, Depot.mapSlots, Function.comp_def, number_replace]

theorem numbers_orphans_setSlot (d : Depot) (x : Slot) :
    (d.setSlot x).orphans.map (·.number) = d.orphans.map (·.number) := by
  simp [Depot.setSlot, Depot.mapSlots, Function.comp_def, number_replace]

/-- Setting a slot keeps the numbers of all slots and their order. -/
theorem numbers_setSlot (d : Depot) (x : Slot) :
    (d.setSlot x).slots.map (·.number) = d.slots.map (·.number) := by
  simp [slots_setSlot, Function.comp_def, number_replace]

/-- A slot is the one that was set, or it was there before under another number. -/
theorem mem_slots_setSlot {y : Slot} (hy : y ∈ (d.setSlot x).slots) :
    y = x ∨ y ∈ d.slots ∧ y.number ≠ x.number := by
  rw [slots_setSlot] at hy
  obtain ⟨z, hz, rfl⟩ := List.mem_map.1 hy
  by_cases hzx : z.number = x.number
  · exact .inl (if_pos hzx)
  · rw [if_neg hzx]
    exact .inr ⟨hz, hzx⟩

/-- A slot that is looked up is there, and has the number that it was looked up by. -/
theorem mem_of_slot? (hx : d.slot? n = some x) : x ∈ d.slots ∧ x.number = n :=
  ⟨List.mem_of_find?_eq_some hx, by simpa using List.find?_some hx⟩

/-- Since no two slots share a number, a slot is found by its own. -/
theorem slot?_of_mem (hn : (d.slots.map (·.number)).Nodup) (hx : x ∈ d.slots) :
    d.slot? x.number = some x := by
  cases hy : d.slot? x.number with
  | none => simpa using List.find?_eq_none.1 hy x hx
  | some y =>
    obtain ⟨hmem, hnum⟩ := mem_of_slot? hy
    rw [List.inj_on_of_nodup_map hn hmem hx hnum]

/-- A mailbox to which changes are brought is that of the worker or that of an execution that goes on. -/
theorem drawer_cases (hb : d.drawer place = some b) :
    (place = none ∧ d.isOpen = true ∧ b = d.reloadBox ∧
      ∀ b', d.setDesk place b' = { d with reloadBox := b' }) ∨
    ∃ x, d.slot? x.number = some x ∧ x.isAlive = true ∧ place = some x.number ∧ b = x.inbox ∧
      ∀ b', d.setDesk place b' = d.setSlot { x with inbox := b' } := by
  cases place with
  | none =>
    simp only [Depot.drawer] at hb
    split at hb <;> cases hb
    exact .inl ⟨rfl, ‹_›, rfl, fun _ => rfl⟩
  | some n =>
    obtain ⟨x, hx, hb⟩ := Option.bind_eq_some_iff.1 hb
    split at hb <;> cases hb
    obtain rfl := (mem_of_slot? hx).2
    exact .inr ⟨x, hx, ‹_›, rfl, rfl, fun b' => by simp [Depot.setDesk, hx]⟩

/-- New settings become those of the next launch; if an execution is watched, a courier sets out with them as well.
-/
theorem store_cases (d : Depot) (entry : Entry) :
    d.watched = none ∧ d.store entry = { d with launchEntry := entry } ∨
      ∃ x, d.watched = some x ∧
        d.store entry = Depot.dispatch { d with launchEntry := entry } entry (some x.number) := by
  obtain ⟨isOpen, cancelled, conf, launchEntry, box, couriers, next, launches, watched, orphans, woken⟩ := d
  cases watched with
  | none => exact .inl ⟨rfl, rfl⟩
  | some x => exact .inr ⟨x, rfl, rfl⟩

section

variable (d) (entry : Entry)

theorem watched_store : (d.store entry).watched = d.watched := by
  rcases store_cases d entry with ⟨-, h⟩ | ⟨x, -, h⟩ <;> simp [h, Depot.dispatch]

theorem orphans_store : (d.store entry).orphans = d.orphans := by
  rcases store_cases d entry with ⟨-, h⟩ | ⟨x, -, h⟩ <;> simp [h, Depot.dispatch]

theorem slots_store : (d.store entry).slots = d.slots := by
  rw [Depot.slots, watched_store, orphans_store]
  rfl

theorem isOpen_store : (d.store entry).isOpen = d.isOpen := by
  rcases store_cases d entry with ⟨-, h⟩ | ⟨x, -, h⟩ <;> simp [h, Depot.dispatch]

theorem cancelled_store : (d.store entry).cancelled = d.cancelled := by
  rcases store_cases d entry with ⟨-, h⟩ | ⟨x, -, h⟩ <;> simp [h, Depot.dispatch]

/-- The settings of the next launch are the latest that were stored. -/
theorem launchEntry_store : (d.store entry).launchEntry = entry := by
  rcases store_cases d entry with ⟨-, h⟩ | ⟨x, -, h⟩ <;> simp [h, Depot.dispatch]

theorem entry_store : (d.store entry).entry = d.entry := by
  rcases store_cases d entry with ⟨-, h⟩ | ⟨x, -, h⟩ <;> simp [h, Depot.dispatch]

/-- Storing settings never gives a number of a courier back. -/
theorem nextCourier_le_store : d.nextCourier ≤ (d.store entry).nextCourier := by
  rcases store_cases d entry with ⟨-, h⟩ | ⟨x, -, h⟩ <;> simp [h, Depot.dispatch]

theorem launches_store : (d.store entry).launches = d.launches := by
  rcases store_cases d entry with ⟨-, h⟩ | ⟨x, -, h⟩ <;> simp [h, Depot.dispatch]

end

section

variable (d) (place) (b)

/-- A desk is the box of the worker or that of one slot, so setting it is one of these two updates. -/
theorem setDesk_cases : (∃ c, d.setDesk place b = { d with reloadBox := c }) ∨
    ∃ x, d.setDesk place b = d.setSlot x := by
  cases place with
  | none => exact .inl ⟨b, rfl⟩
  | some n =>
    cases hx : d.slot? n with
    | none => exact .inl ⟨d.reloadBox, by simp [Depot.setDesk, hx]⟩
    | some x => exact .inr ⟨{ x with inbox := b }, by simp only [Depot.setDesk, hx, Option.elim_some]⟩

theorem numbers_watched_setDesk :
    (d.setDesk place b).watched.map (·.number) = d.watched.map (·.number) := by
  rcases setDesk_cases d place b with ⟨c, h⟩ | ⟨x, h⟩ <;> rw [h]
  exact numbers_watched_setSlot d x

theorem numbers_orphans_setDesk :
    (d.setDesk place b).orphans.map (·.number) = d.orphans.map (·.number) := by
  rcases setDesk_cases d place b with ⟨c, h⟩ | ⟨x, h⟩ <;> rw [h]
  exact numbers_orphans_setSlot d x

theorem isOpen_setDesk : (d.setDesk place b).isOpen = d.isOpen := by
  rcases setDesk_cases d place b with ⟨c, h⟩ | ⟨x, h⟩ <;> simp [h, Depot.setSlot, Depot.mapSlots]

theorem cancelled_setDesk : (d.setDesk place b).cancelled = d.cancelled := by
  rcases setDesk_cases d place b with ⟨c, h⟩ | ⟨x, h⟩ <;> simp [h, Depot.setSlot, Depot.mapSlots]

theorem launches_setDesk : (d.setDesk place b).launches = d.launches := by
  rcases setDesk_cases d place b with ⟨c, h⟩ | ⟨x, h⟩ <;> simp [h, Depot.setSlot, Depot.mapSlots]

theorem summoned_setDesk : (d.setDesk place b).summoned = d.summoned := by
  rcases setDesk_cases d place b with ⟨c, h⟩ | ⟨x, h⟩ <;> simp [h, Depot.setSlot, Depot.mapSlots]

theorem nextCourier_setDesk : (d.setDesk place b).nextCourier = d.nextCourier := by
  rcases setDesk_cases d place b with ⟨c, h⟩ | ⟨x, h⟩ <;> simp [h, Depot.setSlot, Depot.mapSlots]

theorem entry_setDesk : (d.setDesk place b).entry = d.entry := by
  rcases setDesk_cases d place b with ⟨c, h⟩ | ⟨x, h⟩ <;> simp [h, Depot.setSlot, Depot.mapSlots]

theorem launchEntry_setDesk : (d.setDesk place b).launchEntry = d.launchEntry := by
  rcases setDesk_cases d place b with ⟨c, h⟩ | ⟨x, h⟩ <;> simp [h, Depot.setSlot, Depot.mapSlots]

end

/-! ## Numbers -/

/-- Executions and couriers are told apart by their numbers. -/
structure Depot.Numbered (d : Depot) : Prop where
  /-- No two executions have the same. -/
  slots : (d.slots.map (·.number)).Nodup
  /-- Executions were launched. -/
  launched : ∀ x ∈ d.slots, x.number < d.launches
  /-- Couriers are numbered in the order in which they were sent. -/
  couriers : d.couriers.Pairwise (·.number < ·.number)
  /-- Couriers were sent, -/
  sent : ∀ c ∈ d.couriers, c.number < d.nextCourier
  /-- to executions that were launched. -/
  places : ∀ c ∈ d.couriers, ∀ n, c.execution = some n → n < d.launches
  /-- Those who wait for the worker to have room were sent, -/
  senders : ∀ k ∈ d.reloadBox.senders, k < d.nextCourier
  /-- and so were those who wait for an execution, -/
  inboxes : ∀ x ∈ d.slots, ∀ k ∈ x.inbox.senders, k < d.nextCourier
  /-- and those who were woken. -/
  summoned : ∀ k ∈ d.summoned, k < d.nextCourier

namespace Depot.Numbered

/-- Whoever is woken has a number that was given out. -/
theorem summon (hd : d.Numbered) {ks : List Nat} (hk : ∀ k ∈ ks, k < d.nextCourier) :
    (d.summon ks).Numbered := by
  refine ⟨hd.slots, hd.launched, hd.couriers, hd.sent, hd.places, hd.senders, hd.inboxes,
    fun k hm => ?_⟩
  rcases List.mem_append.1 hm with hm | hm
  · exact hd.summoned k hm
  · exact hk k hm

/-- A slot may be replaced as long as its box names couriers that were sent out. -/
theorem setSlot (hd : d.Numbered) (hx : x ∈ d.slots) {y : Slot} (hy : y.number = x.number)
    (hk : ∀ k ∈ y.inbox.senders, k < d.nextCourier) : (d.setSlot y).Numbered := by
  refine ⟨?_, fun z hz => ?_, hd.couriers, hd.sent, hd.places, hd.senders, fun z hz => ?_,
    hd.summoned⟩
  · rw [numbers_setSlot]
    exact hd.slots
  · rcases mem_slots_setSlot hz with rfl | ⟨hz, -⟩
    · rw [hy]
      exact hd.launched x hx
    · exact hd.launched z hz
  · rcases mem_slots_setSlot hz with rfl | ⟨hz, -⟩
    · exact hk
    · exact hd.inboxes z hz

/-- The box of the worker may be replaced as long as it names couriers that were sent out. -/
theorem setReloadBox (hd : d.Numbered) (hk : ∀ k ∈ b.senders, k < d.nextCourier) :
    Numbered { d with reloadBox := b } :=
  ⟨hd.slots, hd.launched, hd.couriers, hd.sent, hd.places, hk, hd.inboxes, hd.summoned⟩

/-- Either desk may be replaced as long as its box names couriers that were sent out. -/
theorem setDesk {b' : Mailbox Entry} (hd : d.Numbered) (hb : d.drawer place = some b)
    (hk : ∀ k ∈ b'.senders, k < d.nextCourier) : (d.setDesk place b').Numbered := by
  rcases drawer_cases hb with ⟨-, -, -, hset⟩ | ⟨x, hx, -, -, -, hset⟩ <;> rw [hset]
  · exact hd.setReloadBox hk
  · exact hd.setSlot (mem_of_slot? hx).1 rfl hk

/-- A courier that is done takes nobody else's number. -/
theorem dismiss (hd : d.Numbered) (n : Nat) : (d.dismiss n).Numbered :=
  ⟨hd.slots, hd.launched, hd.couriers.sublist List.filter_sublist,
    fun c hc => hd.sent c (List.mem_filter.1 hc).1, fun c hc => hd.places c (List.mem_filter.1 hc).1,
    hd.senders, hd.inboxes, hd.summoned⟩

/-- A courier that is sent out takes a fresh number. -/
theorem dispatch (hd : d.Numbered) (hp : ∀ n, place = some n → n < d.launches) (entry : Entry) :
    (d.dispatch entry place).Numbered := by
  refine ⟨hd.slots, hd.launched, ?_, fun c hc => ?_, fun c hc => ?_, fun k hk => ?_,
    fun x hx k hk => ?_, fun k hk => ?_⟩
  · refine List.pairwise_append.2 ⟨hd.couriers, List.pairwise_singleton _ _, fun c hc c' hc' => ?_⟩
    rw [List.mem_singleton.1 hc']
    exact hd.sent c hc
  · show c.number < d.nextCourier + 1
    rcases List.mem_append.1 hc with hc | hc
    · exact Nat.lt_succ_of_lt (hd.sent c hc)
    · rw [List.mem_singleton.1 hc]
      exact Nat.lt_succ_self _
  · rcases List.mem_append.1 hc with hc | hc
    · exact hd.places c hc
    · rw [List.mem_singleton.1 hc]
      exact hp
  · exact Nat.lt_succ_of_lt (hd.senders k hk)
  · exact Nat.lt_succ_of_lt (hd.inboxes x hx k hk)
  · show k < d.nextCourier + 1
    rcases List.mem_append.1 hk with hk | hk
    · exact Nat.lt_succ_of_lt (hd.summoned k hk)
    · rw [List.mem_singleton.1 hk]
      exact Nat.lt_succ_self _

/-- Storing settings keeps the numbers in order, with the courier that it may send out. -/
theorem store (hd : d.Numbered) (entry : Entry) : (d.store entry).Numbered := by
  have hd' : Numbered { d with launchEntry := entry } :=
    ⟨hd.slots, hd.launched, hd.couriers, hd.sent, hd.places, hd.senders, hd.inboxes, hd.summoned⟩
  rcases store_cases d entry with ⟨-, h⟩ | ⟨x, hx, h⟩ <;> rw [h]
  · exact hd'
  · refine hd'.dispatch (fun n hn => ?_) entry
    obtain rfl := Option.some.inj hn
    exact hd.launched x (by simp [Depot.slots, hx])

/-- With other executions, none of which is new. -/
theorem setSlots (hd : d.Numbered) {w : Option Slot} {os : List Slot}
    (hn : ((w.toList ++ os).map (·.number)).Nodup) (hs : ∀ x ∈ w.toList ++ os, x ∈ d.slots) :
    Numbered { d with watched := w, orphans := os } :=
  ⟨hn, fun x hx => hd.launched x (hs x hx), hd.couriers, hd.sent, hd.places, hd.senders,
    fun x hx => hd.inboxes x (hs x hx), hd.summoned⟩

/-- An execution that is no longer watched takes its box with it. -/
theorem unwatch (hd : d.Numbered) : Numbered { d with watched := none } := by
  have hsub : d.orphans.Sublist d.slots := List.sublist_append_right _ _
  exact hd.setSlots (hd.slots.sublist (hsub.map _)) fun x hx => hsub.subset hx

/-- Taking from a box names no courier that was not in line already. -/
theorem lt_of_take? {c : Mailbox Entry} {entry : Entry} {next : Option Nat}
    (hb : ∀ k ∈ b.senders, k < n) (ht : b.take? = some (entry, c, next)) :
    (∀ k ∈ c.senders, k < n) ∧ ∀ k ∈ next.toList, k < n := by
  obtain ⟨hc, hn⟩ := Mailbox.senders_of_take? ht
  have hw : ∀ k ∈ b.waiting, k < n := fun k hk => hb k (List.mem_append_right _ hk)
  refine ⟨hc ▸ hw, fun k hk => hw k ?_⟩
  rw [hn, Option.mem_toList] at hk
  exact List.mem_of_head? hk

/-- Whoever is in line at a desk was sent out before. -/
theorem lt_of_drawer (hd : d.Numbered) (hb : d.drawer place = some b) :
    ∀ k ∈ b.senders, k < d.nextCourier := by
  rcases drawer_cases hb with ⟨-, -, rfl, -⟩ | ⟨x, hx, -, -, rfl, -⟩
  · exact hd.senders
  · exact hd.inboxes x (mem_of_slot? hx).1

/-- Every move keeps the numbers apart. -/
theorem ships (hd : d.Numbered) (hs : Ships d m told d') : d'.Numbered := by
  have hempty : ∀ k ∈ ({} : Mailbox Entry).senders, k < d.nextCourier := by simp [Mailbox.senders]
  cases hs with
  | still => exact hd
  | start =>
    have hd' := hd.unwatch.setReloadBox hempty
    have hnone : ∀ c : Courier, c ∉ d.renew.couriers := fun _ => List.not_mem_nil
    exact ⟨hd'.slots, hd'.launched, List.Pairwise.nil, fun c hc => absurd hc (hnone c),
      fun c hc => absurd hc (hnone c), hd'.senders, hd'.inboxes, hd'.summoned⟩
  | cancel =>
    have hslots : ({ d with cancelled := true }.mapSlots fun x =>
        { x with cancelled := true }).slots = d.slots.map fun x => { x with cancelled := true } :=
      slots_mapSlots _ _
    have hd' : Numbered ({ d with cancelled := true }.mapSlots fun x =>
        { x with cancelled := true }) := by
      refine ⟨?_, fun x hx => ?_, hd.couriers, hd.sent, hd.places, hd.senders, fun x hx => ?_,
        hd.summoned⟩
      · rw [hslots, List.map_map]
        exact hd.slots
      · rw [hslots] at hx
        obtain ⟨y, hy, rfl⟩ := List.mem_map.1 hx
        exact hd.launched y hy
      · rw [hslots] at hx
        obtain ⟨y, hy, rfl⟩ := List.mem_map.1 hx
        exact hd.inboxes y hy
    refine hd'.summon fun k hk => ?_
    obtain ⟨c, hc, rfl⟩ := List.mem_map.1 hk
    exact hd.sent c hc
  | hand entry =>
    have hd' : Numbered { d with entry := entry } :=
      ⟨hd.slots, hd.launched, hd.couriers, hd.sent, hd.places, hd.senders, hd.inboxes, hd.summoned⟩
    exact hd'.dispatch (fun n hn => by cases hn) entry
  | flush =>
    exact ⟨hd.slots, hd.launched, hd.couriers, hd.sent, hd.places, hd.senders, hd.inboxes, by simp⟩
  | store _ hb =>
    obtain ⟨hc, hn⟩ := lt_of_take? hd.senders hb
    exact ((hd.setReloadBox hc).summon hn).store _
  | launch =>
    have hd' := hd.unwatch
    refine ⟨?_, fun x hx => ?_, hd.couriers, hd.sent, fun c hc n hn => ?_, hd.senders,
      fun x hx => ?_, hd.summoned⟩
    · refine List.nodup_cons.2 ⟨fun hmem => ?_, hd'.slots⟩
      obtain ⟨x, hx, heq⟩ := List.mem_map.1 hmem
      exact Nat.ne_of_lt (hd'.launched x hx) heq
    · rcases List.mem_cons.1 hx with rfl | hx
      · exact Nat.lt_succ_self _
      · exact Nat.lt_succ_of_lt (hd'.launched x hx)
    · exact Nat.lt_succ_of_lt (hd.places c hc n hn)
    · rcases List.mem_cons.1 hx with rfl | hx
      · exact hempty
      · exact hd'.inboxes x hx
  | reap => exact hd.unwatch
  | halt =>
    have hd' := hd.unwatch.setReloadBox hempty
    exact ⟨hd'.slots, hd'.launched, hd'.couriers, hd'.sent, hd'.places, hd'.senders, hd'.inboxes,
      hd'.summoned⟩
  | crash =>
    have hperm : (d.orphans ++ d.watched.toList).Perm d.slots := List.perm_append_comm
    have hd' : Numbered { d with watched := none, orphans := d.orphans ++ d.watched.toList } :=
      hd.setSlots (w := none) ((hperm.map _).nodup_iff.2 hd.slots) fun x hx => hperm.mem_iff.1 hx
    refine summon ?_ hd.senders
    exact ⟨hd'.slots, hd'.launched, hd'.couriers, hd'.sent, hd'.places, hempty, hd'.inboxes,
      hd'.summoned⟩
  | @receive _ x _ b _ hx _ hb =>
    have hmem := (mem_of_slot? hx).1
    obtain ⟨hc, hn⟩ := lt_of_take? (hd.inboxes x hmem) hb
    exact (hd.setSlot hmem (y := { x with inbox := b }) rfl hc).summon hn
  | @ends _ x hx =>
    have hmem := (mem_of_slot? hx).1
    have hk := hd.inboxes x hmem
    exact (hd.setSlot hmem (y := { x with isAlive := false }) rfl hk).summon hk
  | @leaves _ x hx =>
    have hmem := (mem_of_slot? hx).1
    have hsub : (d.watched.toList ++ d.orphans.filter (·.number != x.number)).Sublist d.slots :=
      (List.Sublist.refl _).append List.filter_sublist
    refine summon ?_ (hd.inboxes _ hmem)
    exact hd.setSlots (hd.slots.sublist (hsub.map _)) fun x hx => hsub.subset hx
  | dismiss => exact hd.dismiss _
  | put _ _ hb hp =>
    have hw := hd.lt_of_drawer hb
    refine (hd.setDesk hb fun k hk => hw k ?_).dismiss _
    rw [(Mailbox.senders_of_post? hp).1] at hk
    exact List.mem_append_right _ hk
  | wait _ hc hb =>
    have hw := hd.lt_of_drawer hb
    refine hd.setDesk hb fun k hk => ?_
    rw [Mailbox.senders_join, List.mem_append, List.mem_singleton] at hk
    rcases hk with hk | rfl
    · exact hw k hk
    · exact hd.sent _ (List.mem_of_find?_eq_some hc)

end Depot.Numbered

end Supervisor

end MediaPaths
