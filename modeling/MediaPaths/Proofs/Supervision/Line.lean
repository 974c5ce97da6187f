import MediaPaths.Proofs.Supervision.Shipping

/-!
# Tasks in line

The tasks of a supervisor that can go on stand in line. The first one takes step after step until it has to
wait, and a task that is woken goes to the end of the line unless it stands there already. In between the
supervisor is moved by whoever operates it, by its owner and by its source, and its worker and executions
are woken because their time has come or because their owner can go on; couriers are woken by nothing but
moves.
-/

namespace MediaPaths

/-- The number of a courier. -/
def Task.courier? : Task → Option Nat
  | .courier n => some n
  | _ => none

namespace Supervisor

/-- A supervisor and the line of its tasks that can go on. -/
structure Shift where
  /-- The supervisor. -/
  supervisor : Supervisor
  /-- The tasks that can go on. -/
  line : List Task

/-- What comes to pass while tasks stand in line. -/
inductive Occasion where
  /-- The supervisor is moved by something else than its tasks. -/
  | act (m : Move)
  /-- The first task in line takes a step at some time, or leaves the line if it has to wait. -/
  | turn (now : Nat)
  /-- The worker or an execution is woken. -/
  | rouse (k : Task)
  deriving DecidableEq

/-- Whether a task takes a step by a move. -/
def Move.isTask : Move → Bool
  | .task _ _ => true
  | _ => false

/-- Goes to the end of a line, if it does not stand there already. -/
def enter {α : Type} [BEq α] (l : List α) (a : α) : List α := if l.contains a then l else l ++ [a]

/-- The couriers that stand in line. -/
def couriersIn (line : List Task) : List Nat := line.filterMap (·.courier?)

namespace Shift

/-- An effect of a move comes about. -/
def perform (x : Shift) : Effect → Shift
  | .wake k => { x with line := enter x.line k }
  | .line _ _ => x

/-- The effects of the moves so far come about. -/
def flush (x : Shift) : Shift :=
  x.supervisor.effects.foldl perform { x with supervisor := { x.supervisor with effects := [] } }

/-- What it is after an occasion, which need not be possible. -/
def after (x : Shift) : Occasion → Option Shift
  | .act m => if m.isTask then none else (x.supervisor.move m).map fun s => flush ⟨s, x.line⟩
  | .turn now =>
    match x.line with
    | [] => none
    | k :: rest =>
      match x.supervisor.step now k with
      | some s => some (flush ⟨s, x.line⟩)
      | none => some ⟨x.supervisor, rest⟩
  | .rouse k => if k.courier?.isSome then none else some { x with line := enter x.line k }

/-- What it is after some occasions. -/
def run (x : Shift) (os : List Occasion) : Option Shift := os.foldlM after x

theorem run_concat {x z : Shift} {os : List Occasion} {o : Occasion} :
    x.run (os ++ [o]) = some z ↔ ∃ y, x.run os = some y ∧ y.after o = some z := by
  simp [run, List.foldlM_append, Option.bind_eq_some_iff]

/-- What is told of an occasion between two moments. -/
def tidings (x : Shift) (o : Occasion) (y : Shift) : List Tiding :=
  match o with
  | .act m => x.supervisor.tidings m y.supervisor
  | .turn now => x.line.head?.elim [] fun k => x.supervisor.tidings (.task now k) y.supervisor
  | .rouse _ => []

/-- What is told of some occasions. -/
def tale (x : Shift) : List Occasion → List Tiding
  | [] => []
  | o :: os =>
    match x.after o with
    | some y => x.tidings o y ++ y.tale os
    | none => []

theorem tale_concat {x y z : Shift} {os : List Occasion} {o : Occasion} (hy : x.run os = some y)
    (hz : y.after o = some z) : x.tale (os ++ [o]) = x.tale os ++ y.tidings o z := by
  induction os generalizing x with
  | nil =>
    cases hy
    simp [tale, hz]
  | cons p os ih =>
    obtain ⟨v, hv, hy⟩ := Option.bind_eq_some_iff.1 hy
    simp only [List.cons_append, tale, hv]
    rw [ih hy, List.append_assoc]

end Shift

variable {s t : Supervisor} {m : Move} {x : Shift} {line : List Task} {q : List Nat} {now n : Nat}

/-! ## Lines -/

section

variable {α : Type} [BEq α] [LawfulBEq α] {l : List α} {a b : α}

theorem mem_enter : b ∈ enter l a ↔ b ∈ l ∨ b = a := by
  unfold enter
  split
  · rename_i ha
    refine ⟨.inl, fun h => h.elim id ?_⟩
    rintro rfl
    exact List.contains_iff_mem.1 ha
  · simp

theorem nodup_enter (hl : l.Nodup) (a : α) : (enter l a).Nodup := by
  unfold enter
  split
  · exact hl
  · rename_i ha
    refine hl.append (List.nodup_singleton a) ?_
    rw [List.disjoint_singleton]
    exact fun h => ha (List.contains_iff_mem.2 h)

omit [LawfulBEq α] in
theorem prefix_enter (l : List α) (a : α) : l <+: enter l a := by
  unfold enter
  split
  · exact List.prefix_refl l
  · exact List.prefix_append l [a]

omit [LawfulBEq α] in
theorem prefix_enters (l as : List α) : l <+: as.foldl enter l := by
  induction as generalizing l with
  | nil => exact List.prefix_refl l
  | cons a as ih => exact (prefix_enter l a).trans (ih _)

theorem nodup_enters (hl : l.Nodup) (as : List α) : (as.foldl enter l).Nodup := by
  induction as generalizing l with
  | nil => exact hl
  | cons a as ih => exact ih (nodup_enter hl a)

theorem mem_enters {as : List α} : b ∈ as.foldl enter l ↔ b ∈ l ∨ b ∈ as := by
  induction as generalizing l with
  | nil => simp
  | cons a as ih => rw [List.foldl_cons, ih, mem_enter, List.mem_cons, or_assoc]

end

theorem mem_couriersIn : n ∈ couriersIn line ↔ .courier n ∈ line := by
  unfold couriersIn
  rw [List.mem_filterMap]
  constructor
  · rintro ⟨k, hk, hn⟩
    cases k with
    | courier i => cases hn; exact hk
    | worker | execution => cases hn
  · exact fun h => ⟨_, h, rfl⟩

theorem couriersIn_enter (line : List Task) (k : Task) :
    couriersIn (enter line k) = k.courier?.toList.foldl enter (couriersIn line) := by
  cases k with
  | courier i =>
    show _ = enter (couriersIn line) i
    by_cases hi : .courier i ∈ line
    · have hc : i ∈ couriersIn line := mem_couriersIn.2 hi
      rw [enter, if_pos (List.contains_iff_mem.2 hi), enter, if_pos (List.contains_iff_mem.2 hc)]
    · have hc : i ∉ couriersIn line := fun h => hi (mem_couriersIn.1 h)
      rw [enter, if_neg (mt List.contains_iff_mem.1 hi), enter, if_neg (mt List.contains_iff_mem.1 hc)]
      exact List.filterMap_append
  | worker | execution =>
    simp only [enter]
    split <;> simp [couriersIn, Task.courier?]

theorem nodup_couriersIn (hl : line.Nodup) : (couriersIn line).Nodup := by
  refine hl.filterMap fun k k' i hk hk' => ?_
  cases k <;> cases k' <;> simp_all [Task.courier?]

/-! ## Effects -/

theorem performs (es : List Effect) (x : Shift) :
    (es.foldl Shift.perform x).supervisor = x.supervisor ∧
      couriersIn (es.foldl Shift.perform x).line =
        (es.filterMap (·.courier?)).foldl enter (couriersIn x.line) := by
  induction es generalizing x with
  | nil => exact ⟨rfl, rfl⟩
  | cons e es ih =>
    obtain ⟨hs, hl⟩ := ih (x.perform e)
    rw [List.foldl_cons]
    cases e with
    | line => exact ⟨hs, hl⟩
    | wake k =>
      refine ⟨hs, ?_⟩
      rw [hl]
      show _ = List.foldl enter (couriersIn x.line) ((Effect.wake k :: es).filterMap (·.courier?))
      rw [show (x.perform (.wake k)).line = enter x.line k from rfl, couriersIn_enter]
      cases k <;> rfl

theorem supervisor_flush (s : Supervisor) (line : List Task) :
    (Shift.flush ⟨s, line⟩).supervisor = { s with effects := [] } := (performs _ _).1

theorem couriersIn_flush (s : Supervisor) (line : List Task) :
    couriersIn (Shift.flush ⟨s, line⟩).line = s.depot.summoned.foldl enter (couriersIn line) :=
  (performs _ _).2

/-! ## Couriers that have to wait -/

/-- A courier for whom there is no room waits only for those who are not being stopped. -/
theorem not_stopped_of_post? {c : Courier} {stopped alive : Bool} {b : Mailbox Entry}
    (hp : b.post? c.number c.entry = none) (h : ¬ (s.isPointless c stopped b || !alive) = true) :
    ¬ (stopped || !alive) = true := by
  have hroom : b.hasRoom c.number = false := by simpa [Mailbox.post?] using hp
  simpa [isPointless, hroom] using h

/-- A courier takes no step only if it has brought its change or given it up, or if it waits for room. -/
theorem waits_of_stepCourier (h : s.stepCourier n = none) {c : Courier}
    (hc : s.depot.couriers.find? (·.number == n) = some c) :
    ∃ b, s.depot.desk c.execution = some b ∧ n ∈ b.senders := by
  have hcour : s.courier? n = some c := hc
  have hnum : c.number = n := by simpa using List.find?_some hc
  simp only [stepCourier, hcour] at h
  cases hplace : c.execution with
  | none =>
    simp only [hplace] at h
    unfold deliver at h
    split at h
    · cases h
    · rename_i hopen
      split at h
      · cases h
      · rename_i hp
        refine ⟨s.reloadBox, if_neg (not_stopped_of_post? hp hopen), ?_⟩
        split at h
        · rename_i ha
          exact hnum ▸ Mailbox.awaits_iff.1 ha
        · cases h
  | some i =>
    simp only [hplace] at h
    cases he : s.execution? i with
    | none => simp [he] at h
    | some e =>
      simp only [he] at h
      have hslot : s.depot.slot? i = some e.slot := by rw [slot?_depot, he, Option.map_some]
      unfold forward at h
      split at h
      · cases h
      · rename_i hopen
        split at h
        · cases h
        · rename_i hp
          refine ⟨e.inbox, ?_, ?_⟩
          · rw [Depot.desk, hslot]
            exact if_neg (not_stopped_of_post? hp hopen)
          · split at h
            · rename_i ha
              exact hnum ▸ Mailbox.awaits_iff.1 ha
            · cases h

end Supervisor

end MediaPaths
