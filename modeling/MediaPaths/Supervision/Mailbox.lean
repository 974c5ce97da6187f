/-!
# Mailboxes

A mailbox has room for one thing. Senders that find it full wait in line; whenever it is emptied, the
room is promised to the first of them, and nobody else can take it.
-/

namespace MediaPaths

/-- A mailbox; senders are known by numbers. -/
structure Mailbox (α : Type) where
  /-- What lies in it. -/
  content : Option α := none
  /-- The sender to whom the room is promised. -/
  promised : Option Nat := none
  /-- The other senders who wait, in the order in which they came. -/
  waiting : List Nat := []

namespace Mailbox

variable {α : Type}

instance : Inhabited (Mailbox α) := ⟨{}⟩

/-- Whether a sender may put something in. -/
def hasRoom (b : Mailbox α) (sender : Nat) : Bool :=
  b.content.isNone &&
    match b.promised with
    | some p => p == sender
    | none => b.waiting.isEmpty

/-- Puts something in if there is room. -/
def post? (b : Mailbox α) (sender : Nat) (a : α) : Option (Mailbox α) :=
  if b.hasRoom sender then some { b with content := some a, promised := none } else none

/-- Whether a sender waits. -/
def awaits (b : Mailbox α) (sender : Nat) : Bool :=
  b.promised == some sender || b.waiting.contains sender

/-- Has a sender wait at the end of the line. -/
def join (b : Mailbox α) (sender : Nat) : Mailbox α := { b with waiting := b.waiting ++ [sender] }

/-- Promises the room to the first who waits. -/
def promise (b : Mailbox α) : Mailbox α :=
  { b with promised := b.waiting.head?, waiting := b.waiting.tail }

/-- Takes out what lies in it: that, the mailbox afterwards and the sender who can go on. -/
def take? (b : Mailbox α) : Option (α × Mailbox α × Option Nat) :=
  b.content.map fun a =>
    let b := { b with content := none }.promise
    (a, b, b.promised)

/-- Has a sender wait no longer: the mailbox afterwards and the sender who can go on. -/
def leave (b : Mailbox α) (sender : Nat) : Mailbox α × Option Nat :=
  if b.promised == some sender then
    let b := b.promise
    (b, b.promised)
  else ({ b with waiting := b.waiting.erase sender }, none)

/-- All who wait. -/
def senders (b : Mailbox α) : List Nat := b.promised.toList ++ b.waiting

theorem content_of_post? {b c : Mailbox α} {i : Nat} {a : α} (h : b.post? i a = some c) :
    b.content = none ∧ c.content = some a := by
  unfold post? at h
  split at h
  · rename_i hr
    cases h
    simp only [hasRoom, Bool.and_eq_true, Option.isNone_iff_eq_none] at hr
    exact ⟨hr.1, rfl⟩
  · cases h

theorem content_of_take? {b c : Mailbox α} {a : α} {i : Option Nat} (h : b.take? = some (a, c, i)) :
    b.content = some a ∧ c.content = none := by
  unfold take? at h
  cases hb : b.content with
  | none => simp [hb] at h
  | some x =>
    simp only [hb, Option.map_some, Option.some.injEq, Prod.mk.injEq] at h
    obtain ⟨rfl, rfl, _⟩ := h
    exact ⟨rfl, rfl⟩

/-- Nobody takes the place of those who wait when something is taken out. -/
theorem senders_of_take? {b c : Mailbox α} {a : α} {i : Option Nat}
    (h : b.take? = some (a, c, i)) : c.senders = b.waiting ∧ i = b.waiting.head? := by
  obtain ⟨x, -, hx⟩ := Option.map_eq_some_iff.1 h
  cases hx
  refine ⟨?_, rfl⟩
  cases b.waiting <;> simp [senders, promise]

/-- Whoever puts something in waits no longer. -/
theorem senders_of_post? {b c : Mailbox α} {i : Nat} {a : α} (h : b.post? i a = some c) :
    c.senders = b.waiting ∧ (b.senders = [] ∨ b.senders = i :: b.waiting) := by
  unfold post? at h
  split at h
  · rename_i hr
    cases h
    refine ⟨rfl, ?_⟩
    have hroom := (Bool.and_eq_true_iff.1 hr).2
    cases hp : b.promised with
    | none =>
      rw [hp] at hroom
      have hw : b.waiting = [] := by simpa using hroom
      exact .inl (by simp [senders, hp, hw])
    | some p =>
      rw [hp] at hroom
      obtain rfl : p = i := by simpa using hroom
      exact .inr (by simp [senders, hp])
  · cases h

theorem promised_of_post? {b c : Mailbox α} {i : Nat} {a : α} (h : b.post? i a = some c) :
    c.promised = none := by
  unfold post? at h
  split at h <;> cases h
  rfl

@[simp] theorem senders_join (b : Mailbox α) (i : Nat) : (b.join i).senders = b.senders ++ [i] := by
  simp [senders, join]

theorem awaits_iff {b : Mailbox α} {i : Nat} : b.awaits i = true ↔ i ∈ b.senders := by
  cases hp : b.promised with
  | none => simp [awaits, senders, hp]
  | some p =>
    simp only [awaits, senders, hp, Bool.or_eq_true, beq_iff_eq, Option.some.injEq,
      List.contains_iff_mem, Option.toList_some, List.cons_append, List.nil_append, List.mem_cons]
    rw [@eq_comm Nat p i]

end Mailbox

end MediaPaths
