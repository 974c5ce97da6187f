import Mathlib.Data.List.TakeWhile
import MediaPaths.Proofs.Supervision.Line

/-!
# Routes of changes

A tale is what is told of a supervisor one after another. Changes of the settings take one route to the
worker and one to each execution. Whatever was sent on a route has been taken out at its end, lies in the
mailbox there, or is carried by a courier; and the couriers of a route come in the order in which they were
sent, first those who wait at the mailbox and then those who have yet to step up to it.
-/

namespace MediaPaths

namespace Supervisor

/-! ## Tales -/

namespace Tiding

/-- The settings that are handed over. -/
def handed? : Tiding → Option Entry
  | .handed entry => some entry
  | _ => none

/-- The settings that the worker stores. -/
def stored? : Tiding → Option Entry
  | .stored entry => some entry
  | _ => none

/-- The settings that the execution of a number takes up. -/
def received? (n : Nat) : Tiding → Option Entry
  | .received i entry => if i = n then some entry else none
  | _ => none

/-- The execution of which it tells. -/
def execution? : Tiding → Option Nat
  | .launched n _ | .received n _ | .ended n => some n
  | .handed _ | .stored _ => none

end Tiding

variable {h h' told : List Tiding} {n k : Nat} {e : Entry}

/-- The settings that were handed over, in this order. -/
def handedIn (h : List Tiding) : List Entry := h.filterMap (·.handed?)

/-- The settings that the worker stored, in this order. -/
def storedIn (h : List Tiding) : List Entry := h.filterMap (·.stored?)

/-- The settings that the execution of a number took up, in this order. -/
def receivedIn (n : Nat) (h : List Tiding) : List Entry := h.filterMap (·.received? n)

/-- What is told after the execution of a number was launched. -/
def since (n : Nat) : List Tiding → List Tiding
  | [] => []
  | .launched i _ :: h => if i = n then h else since n h
  | _ :: h => since n h

/-- What is told after the execution of a number was launched and before it has ended. -/
def lifetime (n : Nat) (h : List Tiding) : List Tiding := (since n h).takeWhile (· != .ended n)

@[simp] theorem handedIn_append (h h' : List Tiding) :
    handedIn (h ++ h') = handedIn h ++ handedIn h' := List.filterMap_append

@[simp] theorem storedIn_append (h h' : List Tiding) :
    storedIn (h ++ h') = storedIn h ++ storedIn h' := List.filterMap_append

@[simp] theorem receivedIn_append (n : Nat) (h h' : List Tiding) :
    receivedIn n (h ++ h') = receivedIn n h ++ receivedIn n h' := List.filterMap_append

theorem since_append (hl : .launched n e ∈ h) (told : List Tiding) :
    since n (h ++ told) = since n h ++ told := by
  induction h with
  | nil => cases hl
  | cons t h ih =>
    cases t with
    | launched i e' =>
      by_cases hi : i = n
      · simp [since, hi]
      · have htail : .launched n e ∈ h := by
          rcases List.mem_cons.1 hl with heq | htail
          · cases heq
            exact absurd rfl hi
          · exact htail
        simpa [since, hi] using ih htail
    | handed | stored | received | ended =>
      have htail : .launched n e ∈ h := by simpa using hl
      exact ih htail

theorem since_launched (hl : ∀ e, .launched n e ∉ h) (e : Entry) :
    since n (h ++ [.launched n e]) = [] := by
  induction h with
  | nil => simp [since]
  | cons t h ih =>
    have htail := ih fun e he => hl e (List.mem_cons_of_mem _ he)
    cases t with
    | launched i e' =>
      have hi : i ≠ n := by
        rintro rfl
        exact hl e' (List.mem_cons_self ..)
      simpa [since, hi] using htail
    | handed | stored | received | ended => exact htail

theorem mem_of_since {t : Tiding} (ht : t ∈ since n h) : t ∈ h := by
  induction h with
  | nil => exact ht
  | cons u h ih =>
    unfold since at ht
    split at ht
    · cases ht
    · rename_i heq
      cases heq
      split at ht
      · exact List.mem_cons_of_mem _ ht
      · exact List.mem_cons_of_mem _ (ih ht)
    · rename_i heq
      cases heq
      exact List.mem_cons_of_mem _ (ih ht)

/-- As long as an execution has not ended, its lifetime goes on. -/
theorem lifetime_eq (ha : .ended n ∉ h) : lifetime n h = since n h := by
  refine List.takeWhile_eq_self_iff.2 fun t ht => ?_
  refine bne_iff_ne.2 ?_
  rintro rfl
  exact ha (mem_of_since ht)

/-- What was told of a lifetime stays so. -/
theorem lifetime_le (hl : .launched n e ∈ h) (told : List Tiding) :
    lifetime n h <+: lifetime n (h ++ told) := by
  unfold lifetime
  rw [since_append hl, List.takeWhile_append]
  split
  · exact (List.takeWhile_prefix _).trans (List.prefix_append _ _)
  · exact List.prefix_refl _

theorem storedIn_mono (hp : h <+: h') : storedIn h <+: storedIn h' := hp.filterMap _

theorem receivedIn_eq_nil (hr : ∀ e, .received n e ∉ h) : receivedIn n h = [] := by
  refine List.filterMap_eq_nil_iff.2 fun t ht => ?_
  cases t with
  | received i e =>
    refine if_neg ?_
    rintro rfl
    exact hr e ht
  | _ => rfl

/-! ## Routes -/

variable {cs : List Courier} {c : Courier} {q q' : List Nat} {b b' : Mailbox Entry}
  {sent taken : List Entry}

/-- What holds of a route: its couriers, those that stand in line, the mailbox at its end, what was sent
and what was taken out. -/
structure Route (cs : List Courier) (q : List Nat) (b : Mailbox Entry) (sent taken : List Entry) :
    Prop where
  /-- The couriers who wait are followed by those who have yet to step up to the mailbox; these are in
  line. -/
  line : ∃ fresh, cs.map (·.number) = b.senders ++ fresh ∧ fresh.Sublist q
  /-- There is room in the mailbox if it was promised to someone. -/
  promise : b.content.isSome → b.promised = none
  /-- Nothing is lost, and the order is kept. -/
  entries : sent = taken ++ b.content.toList ++ cs.map (·.entry)

theorem head_of_sublist {fresh : List Nat} (hs : fresh.Sublist (n :: q)) (hn : n ∈ fresh)
    (hq : (n :: q).Nodup) : ∃ rest, fresh = n :: rest := by
  cases hs with
  | cons _ hs => exact absurd (hs.subset hn) (List.nodup_cons.1 hq).1
  | cons_cons _ _ => exact ⟨_, rfl⟩

namespace Route

theorem nil (q : List Nat) : Route [] q {} [] [] :=
  ⟨⟨[], rfl, List.nil_sublist q⟩, nofun, rfl⟩

theorem mono (hr : Route cs q b sent taken) (hq : q.Sublist q') : Route cs q' b sent taken := by
  obtain ⟨fresh, hcs, hf⟩ := hr.line
  exact ⟨⟨fresh, hcs, hf.trans hq⟩, hr.promise, hr.entries⟩

/-- One more courier sets out. -/
theorem dispatch (hr : Route cs q b sent taken) (c : Courier) (hq : (q ++ [c.number]).Sublist q') :
    Route (cs ++ [c]) q' b (sent ++ [c.entry]) taken := by
  obtain ⟨fresh, hcs, hf⟩ := hr.line
  refine ⟨⟨fresh ++ [c.number], ?_, (hf.append_right _).trans hq⟩, hr.promise, ?_⟩
  · simp [hcs]
  · simp [hr.entries]

/-- What lies in the mailbox is taken out. -/
theorem take {entry : Entry} {next : Option Nat} (hr : Route cs q b sent taken)
    (hb : b.take? = some (entry, b', next)) : Route cs q b' sent (taken ++ [entry]) := by
  obtain ⟨fresh, hcs, hf⟩ := hr.line
  obtain ⟨hc, hc'⟩ := Mailbox.content_of_take? hb
  have hp : b.promised = none := hr.promise (by rw [hc]; rfl)
  have hsenders : b'.senders = b.senders := by
    rw [(Mailbox.senders_of_take? hb).1, Mailbox.senders, hp]
    rfl
  refine ⟨⟨fresh, hsenders ▸ hcs, hf⟩, fun h => by simp [hc'] at h, ?_⟩
  simp [hr.entries, hc, hc']

/-- A courier that has yet to step up to the mailbox, and is the first in line, is the first of those. -/
theorem fresh_of_head {fresh : List Nat} (hcs : cs.map (·.number) = b.senders ++ fresh)
    (hf : fresh.Sublist (c.number :: q)) (hq : (c.number :: q).Nodup) (hc : c ∈ cs)
    (hb : c.number ∉ b.senders) : ∃ rest, fresh = c.number :: rest := by
  have hmem : c.number ∈ b.senders ++ fresh := by
    rw [← hcs]
    exact List.mem_map_of_mem hc
  exact head_of_sublist hf ((List.mem_append.1 hmem).resolve_left hb) hq

/-- The first courier in line puts what it brings in the mailbox: it is the first of all on its way. -/
theorem put (hr : Route cs (c.number :: q) b sent taken) (hq : (c.number :: q).Nodup)
    (hn : (cs.map (·.number)).Nodup) (hc : c ∈ cs) (hp : b.post? c.number c.entry = some b') :
    Route (cs.filter (·.number != c.number)) (c.number :: q) b' sent taken := by
  obtain ⟨fresh, hcs, hf⟩ := hr.line
  obtain ⟨hempty, hfull⟩ := Mailbox.content_of_post? hp
  obtain ⟨hs', hs⟩ := Mailbox.senders_of_post? hp
  -- there was room, so it either was promised to the courier, which is the first of those who wait, or
  -- nobody waits, and the courier is the first of those who have yet to step up
  obtain ⟨rest, hnum, hrest⟩ : ∃ rest, cs.map (·.number) = c.number :: (b.waiting ++ rest) ∧
      rest.Sublist (c.number :: q) := by
    rcases hs with hs | hs
    · have hwait : b.waiting = [] := (List.append_eq_nil_iff.1 hs).2
      obtain ⟨rest, rfl⟩ := fresh_of_head hcs hf hq hc (by simp [hs])
      exact ⟨rest, by simp [hcs, hs, hwait], (List.sublist_cons_self _ _).trans hf⟩
    · exact ⟨fresh, by simp [hcs, hs], hf⟩
  cases cs with
  | nil => cases hc
  | cons c' cs =>
    obtain ⟨hnum', hothers⟩ := List.cons.inj hnum
    obtain rfl : c' = c := List.inj_on_of_nodup_map hn (List.mem_cons_self ..) hc hnum'
    have hfilter : (c' :: cs).filter (·.number != c'.number) = cs := by
      rw [List.filter_cons_of_neg (by simp), List.filter_eq_self]
      intro d hd
      exact bne_iff_ne.2 fun heq => (List.nodup_cons.1 hn).1 (List.mem_map.2 ⟨d, hd, heq⟩)
    rw [hfilter]
    refine ⟨⟨rest, by rw [hothers, hs'], hrest⟩, fun _ => Mailbox.promised_of_post? hp, ?_⟩
    simp [hr.entries, hempty, hfull]

/-- The first courier in line begins to wait: it comes after all who wait. -/
theorem wait (hr : Route cs (c.number :: q) b sent taken) (hq : (c.number :: q).Nodup) (hc : c ∈ cs)
    (hb : c.number ∉ b.senders) : Route cs (c.number :: q) (b.join c.number) sent taken := by
  obtain ⟨fresh, hcs, hf⟩ := hr.line
  obtain ⟨rest, rfl⟩ := fresh_of_head hcs hf hq hc hb
  exact ⟨⟨rest, by simp [hcs], (List.sublist_cons_self _ _).trans hf⟩, hr.promise, hr.entries⟩

/-- A courier leaves the line that has nothing left to do there. -/
theorem park (hr : Route cs (n :: q) b sent taken) (hn : (cs.map (·.number)).Nodup)
    (hb : ∀ c ∈ cs, c.number = n → n ∈ b.senders) : Route cs q b sent taken := by
  obtain ⟨fresh, hcs, hf⟩ := hr.line
  refine ⟨⟨fresh, hcs, ?_⟩, hr.promise, hr.entries⟩
  -- it is none of those who have yet to step up, since it waits already
  cases hf with
  | cons _ hf => exact hf
  | @cons_cons fresh _ _ hf =>
    obtain ⟨c, hc, hnum⟩ : ∃ c ∈ cs, c.number = n := by
      have hmem : n ∈ cs.map (·.number) := by simp [hcs]
      obtain ⟨c, hc, hnum⟩ := List.mem_map.1 hmem
      exact ⟨c, hc, hnum⟩
    rw [hcs] at hn
    exact absurd (List.mem_cons_self ..) (List.disjoint_of_nodup_append hn (hb c hc hnum))

/-- What was taken out at the end of a route is the beginning of what was sent on it. -/
theorem taken_le_sent (hr : Route cs q b sent taken) : taken <+: sent := by
  rw [hr.entries, List.append_assoc]
  exact List.prefix_append _ _

end Route

end Supervisor

end MediaPaths
