import Mathlib.Data.List.Nodup
import MediaPaths.Registry.Lock

/-!
# Who has to do with the lock

A party has to do with the lock while it holds it or waits for it. What one party does leaves the others in
line, and nobody loses the lock but by giving it back.
-/

namespace MediaPaths

namespace Lock

variable {l l' : Lock} {p q : Party}

/-- Who holds the lock or waits for it. -/
def parties (l : Lock) : List Party := l.holder.toList ++ l.waiting

theorem isHeldBy_iff : l.isHeldBy p = true ↔ l.holder = some p := by simp [isHeldBy]

/-- Who holds the lock has to do with it. -/
theorem mem_parties_of_isHeldBy (h : l.isHeldBy p = true) : p ∈ l.parties := by
  rw [parties, isHeldBy_iff.1 h]
  exact List.mem_cons_self ..

/-- Only the holder leaves when the lock is given back. -/
theorem parties_release (l : Lock) : l.release.parties = l.waiting := by
  cases hw : l.waiting with
  | nil => simp [parties, release, hw]
  | cons p ps => simp [parties, release, hw]

/-- Who asks for the lock has to do with it from then on. -/
theorem parties_request (l : Lock) (p : Party) : (l.request p).parties.Perm (p :: l.parties) := by
  unfold request
  split
  · rename_i hf
    have hnone : l.holder = none := by simpa [isFree] using hf
    simp [parties, hnone]
  · show (l.holder.toList ++ (l.waiting ++ [p])).Perm _
    rw [← List.append_assoc]
    exact List.perm_append_singleton p _

/-- No owner has to do with the lock twice. Of those who operate the server, any number may. -/
def IsOrderly (l : Lock) : Prop := ∀ j, l.parties.count (.owner j) ≤ 1

/-- An owner may ask if it has nothing to do with the lock yet; those who operate the server may always ask. -/
theorem isOrderly_request (hl : l.IsOrderly) (hp : p ∉ l.parties ∨ p = .operator) :
    (l.request p).IsOrderly := by
  intro j
  rw [(parties_request l p).count_eq, List.count_cons]
  split
  · rename_i hj
    obtain rfl : p = .owner j := by simpa using hj
    have hnone : l.parties.count (.owner j) = 0 := List.count_eq_zero.2 (hp.resolve_right nofun)
    omega
  · exact hl j

/-- Whoever waits for a lock that is fair waits for its holder. -/
theorem exists_holder (hl : l.IsFair) (hp : p ∈ l.waiting) : ∃ q, l.holder = some q := by
  cases hh : l.holder with
  | some q => exact ⟨q, rfl⟩
  | none =>
    rw [hl (by simp [isFree, hh])] at hp
    cases hp

/-! ## What one party does -/

/-- What a party does to the lock at one moment. -/
inductive Steps (p : Party) (l : Lock) : Lock → Prop where
  /-- Nothing. -/
  | keep : Steps p l l
  /-- It asks for the lock. -/
  | request (hp : p ∉ l.parties) : Steps p l (l.request p)
  /-- It waits no longer. -/
  | leave (hp : p ∈ l.waiting) : Steps p l (l.leave p)
  /-- It gives the lock back. -/
  | release (hp : l.isHeldBy p = true) : Steps p l l.release

namespace Steps

/-- The others hold the lock or wait for it as before. -/
theorem mem_iff (hs : Steps p l l') (hq : q ≠ p) : q ∈ l'.parties ↔ q ∈ l.parties := by
  cases hs with
  | keep => exact Iff.rfl
  | request => rw [(parties_request l p).mem_iff, List.mem_cons, or_iff_right hq]
  | leave =>
    show q ∈ l.holder.toList ++ l.waiting.erase p ↔ _
    rw [List.mem_append, List.mem_erase_of_ne hq, parties, List.mem_append]
  | release hp =>
    rw [parties_release, parties, isHeldBy_iff.1 hp]
    simp [hq]

/-- Nobody takes the lock from another. -/
theorem isHeldBy (hs : Steps p l l') (hq : q ≠ p) (hl : l.isHeldBy q = true) :
    l'.isHeldBy q = true := by
  cases hs with
  | keep | leave => exact hl
  | request =>
    rw [isHeldBy_iff] at hl ⊢
    rw [Lock.request, if_neg (by simp [isFree, hl])]
    exact hl
  | release hp =>
    rw [isHeldBy_iff] at hl hp
    exact absurd (Option.some.inj (hl.symm.trans hp)) hq

/-- Steps of one party leave nobody in line twice. -/
theorem nodup (hs : Steps p l l') (hl : l.parties.Nodup) : l'.parties.Nodup := by
  cases hs with
  | keep => exact hl
  | request hp => exact (parties_request l p).nodup_iff.2 (List.nodup_cons.2 ⟨hp, hl⟩)
  | leave => exact hl.sublist (List.erase_sublist.append_left _)
  | release =>
    rw [parties_release]
    exact hl.sublist (List.sublist_append_right _ _)

/-- Steps of one party leave no owner in line twice. -/
theorem isOrderly (hs : Steps p l l') (hl : l.IsOrderly) : l'.IsOrderly := by
  cases hs with
  | keep => exact hl
  | request hp => exact isOrderly_request hl (.inl hp)
  | leave => exact fun j => Nat.le_trans ((List.erase_sublist.append_left _).count_le _) (hl j)
  | release =>
    intro j
    rw [parties_release]
    exact Nat.le_trans ((List.sublist_append_right _ _).count_le _) (hl j)

/-- A lock that somebody waits for is held, whatever one party does. -/
theorem isFair (hs : Steps p l l') (hl : l.IsFair) : l'.IsFair := by
  cases hs with
  | keep => exact hl
  | request => exact isFair_request l p
  | leave =>
    intro hf
    show l.waiting.erase p = []
    rw [hl hf]
    rfl
  | release => exact isFair_release l

end Steps

/-- Whoever waits no longer has nothing to do with the lock. -/
theorem not_mem_parties_leave (hl : l.parties.count p ≤ 1) (hp : p ∈ l.waiting) :
    p ∉ (l.leave p).parties := by
  have hpos := List.count_pos_iff.2 hp
  have hcount : (l.leave p).parties.count p = l.holder.toList.count p + (l.waiting.count p - 1) := by
    rw [parties, leave, List.count_append, List.count_erase_self]
  rw [parties, List.count_append] at hl
  refine List.count_eq_zero.1 ?_
  omega

/-- Whoever gives the lock back has nothing to do with it any longer. -/
theorem not_mem_parties_release (hl : l.parties.count p ≤ 1) (hp : l.isHeldBy p = true) :
    p ∉ l.release.parties := by
  rw [parties, isHeldBy_iff.1 hp, Option.toList_some, List.singleton_append, List.count_cons_self] at hl
  rw [parties_release]
  refine List.count_eq_zero.1 ?_
  omega

/-! ## Whose turn it is -/

/-- How many get the lock before a party does. -/
def place (l : Lock) (p : Party) : Nat := l.parties.idxOf p

/-- Whether the lock is given back from one moment to the next. -/
def passes (l l' : Lock) : Bool := !l.isFree && l' == l.release

/-- Whoever asks for the lock is the last in line. -/
theorem place_request (hl : l.IsFair) (hp : p ∈ l.parties) (q : Party) :
    (l.request q).place p = l.place p := by
  have hparties : (l.request q).parties = l.parties ++ [q] := by
    unfold request
    split
    · rename_i hf
      have hnone : l.holder = none := by simpa [isFree] using hf
      simp [parties, hnone, hl hf]
    · simp [parties]
  rw [place, hparties]
  exact List.idxOf_append_of_mem hp

/-- Whoever leaves the line holds nobody up. -/
theorem place_leave (hq : q ≠ p) (l : Lock) : (l.leave q).place p ≤ l.place p := by
  have herase : ∀ ps : List Party, (ps.erase q).idxOf p ≤ ps.idxOf p := by
    intro ps
    induction ps with
    | nil => exact Nat.le_refl _
    | cons x ps ih =>
      by_cases hx : x = q
      · subst hx
        rw [List.erase_cons_head, List.idxOf_cons_ne _ hq]
        exact Nat.le_succ _
      · rw [List.erase_cons_tail (by simpa using hx)]
        by_cases hxp : x = p
        · simp [hxp]
        · rw [List.idxOf_cons_ne _ hxp, List.idxOf_cons_ne _ hxp]
          exact Nat.succ_le_succ ih
  simp only [place, parties, leave]
  cases l.holder with
  | none => exact herase _
  | some h =>
    rw [Option.toList_some, List.singleton_append, List.singleton_append]
    by_cases hh : h = p
    · simp [hh]
    · rw [List.idxOf_cons_ne _ hh, List.idxOf_cons_ne _ hh]
      exact Nat.succ_le_succ (herase _)

/-- When the lock is given back, everyone in line moves on by one place. -/
theorem place_release (hp : p ∈ l.parties) (hq : l.holder = some q) (hne : q ≠ p) :
    p ∈ l.release.parties ∧ l.release.place p + 1 = l.place p := by
  have hparties : l.parties = q :: l.waiting := by rw [parties, hq]; rfl
  rw [hparties] at hp
  rw [place, place, parties_release, hparties, List.idxOf_cons_ne _ hne]
  exact ⟨(List.mem_cons.1 hp).resolve_left (Ne.symm hne), rfl⟩

/-- An owner in line that does not lose the lock moves on each time it is given back. -/
theorem place_add_passes {j : Nat} (hl : l.IsOrderly) (hp : .owner j ∈ l.parties)
    (hheld : l.isHeldBy (.owner j) = true → l'.isHeldBy (.owner j) = true)
    (hle : l.passes l' = false → l'.place (.owner j) ≤ l.place (.owner j)) :
    l'.place (.owner j) + (l.passes l').toNat ≤ l.place (.owner j) := by
  cases hpass : l.passes l' with
  | false => exact hle hpass
  | true =>
    obtain ⟨hfree, rfl⟩ : l.isFree = false ∧ l' = l.release := by simpa [passes] using hpass
    obtain ⟨h, hh⟩ := Option.isSome_iff_exists.1 (by simpa [isFree] using hfree)
    refine Nat.le_of_eq (place_release hp hh fun heq => ?_).2
    -- whoever holds the lock does not wait for it at the same time
    subst heq
    have hmem := mem_parties_of_isHeldBy (hheld (isHeldBy_iff.2 hh))
    exact not_mem_parties_release (hl j) (isHeldBy_iff.2 hh) hmem

/-- Nobody is overtaken: as others go on, an owner stays in line, and it moves on each time the lock is given
back. -/
theorem Steps.place {j : Nat} (hs : Steps q l l') (hq : q ≠ .owner j) (hfair : l.IsFair) (hl : l.IsOrderly)
    (hp : .owner j ∈ l.parties) :
    .owner j ∈ l'.parties ∧ l'.place (.owner j) + (l.passes l').toNat ≤ l.place (.owner j) := by
  refine ⟨(hs.mem_iff hq.symm).2 hp, place_add_passes hl hp (hs.isHeldBy hq.symm) fun hpass => ?_⟩
  cases hs with
  | keep => exact Nat.le_refl _
  | request => exact Nat.le_of_eq (place_request hfair hp q)
  | leave => exact place_leave hq l
  | release hheld =>
    rw [isHeldBy_iff] at hheld
    simp [passes, isFree, hheld] at hpass

end Lock

end MediaPaths
