import Mathlib.Data.String.Basic
import MediaPaths.Proofs.Json.Reading

/-!
# Members in order

The members of an object that has been read stand in the order of their names, each name once. Putting some members on
top of others keeps that order, and a name then has the value that the upper ones give it, or else that of the lower.
-/

namespace MediaPaths.Json

namespace Members

/-- The members stand in the order of their names, and no two have the same name. -/
def InOrder (ms : Members) : Prop := ms.Pairwise (·.1 < ·.1)

variable {base top ms : Members} {j k name : String} {v w : Value}

theorem get?_cons : get? ((j, w) :: ms) name = if name = j then some w else ms.get? name := by
  by_cases h : name = j
  · simp [get?, h]
  · simp [get?, h, Ne.symm h]

theorem get?_eq_none (h : ∀ m ∈ ms, m.1 ≠ name) : ms.get? name = none := by
  simpa [get?] using fun a b hab => h (a, b) hab

theorem mem_insert {m : String × Value} (h : m ∈ insert k v ms) : m = (k, v) ∨ m ∈ ms := by
  induction ms with
  | nil => exact .inl (List.mem_singleton.1 h)
  | cons m' rest ih =>
    obtain ⟨j, w⟩ := m'
    unfold insert at h
    split at h
    · exact List.mem_cons.1 h
    · split at h
      · exact (List.mem_cons.1 h).imp_right (List.mem_cons_of_mem _)
      · rcases List.mem_cons.1 h with rfl | h
        · exact .inr (List.mem_cons_self ..)
        · exact (ih h).imp_right (List.mem_cons_of_mem _)

theorem InOrder.insert (h : ms.InOrder) (k : String) (v : Value) : (ms.insert k v).InOrder := by
  induction ms with
  | nil => exact List.pairwise_singleton _ _
  | cons m rest ih =>
    obtain ⟨j, w⟩ := m
    obtain ⟨hj, hrest⟩ := List.pairwise_cons.1 h
    unfold Members.insert
    split
    · rename_i hlt
      refine List.pairwise_cons.2 ⟨fun m hm => ?_, h⟩
      rcases List.mem_cons.1 hm with rfl | hm
      · exact hlt
      · exact lt_trans hlt (hj m hm)
    · split
      · rename_i heq
        obtain rfl : k = j := by simpa using heq
        exact List.pairwise_cons.2 ⟨hj, hrest⟩
      · rename_i hle hne
        refine List.pairwise_cons.2 ⟨fun m hm => ?_, ih hrest⟩
        rcases mem_insert hm with rfl | hm
        · exact lt_of_le_of_ne (not_lt.1 hle) (Ne.symm (by simpa using hne))
        · exact hj m hm

theorem InOrder.overlay (h : base.InOrder) (top : Members) : (base.overlay top).InOrder := by
  unfold Members.overlay
  induction top generalizing base with
  | nil => exact h
  | cons m top ih => exact ih (h.insert m.1 m.2)

/-- What the upper members give a name, or else the lower ones. -/
theorem get?_overlay (htop : top.InOrder) (base : Members) (name : String) :
    (base.overlay top).get? name = (top.get? name).or (base.get? name) := by
  induction top generalizing base with
  | nil => rfl
  | cons m top ih =>
    obtain ⟨j, w⟩ := m
    obtain ⟨hj, hrest⟩ := List.pairwise_cons.1 htop
    have hstep : base.overlay ((j, w) :: top) = (base.insert j w).overlay top := rfl
    rw [hstep, ih hrest, get?_insert, get?_cons]
    split
    · rename_i hname
      rw [get?_eq_none fun m hm => hname ▸ (hj m hm).ne']
      rfl
    · rfl

end Members

/-! ## What is read -/

variable {σ : Type} {member : String → σ → List Char → Result σ} {P : σ → Prop}

theorem readMembersFrom_keeps (hmember : ∀ name s cs s' rest, member name s cs = .ok (s', rest) → P s → P s')
    (fuel : Nat) {s s' : σ} {cs rest : List Char} (h : readMembersFrom member fuel s cs = .ok (s', rest)) (hs : P s) :
    P s' := by
  induction fuel generalizing s cs with
  | zero => cases h
  | succ fuel ih =>
    unfold readMembersFrom at h
    split at h
    · split at h
      · cases h
      · split at h
        · cases h
        · rename_i s₁ r hread
          have hs₁ := hmember _ _ _ _ _ hread hs
          split at h
          · cases h
          · cases h
            exact hs₁
          · split at h
            · cases h
            · cases h
            · exact ih h hs₁
          · cases h
    · cases h

/-- What every member keeps is kept by the whole object. -/
theorem readMembers_keeps (hmember : ∀ name s cs s' rest, member name s cs = .ok (s', rest) → P s → P s')
    {s s' : σ} {cs rest : List Char} (h : readMembers member s cs = .ok (s', rest)) (hs : P s) : P s' := by
  unfold readMembers at h
  split at h
  · cases h
  · cases h
    exact hs
  · exact readMembersFrom_keeps hmember _ h hs

/-- A value has its members in order, if it is an object. -/
def Value.InOrder (v : Value) : Prop := ∀ ms : Members, v = .object ms → ms.InOrder

theorem readScalar_ne_object {cs rest : List Char} {v : Value} (h : readScalar cs = .ok (v, rest)) (ms : Members) :
    v ≠ .object ms := by
  rintro rfl
  unfold readScalar at h
  repeat' split at h
  all_goals first
    | cases h
    | obtain ⟨_, -, heq⟩ := map_eq_ok h
      cases heq

/-- The members of an object that has been read are in order. -/
theorem readValue_inOrder {levels : Nat} {cs rest : List Char} {v : Value} (h : readValue levels cs = .ok (v, rest)) :
    v.InOrder := by
  rintro ms rfl
  unfold readValue at h
  split at h
  · cases h
  · obtain ⟨_, -, heq⟩ := map_eq_ok h
    cases heq
  · cases h
  · obtain ⟨⟨ms', r⟩, hms, heq⟩ := map_eq_ok h
    cases heq
    refine readMembers_keeps (P := Members.InOrder) (fun name s cs s' rest hread hs => ?_) hms .nil
    split at hread
    · obtain ⟨_, -, heq⟩ := map_eq_ok hread
      cases heq
      exact hs.insert name _
    · cases hread
  · exact absurd rfl (readScalar_ne_object h ms)

end MediaPaths.Json
