import MediaPaths.Proofs.Regex.Layout

/-!
# Threads at a position

The threads at a position are followed until every address that can be reached there has been passed. At each that
waits for a character, or where something has matched, there is a thread then, and the threads that waited before
stay preferred.
-/

namespace MediaPaths.Regex

variable {prog : Array Inst} {p : Place} {t u : Thread} {stack : List Thread} {ts : Threads} {fuel pc : Nat}

/-! ## Following threads -/

/-- A thread at an address stays there until a character is taken. -/
def waits (prog : Array Inst) (pc : Nat) : Bool :=
  match prog[pc]? with
  | some (.char _) | some .accept => true
  | _ => false

theorem waits_of_char {cs : Unicode.CodeSet} (hp : prog[pc]? = some (.char cs)) : waits prog pc = true := by
  simp [waits, hp]

theorem waits_of_accept (hp : prog[pc]? = some .accept) : waits prog pc = true := by
  simp [waits, hp]

/-- An address has been passed. There are none behind the program. -/
def Threads.Passed (ts : Threads) (pc : Nat) : Prop := ts.seen.getD pc true = true

/-- Passes the address of a thread. -/
def Threads.pass (prog : Array Inst) (ts : Threads) (t : Thread) : Threads :=
  ⟨ts.seen.setIfInBounds t.pc true, if waits prog t.pc then t :: ts.waiting else ts.waiting⟩

/-- How many addresses have not been passed. -/
def Threads.left (ts : Threads) : Nat := ts.seen.count false

theorem follow_passed (h : ts.Passed t.pc) :
    follow prog p (fuel + 1) (t :: stack) ts = follow prog p fuel stack ts := by
  unfold Threads.Passed at h
  rw [follow, if_pos h]

theorem follow_pass (h : ¬ ts.Passed t.pc) :
    follow prog p (fuel + 1) (t :: stack) ts = follow prog p fuel (t.onwards prog p ++ stack) (ts.pass prog t) := by
  unfold Threads.Passed at h
  rw [follow, if_neg h]
  unfold Thread.onwards Threads.pass waits
  cases hp : prog[t.pc]? with
  | none => rfl
  | some inst =>
    cases inst with
    | look l => by_cases hl : l.holds p.before p.after = true <;> simp [hl]
    | char | save | jump | split | accept => rfl

theorem length_onwards (prog : Array Inst) (p : Place) (t : Thread) : (t.onwards prog p).length ≤ 2 := by
  unfold Thread.onwards
  split
  · split <;> simp
  all_goals simp

theorem passed_pass {pc : Nat} : (ts.pass prog t).Passed pc ↔ pc = t.pc ∨ ts.Passed pc := by
  unfold Threads.Passed Threads.pass
  rw [Array.getD_eq_getD_getElem?, Array.getD_eq_getD_getElem?, Array.getElem?_setIfInBounds]
  by_cases h : t.pc = pc
  · subst h
    rw [if_pos rfl]
    split <;> simp
  · simp [h, eq_comm (a := pc)]

theorem left_pass (prog : Array Inst) (h : ¬ ts.Passed t.pc) : (ts.pass prog t).left + 1 = ts.left := by
  unfold Threads.Passed at h
  have hlt : t.pc < ts.seen.size := by
    by_contra hge
    exact h (by simp [Array.getD, hge])
  have hfalse : ts.seen[t.pc] = false := by simpa [Array.getD, hlt] using h
  have hpos : 0 < ts.seen.count false := Array.count_pos_iff.2 (hfalse ▸ Array.getElem_mem hlt)
  simp only [Threads.left, Threads.pass, Array.setIfInBounds, hlt, dif_pos, Array.count_set, hfalse]
  simp
  omega

/-- What holds of the threads on the stack and of those that are done, until there are none on the stack. -/
theorem follow_induct {P : List Thread → Threads → Prop}
    (hpassed : ∀ t stack ts, ts.Passed t.pc → P (t :: stack) ts → P stack ts)
    (hpass : ∀ t stack ts, ¬ ts.Passed t.pc → P (t :: stack) ts → P (t.onwards prog p ++ stack) (ts.pass prog t))
    (hfuel : stack.length + 2 * ts.left ≤ fuel) (h : P stack ts) : P [] (follow prog p fuel stack ts) := by
  induction fuel generalizing stack ts with
  | zero =>
    obtain rfl : stack = [] := List.eq_nil_of_length_eq_zero (by omega)
    exact h
  | succ fuel ih =>
    cases stack with
    | nil => exact h
    | cons t stack =>
      rw [List.length_cons] at hfuel
      by_cases ht : ts.Passed t.pc
      · rw [follow_passed ht]
        exact ih (by omega) (hpassed _ _ _ ht h)
      · rw [follow_pass ht]
        have hleft := left_pass prog ht
        have hlength := length_onwards prog p t
        exact ih (by rw [List.length_append]; omega) (hpass _ _ _ ht h)

theorem onwards_of_pc_eq {v : Thread} (h : t.pc = v.pc) (hu : u ∈ v.onwards prog p) :
    ∃ w ∈ t.onwards prog p, w.pc = u.pc := by
  unfold Thread.onwards at hu ⊢
  rw [h]
  split at hu
  · split at hu
    · rename_i hl
      simp_all
    · cases hu
  all_goals simp_all
  rcases hu with rfl | rfl <;> simp

/-- The addresses that have been passed lead only to others that have been or are on the stack, and a thread waits
at each of them that waits. -/
structure Explored (prog : Array Inst) (p : Place) (stack : List Thread) (ts : Threads) : Prop where
  size : ts.seen.size = prog.size
  onwards : ∀ t : Thread, ts.Passed t.pc → ∀ u ∈ t.onwards prog p, ts.Passed u.pc ∨ ∃ v ∈ stack, v.pc = u.pc
  waiting : ∀ pc, ts.Passed pc → waits prog pc = true → ∃ t ∈ ts.waiting, t.pc = pc

namespace Explored

theorem none : Explored prog p [] (.none prog.size) := by
  have hout : ∀ pc, (Threads.none prog.size).Passed pc → prog[pc]? = Option.none := by
    intro pc h
    refine Array.getElem?_eq_none (Nat.le_of_not_lt fun hlt => ?_)
    simp [Threads.Passed, Threads.none, Array.getD, hlt] at h
  refine ⟨by simp [Threads.none], fun t ht u hu => ?_, fun pc hpc hw => ?_⟩
  · simp [Thread.onwards, hout _ ht] at hu
  · simp [waits, hout _ hpc] at hw

theorem skip (h : Explored prog p (t :: stack) ts) (ht : ts.Passed t.pc) : Explored prog p stack ts := by
  refine ⟨h.size, fun u hu v hv => ?_, h.waiting⟩
  rcases h.onwards u hu v hv with hpassed | ⟨w, hw, hpc⟩
  · exact .inl hpassed
  · rcases List.mem_cons.1 hw with rfl | hw
    · exact .inl (hpc ▸ ht)
    · exact .inr ⟨w, hw, hpc⟩

theorem pass (h : Explored prog p (t :: stack) ts) :
    Explored prog p (t.onwards prog p ++ stack) (ts.pass prog t) := by
  refine ⟨by simp [Threads.pass, h.size], fun u hu v hv => ?_, fun pc hpc hw => ?_⟩
  · rcases passed_pass.1 hu with heq | hu
    · obtain ⟨w, hw, hpc⟩ := onwards_of_pc_eq heq.symm hv
      exact .inr ⟨w, List.mem_append_left _ hw, hpc⟩
    · rcases h.onwards u hu v hv with hpassed | ⟨w, hw, hpc⟩
      · exact .inl (passed_pass.2 (.inr hpassed))
      · rcases List.mem_cons.1 hw with rfl | hw
        · exact .inl (passed_pass.2 (.inl hpc.symm))
        · exact .inr ⟨w, List.mem_append_right _ hw, hpc⟩
  · unfold Threads.pass
    rcases passed_pass.1 hpc with rfl | hpc
    · simp [hw]
    · obtain ⟨u, hu, rfl⟩ := h.waiting pc hpc hw
      refine ⟨u, ?_, rfl⟩
      dsimp only
      split
      · exact List.mem_cons_of_mem _ hu
      · exact hu

end Explored

/-! ## Adding a thread -/

theorem add_induct {P : List Thread → Threads → Prop}
    (hpassed : ∀ t stack ts, ts.Passed t.pc → P (t :: stack) ts → P stack ts)
    (hpass : ∀ t stack ts, ¬ ts.Passed t.pc → P (t :: stack) ts → P (t.onwards prog p ++ stack) (ts.pass prog t))
    (hsize : ts.seen.size = prog.size) (h : P [t] ts) : P [] (ts.add prog p t) := by
  have hleft : ts.left ≤ prog.size := hsize ▸ Array.count_le_size
  exact follow_induct hpassed hpass (by rw [List.length_singleton]; omega) h

theorem Explored.add (h : Explored prog p [] ts) : Explored prog p [] (ts.add prog p t) := by
  refine add_induct (fun t stack ts ht h => h.skip ht) (fun t stack ts _ h => h.pass) h.size ?_
  exact ⟨h.size, fun u hu v hv => .inl ((h.onwards u hu v hv).resolve_right (by simp)), h.waiting⟩

/-- Adding a thread passes its address. -/
theorem passed_add (hsize : ts.seen.size = prog.size) : (ts.add prog p t).Passed t.pc := by
  have h : (ts.add prog p t).Passed t.pc ∨ ∃ u ∈ ([] : List Thread), u.pc = t.pc :=
    add_induct (P := fun stack ts => ts.Passed t.pc ∨ ∃ u ∈ stack, u.pc = t.pc) ?_ ?_ hsize
      (.inr ⟨t, List.mem_singleton_self t, rfl⟩)
  · simpa using h
  · rintro u stack ts hu (h | ⟨v, hv, hpc⟩)
    · exact .inl h
    · rcases List.mem_cons.1 hv with rfl | hv
      · exact .inl (hpc ▸ hu)
      · exact .inr ⟨v, hv, hpc⟩
  · rintro u stack ts - (h | ⟨v, hv, hpc⟩)
    · exact .inl (passed_pass.2 (.inr h))
    · rcases List.mem_cons.1 hv with rfl | hv
      · exact .inl (passed_pass.2 (.inl hpc.symm))
      · exact .inr ⟨v, List.mem_append_right _ hv, hpc⟩

/-- The threads that wait already go on waiting, and are preferred. -/
theorem waiting_add (hsize : ts.seen.size = prog.size) : ts.waiting <:+ (ts.add prog p t).waiting := by
  refine add_induct (P := fun _ ts' => ts.waiting <:+ ts'.waiting) (fun _ _ _ _ h => h) ?_ hsize List.suffix_rfl
  intro u stack ts' _ h
  unfold Threads.pass
  dsimp only
  split
  · exact h.trans (List.suffix_cons ..)
  · exact h

/-- What goes over from a thread to those it goes on to holds of all that wait. -/
theorem forall_waiting_add {G : Thread → Prop} (hG : ∀ t, G t → ∀ u ∈ t.onwards prog p, G u)
    (hsize : ts.seen.size = prog.size) (h : ∀ u ∈ ts.waiting, G u) (ht : G t) :
    ∀ u ∈ (ts.add prog p t).waiting, G u := by
  refine (add_induct (P := fun stack ts => (∀ u ∈ stack, G u) ∧ ∀ u ∈ ts.waiting, G u) ?_ ?_ hsize
    ⟨by simpa using ht, h⟩).2
  · exact fun u stack ts _ h => ⟨fun v hv => h.1 v (List.mem_cons_of_mem _ hv), h.2⟩
  · rintro u stack ts - ⟨hstack, hwaiting⟩
    have hu := hstack u (List.mem_cons_self ..)
    constructor
    · intro v hv
      rcases List.mem_append.1 hv with hv | hv
      · exact hG u hu v hv
      · exact hstack v (List.mem_cons_of_mem _ hv)
    · unfold Threads.pass
      dsimp only
      split
      · exact List.forall_mem_cons.2 ⟨hu, hwaiting⟩
      · exact hwaiting

end MediaPaths.Regex
