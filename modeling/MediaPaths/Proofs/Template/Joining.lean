import MediaPaths.Proofs.Template.Filling

/-!
# Sources that are not filled in at once

Where a placeholder is cut short, or the text of a group may complete one, there are texts of path names for which the
rounds take away more than one pass does. This shows in the length: when the texts put in from some round on are empty,
each round leaves at most what remains of the text without the longest placeholders that stand in it.
-/

namespace MediaPaths.Template

open Text

/-! ## What remains without placeholders -/

/-- The length of the longest of some texts that the text `s` begins with. -/
def longest (marks : List (List Char)) (s : List Char) : Nat :=
  (marks.map fun m => if m.isPrefixOf s then m.length else 0).foldr max 0

/-- The length of a text without the longest placeholder at each place. -/
def remains (marks : List (List Char)) : List Char → Int
  | [] => 0
  | c :: s => remains marks s + 1 - longest marks (c :: s)

/-- A text with a dollar sign in front and nowhere else. -/
def IsMark (m : List Char) : Prop := ∃ x, m = '$' :: x ∧ '$' ∉ x

variable {marks : List (List Char)} {m r s t x : List Char} {b : Nat}

theorem le_longest (hm : m ∈ marks) (h : m <+: s) : m.length ≤ longest marks s := by
  induction marks with
  | nil => cases hm
  | cons m' marks ih =>
    simp only [longest, List.map_cons, List.foldr_cons]
    rcases List.mem_cons.1 hm with rfl | hm
    · rw [if_pos (List.isPrefixOf_iff_prefix.2 h)]
      exact Nat.le_max_left ..
    · exact Nat.le_trans (ih hm) (Nat.le_max_right ..)

theorem longest_le (h : ∀ m ∈ marks, m <+: s → m.length ≤ b) : longest marks s ≤ b := by
  induction marks with
  | nil => exact Nat.zero_le b
  | cons m marks ih =>
    simp only [longest, List.map_cons, List.foldr_cons]
    refine Nat.max_le.2 ⟨?_, ih fun m hm => h m (List.mem_cons_of_mem _ hm)⟩
    split
    · rename_i hp
      exact h m (List.mem_cons_self ..) (List.isPrefixOf_iff_prefix.1 hp)
    · exact Nat.zero_le b

theorem longest_of_ne {c : Char} (hmarks : ∀ m ∈ marks, IsMark m) (hc : c ≠ '$') : longest marks (c :: s) = 0 := by
  refine Nat.le_zero.1 (longest_le fun m hm h => ?_)
  obtain ⟨x, rfl, -⟩ := hmarks m hm
  exact absurd (List.cons_prefix_cons.1 h).1.symm hc

theorem remains_append (hmarks : ∀ m ∈ marks, IsMark m) (hx : '$' ∉ x) :
    remains marks (x ++ s) = x.length + remains marks s := by
  induction x with
  | nil => simp
  | cons c x ih =>
    simp only [List.mem_cons, not_or] at hx
    rw [List.cons_append, remains, longest_of_ne hmarks (Ne.symm hx.1), ih hx.2]
    simp only [List.length_cons]
    omega

theorem remains_mark (hmarks : ∀ m ∈ marks, IsMark m) (hm : IsMark m) :
    remains marks (m ++ s) = m.length - longest marks (m ++ s) + remains marks s := by
  obtain ⟨x, rfl, hx⟩ := hm
  rw [List.cons_append, remains, remains_append hmarks hx]
  simp only [List.length_cons]
  omega

/-- Taking a placeholder away everywhere leaves no more than what remains without it and the others, if it is never
the shorter of two that begin at one place. -/
theorem remains_replaceAll_le (hm : IsMark m) (hmarks : ∀ m ∈ marks, IsMark m)
    (hlong : ∀ m' ∈ marks, ∀ s, m' <+: s → m <+: s → m'.length ≤ m.length) (s : List Char) :
    remains marks (replaceAll m [] s) ≤ remains (m :: marks) s := by
  obtain ⟨x, rfl, hx⟩ := hm
  have hall : ∀ m' ∈ ('$' :: x) :: marks, IsMark m' := by
    intro m' hm'
    rcases List.mem_cons.1 hm' with rfl | hm'
    · exact ⟨x, rfl, hx⟩
    · exact hmarks m' hm'
  induction hlen : s.length using Nat.strongRecOn generalizing s with
  | ind len ih =>
    by_cases hp : '$' :: x <+: s
    · obtain ⟨rest, rfl⟩ := hp
      rw [replaceAll_append_self (by simp), List.nil_append, remains_mark hall ⟨x, rfl, hx⟩]
      have hrest := ih rest.length (by simp at hlen; omega) rest rfl
      have hle : longest (('$' :: x) :: marks) ('$' :: x ++ rest) ≤ ('$' :: x).length := by
        refine longest_le fun m' hm' h => ?_
        rcases List.mem_cons.1 hm' with rfl | hm'
        · exact Nat.le_refl _
        · exact hlong m' hm' _ h (List.prefix_append ..)
      omega
    · cases s with
      | nil => simp [remains]
      | cons c s =>
        rw [replaceAll_cons_of_not (by simpa [← Bool.not_eq_true, List.isPrefixOf_iff_prefix] using hp),
          remains, remains]
        have hrest := ih s.length (by simp at hlen; omega) s rfl
        -- a placeholder that is not taken away here stays
        have hle : longest (('$' :: x) :: marks) (c :: s) ≤ longest marks (c :: replaceAll ('$' :: x) [] s) := by
          refine longest_le fun m' hm' h => ?_
          rcases List.mem_cons.1 hm' with rfl | hm'
          · exact absurd h hp
          · obtain ⟨y, rfl, hy⟩ := hmarks m' hm'
            obtain ⟨rfl, t, rfl⟩ := List.cons_prefix_cons.1 h
            refine le_longest hm' (List.cons_prefix_cons.2 ⟨rfl, ?_⟩)
            rw [replaceAll_append_of_notMem hy]
            exact List.prefix_append ..
        omega

/-! ## The placeholders of the first groups -/

/-- The placeholders of the groups up to `i`, and that of the query. -/
def marksUpTo : Nat → List (List Char)
  | 0 => [queryMark]
  | i + 1 => groupMark (i + 1) :: marksUpTo i

variable {i k n : Nat} {groups : List String} {ps qs : List Piece}

theorem isMark_groupMark (k : Nat) : IsMark (groupMark k) := ⟨_, groupMark_eq k, dollar_notMem_digits k⟩

theorem isMark_queryMark : IsMark queryMark := ⟨_, queryMark_eq, by decide⟩

theorem mem_marksUpTo : m ∈ marksUpTo i ↔ m = queryMark ∨ ∃ k, 1 ≤ k ∧ k ≤ i ∧ m = groupMark k := by
  induction i with
  | zero =>
    simp only [marksUpTo, List.mem_singleton]
    refine ⟨.inl, ?_⟩
    rintro (h | ⟨k, hk, hle, -⟩)
    · exact h
    · omega
  | succ i ih =>
    rw [marksUpTo, List.mem_cons, ih]
    constructor
    · rintro (rfl | h | ⟨k, hk, hle, h⟩)
      · exact .inr ⟨i + 1, by omega, Nat.le_refl _, rfl⟩
      · exact .inl h
      · exact .inr ⟨k, hk, by omega, h⟩
    · rintro (h | ⟨k, hk, hle, h⟩)
      · exact .inr (.inl h)
      · rcases Nat.lt_or_eq_of_le hle with hlt | rfl
        · exact .inr (.inr ⟨k, hk, by omega, h⟩)
        · exact .inl h

theorem isMark_of_mem (h : m ∈ marksUpTo i) : IsMark m := by
  rcases mem_marksUpTo.1 h with rfl | ⟨k, -, -, rfl⟩
  · exact isMark_queryMark
  · exact isMark_groupMark k

theorem length_digits_mono (h : k ≤ i) : (Nat.toDigits 10 k).length ≤ (Nat.toDigits 10 i).length := by
  rw [Nat.length_toDigits_le_iff (by decide) Nat.length_toDigits_pos]
  exact Nat.lt_of_le_of_lt h ((Nat.length_toDigits_le_iff (by decide) Nat.length_toDigits_pos).1 (Nat.le_refl _))

/-- Of two placeholders at one place, that of the later group is not the shorter. -/
theorem length_le_of_prefix (hm : m ∈ marksUpTo i) (h : m <+: s) (hi : groupMark (i + 1) <+: s) :
    m.length ≤ (groupMark (i + 1)).length := by
  rcases mem_marksUpTo.1 hm with rfl | ⟨k, -, hle, rfl⟩
  · obtain ⟨t, rfl⟩ := h
    rw [queryMark_eq, groupMark_eq] at hi
    simp at hi
  · have := length_digits_mono (Nat.le_succ_of_le hle)
    simpa [groupMark_eq] using this

/-- When the groups up to `i` and the query are empty, the rounds that are left take their placeholders away. -/
theorem length_fill_le (hempty : ∀ k ≤ i, groupText groups k = []) (hi : i < groups.length ∨ i = 0) :
    ((replaceAll queryMark [] (fillFrom groups 1 s)).length : Int) ≤
      remains (marksUpTo i) (fillFrom groups (i + 1) s) := by
  induction i with
  | zero =>
    have hlen : ∀ t, remains [] t = t.length := by
      intro t
      induction t with
      | nil => rfl
      | cons c t ih =>
        simp [remains, longest, ih]
    rw [← hlen]
    exact remains_replaceAll_le isMark_queryMark (by simp) (by simp) _
  | succ i ih =>
    refine Int.le_trans (ih (fun k hk => hempty k (by omega)) (.inl (by omega))) ?_
    rw [fillFrom_of_lt (i := i + 1) (by omega), hempty (i + 1) (Nat.le_refl _)]
    exact remains_replaceAll_le (isMark_groupMark _) (fun _ => isMark_of_mem)
      (fun _ hm _ h hi => length_le_of_prefix hm h hi) _

/-! ## A placeholder too many -/

/-- A placeholder that a piece begins takes as much of what remains. -/
theorem remains_piece_of_prefix (groups : List String) (qs : List Piece) {p : Piece}
    (hp : IsMark (p.textFrom groups (i + 1))) (hm : m ∈ marksUpTo i)
    (h : m <+: (p :: qs).flatMap (Piece.textFrom groups (i + 1))) :
    remains (marksUpTo i) ((p :: qs).flatMap (Piece.textFrom groups (i + 1))) ≤
      (p.textFrom groups (i + 1)).length - m.length +
        remains (marksUpTo i) (qs.flatMap (Piece.textFrom groups (i + 1))) := by
  have hle := le_longest hm h
  rw [List.flatMap_cons] at hle ⊢
  rw [remains_mark (fun _ => isMark_of_mem) hp]
  omega

/-- What remains of a piece is no longer than the text in its place. -/
theorem remains_piece_le (qs : List Piece) (hv : ∀ k, '$' ∉ groupText groups k) {p : Piece}
    (hp : ∀ k, p = .group k → 1 ≤ k) :
    remains (marksUpTo i) ((p :: qs).flatMap (Piece.textFrom groups (i + 1))) ≤
      (p.text groups "").length + remains (marksUpTo i) (qs.flatMap (Piece.textFrom groups (i + 1))) := by
  cases p with
  | plain c =>
    simp only [List.flatMap_cons, Piece.textFrom, Piece.text, List.cons_append, List.nil_append, remains,
      List.length_singleton]
    omega
  | group k =>
    by_cases hik : i + 1 ≤ k
    · rw [List.flatMap_cons, Piece.textFrom, if_pos hik, remains_append (fun _ => isMark_of_mem) (hv k)]
      exact Int.le_refl _
    · have htext : (Piece.group k).textFrom groups (i + 1) = groupMark k := if_neg hik
      have := remains_piece_of_prefix groups qs (htext ▸ isMark_groupMark k)
        (mem_marksUpTo.2 (.inr ⟨k, hp k rfl, by omega, rfl⟩))
        (by rw [List.flatMap_cons, htext]; exact List.prefix_append ..)
      rw [htext] at this
      omega
  | query =>
    have := remains_piece_of_prefix (i := i) groups qs (p := .query) isMark_queryMark (mem_marksUpTo.2 (.inl rfl))
      (List.prefix_append ..)
    simp only [Piece.textFrom] at this
    omega

/-- A piece begins a placeholder that is none of the source: its own is shorter, or it has none. -/
inductive Overreaches (i : Nat) (groups : List String) : List Piece → Prop where
  | plain {m : List Char} {qs : List Piece} (hm : m ∈ marksUpTo i)
      (h : m <+: '$' :: qs.flatMap (Piece.textFrom groups (i + 1))) : Overreaches i groups (.plain '$' :: qs)
  | group {a : Nat} {m : List Char} {qs : List Piece} (ha : a ≤ i) (hm : m ∈ marksUpTo i)
      (h : m <+: groupMark a ++ qs.flatMap (Piece.textFrom groups (i + 1))) (hlen : (groupMark a).length < m.length) :
      Overreaches i groups (.group a :: qs)

theorem remains_lt_of_overreaches {p : Piece} (h : Overreaches i groups (p :: qs)) :
    remains (marksUpTo i) ((p :: qs).flatMap (Piece.textFrom groups (i + 1))) <
      (p.text groups "").length + remains (marksUpTo i) (qs.flatMap (Piece.textFrom groups (i + 1))) := by
  cases h with
  | @plain m qs hm h =>
    have := remains_piece_of_prefix groups qs (p := .plain '$') ⟨[], rfl, by simp⟩ hm h
    obtain ⟨x, rfl, -⟩ := isMark_of_mem hm
    simp only [Piece.textFrom, List.length_cons] at this
    simp only [Piece.text, List.length_cons]
    omega
  | @group a m qs ha hm h hlen =>
    have htext : (Piece.group a).textFrom groups (i + 1) = groupMark a := if_neg (by omega)
    have := remains_piece_of_prefix groups qs (htext ▸ isMark_groupMark a) hm
      (by rw [List.flatMap_cons, htext]; exact h)
    rw [htext] at this
    omega

theorem remains_le (hv : ∀ k, '$' ∉ groupText groups k) (hps : ∀ k, .group k ∈ ps → 1 ≤ k) :
    remains (marksUpTo i) (ps.flatMap (Piece.textFrom groups (i + 1))) ≤ (ps.flatMap (Piece.text groups "")).length := by
  induction ps with
  | nil => simp [remains]
  | cons p ps ih =>
    have hp := remains_piece_le (i := i) ps hv fun k hk => hps k (hk ▸ List.mem_cons_self ..)
    have hrest := ih fun k hk => hps k (List.mem_cons_of_mem _ hk)
    rw [List.flatMap_cons (f := Piece.text groups ""), List.length_append]
    omega

/-- One placeholder too many makes what remains shorter than one pass does. -/
theorem remains_lt (hv : ∀ k, '$' ∉ groupText groups k) (hps : ∀ k, .group k ∈ ps → 1 ≤ k) (hqs : qs <:+ ps)
    (h : Overreaches i groups qs) :
    remains (marksUpTo i) (ps.flatMap (Piece.textFrom groups (i + 1))) < (ps.flatMap (Piece.text groups "")).length := by
  induction ps with
  | nil =>
    obtain rfl := List.suffix_nil.1 hqs
    cases h
  | cons p ps ih =>
    have hps' : ∀ k, .group k ∈ ps → 1 ≤ k := fun k hk => hps k (List.mem_cons_of_mem _ hk)
    rw [List.flatMap_cons (f := Piece.text groups ""), List.length_append]
    rcases List.suffix_cons_iff.1 hqs with rfl | hqs
    · have hp := remains_lt_of_overreaches h
      have hrest := remains_le (i := i) hv hps'
      omega
    · have hp := remains_piece_le (i := i) ps hv fun k hk => hps k (hk ▸ List.mem_cons_self ..)
      have hrest := ih hps' hqs
      omega

/-! ## Texts that make the difference -/

/-- Groups of which the one at `k` has a text of its own, those before it are empty, and those behind it are `-`. -/
def around (n k : Nat) (x : List Char) : List String :=
  (List.range n).map fun j => if j < k then "" else if j = k then String.ofList x else "-"

theorem length_around (n k : Nat) (x : List Char) : (around n k x).length = n := by simp [around]

theorem groupText_around_lt {j : Nat} (h : j < k) : groupText (around n k x) j = [] := by
  unfold groupText around
  by_cases hj : j < n
  · simp [List.getD_eq_getElem?_getD, hj, h]
  · simp [List.getD_eq_getElem?_getD, hj]

theorem groupText_around (h : k < n) : groupText (around n k x) k = x := by
  simp [groupText, around, List.getD_eq_getElem?_getD, h]

theorem groupText_around_gt {j : Nat} (h : k < j) (hj : j < n) : groupText (around n k x) j = ['-'] := by
  simp [groupText, around, List.getD_eq_getElem?_getD, hj, show ¬ j < k by omega, show ¬ j = k by omega]

theorem forall_allowed_around (hx : ∀ c ∈ x, Name.isAllowed c = true) :
    ∀ g ∈ around n k x, ∀ c ∈ g.toList, Name.isAllowed c = true := by
  intro g hg
  obtain ⟨j, -, rfl⟩ := List.mem_map.1 hg
  split
  · simp
  · split
    · simpa using hx
    · exact List.all_eq_true.1 (by decide)

theorem dollar_notMem_groupText (h : ∀ g ∈ groups, ∀ c ∈ g.toList, Name.isAllowed c = true) (k : Nat) :
    '$' ∉ groupText groups k := by
  unfold groupText
  rw [List.getD_eq_getElem?_getD]
  cases hk : groups[k]? with
  | none => simp
  | some g =>
    intro hmem
    exact absurd (h g (List.mem_of_getElem? hk) '$' hmem) (by decide)

theorem Reads.bounds (h : Reads n s ps) (hk : .group k ∈ ps) : 1 ≤ k ∧ k < n := by
  induction h with
  | nil => cases hk
  | group h1 hn _ _ ih =>
    rcases List.mem_cons.1 hk with heq | hk
    · cases heq
      exact ⟨h1, hn⟩
    · exact ih hk
  | query _ ih => exact ih (by simpa using hk)
  | plain _ _ ih => exact ih (by simpa using hk)

theorem Joins.mem (h : Joins k qs) : .group k ∈ qs := by
  cases h <;> simp

theorem flatMap_plains (w : List Char) : (w.map .plain).flatMap (Piece.textFrom groups i) = w := by
  induction w with
  | nil => rfl
  | cons c w ih => rw [List.map_cons, List.flatMap_cons, ih, Piece.textFrom, List.singleton_append]

theorem fill_ne_of_overreaches {source : String} (hempty : ∀ k ≤ i, groupText groups k = [])
    (hi : i < groups.length ∨ i = 0) (hv : ∀ k, '$' ∉ groupText groups k)
    (hfill : fillFrom groups (i + 1) source.toList =
      (pieces groups.length source.toList).flatMap (Piece.textFrom groups (i + 1)))
    (hqs : qs <:+ pieces groups.length source.toList) (h : Overreaches i groups qs) :
    fill source groups "" ≠ simultaneous source groups "" := by
  intro heq
  have hlen := congrArg String.length heq
  have hle := length_fill_le (s := source.toList) hempty hi
  have hlt := remains_lt hv (fun k hk => ((reads_pieces _ _).bounds hk).1) hqs h
  rw [hfill] at hle
  simp only [fill, simultaneous, fillGroups_eq, String.length_ofList, String.toList_empty] at hlen
  omega

/-- A placeholder that is cut short is filled in nevertheless. -/
theorem exists_of_cut {source : String} (hqs : qs <:+ pieces n source.toList) (h : Cut n qs) :
    ∃ groups : List String, groups.length = n ∧ (∀ g ∈ groups, ∀ c ∈ g.toList, Name.isAllowed c = true) ∧
      fill source groups "" ≠ simultaneous source groups "" := by
  obtain ⟨n, rfl⟩ : ∃ m, n = m + 1 := by
    obtain ⟨hk, hn, -⟩ := h
    exact ⟨n - 1, by omega⟩
  have hallowed : ∀ g ∈ around (n + 1) (n + 1) [], ∀ c ∈ g.toList, Name.isAllowed c = true :=
    forall_allowed_around (by simp)
  have hlen := length_around (n + 1) (n + 1) []
  refine ⟨_, hlen, hallowed, fill_ne_of_overreaches (i := n) (fun k hk => groupText_around_lt (by omega)) (by omega)
    (dollar_notMem_groupText hallowed) ?_ (hlen.symm ▸ hqs) ?_⟩
  · rw [fillFrom_of_length_le (by omega), (reads_pieces _ _).flatMap_textFrom _ (by omega)]
  · obtain ⟨hk, hn, hd⟩ := h
    refine .plain (mem_marksUpTo.2 (.inr ⟨_, hk, by omega, rfl⟩)) ?_
    rw [groupMark_eq, hd]
    exact ⟨_, rfl⟩

/-- The text of a group that may complete a placeholder does so if it begins with what is missing. -/
theorem exists_of_joins {source : String} (hcut : ∀ qs, qs <:+ pieces n source.toList → ¬ Cut n qs)
    (hqs : qs <:+ pieces n source.toList) (h : Joins k qs) :
    ∃ groups : List String, groups.length = n ∧ (∀ g ∈ groups, ∀ c ∈ g.toList, Name.isAllowed c = true) ∧
      fill source groups "" ≠ simultaneous source groups "" := by
  have hreads := reads_pieces n source.toList
  obtain ⟨hk, hn⟩ := hreads.bounds (hqs.mem h.mem)
  obtain ⟨i, rfl⟩ : ∃ i, k = i + 1 := ⟨k - 1, by omega⟩
  suffices hx : ∃ x, (∀ c ∈ x, Name.isAllowed c = true) ∧ Overreaches i (around n (i + 1) x) qs by
    obtain ⟨x, hx, hover⟩ := hx
    have hallowed : ∀ g ∈ around n (i + 1) x, ∀ c ∈ g.toList, Name.isAllowed c = true := forall_allowed_around hx
    have hlen := length_around n (i + 1) x
    refine ⟨_, hlen, hallowed, fill_ne_of_overreaches (i := i) (fun k hk => groupText_around_lt (by omega)) (by omega)
      (dollar_notMem_groupText hallowed) ?_ (hlen.symm ▸ hqs) hover⟩
    rw [hlen]
    refine fillFrom_eq (by omega) (dollar_notMem_groupText hallowed) (hlen.symm ▸ hreads) (hlen.symm ▸ hcut) ?_
    intro qs hqs j hj hij
    exact groupText_around_gt hij (hreads.bounds (hqs.mem hj.mem)).2
  have htext : ∀ x ps, (Piece.group (i + 1) :: ps).flatMap (Piece.textFrom (around n (i + 1) x) (i + 1)) =
      x ++ ps.flatMap (Piece.textFrom (around n (i + 1) x) (i + 1)) := by
    intro x ps
    rw [List.flatMap_cons, Piece.textFrom, if_pos (Nat.le_refl _), groupText_around hn]
  cases h with
  | @query w x _ ps hx hw =>
    refine ⟨x, fun c hc => ?_, .plain (mem_marksUpTo.2 (.inl rfl)) ?_⟩
    · have hall : ∀ c ∈ queryMark.tail, Name.isAllowed c = true := List.all_eq_true.1 (by decide)
      exact hall c (by simp [hw, hc])
    · rw [hw, List.flatMap_append, flatMap_plains, htext]
      exact ⟨ps.flatMap (Piece.textFrom (around n (i + 1) x) (i + 1)), by simp⟩
  | @number _ ps hk =>
    refine ⟨['1'], List.all_eq_true.1 (by decide), .plain (mem_marksUpTo.2 (.inr ⟨1, Nat.le_refl 1, by omega, rfl⟩)) ?_⟩
    rw [List.flatMap_cons, htext]
    exact ⟨ps.flatMap (Piece.textFrom (around n (i + 1) ['1']) (i + 1)), rfl⟩
  | @digits a _ ps h =>
    have ha := (hreads.bounds (hqs.mem (List.mem_cons_self ..))).1
    have hten : groupMark (10 * a) = groupMark a ++ ['0'] := by
      have := Nat.toDigits_append_toDigits (b := 10) (d := 0) (by decide) ha (by decide)
      simpa [groupMark_eq] using this.symm
    refine ⟨['0'], List.all_eq_true.1 (by decide), .group (by omega) (mem_marksUpTo.2 (.inr ⟨10 * a, by omega, by omega, rfl⟩)) ?_
      (by simp [hten])⟩
    rw [hten, htext]
    exact ⟨ps.flatMap (Piece.textFrom (around n (i + 1) ['0']) (i + 1)), by simp⟩

/-- A source is filled in at once, whatever path names the texts of the groups come from and whatever the query is,
just if it is clear: no placeholder is cut short, and none can come about where a text meets its neighbours. -/
theorem fill_simultaneous_iff (source : String) (n : Nat) :
    (∀ groups : List String, groups.length = n → (∀ g ∈ groups, ∀ c ∈ g.toList, Name.isAllowed c = true) →
      ∀ query, fill source groups query = simultaneous source groups query) ↔ IsClear n source := by
  constructor
  · intro h
    have hcut : ∀ qs, qs <:+ pieces n source.toList → ¬ Cut n qs := by
      intro qs hqs hcut
      obtain ⟨groups, hlen, hallowed, hne⟩ := exists_of_cut hqs hcut
      exact hne (h groups hlen hallowed "")
    refine fun qs hqs => ⟨hcut qs hqs, fun k hk => ?_⟩
    obtain ⟨groups, hlen, hallowed, hne⟩ := exists_of_joins hcut hqs hk
    exact hne (h groups hlen hallowed "")
  · rintro h groups rfl hallowed query
    exact fill_of_isClear h (dollar_notMem_groupText hallowed) query

example : fill "rtsp://host/$G10" ["cam7", "7"] "" = "rtsp://host/70" ∧
    simultaneous "rtsp://host/$G10" ["cam7", "7"] "" = "rtsp://host/$G10" := by decide

end MediaPaths.Template
