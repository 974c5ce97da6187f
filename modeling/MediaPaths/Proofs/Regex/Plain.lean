import MediaPaths.Proofs.Regex.Anything

/-!
# Patterns without operators

A pattern in which nothing but the dot has a meaning of its own is read one character after the other: each stands for
itself, a dot for any character but a line feed. Such a pattern has no groups.
-/

namespace MediaPaths.Regex

open Unicode

/-- The characters that open or close something in a pattern, repeat, choose, assert or escape. -/
def operators : List Char := ['(', ')', '|', '[', '?', '*', '+', '\x7b', '^', '$', '\\']

/-- Characters that stand for one character in a pattern. -/
def IsPlain (c : Char) : Prop := c ∉ operators

instance : DecidablePred IsPlain := fun c => inferInstanceAs (Decidable (c ∉ operators))

/-- What a plain character stands for. -/
def plainExpr (c : Char) : Expr := .chars (if c = '.' then notNewline else .single c)

variable {c : Char} {cs : List Char} {fuel : Nat}

/-! ## Reading -/

theorem dot?_default : Reader.dot? {} = some notNewline := by decide +kernel

/-- A plain character becomes one item. -/
theorem stepAt?_of_isPlain {r : Reader} (h : IsPlain c) (hflags : r.flags = {}) (cs : List Char) :
    r.stepAt? c cs = some (r.push (.of (plainExpr c)) cs) := by
  unfold Reader.stepAt?
  split
  -- the dot
  case h_9 =>
    rw [hflags, dot?_default]
    rfl
  -- a character without a meaning of its own
  case h_13 hdot _ _ _ =>
    rw [hflags, plainExpr, if_neg hdot]
    rfl
  -- the operators
  all_goals exact absurd h (by decide)

/-- A text of plain characters becomes as many items, the last of them first. -/
theorem run?_of_isPlain (items : List Item) (h : ∀ c ∈ cs, IsPlain c) (hfuel : cs.length < fuel) :
    Reader.run? fuel { rest := cs, level := ⟨items, []⟩ } =
      some { rest := [], level := ⟨(cs.map (Item.of <| plainExpr ·)).reverse ++ items, []⟩ } := by
  induction cs generalizing items fuel with
  | nil =>
    obtain ⟨fuel, rfl⟩ := Nat.exists_eq_succ_of_ne_zero (Nat.ne_zero_of_lt hfuel)
    rfl
  | cons c cs ih =>
    obtain ⟨fuel, rfl⟩ := Nat.exists_eq_succ_of_ne_zero (Nat.ne_zero_of_lt hfuel)
    obtain ⟨hc, hcs⟩ := List.forall_mem_cons.1 h
    have hstep := stepAt?_of_isPlain (r := { rest := c :: cs, level := ⟨items, []⟩ }) hc rfl cs
    rw [Reader.run?]
    simp only [skip, Bool.false_eq_true, if_false, hstep]
    rw [List.map_cons, List.reverse_cons, List.append_assoc]
    exact ih _ hcs (Nat.lt_of_succ_lt_succ hfuel)

/-- Expressions that are not nested make one level in a sequence. -/
theorem sequence_of (es : List Expr) :
    ∃ depth ≤ 1, Item.sequence (es.map (Item.of ·)).reverse = .of (.cats es) depth := by
  match es with
  | [] => exact ⟨0, by decide, rfl⟩
  | [e] => exact ⟨0, by decide, rfl⟩
  | e :: e' :: es =>
    refine ⟨1, Nat.le_refl 1, ?_⟩
    have hexprs : ((e :: e' :: es).map (Item.of ·)).filterMap (·.expr) = e :: e' :: es := by
      simp [Item.of]
    have hdepth : (((e :: e' :: es).map (Item.of ·)).reverse.map (·.depth)).foldl max 0 = 0 := by
      rw [← List.map_reverse, List.map_map, List.foldl_map]
      exact List.foldl_fixed' (fun _ => rfl) _
    unfold Item.sequence
    split
    · rename_i hnil
      simp at hnil
    · rename_i hsingle
      simpa using congrArg List.length hsingle
    · rw [List.reverse_reverse, hexprs, hdepth]

/-- A text of plain characters denotes one of them after the other. -/
theorem parse?_of_isPlain (h : ∀ c ∈ cs, IsPlain c) : parse? cs = some (.cats (cs.map plainExpr)) := by
  have hrun : Reader.run? (cs.length + 1) { rest := cs } = _ :=
    run?_of_isPlain [] h (Nat.lt_succ_self cs.length)
  obtain ⟨depth, hdepth, hsequence⟩ := sequence_of (cs.map plainExpr)
  have hclose : Level.close ⟨(cs.map (Item.of <| plainExpr ·)).reverse ++ [], []⟩ =
      .of (.cats (cs.map plainExpr)) depth := by
    rw [List.append_nil, ← hsequence, List.map_map]
    rfl
  have hlimit : depth ≤ nestLimit := Nat.le_trans hdepth (by decide)
  rw [parse?, hrun]
  dsimp only
  rw [hclose]
  simp [Item.of, Item.value, hlimit]

/-! ## Groups -/

theorem maxGroup_cats {es : List Expr} (h : ∀ e ∈ es, e.maxGroup = 0) : (Expr.cats es).maxGroup = 0 := by
  fun_induction Expr.cats es with
  | case1 => rfl
  | case2 e => exact h e List.mem_cons_self
  | case3 e es hne ih =>
    obtain ⟨he, hes⟩ := List.forall_mem_cons.1 h
    rw [Expr.maxGroup, he, ih hes, Nat.max_self]

namespace Pattern

variable {p : Pattern}

/-- A pattern of plain characters has no groups but that of the whole match. -/
theorem groups_of_isPlain (h : ∀ c ∈ p.text.toList, IsPlain c) : p.groups = 1 := by
  have hdenotes := p.denotes
  rw [exprOf?, parse?_of_isPlain h] at hdenotes
  dsimp only at hdenotes
  split at hdenotes
  · have hnone : (Expr.cats (p.text.toList.map plainExpr)).maxGroup = 0 := by
      refine maxGroup_cats fun e he => ?_
      obtain ⟨c, -, rfl⟩ := List.mem_map.1 he
      rfl
    rw [groups, ← Option.some.inj hdenotes, hnone]
  · cases hdenotes

end Pattern

end MediaPaths.Regex
