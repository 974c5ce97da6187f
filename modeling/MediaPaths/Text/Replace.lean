/-!
# Replacing a text everywhere

`replaceAll p r s` copies `s` from left to right and writes `r` for every occurrence of `p` met on
the way. Occurrences do not overlap, and `r` is not searched again.
-/

namespace MediaPaths.Text

/-- The walk behind `replaceAll`: `k` characters of an occurrence are still to be passed over. -/
def replaceFrom (p r : List Char) : Nat → List Char → List Char
  | _, [] => []
  | k + 1, _ :: s => replaceFrom p r k s
  | 0, c :: s =>
    if p.isPrefixOf (c :: s) then r ++ replaceFrom p r (p.length - 1) s
    else c :: replaceFrom p r 0 s

/-- The text `s` with `r` in the place of every occurrence of the non-empty text `p`. -/
def replaceAll (p r s : List Char) : List Char :=
  replaceFrom p r 0 s

@[simp] theorem replaceAll_nil (p r : List Char) : replaceAll p r [] = [] := rfl

theorem replaceFrom_eq_drop (p r : List Char) (k : Nat) (s : List Char) :
    replaceFrom p r k s = replaceFrom p r 0 (s.drop k) := by
  induction s generalizing k with
  | nil => cases k <;> simp [replaceFrom]
  | cons c s ih =>
    cases k with
    | zero => rfl
    | succ k => simpa [replaceFrom] using ih k

theorem replaceAll_cons_of_not {p r s : List Char} {c : Char}
    (h : p.isPrefixOf (c :: s) = false) : replaceAll p r (c :: s) = c :: replaceAll p r s := by
  simp [replaceAll, replaceFrom, h]

theorem replaceAll_append_self {p r s : List Char} (hp : p ≠ []) :
    replaceAll p r (p ++ s) = r ++ replaceAll p r s := by
  cases p with
  | nil => exact absurd rfl hp
  | cons c p =>
    have h : (c :: p).isPrefixOf (c :: (p ++ s)) = true := by simp
    simp [replaceAll, replaceFrom, h, replaceFrom_eq_drop _ _ p.length]

/-- A text in which the first character of `p` does not occur is copied unchanged, whatever follows it. -/
theorem replaceAll_append_of_notMem {a : Char} {p r s : List Char} (h : a ∉ s) (t : List Char) :
    replaceAll (a :: p) r (s ++ t) = s ++ replaceAll (a :: p) r t := by
  induction s with
  | nil => rfl
  | cons c s ih =>
    simp only [List.mem_cons, not_or] at h
    rw [List.cons_append, replaceAll_cons_of_not (by simp [List.isPrefixOf, h.1]), ih h.2, List.cons_append]

end MediaPaths.Text
