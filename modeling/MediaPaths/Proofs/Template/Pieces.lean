import Mathlib.Data.List.Induction
import MediaPaths.Name
import MediaPaths.Source.Template

/-!
# The pieces of a source

One pass over a source from left to right tells its placeholders from what stands for itself. The placeholder of a
group takes all digits that follow, and they have to spell the number of one of the groups. `simultaneous` puts the
texts in for all placeholders at once.
-/

namespace MediaPaths.Template

/-- A piece of a source. -/
inductive Piece where
  /-- A character that stands for itself. -/
  | plain (c : Char)
  /-- The placeholder of a group. -/
  | group (k : Nat)
  /-- The placeholder of the query. -/
  | query
  deriving DecidableEq

/-- The text of a group. -/
def groupText (groups : List String) (k : Nat) : List Char := (groups.getD k "").toList

namespace Piece

/-- How a piece is written. -/
def mark : Piece → List Char
  | plain c => [c]
  | group k => groupMark k
  | query => queryMark

/-- The text that takes the place of a piece. -/
def text (groups : List String) (query : String) : Piece → List Char
  | plain c => [c]
  | group k => groupText groups k
  | .query => query.toList

end Piece

/-- The group whose placeholder a text begins with; group 0 has none. -/
def groupAt? (n : Nat) : List Char → Option Nat
  | '$' :: 'G' :: s => ((List.range n).drop 1).find? fun k => Nat.toDigits 10 k == s.takeWhile Char.isDigit
  | _ => none

/-- The piece that a text begins with, given its first character. -/
def front (n : Nat) (c : Char) (s : List Char) : Piece :=
  match groupAt? n (c :: s) with
  | some k => .group k
  | none => if queryMark.isPrefixOf (c :: s) then .query else .plain c

/-- The walk behind `pieces`: `k` characters of a placeholder are still to be passed over. -/
def piecesFrom (n : Nat) : Nat → List Char → List Piece
  | _, [] => []
  | k + 1, _ :: s => piecesFrom n k s
  | 0, c :: s => front n c s :: piecesFrom n ((front n c s).mark.length - 1) s

/-- The pieces of a source where there are `n` groups, the group 0 among them. -/
def pieces (n : Nat) (s : List Char) : List Piece := piecesFrom n 0 s

/-- The source with all its placeholders filled in at once. -/
def simultaneous (source : String) (groups : List String) (query : String) : String :=
  String.ofList ((pieces groups.length source.toList).flatMap (Piece.text groups query))

example : simultaneous "rtsp://$G1/$G10?$MTX_QUERY" ["cam7", "7"] "$G1" = "rtsp://7/$G10?$G1" := by decide

/-! ## Placeholders -/

theorem groupMark_eq (k : Nat) : groupMark k = '$' :: 'G' :: Nat.toDigits 10 k := rfl

theorem queryMark_eq : queryMark = ['$', 'M', 'T', 'X', '_', 'Q', 'U', 'E', 'R', 'Y'] := by decide

theorem isDigit_of_mem_digits {k : Nat} {c : Char} (h : c ∈ Nat.toDigits 10 k) : c.isDigit = true :=
  Nat.isDigit_of_mem_toDigits (by decide) (by decide) h

theorem digits_injective {k l : Nat} (h : Nat.toDigits 10 k = Nat.toDigits 10 l) : k = l := by
  rw [← Nat.ofDigitChars_toDigits (b := 10) (n := k) (by decide) (by decide), h,
    Nat.ofDigitChars_toDigits (by decide) (by decide)]

/-- Digits behind the digits of a number make it at least ten times as large. -/
theorem ten_mul_le_of_digits {a i : Nat} {x : List Char} (hx : x ≠ [])
    (h : Nat.toDigits 10 i = Nat.toDigits 10 a ++ x) :
    10 * a ≤ i := by
  induction x using List.reverseRecOn generalizing i with
  | nil => exact absurd rfl hx
  | append_singleton x c ih =>
    have hlen : (Nat.toDigits 10 i).length = (Nat.toDigits 10 a).length + x.length + 1 := by simp [h]; omega
    have hi : ¬ i < 10 := by
      intro hi
      have hpos : 0 < (Nat.toDigits 10 a).length := Nat.length_toDigits_pos
      rw [Nat.toDigits_of_lt_base hi] at hlen
      simp at hlen
    rw [Nat.toDigits_of_base_le (by decide) (by omega), ← List.append_assoc] at h
    have hrest : Nat.toDigits 10 (i / 10) = Nat.toDigits 10 a ++ x := (List.append_inj' h rfl).1
    by_cases hx' : x = []
    · subst hx'
      obtain rfl : i / 10 = a := digits_injective (by simpa using hrest)
      omega
    · have := ih hx' hrest
      omega

/-- The first digit of a number other than 0 is a number of its own, and no larger. -/
theorem exists_firstDigit {i : Nat} {d : Char} {ds : List Char} (hi : 1 ≤ i) (h : Nat.toDigits 10 i = d :: ds) :
    ∃ k, 1 ≤ k ∧ k ≤ i ∧ Nat.toDigits 10 k = [d] := by
  induction i using Nat.strongRecOn generalizing ds with
  | ind i ih =>
    by_cases hlt : i < 10
    · rw [Nat.toDigits_of_lt_base hlt] at h
      obtain ⟨rfl, rfl⟩ := List.cons.inj h
      exact ⟨i, hi, Nat.le_refl i, Nat.toDigits_of_lt_base hlt⟩
    · rw [Nat.toDigits_of_base_le (by decide) (by omega)] at h
      cases hd : Nat.toDigits 10 (i / 10) with
      | nil => exact absurd hd Nat.toDigits_ne_nil
      | cons d' ds' =>
        rw [hd] at h
        obtain ⟨rfl, -⟩ := List.cons.inj h
        obtain ⟨k, hk, hle, hkd⟩ := ih (i / 10) (by omega) (by omega) hd
        exact ⟨k, hk, by omega, hkd⟩

/-! ## What the pass reads -/

/-- The pieces of a text: no placeholder of a group is followed by a digit, and no placeholder of the query is left. -/
inductive Reads (n : Nat) : List Char → List Piece → Prop where
  | nil : Reads n [] []
  | group {k : Nat} {s : List Char} {ps : List Piece} (hk : 1 ≤ k) (hn : k < n)
      (hs : ∀ c, s.head? = some c → c.isDigit = false) (h : Reads n s ps) :
      Reads n (groupMark k ++ s) (.group k :: ps)
  | query {s : List Char} {ps : List Piece} (h : Reads n s ps) : Reads n (queryMark ++ s) (.query :: ps)
  | plain {c : Char} {s : List Char} {ps : List Piece} (hq : ¬ queryMark <+: c :: s) (h : Reads n s ps) :
      Reads n (c :: s) (.plain c :: ps)

variable {n : Nat} {s : List Char} {ps qs : List Piece}

theorem groupAt?_eq_some {k : Nat} (h : groupAt? n s = some k) :
    1 ≤ k ∧ k < n ∧ ∃ rest, s = groupMark k ++ rest ∧ ∀ c, rest.head? = some c → c.isDigit = false := by
  unfold groupAt? at h
  split at h
  · rename_i t
    have hmem := List.mem_of_find?_eq_some h
    have hdigits : Nat.toDigits 10 k = t.takeWhile Char.isDigit := by simpa using List.find?_some h
    obtain ⟨j, hj, hjk⟩ := List.mem_iff_getElem.1 hmem
    simp only [List.length_drop, List.length_range, List.getElem_drop, List.getElem_range] at hj hjk
    refine ⟨by omega, by omega, t.dropWhile Char.isDigit, ?_, ?_⟩
    · rw [groupMark_eq, hdigits, List.cons_append, List.cons_append, List.takeWhile_append_dropWhile]
    · intro c hc
      simpa [hc] using List.head?_dropWhile_not Char.isDigit t
  · cases h

theorem piecesFrom_eq_drop (k : Nat) (s : List Char) : piecesFrom n k s = pieces n (s.drop k) := by
  induction s generalizing k with
  | nil => cases k <;> simp [pieces, piecesFrom]
  | cons c s ih =>
    cases k with
    | zero => rfl
    | succ k => simpa [piecesFrom] using ih k

theorem pieces_cons (c : Char) (s : List Char) :
    pieces n (c :: s) = front n c s :: pieces n (s.drop ((front n c s).mark.length - 1)) := by
  rw [← piecesFrom_eq_drop]
  rfl

theorem Piece.mark_ne_nil (p : Piece) : p.mark ≠ [] := by
  cases p with
  | plain c => simp [mark]
  | group k => simp [mark, groupMark_eq]
  | query => simp [mark, queryMark_eq]

/-- The first piece is what the text begins with. -/
theorem exists_behind_front (n : Nat) (c : Char) (s : List Char) :
    ∃ rest, c :: s = (front n c s).mark ++ rest ∧ ∀ ps, Reads n rest ps → Reads n (c :: s) (front n c s :: ps) := by
  unfold front
  split
  · rename_i k hk
    obtain ⟨h1, hn, rest, heq, hdigit⟩ := groupAt?_eq_some hk
    refine ⟨rest, heq, fun ps h => ?_⟩
    rw [heq]
    exact .group h1 hn hdigit h
  · split
    · rename_i hq
      obtain ⟨rest, heq⟩ := List.isPrefixOf_iff_prefix.1 hq
      refine ⟨rest, heq.symm, fun ps h => ?_⟩
      rw [← heq]
      exact .query h
    · rename_i hq
      exact ⟨s, rfl, fun ps h => .plain (by rwa [← List.isPrefixOf_iff_prefix]) h⟩

theorem reads_pieces (n : Nat) (s : List Char) : Reads n s (pieces n s) := by
  induction hlen : s.length using Nat.strongRecOn generalizing s with
  | ind len ih =>
    cases s with
    | nil => exact .nil
    | cons c s =>
      obtain ⟨rest, heq, hreads⟩ := exists_behind_front n c s
      rw [pieces_cons]
      cases hmark : (front n c s).mark with
      | nil => exact absurd hmark (Piece.mark_ne_nil _)
      | cons d mark =>
        rw [hmark, List.cons_append] at heq
        obtain ⟨rfl, rfl⟩ := List.cons.inj heq
        rw [List.length_cons, Nat.add_sub_cancel, List.drop_left]
        exact hreads _ (ih rest.length (by simp at hlen; omega) rest rfl)

theorem Reads.suffix (h : Reads n s ps) (hqs : qs <:+ ps) : ∃ t, Reads n t qs := by
  induction h with
  | nil =>
    obtain rfl := List.suffix_nil.1 hqs
    exact ⟨[], .nil⟩
  | @group _ _ _ hk hn hs h ih =>
    rcases List.suffix_cons_iff.1 hqs with rfl | hqs
    · exact ⟨_, .group hk hn hs h⟩
    · exact ih hqs
  | query h ih =>
    rcases List.suffix_cons_iff.1 hqs with rfl | hqs
    · exact ⟨_, .query h⟩
    · exact ih hqs
  | plain hq h ih =>
    rcases List.suffix_cons_iff.1 hqs with rfl | hqs
    · exact ⟨_, .plain hq h⟩
    · exact ih hqs

end MediaPaths.Template
