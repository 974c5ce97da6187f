import MediaPaths.Proofs.Template.Pieces

/-!
# Filling in one group after the other

The groups are filled in from the last to the first, each in the whole text. While no placeholder is cut short and
none comes about where a text that was put in meets its neighbours, each round fills in the placeholders of one group
and nothing else, so all rounds together are one pass.
-/

namespace MediaPaths.Template

open Text

/-! ## Pieces that meet -/

/-- A placeholder is cut short: its digits are no group, but the first of them is one. -/
inductive Cut (n : Nat) : List Piece → Prop where
  | mk {k : Nat} {d : Char} {ps : List Piece} (hk : 1 ≤ k) (hn : k < n) (hd : Nat.toDigits 10 k = [d]) :
      Cut n (.plain '$' :: .plain 'G' :: .plain d :: ps)

/-- The text of a group may complete a placeholder that begins before it: that of the query, that of an earlier group
without digits, or that of a group whose number begins with the digits that stand there. -/
inductive Joins : Nat → List Piece → Prop where
  | query {w x : List Char} {k : Nat} {ps : List Piece} (hx : x ≠ []) (hw : queryMark = '$' :: (w ++ x)) :
      Joins k (.plain '$' :: (w.map .plain ++ .group k :: ps))
  | number {k : Nat} {ps : List Piece} (hk : 2 ≤ k) : Joins k (.plain '$' :: .plain 'G' :: .group k :: ps)
  | digits {a k : Nat} {ps : List Piece} (h : 10 * a < k) : Joins k (.group a :: .group k :: ps)

/-- No placeholder of the source is cut short, and no text of a group may complete one. -/
def IsClear (n : Nat) (source : String) : Prop :=
  ∀ ps, ps <:+ pieces n source.toList → ¬ Cut n ps ∧ ∀ k, ¬ Joins k ps

/-! ## Rounds -/

/-- What is left of a text when the groups from `i` on have been filled in. -/
def fillFrom (groups : List String) (i : Nat) (s : List Char) : List Char :=
  (groups.zipIdx.drop i).foldr (fun g s => replaceAll (groupMark g.2) g.1.toList s) s

/-- The text in the place of a piece when the groups from `i` on have been filled in. -/
def Piece.textFrom (groups : List String) (i : Nat) : Piece → List Char
  | plain c => [c]
  | group k => if i ≤ k then groupText groups k else groupMark k
  | query => queryMark

variable {groups : List String} {n b i : Nat} {s : List Char} {ps qs : List Piece}

theorem fillGroups_eq (groups : List String) (s : List Char) : fillGroups groups s = fillFrom groups 1 s := by
  rw [fillGroups, List.foldl_reverse]
  rfl

theorem fillFrom_of_length_le (h : groups.length ≤ i) : fillFrom groups i s = s := by
  rw [fillFrom, List.drop_of_length_le (by simpa using h)]
  rfl

theorem fillFrom_of_lt (h : i < groups.length) :
    fillFrom groups i s = replaceAll (groupMark i) (groupText groups i) (fillFrom groups (i + 1) s) := by
  rw [fillFrom, List.drop_eq_getElem_cons (by simpa using h), List.foldr_cons]
  simp [fillFrom, groupText, List.getD_eq_getElem?_getD, h]

/-! ## One round -/

/-- What becomes of a text `x` when `r` takes the place of the placeholder `'$' :: m` in it and in the `rest` behind
it: it is the placeholder itself, it has no placeholder, or it begins one that goes on differently. -/
inductive Turns (m r rest : List Char) : List Char → List Char → Prop where
  | placed : Turns m r rest ('$' :: m) r
  | free {x : List Char} (h : '$' ∉ x) : Turns m r rest x x
  | kept {x : List Char} (hx : '$' ∉ x) (h : ¬ '$' :: m <+: '$' :: (x ++ rest)) : Turns m r rest ('$' :: x) ('$' :: x)

theorem Turns.replaceAll {m r rest x y : List Char} (h : Turns m r rest x y) :
    replaceAll ('$' :: m) r (x ++ rest) = y ++ replaceAll ('$' :: m) r rest := by
  cases h with
  | placed => exact replaceAll_append_self (by simp)
  | free h => exact replaceAll_append_of_notMem h rest
  | kept hx h =>
    rw [List.cons_append, replaceAll_cons_of_not (by simpa [← Bool.not_eq_true, List.isPrefixOf_iff_prefix] using h),
      replaceAll_append_of_notMem hx, List.cons_append]

theorem replaceAll_flatMap {m r : List Char} {f g : Piece → List Char}
    (h : ∀ p qs, p :: qs <:+ ps → Turns m r (qs.flatMap f) (f p) (g p)) :
    replaceAll ('$' :: m) r (ps.flatMap f) = ps.flatMap g := by
  induction ps with
  | nil => rfl
  | cons p ps ih =>
    rw [List.flatMap_cons, List.flatMap_cons, (h p ps List.suffix_rfl).replaceAll,
      ih fun p' qs hqs => h p' qs (hqs.trans (List.suffix_cons p ps))]

/-! ## No other placeholder comes about -/

theorem dollar_notMem_digits (k : Nat) : '$' ∉ 'G' :: Nat.toDigits 10 k := by
  intro h
  rcases List.mem_cons.1 h with h | h
  · exact absurd h (by decide)
  · exact absurd (isDigit_of_mem_digits h) (by decide)

/-- A letter or digit at the front of what is left stands for itself, if a group that stands there instead and has
been filled in has the text `-`. -/
theorem exists_plain_of_prefix {d : Char} {x : List Char} (hdollar : d ≠ '$') (hdash : d ≠ '-')
    (hgroup : ∀ k qs', qs = .group k :: qs' → i < k → groupText groups k = ['-'])
    (h : d :: x <+: qs.flatMap (Piece.textFrom groups (i + 1))) :
    ∃ qs', qs = .plain d :: qs' ∧ x <+: qs'.flatMap (Piece.textFrom groups (i + 1)) := by
  cases qs with
  | nil => simp at h
  | cons p qs =>
    rw [List.flatMap_cons] at h
    cases p with
    | plain c =>
      obtain ⟨rfl, hx⟩ := List.cons_prefix_cons.1 h
      exact ⟨qs, rfl, hx⟩
    | group k =>
      by_cases hik : i + 1 ≤ k
      · rw [Piece.textFrom, if_pos hik, hgroup k qs rfl hik] at h
        exact absurd (List.cons_prefix_cons.1 h).1 hdash
      · rw [Piece.textFrom, if_neg hik, groupMark_eq] at h
        exact absurd (List.cons_prefix_cons.1 h).1 hdollar
    | query =>
      rw [Piece.textFrom, queryMark_eq] at h
      exact absurd (List.cons_prefix_cons.1 h).1 hdollar

theorem isDigit_of_digits {k : Nat} {d : Char} {ds : List Char} (h : Nat.toDigits 10 k = d :: ds) :
    d.isDigit = true :=
  isDigit_of_mem_digits (by rw [h]; exact List.mem_cons_self ..)

theorem ne_of_isDigit {c d : Char} (hc : c.isDigit = true) (hd : d.isDigit = false) : c ≠ d := by
  rintro rfl
  rw [hc] at hd
  cases hd

/-- A dollar sign that stands for itself does not become the placeholder of group `i`. -/
theorem not_prefix_plain (hi : 1 ≤ i) (hn : i < n) (hcut : ¬ Cut n (.plain '$' :: qs))
    (hjoin : ∀ k, Joins k (.plain '$' :: qs) → i < k → groupText groups k = ['-']) :
    ¬ groupMark i <+: '$' :: qs.flatMap (Piece.textFrom groups (i + 1)) := by
  intro h
  have hletter : ∀ k qs', qs = .group k :: qs' → i < k → groupText groups k = ['-'] := by
    rintro k qs' rfl hik
    exact hjoin k (.query (w := []) (by decide) queryMark_eq) hik
  obtain ⟨qs, rfl, hdigits⟩ := exists_plain_of_prefix (by decide) (by decide) hletter (List.cons_prefix_cons.1 h).2
  cases hd : Nat.toDigits 10 i with
  | nil => exact Nat.toDigits_ne_nil hd
  | cons d ds =>
    have hdigit := isDigit_of_digits hd
    have hnumber : ∀ k qs', qs = .group k :: qs' → i < k → groupText groups k = ['-'] := by
      rintro k qs' rfl hik
      exact hjoin k (.number (by omega)) hik
    obtain ⟨qs, rfl, -⟩ := exists_plain_of_prefix (ne_of_isDigit hdigit (by decide))
      (ne_of_isDigit hdigit (by decide)) hnumber (hd ▸ hdigits)
    obtain ⟨k, hk, hki, hkd⟩ := exists_firstDigit hi hd
    exact hcut ⟨hk, by omega, hkd⟩

/-- The placeholder of a group does not become that of a later one. -/
theorem not_prefix_group {a : Nat} (ha : a < i) (hs : ∀ c qs', qs = .plain c :: qs' → c.isDigit = false)
    (hjoin : ∀ k, Joins k (.group a :: qs) → i < k → groupText groups k = ['-']) :
    ¬ groupMark i <+: groupMark a ++ qs.flatMap (Piece.textFrom groups (i + 1)) := by
  intro h
  have hdigits : Nat.toDigits 10 i <+: Nat.toDigits 10 a ++ qs.flatMap (Piece.textFrom groups (i + 1)) :=
    (List.cons_prefix_cons.1 (List.cons_prefix_cons.1 h).2).2
  obtain ⟨x, hx⟩ : Nat.toDigits 10 a <+: Nat.toDigits 10 i := by
    rcases List.prefix_or_prefix_of_prefix hdigits (List.prefix_append ..) with ⟨x, hx⟩ | hle
    · by_cases hnil : x = []
      · exact ⟨[], by simpa [hnil] using hx.symm⟩
      · have := ten_mul_le_of_digits hnil hx.symm
        omega
    · exact hle
  rw [← hx, List.prefix_append_right_inj] at hdigits
  cases x with
  | nil => exact absurd (digits_injective (by simpa using hx)) (by omega)
  | cons d x =>
    have hdigit : d.isDigit = true := isDigit_of_mem_digits (k := i) (by simp [← hx])
    have hten := ten_mul_le_of_digits (List.cons_ne_nil d x) hx.symm
    have hnumber : ∀ k qs', qs = .group k :: qs' → i < k → groupText groups k = ['-'] := by
      rintro k qs' rfl hik
      exact hjoin k (.digits (by omega)) hik
    obtain ⟨qs', rfl, -⟩ := exists_plain_of_prefix (ne_of_isDigit hdigit (by decide))
      (ne_of_isDigit hdigit (by decide)) hnumber hdigits
    rw [hs d qs' rfl] at hdigit
    cases hdigit

/-- The placeholder of the query is not completed by what is left in the last round. -/
theorem exists_plains_of_prefix {w x : List Char} (hw : queryMark = '$' :: (w ++ x))
    (hjoin : ∀ k, ¬ Joins k (.plain '$' :: (w.map .plain ++ qs))) (h : x <+: qs.flatMap (Piece.textFrom groups 1)) :
    ∃ qs', qs = x.map .plain ++ qs' := by
  induction x generalizing w qs with
  | nil => exact ⟨qs, rfl⟩
  | cons d x ih =>
    have hmem : d ∈ queryMark.tail := by simp [hw]
    have hother : ∀ c ∈ queryMark.tail, c ≠ '$' ∧ c ≠ '-' := by simp [queryMark_eq]
    have hgroup : ∀ k qs', qs = .group k :: qs' → 0 < k → groupText groups k = ['-'] := by
      rintro k qs' rfl -
      exact absurd (.query (List.cons_ne_nil d x) hw) (hjoin k)
    obtain ⟨qs, rfl, hx⟩ := exists_plain_of_prefix (hother d hmem).1 (hother d hmem).2 hgroup h
    obtain ⟨qs', rfl⟩ := ih (w := w ++ [d]) (by simpa using hw) (by simpa using hjoin) hx
    exact ⟨qs', rfl⟩

theorem Reads.plains_prefix {w : List Char} (h : Reads n s (w.map .plain ++ qs)) : w <+: s := by
  induction w generalizing s with
  | nil => exact List.nil_prefix
  | cons c w ih =>
    cases h with
    | plain _ h => exact List.cons_prefix_cons.2 ⟨rfl, ih h⟩

theorem not_prefix_query (hreads : Reads n s (.plain '$' :: qs)) (hjoin : ∀ k, ¬ Joins k (.plain '$' :: qs)) :
    ¬ queryMark <+: '$' :: qs.flatMap (Piece.textFrom groups 1) := by
  intro h
  rw [queryMark_eq] at h
  obtain ⟨qs, rfl⟩ := exists_plains_of_prefix (w := []) queryMark_eq hjoin (List.cons_prefix_cons.1 h).2
  cases hreads with
  | plain hq h =>
    rw [queryMark_eq] at hq
    exact hq (List.cons_prefix_cons.2 ⟨rfl, h.plains_prefix⟩)

/-! ## All rounds -/

theorem Reads.not_isDigit {a : Nat} (h : Reads n s (.group a :: qs)) :
    ∀ c qs', qs = .plain c :: qs' → c.isDigit = false := by
  rintro c qs' rfl
  cases h with
  | group _ _ hs h =>
    cases h with
    | plain _ _ => exact hs c rfl

theorem Reads.flatMap_textFrom (h : Reads n s ps) (groups : List String) (hi : n ≤ i) :
    ps.flatMap (Piece.textFrom groups i) = s := by
  induction h with
  | nil => rfl
  | @group k _ _ _ hn _ _ ih => simp [Piece.textFrom, ih, show ¬ i ≤ k by omega]
  | query _ ih => simp [Piece.textFrom, ih]
  | plain _ _ ih => simp [Piece.textFrom, ih]

/-- The round of group `i` fills in its placeholders. -/
theorem replaceAll_group (hi : 1 ≤ i) (hn : i < n) (hv : ∀ k, '$' ∉ groupText groups k) (hreads : Reads n s ps)
    (hcut : ∀ qs, qs <:+ ps → ¬ Cut n qs)
    (hjoin : ∀ qs, qs <:+ ps → ∀ k, Joins k qs → i < k → groupText groups k = ['-']) :
    replaceAll (groupMark i) (groupText groups i) (ps.flatMap (Piece.textFrom groups (i + 1))) =
      ps.flatMap (Piece.textFrom groups i) := by
  refine replaceAll_flatMap fun p qs hqs => ?_
  cases p with
  | plain c =>
    by_cases hc : c = '$'
    · subst hc
      exact .kept (x := []) (by simp) (not_prefix_plain hi hn (hcut _ hqs) (hjoin _ hqs))
    · exact .free (by simpa [Piece.textFrom] using Ne.symm hc)
  | group k =>
    obtain ⟨t, ht⟩ := hreads.suffix hqs
    rcases Nat.lt_trichotomy k i with hki | rfl | hki
    · simp only [Piece.textFrom, show ¬ i + 1 ≤ k by omega, show ¬ i ≤ k by omega, if_false]
      exact .kept (dollar_notMem_digits k) (not_prefix_group hki ht.not_isDigit (hjoin _ hqs))
    · simp only [Piece.textFrom, show ¬ k + 1 ≤ k by omega, Nat.le_refl, if_false, if_true]
      exact .placed
    · simp only [Piece.textFrom, show i + 1 ≤ k by omega, show i ≤ k by omega, if_true]
      exact .free (hv k)
  | query =>
    simp only [Piece.textFrom, queryMark_eq]
    exact .kept (by decide) (by simp)

/-- The rounds down to group `i` fill in the placeholders of these groups, where groups above `i` that might complete
other placeholders have the text `-`. -/
theorem fillFrom_eq (hi : 1 ≤ i) (hv : ∀ k, '$' ∉ groupText groups k)
    (hreads : Reads groups.length s ps) (hcut : ∀ qs, qs <:+ ps → ¬ Cut groups.length qs)
    (hjoin : ∀ qs, qs <:+ ps → ∀ k, Joins k qs → i < k → groupText groups k = ['-']) :
    fillFrom groups i s = ps.flatMap (Piece.textFrom groups i) := by
  induction hd : groups.length - i generalizing i with
  | zero =>
    rw [fillFrom_of_length_le (by omega), hreads.flatMap_textFrom groups (by omega)]
  | succ d ih =>
    rw [fillFrom_of_lt (by omega), ih (by omega) (fun qs hqs k hk hik => hjoin qs hqs k hk (by omega))
      (by omega)]
    exact replaceAll_group hi (by omega) hv hreads hcut hjoin

/-- The last round fills in the query. -/
theorem replaceAll_query (hv : ∀ k, '$' ∉ groupText groups k) (hreads : Reads n s ps)
    (hjoin : ∀ qs, qs <:+ ps → ∀ k, ¬ Joins k qs) (query : String) :
    replaceAll queryMark query.toList (ps.flatMap (Piece.textFrom groups 1)) = ps.flatMap (Piece.text groups query) := by
  rw [queryMark_eq]
  refine replaceAll_flatMap fun p qs hqs => ?_
  obtain ⟨t, ht⟩ := hreads.suffix hqs
  cases p with
  | plain c =>
    by_cases hc : c = '$'
    · subst hc
      exact .kept (x := []) (by simp) (queryMark_eq ▸ not_prefix_query ht (hjoin _ hqs))
    · exact .free (by simpa [Piece.textFrom] using Ne.symm hc)
  | group k =>
    cases ht with
    | group hk _ _ _ =>
      simp only [Piece.textFrom, Piece.text, hk, if_true]
      exact .free (hv k)
  | query =>
    simp only [Piece.textFrom, queryMark_eq]
    exact .placed

/-- A clear source is filled in at once. -/
theorem fill_of_isClear {source : String} (h : IsClear groups.length source) (hv : ∀ k, '$' ∉ groupText groups k)
    (query : String) : fill source groups query = simultaneous source groups query := by
  have hreads := reads_pieces groups.length source.toList
  rw [fill, simultaneous, fillGroups_eq, fillFrom_eq (Nat.le_refl 1) hv hreads (fun qs hqs => (h qs hqs).1)
    fun qs hqs k hk => absurd hk ((h qs hqs).2 k), replaceAll_query hv hreads fun qs hqs => (h qs hqs).2]

end MediaPaths.Template
