import Mathlib.Algebra.BigOperators.Group.List.Basic
import Mathlib.Algebra.Ring.Nat
import Mathlib.Data.List.TakeWhile
import MediaPaths.Entry.Codec

/-!
# The grammar of durations

A duration is a bare `0`, or groups one behind the other, each a number with a unit behind it. No character of a
number occurs in a unit, so a text is made up of groups in one way at most: `groupsFrom` cuts it in that way if it can
be cut at all. What is denoted is the sum of the groups, and the order in which they stand does not matter for it.
-/

namespace MediaPaths

namespace Duration

/-! ## Numbers -/

/-- A number: digits with one point at most, at least one of them. -/
def IsNumber (s : List Char) : Prop :=
  (∀ c ∈ s, c.isDigit = true ∨ c = '.') ∧ s.count '.' ≤ 1 ∧ ∃ c ∈ s, c.isDigit = true

instance (s : List Char) : Decidable (IsNumber s) := inferInstanceAs (Decidable (_ ∧ _))

variable {s t u m n whole fraction : List Char} {c : Char}

/-- The point of a decimal is no digit. -/
theorem digit_ne_point (h : c.isDigit = true) : c ≠ '.' := by
  rintro rfl
  revert h
  decide

/-- Numbers are written with digits and a point. -/
theorem isNumeral_iff : isNumeral c = true ↔ c.isDigit = true ∨ c = '.' := by
  simp [isNumeral]

/-- The digits before the point and those behind it, as one number and as many places. -/
theorem decimal?_parts (hw : ∀ c ∈ whole, c.isDigit = true) (hf : ∀ c ∈ fraction, c.isDigit = true)
    (hne : whole ++ fraction ≠ []) (hs : s = whole ∧ fraction = [] ∨ s = whole ++ '.' :: fraction) :
    decimal? s = some (Nat.ofDigitChars 10 (whole ++ fraction) 0, 10 ^ fraction.length) := by
  have hpoint : ('.' : Char).isDigit = false := by decide
  have hall : fraction.all Char.isDigit = true := List.all_eq_true.2 hf
  have hvalue : (whole ++ fraction).foldl (fun n c => n * 10 + (c.toNat - '0'.toNat)) 0 =
      Nat.ofDigitChars 10 (whole ++ fraction) 0 := by
    unfold Nat.ofDigitChars
    simp only [Nat.mul_comm]
  rcases hs with ⟨rfl, rfl⟩ | rfl
  · have htake : s.takeWhile Char.isDigit = s := List.takeWhile_eq_self_iff.2 hw
    have hdrop : s.dropWhile Char.isDigit = [] := List.dropWhile_eq_nil_iff.2 hw
    rw [List.append_nil] at hne hvalue
    simp only [decimal?, htake, hdrop, List.drop_nil, List.append_nil, hvalue]
    simp [hne]
  · have htake : (whole ++ '.' :: fraction).takeWhile Char.isDigit = whole := by
      rw [List.takeWhile_append_of_pos hw, List.takeWhile_cons_of_neg (by simp [hpoint]), List.append_nil]
    have hdrop : (whole ++ '.' :: fraction).dropWhile Char.isDigit = '.' :: fraction := by
      rw [List.dropWhile_append_of_pos hw, List.dropWhile_cons_of_neg (by simp [hpoint])]
    simp only [decimal?, htake, hdrop, List.drop_succ_cons, List.drop_zero, hvalue]
    simp [hall, hne]

/-- A number has digits before the point and after it, and not both may be missing. -/
theorem IsNumber.exists_parts (h : IsNumber s) : ∃ whole fraction, (∀ c ∈ whole, c.isDigit = true) ∧
    (∀ c ∈ fraction, c.isDigit = true) ∧ whole ++ fraction ≠ [] ∧
    (s = whole ∧ fraction = [] ∨ s = whole ++ '.' :: fraction) := by
  obtain ⟨hchars, hcount, d, hd, hdigit⟩ := h
  have hwhole : ∀ c ∈ s.takeWhile Char.isDigit, c.isDigit = true := fun c hc => List.mem_takeWhile_imp hc
  have hsplit : s.takeWhile Char.isDigit ++ s.dropWhile Char.isDigit = s := List.takeWhile_append_dropWhile
  cases hrest : s.dropWhile Char.isDigit with
  | nil =>
    rw [hrest, List.append_nil] at hsplit
    rw [hsplit] at hwhole
    refine ⟨s, [], hwhole, by simp, ?_, .inl ⟨rfl, rfl⟩⟩
    rw [List.append_nil]
    exact List.ne_nil_of_mem hd
  | cons c r =>
    rw [hrest] at hsplit
    have hc : c.isDigit = false := by
      have := List.head?_dropWhile_not Char.isDigit s
      simpa [hrest] using this
    obtain rfl : c = '.' := by
      have hmem : c ∈ s := hsplit ▸ List.mem_append_right _ (List.mem_cons_self ..)
      simpa [hc] using hchars c hmem
    -- The point is there already, so what follows it are digits.
    have hnone : '.' ∉ r := by
      rw [← hsplit, List.count_append, List.count_cons_self] at hcount
      exact List.count_eq_zero.1 (by omega)
    have hr : ∀ c ∈ r, c.isDigit = true := by
      intro c hc
      have hne : c ≠ '.' := fun heq => hnone (heq ▸ hc)
      have hmem : c ∈ s := hsplit ▸ List.mem_append_right _ (List.mem_cons_of_mem _ hc)
      exact (hchars c hmem).resolve_right hne
    refine ⟨s.takeWhile Char.isDigit, r, hwhole, hr, ?_, .inr hsplit.symm⟩
    rw [← hsplit, List.mem_append, List.mem_cons] at hd
    rcases hd with hd | rfl | hd
    · exact List.ne_nil_of_mem (List.mem_append_left _ hd)
    · exact absurd rfl (digit_ne_point hdigit)
    · exact List.ne_nil_of_mem (List.mem_append_right _ hd)

/-- What has such parts is a number, as it has one point at most. -/
theorem isNumber_of_parts (hw : ∀ c ∈ whole, c.isDigit = true) (hf : ∀ c ∈ fraction, c.isDigit = true)
    (hne : whole ++ fraction ≠ []) (hs : s = whole ∧ fraction = [] ∨ s = whole ++ '.' :: fraction) :
    IsNumber s := by
  have hnone : ∀ {l : List Char}, (∀ c ∈ l, c.isDigit = true) → l.count '.' = 0 := by
    intro l hl
    exact List.count_eq_zero.2 fun hmem => digit_ne_point (hl _ hmem) rfl
  obtain ⟨d, hd⟩ := List.exists_mem_of_ne_nil _ hne
  rcases hs with ⟨rfl, rfl⟩ | rfl
  · rw [List.append_nil] at hd
    exact ⟨fun c hc => .inl (hw c hc), by rw [hnone hw]; omega, d, hd, hw d hd⟩
  · refine ⟨fun c hc => ?_, ?_, d, ?_, ?_⟩
    · rw [List.mem_append, List.mem_cons] at hc
      rcases hc with hc | rfl | hc
      · exact .inl (hw c hc)
      · exact .inr rfl
      · exact .inl (hf c hc)
    · rw [List.count_append, List.count_cons_self, hnone hw, hnone hf]
    · rw [List.mem_append] at hd ⊢
      exact hd.imp_right (List.mem_cons_of_mem _)
    · rcases List.mem_append.1 hd with hd | hd
      · exact hw d hd
      · exact hf d hd

/-- The numbers are what can be read as a decimal. -/
theorem exists_decimal?_iff : (∃ x, decimal? s = some x) ↔ IsNumber s := by
  constructor
  · rintro ⟨x, h⟩
    unfold decimal? at h
    dsimp only at h
    split at h
    · rename_i hall
      simp only [Bool.and_eq_true, Bool.or_eq_true, List.isEmpty_iff, beq_iff_eq, Bool.not_eq_true',
        List.isEmpty_eq_false_iff] at hall
      obtain ⟨⟨hrest, hfraction⟩, hne⟩ := hall
      have hsplit : s.takeWhile Char.isDigit ++ s.dropWhile Char.isDigit = s := List.takeWhile_append_dropWhile
      refine isNumber_of_parts (fun c hc => List.mem_takeWhile_imp hc) (List.all_eq_true.1 hfraction) hne ?_
      rcases hrest with hrest | hrest
      · rw [hrest, List.append_nil] at hsplit
        exact .inl ⟨hsplit.symm, by rw [hrest]; rfl⟩
      · obtain ⟨r, hr⟩ := List.head?_eq_some_iff.1 hrest
        exact .inr (by rw [hr] at hsplit ⊢; exact hsplit.symm)
    · cases h
  · intro h
    obtain ⟨whole, fraction, hw, hf, hne, hs⟩ := h.exists_parts
    exact ⟨_, decimal?_parts hw hf hne hs⟩

/-! ## Groups -/

/-- A number with a unit. -/
structure Group where
  /-- The number. -/
  number : List Char
  /-- The unit behind it. -/
  unit : TimeUnit
  /-- The number is one. -/
  isNumber : IsNumber number

namespace Group

/-- How a group is written. -/
def text (g : Group) : List Char := g.number ++ g.unit.symbol

/-- A group as it is cut from a text. -/
def parts (g : Group) : List Char × List Char := (g.number, g.unit.symbol)

/-- The length of a group, if in range. -/
def value? (g : Group) : Option Duration := (decimal? g.number).bind (groupValue? · g.unit)

end Group

/-- The sum of some groups, if they and it are in range. -/
def total? (gs : List Group) : Option Duration :=
  (gs.mapM Group.value?).bind fun ds => ofNanos? (ds.map nanos).sum

/-- A text is made up of some groups. -/
def MadeOf (t : List Char) (gs : List Group) : Prop := gs ≠ [] ∧ gs.flatMap Group.text = t

variable {g g' : Group} {gs gs' : List Group} {p : List Char × List Char} {ps : List (List Char × List Char)}
  {d e total : Duration}

/-- The number of a group is all numerals. -/
theorem isNumeral_of_mem_number (h : c ∈ g.number) : isNumeral c = true :=
  isNumeral_iff.2 (g.isNumber.1 c h)

/-- No unit is written with numerals, so the text of a group splits in one way only. -/
theorem not_isNumeral_of_mem_symbol {unit : TimeUnit} (h : c ∈ unit.symbol) : isNumeral c = false := by
  have hall : ∀ unit : TimeUnit, unit.symbol.all (! isNumeral ·) = true := by
    intro unit
    cases unit <;> decide
  simpa using List.all_eq_true.1 (hall unit) c h

/-- Every unit is written with something. -/
theorem symbol_ne_nil (unit : TimeUnit) : unit.symbol ≠ [] := by
  cases unit <;> decide

/-- Units are told apart by their symbols. -/
theorem symbol_injective {v w : TimeUnit} (h : v.symbol = w.symbol) : v = w := by
  have hv := TimeUnit.ofSymbol?_symbol v
  rw [h, TimeUnit.ofSymbol?_symbol w] at hv
  exact (Option.some.inj hv).symm

/-- A unit is read off its own symbol only. -/
theorem ofSymbol?_eq_some {v : TimeUnit} (h : TimeUnit.ofSymbol? u = some v) : u = v.symbol := by
  have := List.find?_some h
  exact (by simpa using this : v.symbol = u).symm

/-- A group has a number; a unit alone is not one. -/
theorem number_ne_nil (g : Group) : g.number ≠ [] := by
  obtain ⟨-, -, d, hd, -⟩ := g.isNumber
  exact List.ne_nil_of_mem hd

/-- A group is told by its number and its unit. -/
theorem parts_injective (h : g.parts = g'.parts) : g = g' := by
  obtain ⟨number, unit, hg⟩ := g
  obtain ⟨number', unit', hg'⟩ := g'
  obtain ⟨rfl, hunit⟩ := Prod.mk.inj h
  obtain rfl := symbol_injective hunit
  rfl

/-! ## Cutting a text into groups -/

/-- Numerals at the front go to the number of the group that has begun. -/
theorem groupsFrom_number (h : ∀ c ∈ m, isNumeral c = true) (n s : List Char) :
    groupsFrom n [] (m ++ s) = groupsFrom (n ++ m) [] s := by
  induction m generalizing n with
  | nil => simp
  | cons c m ih =>
    have hc := h c (List.mem_cons_self ..)
    rw [List.cons_append, groupsFrom, if_pos hc, List.isEmpty_nil, if_pos rfl,
      ih fun c hc => h c (List.mem_cons_of_mem _ hc), List.append_assoc, List.singleton_append]

/-- What follows up to the next numeral goes to its unit. -/
theorem groupsFrom_unit (h : ∀ c ∈ u, isNumeral c = false) (n v s : List Char) :
    groupsFrom n v (u ++ s) = groupsFrom n (v ++ u) s := by
  induction u generalizing v with
  | nil => simp
  | cons c u ih =>
    have hc := h c (List.mem_cons_self ..)
    rw [List.cons_append, groupsFrom, if_neg (by simp [hc]), ih fun c hc => h c (List.mem_cons_of_mem _ hc),
      List.append_assoc, List.singleton_append]

/-- A numeral behind a unit begins a new group. -/
theorem groupsFrom_next (hu : u ≠ []) (hc : isNumeral c = true) (n s : List Char) :
    groupsFrom n u (c :: s) = (n, u) :: groupsFrom [] [] (c :: s) := by
  have hempty : u.isEmpty = false := by simpa using hu
  rw [groupsFrom, if_pos hc, hempty, groupsFrom, if_pos hc]
  rfl

/-- A group is split off the front of the text as it was written. -/
theorem groupsFrom_text (g : Group) (s : List Char) :
    groupsFrom [] [] (g.text ++ s) = groupsFrom g.number g.unit.symbol s := by
  rw [Group.text, List.append_assoc, groupsFrom_number fun _ => isNumeral_of_mem_number,
    groupsFrom_unit fun _ => not_isNumeral_of_mem_symbol, List.nil_append, List.nil_append]

/-- What is made up of groups is cut into them. -/
theorem MadeOf.cut (h : MadeOf t gs) : groupsFrom [] [] t = gs.map Group.parts := by
  obtain ⟨hne, rfl⟩ := h
  obtain ⟨g, gs, rfl⟩ := List.exists_cons_of_ne_nil hne
  clear hne
  induction gs generalizing g with
  | nil =>
    rw [List.flatMap_singleton, ← List.append_nil g.text, groupsFrom_text]
    rfl
  | cons g' gs ih =>
    have hnext := ih g'
    obtain ⟨c, r, hc⟩ := List.exists_cons_of_ne_nil (number_ne_nil g')
    have hnumeral : isNumeral c = true := isNumeral_of_mem_number (g := g') (by simp [hc])
    have hbegin : ∃ r, (g' :: gs).flatMap Group.text = c :: r := by
      rw [List.flatMap_cons, Group.text, hc]
      exact ⟨_, rfl⟩
    obtain ⟨r, hr⟩ := hbegin
    rw [List.flatMap_cons, groupsFrom_text, hr, groupsFrom_next (symbol_ne_nil _) hnumeral, ← hr, hnext]
    rfl

/-- A text is made up of groups in one way at most. -/
theorem MadeOf.unique (h : MadeOf t gs) (h' : MadeOf t gs') : gs = gs' := by
  have heq : gs.map Group.parts = gs'.map Group.parts := h.cut.symm.trans h'.cut
  exact List.map_injective_iff.2 (fun _ _ => parts_injective) heq

/-- Splitting loses nothing: the parts written one after the other are the text again. -/
theorem flatMap_groupsFrom (n u s : List Char) :
    (groupsFrom n u s).flatMap (fun p => p.1 ++ p.2) = n ++ u ++ s := by
  fun_induction groupsFrom n u s with
  | case1 n u => simp
  | case2 n u c s hc hu ih =>
    obtain rfl := List.isEmpty_iff.1 hu
    simp [ih]
  | case3 n u c s hc hu ih => simp [ih]
  | case4 n u c s hc ih => simp [ih]

/-- There is always a group under way. -/
theorem groupsFrom_ne_nil (n u s : List Char) : groupsFrom n u s ≠ [] := by
  fun_induction groupsFrom n u s with
  | case1 | case3 => simp
  | case2 n u c s hc hu ih => exact ih
  | case4 n u c s hc ih => exact ih

/-! ## Adding up -/

theorem mapM_cons_eq_some {α β : Type} {f : α → Option β} {a : α} {as : List α} {bs : List β} :
    (a :: as).mapM f = some bs ↔ ∃ b bs', f a = some b ∧ as.mapM f = some bs' ∧ b :: bs' = bs := by
  rw [List.mapM_cons]
  simp only [Option.bind_eq_bind, Option.bind_eq_some_iff, Option.pure_def, Option.some.injEq,
    exists_and_left]

/-- All answers are there just when each of them is. -/
theorem mapM_eq_some {α β : Type} {f : α → Option β} {as : List α} {bs : List β} :
    as.mapM f = some bs ↔ as.map f = bs.map some := by
  induction as generalizing bs with
  | nil => cases bs <;> simp
  | cons a as ih =>
    rw [mapM_cons_eq_some]
    cases bs with
    | nil => simp
    | cons b bs => simp [ih]

/-- If all answers are there, they are in any other order as well, in that order. -/
theorem exists_mapM_perm {α β : Type} {f : α → Option β} {as as' : List α} {bs : List β} (h : as.Perm as')
    (hbs : as.mapM f = some bs) : ∃ bs', as'.mapM f = some bs' ∧ bs.Perm bs' := by
  induction h generalizing bs with
  | nil => exact ⟨bs, hbs, List.Perm.refl bs⟩
  | cons a h ih =>
    obtain ⟨b, cs, hb, hcs, rfl⟩ := mapM_cons_eq_some.1 hbs
    obtain ⟨cs', hcs', hperm⟩ := ih hcs
    exact ⟨b :: cs', mapM_cons_eq_some.2 ⟨b, cs', hb, hcs', rfl⟩, hperm.cons b⟩
  | swap a a' as =>
    obtain ⟨b', more, hb', hmore, rfl⟩ := mapM_cons_eq_some.1 hbs
    obtain ⟨b, cs, hb, hcs, rfl⟩ := mapM_cons_eq_some.1 hmore
    have hrest : (a' :: as).mapM f = some (b' :: cs) := mapM_cons_eq_some.2 ⟨b', cs, hb', hcs, rfl⟩
    exact ⟨b :: b' :: cs, mapM_cons_eq_some.2 ⟨b, _, hb, hrest, rfl⟩, List.Perm.swap b b' cs⟩
  | trans _ _ ih ih' =>
    obtain ⟨bs', hbs', hperm⟩ := ih hbs
    obtain ⟨bs'', hbs'', hperm'⟩ := ih' hbs'
    exact ⟨bs'', hbs'', hperm.trans hperm'⟩

/-- A group is read as its number, then its unit, then the product of both. -/
theorem readGroup?_eq (number unit : List Char) : readGroup? (number, unit) =
    (decimal? number).bind fun x => (TimeUnit.ofSymbol? unit).bind fun v => groupValue? x v := by
  rw [readGroup?]
  rfl

-- The function is kept a variable here: no step has to compare two values of groups.
theorem bind_known {α β γ : Type} {x : Option α} {y : Option β} {b : β} (h : y = some b)
    (f : α → β → Option γ) : (x.bind fun a => y.bind fun b => f a b) = x.bind fun a => f a b := by
  subst h
  rfl

/-- The parts of a group are read as its value. -/
theorem readGroup?_parts (g : Group) : readGroup? g.parts = g.value? :=
  (readGroup?_eq _ _).trans (bind_known (TimeUnit.ofSymbol?_symbol g.unit) groupValue?)

/-- What can be read as a group is the parts of one. -/
theorem exists_group (h : readGroup? p = some d) : ∃ g : Group, g.parts = p := by
  obtain ⟨x, hx, h⟩ := Option.bind_eq_some_iff.1 h
  obtain ⟨unit, hunit, -⟩ := Option.bind_eq_some_iff.1 h
  refine ⟨⟨p.1, unit, exists_decimal?_iff.1 ⟨x, hx⟩⟩, ?_⟩
  rw [Group.parts, ← ofSymbol?_eq_some hunit]

/-- What can be read as groups is the parts of some. -/
theorem exists_groups {ds : List Duration} (h : ps.mapM readGroup? = some ds) :
    ∃ gs : List Group, gs.map Group.parts = ps := by
  induction ps generalizing ds with
  | nil => exact ⟨[], rfl⟩
  | cons p ps ih =>
    obtain ⟨d, ds, hd, hds, -⟩ := mapM_cons_eq_some.1 h
    obtain ⟨g, rfl⟩ := exists_group hd
    obtain ⟨gs, rfl⟩ := ih hds
    exact ⟨g :: gs, rfl⟩

/-- All running sums are in range if the whole sum is. -/
theorem foldlM_add (ps : List (List Char × List Char)) (total : Duration) :
    ps.foldlM (fun total g => do total.add? (← readGroup? g)) total =
      (ps.mapM readGroup?).bind fun ds => ofNanos? (total.nanos + (ds.map nanos).sum) := by
  induction ps generalizing total with
  | nil =>
    rw [List.foldlM_nil, List.mapM_nil]
    exact (ofNanos?_eq_some.2 (by simp)).symm
  | cons p ps ih =>
    rw [List.foldlM_cons, List.mapM_cons]
    cases hp : readGroup? p with
    | none => rfl
    | some d =>
      show ((total.add? d).bind fun total => ps.foldlM _ total) =
        ((ps.mapM readGroup?).bind fun ds => some (d :: ds)).bind _
      rw [Option.bind_assoc]
      cases hsum : total.add? d with
      | some total' =>
        have hnanos := add?_eq_some.1 hsum
        show ps.foldlM _ total' = _
        rw [ih, hnanos]
        simp only [Option.bind_some, List.map_cons, List.sum_cons, Nat.add_assoc]
      | none =>
        have hover := add?_eq_none.1 hsum
        have hnone : ∀ ds : List Duration, ofNanos? (total.nanos + ((d :: ds).map nanos).sum) = none := by
          intro ds
          rw [ofNanos?, dif_neg]
          rw [List.map_cons, List.sum_cons]
          omega
        simp only [Option.bind_some, hnone, Option.bind_none, Option.bind_fun_none]

/-- Running sums over the parts are the total of the groups. -/
theorem sumGroups?_parts (gs : List Group) : sumGroups? (gs.map Group.parts) = total? gs := by
  have hread : readGroup? ∘ Group.parts = Group.value? := funext readGroup?_parts
  unfold sumGroups? total?
  rw [foldlM_add, List.mapM_map, hread]
  simp [zero]

/-- What is cut from a text has a sum if the text is made up of groups that have one. -/
theorem sumGroups?_groupsFrom :
    sumGroups? (groupsFrom [] [] t) = some d ↔ ∃ gs, MadeOf t gs ∧ total? gs = some d := by
  constructor
  · intro h
    have hread := h
    unfold sumGroups? at hread
    rw [foldlM_add] at hread
    obtain ⟨ds, hds, -⟩ := Option.bind_eq_some_iff.1 hread
    obtain ⟨gs, hgs⟩ := exists_groups hds
    refine ⟨gs, ⟨?_, ?_⟩, by rw [← sumGroups?_parts, hgs, h]⟩
    · rintro rfl
      exact groupsFrom_ne_nil [] [] t hgs.symm
    · have htext := flatMap_groupsFrom [] [] t
      rw [← hgs, List.flatMap_map] at htext
      exact htext
  · rintro ⟨gs, hgs, h⟩
    rw [hgs.cut, sumGroups?_parts, h]

/-- The total does not depend on the order: sums only grow, so an overflow in one order is one in every other. -/
theorem total?_perm (h : gs.Perm gs') : total? gs = total? gs' := by
  have hsome : ∀ {gs gs' : List Group} {d : Duration}, gs.Perm gs' → total? gs = some d → total? gs' = some d := by
    intro gs gs' d h hd
    obtain ⟨ds, hds, hsum⟩ := Option.bind_eq_some_iff.1 hd
    obtain ⟨ds', hds', hperm⟩ := exists_mapM_perm h hds
    rw [total?, hds', Option.bind_some, ← (hperm.map nanos).sum_eq, hsum]
  ext d
  exact ⟨hsome h, hsome h.symm⟩

/-- The total of two lists is the sum of their totals, if there is one. -/
theorem total?_append (h : total? gs = some d) (h' : total? gs' = some e) : total? (gs ++ gs') = d.add? e := by
  unfold total? at h h' ⊢
  obtain ⟨ds, hds, hd⟩ := Option.bind_eq_some_iff.1 h
  obtain ⟨es, hes, he⟩ := Option.bind_eq_some_iff.1 h'
  rw [List.mapM_append, hds, hes]
  show ofNanos? ((ds ++ es).map nanos).sum = _
  rw [List.map_append, List.sum_append, add?, ofNanos?_eq_some.1 hd, ofNanos?_eq_some.1 he]

/-! ## Reading -/

/-- Groups begin with a numeral and end with a unit, so there is no white space around them. -/
theorem MadeOf.trim_eq_self (h : MadeOf t gs) : Text.trim t = t := by
  have hnumeral : ∀ c, isNumeral c = true → Text.isBlank c = false := by
    intro c hc
    rcases isNumeral_iff.1 hc with hc | rfl
    · have hlow : 48 ≤ c.toNat ∧ c.toNat ≤ 57 := by
        simpa [Char.isDigit, Char.le_def, UInt32.le_iff_toNat_le] using hc
      simp only [Text.isBlank]
      simp
      omega
    · decide
  have hsymbol : ∀ (unit : TimeUnit) (c : Char), c ∈ unit.symbol → Text.isBlank c = false := by
    intro unit c hc
    have hall : unit.symbol.all (! Text.isBlank ·) = true := by cases unit <;> decide
    simpa using List.all_eq_true.1 hall c hc
  obtain ⟨hne, rfl⟩ := h
  refine Text.trim_eq_self (fun c hc => ?_) fun c hc => ?_
  · obtain ⟨g, gs, rfl⟩ := List.exists_cons_of_ne_nil hne
    obtain ⟨c', r, hr⟩ := List.exists_cons_of_ne_nil (number_ne_nil g)
    rw [List.flatMap_cons, Group.text, hr] at hc
    obtain rfl : c' = c := by simpa using hc
    exact hnumeral c' (isNumeral_of_mem_number (g := g) (by simp [hr]))
  · rw [← List.dropLast_append_getLast hne, List.flatMap_append, List.flatMap_singleton, Group.text] at hc
    rw [List.getLast?_append_of_ne_nil _ (by simp [symbol_ne_nil]),
      List.getLast?_append_of_ne_nil _ (symbol_ne_nil _)] at hc
    exact hsymbol _ c (List.mem_of_getLast? hc)

/-- A bare zero is no group, since it has no unit. -/
theorem MadeOf.ne_zero (h : MadeOf t gs) : t ≠ ['0'] := by
  rintro rfl
  have hcut := h.cut
  rw [show groupsFrom [] [] ['0'] = [(['0'], [])] from rfl] at hcut
  obtain ⟨g, gs, rfl⟩ := List.exists_cons_of_ne_nil h.1
  exact symbol_ne_nil g.unit (Prod.mk.inj (List.cons.inj hcut).1).2.symm

/-- What is read: a bare zero, or groups that have a total. -/
theorem read?_eq_some : read? s = some d ↔
    Text.trim s = ['0'] ∧ d = zero ∨ ∃ gs, MadeOf (Text.trim s) gs ∧ total? gs = some d := by
  unfold read?
  dsimp only
  split
  · rename_i hzero
    constructor
    · intro h
      exact .inl ⟨hzero, (Option.some.inj h).symm⟩
    · rintro (⟨-, rfl⟩ | ⟨gs, hgs, -⟩)
      · rfl
      · exact absurd hzero hgs.ne_zero
  · rename_i hzero
    have hsum : sumGroups? (groupsFrom [] [] (Text.trim s)) = some d ↔
        Text.trim s = ['0'] ∧ d = zero ∨ ∃ gs, MadeOf (Text.trim s) gs ∧ total? gs = some d := by
      rw [sumGroups?_groupsFrom]
      exact (or_iff_right fun h => hzero h.1).symm
    split
    · rename_i hempty
      rw [List.isEmpty_iff.1 hempty] at hsum ⊢
      rw [← hsum]
      simp [groupsFrom, sumGroups?, readGroup?, decimal?]
    · exact hsum

/-- In a document a duration is read as it is anywhere else. -/
theorem readDuration_eq_ok {s : String} : Codec.readDuration s = .ok d ↔ ofString? s = some d := by
  unfold Codec.readDuration
  cases ofString? s <;> simp

/-- The error names the text as it was written, blanks included. -/
theorem readDuration_error {s : String} (h : ofString? s = none) :
    Codec.readDuration s = .error (.broken ("invalid duration '" ++ s ++ "'")) := by
  unfold Codec.readDuration
  rw [h]
  rfl

/-- A text without white space around it that denotes a duration and is no bare `0` is made up of groups. -/
theorem exists_madeOf {s : String} (hzero : s ≠ "0") (htrim : Text.trim s.toList = s.toList)
    (h : ofString? s = some d) : ∃ gs, MadeOf s.toList gs ∧ total? gs = some d := by
  have hread := read?_eq_some.1 h
  rw [htrim] at hread
  refine hread.resolve_left fun hs => hzero ?_
  rw [← String.toList_inj, hs.1]
  rfl

/-- Two texts written one after the other are read as the sum. -/
theorem ofString?_append {a b : String} (ha : MadeOf a.toList gs) (hb : MadeOf b.toList gs') (hd : total? gs = some d)
    (he : total? gs' = some e) : ofString? (a ++ b) = d.add? e := by
  have hboth : MadeOf (a ++ b).toList (gs ++ gs') := by
    refine ⟨List.append_ne_nil_of_left_ne_nil ha.1 gs', ?_⟩
    rw [String.toList_append, List.flatMap_append, ha.2, hb.2]
  have hsum := total?_append hd he
  ext f
  show read? (a ++ b).toList = some f ↔ _
  rw [read?_eq_some, hboth.trim_eq_self, ← hsum]
  constructor
  · rintro (⟨hs, -⟩ | ⟨gs'', hgs, h⟩)
    · exact absurd hs hboth.ne_zero
    · rwa [hboth.unique hgs]
  · intro h
    exact .inr ⟨_, hboth, h⟩

/-- There is a total just when every group has a value and no running sum leaves the range. -/
theorem total?_eq_some : total? gs = some d ↔ ∃ ds : List Duration, gs.map Group.value? = ds.map some ∧
    (∀ k, ((ds.take k).map nanos).sum < limit) ∧ d.nanos = (ds.map nanos).sum := by
  unfold total?
  rw [Option.bind_eq_some_iff]
  constructor
  · rintro ⟨ds, hds, h⟩
    have hd := ofNanos?_eq_some.1 h
    refine ⟨ds, mapM_eq_some.1 hds, fun k => ?_, hd⟩
    have hle : ((ds.take k).map nanos).sum ≤ (ds.map nanos).sum := by
      conv_rhs => rw [← List.take_append_drop k ds, List.map_append, List.sum_append]
      exact Nat.le_add_right ..
    have := d.inRange
    omega
  · rintro ⟨ds, hds, -, hd⟩
    exact ⟨ds, mapM_eq_some.2 hds, ofNanos?_eq_some.2 hd⟩

/-- A text denotes a duration just if it is a bare `0` or made up of groups that have a sum, white space around it
apart; other texts are refused with their full text. It is made up of groups in one way, their order does not matter
for the sum, and a text behind another denotes the sum of both. -/
theorem readDuration_grammar :
    (∀ s d, Codec.readDuration s = .ok d ↔
      Text.trim s.toList = ['0'] ∧ d = zero ∨ ∃ gs, MadeOf (Text.trim s.toList) gs ∧ total? gs = some d) ∧
    (∀ gs d, total? gs = some d ↔ ∃ ds : List Duration, gs.map Group.value? = ds.map some ∧
      (∀ k, ((ds.take k).map nanos).sum < limit) ∧ d.nanos = (ds.map nanos).sum) ∧
    (∀ s, (¬ ∃ d, Codec.readDuration s = .ok d) →
      Codec.readDuration s = .error (.broken ("invalid duration '" ++ s ++ "'"))) ∧
    (∀ t gs gs', MadeOf t gs → MadeOf t gs' → gs = gs') ∧
    (∀ gs gs', gs.Perm gs' → total? gs = total? gs') ∧
    ∀ a b d e, a ≠ "0" → b ≠ "0" → Text.trim a.toList = a.toList → Text.trim b.toList = b.toList →
      Codec.readDuration a = .ok d → Codec.readDuration b = .ok e →
      Codec.readDuration (a ++ b) = match d.add? e with
        | some f => .ok f
        | none => .error (.broken ("invalid duration '" ++ (a ++ b) ++ "'")) := by
  refine ⟨fun s d => readDuration_eq_ok.trans read?_eq_some, fun _ _ => total?_eq_some, fun s h => ?_,
    fun _ _ _ => MadeOf.unique, fun _ _ => total?_perm, ?_⟩
  · refine readDuration_error (Option.eq_none_iff_forall_ne_some.2 fun d hd => h ⟨d, ?_⟩)
    exact readDuration_eq_ok.2 hd
  · intro a b d e ha hb hatrim hbtrim hd he
    obtain ⟨gs, hgs, hsum⟩ := exists_madeOf ha hatrim (readDuration_eq_ok.1 hd)
    obtain ⟨gs', hgs', hsum'⟩ := exists_madeOf hb hbtrim (readDuration_eq_ok.1 he)
    have hboth := ofString?_append hgs hgs' hsum hsum'
    cases hadd : d.add? e with
    | some f => exact readDuration_eq_ok.2 (hboth.trans hadd)
    | none => exact readDuration_error (hboth.trans hadd)

/-- Groups in any order, digits missing on either side of the point, two texts written together, and a text that a
blank spoils. -/
theorem readDuration_grammar_compound :
    Codec.readDuration "1h0m5s" = .ok ⟨3605 * second, by decide⟩ ∧
      Codec.readDuration ".5m1.s" = .ok ⟨31 * second, by decide⟩ ∧
      Codec.readDuration ("1h0m5s" ++ ".5m1.s") = .ok ⟨3636 * second, by decide⟩ ∧
      Codec.readDuration " 1h 5s" = .error (.broken "invalid duration ' 1h 5s'") := by
  have ha : Codec.readDuration "1h0m5s" = .ok ⟨3605 * second, by decide⟩ := by decide +kernel
  have hb : Codec.readDuration ".5m1.s" = .ok ⟨31 * second, by decide⟩ := by decide +kernel
  have hno : ¬ ∃ d, Codec.readDuration " 1h 5s" = .ok d := by
    have hnone : ofString? " 1h 5s" = none := by decide +kernel
    rintro ⟨d, hd⟩
    rw [readDuration_eq_ok, hnone] at hd
    cases hd
  refine ⟨ha, hb, ?_, readDuration_grammar.2.2.1 _ hno⟩
  exact readDuration_grammar.2.2.2.2.2 _ _ _ _ (by decide) (by decide) (by decide) (by decide) ha hb

end Duration

end MediaPaths
