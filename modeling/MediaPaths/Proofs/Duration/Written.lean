import Mathlib.Tactic.Linarith
import MediaPaths.Proofs.Duration.Grammar
import MediaPaths.Proofs.Json.Written
import MediaPaths.Proofs.Number.Nearest

/-!
# Reading written durations

A written duration has whole numbers of hours, minutes, seconds and milliseconds. Their lengths are exact as long as
they have no more than 53 bits; only the length of a millisecond is not exact in the first place, but it is off by much
less than a nanosecond even if it is taken a thousand times. So the duration that is read is the one that was written,
without what is shorter than a millisecond.
-/

namespace MediaPaths

open Number

/-- The length of a unit in nanoseconds. -/
def TimeUnit.nanos : TimeUnit → Nat
  | hours => 3600000000000
  | minutes => 60000000000
  | seconds => 1000000000
  | millis => 1000000

namespace Duration

variable {n k u : Nat} {unit : TimeUnit} {d : Duration}

/-! ## The length of a group -/

theorem ofSeconds?_finite (h : u < UInt64.size * Binary64.one)
    (hn : roundDiv (u * second) Binary64.one = n) : ofSeconds? (.finite u) = ofNanos? n := by
  rw [ofSeconds?, if_pos h, hn]

theorem groupValue?_eq {x : Binary64} (h : (Binary64.ofNat n).mul unit.scale = x) :
    groupValue? (n, 1) unit = ofSeconds? x := by
  rw [groupValue?, ← h, Binary64.ofNat]

/-- Units of whole seconds. -/
theorem groupValue?_whole (hunit : unit.scale = .finite (k * Binary64.one)) (h : n * k < 2 ^ 53) (hk : 0 < k) :
    groupValue? (n, 1) unit = ofNanos? (n * (k * second)) := by
  have hn : n < 2 ^ 53 := Nat.lt_of_le_of_lt (Nat.le_mul_of_pos_right n hk) h
  have hproduct : (Binary64.ofNat n).mul unit.scale = .finite (n * k * Binary64.one) := by
    rw [hunit, Binary64.ofNat_eq hn, Binary64.mul_eq h]
  rw [groupValue?_eq hproduct]
  refine ofSeconds?_finite ?_ ?_
  · exact Nat.mul_lt_mul_of_pos_right (Nat.lt_trans h (by decide)) Binary64.one_pos
  · rw [Nat.mul_right_comm, roundDiv_mul_self Binary64.one_pos, Nat.mul_assoc]

theorem one_eq_spacing : Binary64.one = 2 ^ 52 * Binary64.spacing Binary64.one := by decide +kernel

/-- The length of a millisecond is off by half the spacing at one, and so is its rounded multiple. -/
theorem mul_millis (hn : n < 1000) : ∃ u, (Binary64.ofNat n).mul (TimeUnit.scale .millis) = .finite u ∧
    2000 * u ≤ 2 * (n * Binary64.one) + 1000000 * Binary64.spacing Binary64.one ∧
    2 * (n * Binary64.one) ≤ 2000 * u + 1000000 * Binary64.spacing Binary64.one := by
  have hgap := one_eq_spacing
  have hpos := Nat.mul_pos Binary64.one_pos Binary64.one_pos
  have hmany : n * Binary64.spacing Binary64.one ≤ 999 * Binary64.spacing Binary64.one :=
    Nat.mul_le_mul_right _ (by omega)
  obtain ⟨s, hs, hle, hge⟩ := Binary64.ofRatio_near (by decide : 0 < 1000) (by decide : 1 ≤ 1000)
  have hnle : 2000 * (n * s) ≤ 2 * (n * Binary64.one) + 1000 * (n * Binary64.spacing Binary64.one) := by
    have := Nat.mul_le_mul_left n hle
    linarith
  have hnge : 2 * (n * Binary64.one) ≤ 2000 * (n * s) + 1000 * (n * Binary64.spacing Binary64.one) := by
    have := Nat.mul_le_mul_left n hge
    linarith
  have hsmall : n * Binary64.one * s ≤ Binary64.one * Binary64.one := by
    have hnone : n * Binary64.one ≤ 999 * Binary64.one := Nat.mul_le_mul_right _ (by omega)
    have hns : n * s ≤ Binary64.one := by omega
    rw [Nat.mul_right_comm]
    exact Nat.mul_le_mul_right _ hns
  obtain ⟨u, hu, hule, huge⟩ := Binary64.ofRatio_near hpos hsmall
  have hule : 2 * u ≤ 2 * (n * s) + Binary64.spacing Binary64.one :=
    Nat.le_of_mul_le_mul_right (by linarith) hpos
  have huge : 2 * (n * s) ≤ 2 * u + Binary64.spacing Binary64.one :=
    Nat.le_of_mul_le_mul_right (by linarith) hpos
  refine ⟨u, ?_, by omega, by omega⟩
  rw [Binary64.ofNat_eq (by omega), TimeUnit.scale, hs, Binary64.mul_finite, hu]

/-- A thousand times the error of a millisecond is still much less than a nanosecond. -/
theorem groupValue?_millis (hn : n < 1000) : groupValue? (n, 1) .millis = ofNanos? (n * millisecond) := by
  have hgap := one_eq_spacing
  have hpos := Binary64.spacing_pos Binary64.one
  have hmany : n * Binary64.one ≤ 999 * Binary64.one := Nat.mul_le_mul_right _ (by omega)
  obtain ⟨u, hu, hle, hge⟩ := mul_millis hn
  have hlow : u < 1000 * Binary64.one := by omega
  have hrange : 1000 * Binary64.one ≤ UInt64.size * Binary64.one := Nat.mul_le_mul_right _ (by decide)
  rw [groupValue?_eq hu]
  refine ofSeconds?_finite (Nat.lt_of_lt_of_le hlow hrange) (roundDiv_eq ?_ ?_)
  · rw [Nat.mul_right_comm]
    unfold second millisecond
    omega
  · rw [Nat.mul_right_comm]
    unfold second millisecond
    omega

/-! ## What is written -/

/-- A whole number with a unit. -/
def Group.ofNat (n : Nat) (unit : TimeUnit) : Group where
  number := Nat.toDigits 10 n
  unit := unit
  isNumber := isNumber_of_parts (fun _ hc => Nat.isDigit_of_mem_toDigits (by decide) (by decide) hc)
    (List.forall_mem_nil _) (by simp [Nat.toDigits_ne_nil]) (.inl ⟨rfl, rfl⟩)

/-- A group whose length is exact, or made up of milliseconds that make no second. -/
def Fits (p : Nat × TimeUnit) : Prop :=
  p.1 * p.2.nanos < 2 ^ 53 * second ∧ (p.2 = .millis → p.1 < 1000)

theorem groupValue?_nanos {p : Nat × TimeUnit} (h : Fits p) :
    groupValue? (p.1, 1) p.2 = ofNanos? (p.1 * p.2.nanos) := by
  obtain ⟨n, unit⟩ := p
  obtain ⟨hn, hmillis⟩ := h
  have hwhole : ∀ {k : Nat}, k < 2 ^ 53 → 0 < k → unit.scale = Binary64.ofNat k → unit.nanos = k * second →
      groupValue? (n, 1) unit = ofNanos? (n * unit.nanos) := by
    intro k hk hpos hscale hnanos
    rw [Binary64.ofNat_eq hk] at hscale
    rw [hnanos] at hn ⊢
    refine groupValue?_whole hscale ?_ hpos
    rw [← Nat.mul_assoc] at hn
    exact Nat.lt_of_mul_lt_mul_right hn
  cases unit with
  | hours => exact hwhole (k := 3600) (by decide) (by decide) (by rw [TimeUnit.scale]) (by decide)
  | minutes => exact hwhole (k := 60) (by decide) (by decide) (by rw [TimeUnit.scale]) (by decide)
  | seconds => exact hwhole (k := 1) (by decide) (by decide) (by rw [TimeUnit.scale]) (by decide)
  | millis => exact groupValue?_millis (hmillis rfl)

theorem value?_ofNat (n : Nat) (unit : TimeUnit) : (Group.ofNat n unit).value? = groupValue? (n, 1) unit := by
  have hdigits : ∀ c ∈ Nat.toDigits 10 n, c.isDigit = true := fun _ hc =>
    Nat.isDigit_of_mem_toDigits (by decide) (by decide) hc
  have hread := decimal?_parts hdigits (List.forall_mem_nil _) (by simp [Nat.toDigits_ne_nil]) (.inl ⟨rfl, rfl⟩)
  rw [List.append_nil, Nat.ofDigitChars_toDigits (by decide) (by decide), List.length_nil, Nat.pow_zero] at hread
  rw [Group.value?, Group.ofNat, hread, Option.bind_some]

theorem total?_ofNat {ps : List (Nat × TimeUnit)} (h : ∀ p ∈ ps, Fits p)
    (hsum : (ps.map fun p => p.1 * p.2.nanos).sum < limit) :
    total? (ps.map fun p => Group.ofNat p.1 p.2) = ofNanos? (ps.map fun p => p.1 * p.2.nanos).sum := by
  have hvalues : ∃ ds : List Duration, (ps.map fun p => Group.ofNat p.1 p.2).mapM Group.value? = some ds ∧
      ds.map nanos = ps.map fun p => p.1 * p.2.nanos := by
    induction ps with
    | nil => exact ⟨[], rfl, rfl⟩
    | cons p ps ih =>
      rw [List.map_cons, List.sum_cons] at hsum
      obtain ⟨ds, hds, hnanos⟩ := ih (fun q hq => h q (List.mem_cons_of_mem _ hq)) (by omega)
      have hp : p.1 * p.2.nanos < limit := by omega
      refine ⟨⟨_, hp⟩ :: ds, mapM_cons_eq_some.2 ⟨⟨_, hp⟩, ds, ?_, hds, rfl⟩, ?_⟩
      · rw [value?_ofNat, groupValue?_nanos (h p (List.mem_cons_self ..))]
        exact ofNanos?_eq_some.2 rfl
      · rw [List.map_cons, List.map_cons, hnanos]
  obtain ⟨ds, hds, hnanos⟩ := hvalues
  rw [total?, hds, Option.bind_some, hnanos]

/-- The parts of some milliseconds. -/
def wholes (ms : Nat) : List (Nat × TimeUnit) :=
  [(ms / 3600000, .hours), (ms / 60000 % 60, .minutes), (ms / 1000 % 60, .seconds), (ms % 1000, .millis)]

/-- The parts that are written. -/
def written (ms : Nat) : List (Nat × TimeUnit) :=
  if ms = 0 then [(0, .seconds)] else (wholes ms).filter (·.1 != 0)

theorem sum_filter (ps : List (Nat × TimeUnit)) : ((ps.filter (·.1 != 0)).map fun p => p.1 * p.2.nanos).sum =
    (ps.map fun p => p.1 * p.2.nanos).sum := by
  induction ps with
  | nil => rfl
  | cons p ps ih =>
    by_cases hp : p.1 = 0
    · simp [hp, ih]
    · simp [hp, ih]

theorem flatMap_filter (ps : List (Nat × TimeUnit)) :
    ((ps.filter (·.1 != 0)).map fun p => Group.ofNat p.1 p.2).flatMap Group.text =
      ps.flatMap fun p => part p.1 p.2 := by
  induction ps with
  | nil => rfl
  | cons p ps ih =>
    by_cases hp : p.1 = 0
    · simpa [hp, part] using ih
    · simpa [hp, part, Group.text, Group.ofNat] using ih

-- The function is kept a variable here: the sum has to be opened before the lengths of the units are.
theorem sum_map_wholes (f : Nat × TimeUnit → Nat) (ms : Nat) : ((wholes ms).map f).sum =
    f (ms / 3600000, .hours) + (f (ms / 60000 % 60, .minutes) +
      (f (ms / 1000 % 60, .seconds) + f (ms % 1000, .millis))) := by
  unfold wholes
  simp only [List.map_cons, List.map_nil, List.sum_cons, List.sum_nil, Nat.add_zero]

/-- Nothing but what is shorter than a millisecond is left out. -/
theorem sum_written (ms : Nat) : ((written ms).map fun p => p.1 * p.2.nanos).sum = ms * millisecond := by
  unfold written
  split
  · rename_i hzero
    simp [hzero]
  · have hhours : ∀ n, n * TimeUnit.hours.nanos = n * 3600000000000 := fun _ => rfl
    have hminutes : ∀ n, n * TimeUnit.minutes.nanos = n * 60000000000 := fun _ => rfl
    have hseconds : ∀ n, n * TimeUnit.seconds.nanos = n * 1000000000 := fun _ => rfl
    have hmillis : ∀ n, n * TimeUnit.millis.nanos = n * 1000000 := fun _ => rfl
    rw [sum_filter, sum_map_wholes, hhours, hminutes, hseconds, hmillis]
    unfold millisecond
    omega

theorem fits_written {ms : Nat} (h : ms * millisecond < 2 ^ 53 * second) : ∀ p ∈ written ms, Fits p := by
  have hwholes : ∀ p ∈ wholes ms, Fits p := by
    unfold millisecond second at h
    simp only [wholes, Fits, TimeUnit.nanos, second, List.forall_mem_cons, List.not_mem_nil, false_imp_iff,
      implies_true, and_true, reduceCtorEq, true_imp_iff]
    omega
  unfold written
  split
  · simp [Fits]
  · intro p hp
    exact hwholes p (List.mem_of_mem_filter hp)

theorem madeOf_write (d : Duration) :
    MadeOf d.write ((written d.millis).map fun p => Group.ofNat p.1 p.2) := by
  constructor
  · intro hnil
    have hsum := sum_written d.millis
    rw [List.map_eq_nil_iff.1 hnil] at hsum
    have hzero : d.millis = 0 := by
      simp only [List.map_nil, List.sum_nil, millisecond] at hsum
      omega
    simp [written, hzero] at hnil
  · unfold write written
    dsimp only
    split
    · rfl
    · rw [flatMap_filter]
      simp [wholes]

/-! ## Reading it -/

theorem ofString?_write (h : d.nanos < 2 ^ 53 * second) : ofString? d.toString = ofNanos? (d.millis * millisecond) := by
  have hle : d.millis * millisecond ≤ d.nanos := Nat.div_mul_le_self ..
  have hrange := d.inRange
  have hmade := madeOf_write d
  have htotal : total? ((written d.millis).map fun p => Group.ofNat p.1 p.2) = ofNanos? (d.millis * millisecond) := by
    have hfits : ∀ p ∈ written d.millis, Fits p := fits_written (by omega)
    have hall := total?_ofNat hfits (by rw [sum_written]; omega)
    rwa [sum_written] at hall
  ext e
  show read? d.toString.toList = some e ↔ _
  rw [Duration.toString, String.toList_ofList, read?_eq_some, hmade.trim_eq_self, ← htotal]
  constructor
  · rintro (⟨hs, -⟩ | ⟨gs, hgs, h⟩)
    · exact absurd hs hmade.ne_zero
    · rwa [hmade.unique hgs]
  · intro h
    exact .inr ⟨_, hmade, h⟩

theorem readDuration_write (h : d.nanos < 2 ^ 53 * second) :
    ∃ e, Codec.readDuration d.toString = .ok e ∧ e.nanos = d.nanos / millisecond * millisecond := by
  have hle : d.millis * millisecond ≤ d.nanos := Nat.div_mul_le_self ..
  have hrange : d.millis * millisecond < limit := Nat.lt_of_le_of_lt hle d.inRange
  refine ⟨⟨_, hrange⟩, ?_, rfl⟩
  rw [readDuration_eq_ok, ofString?_write h]
  exact ofNanos?_eq_some.2 rfl

/-- A duration that can be stored: it has whole milliseconds, and not too many. -/
def IsStorable (d : Duration) : Prop := d.nanos % millisecond = 0 ∧ d.nanos < 2 ^ 53 * second

instance (d : Duration) : Decidable d.IsStorable := inferInstanceAs (Decidable (_ ∧ _))

theorem IsStorable.readDuration (h : d.IsStorable) : Codec.readDuration d.toString = .ok d := by
  obtain ⟨e, he, hnanos⟩ := readDuration_write h.2
  have heq : e.nanos = d.nanos := by rw [hnanos, Nat.div_mul_cancel (Nat.dvd_of_mod_eq_zero h.1)]
  rw [he, Duration.ext heq]

/-- The text of a duration denotes the duration without what is shorter than a millisecond, so a duration of whole
milliseconds is still the same once it has been written in JSON and read again. -/
theorem toString_readsBack (d : Duration) (h : d.nanos < 2 ^ 53 * second) :
    (∃ e, Codec.readDuration d.toString = .ok e ∧ e.nanos = d.nanos / millisecond * millisecond) ∧
    (d.nanos % millisecond = 0 → ∃ v, Codec.duration.encode d = some v ∧ Json.Value.ofString v.compact = .ok v ∧
      Codec.duration.decode v = .ok d) := by
  refine ⟨readDuration_write h, fun hwhole => ?_⟩
  have hread : Codec.readDuration d.toString = .ok d := IsStorable.readDuration ⟨hwhole, h⟩
  exact ⟨.string d.toString, rfl, Json.Value.ofString_compact trivial, hread⟩

/-- The longest duration that is written exactly, and one that is a nanosecond short of a further millisecond: it
loses what is less than a millisecond. -/
theorem toString_readsBack_longest :
    (∃ e, Codec.readDuration "2501999792983h36m31s999ms" = .ok e ∧ e.nanos = 9007199254740991999 * millisecond) ∧
    ∃ v, Codec.duration.encode ⟨9007199254740991999 * millisecond, by decide⟩ = some v ∧
      Json.Value.ofString v.compact = .ok v ∧
      Codec.duration.decode v = .ok ⟨9007199254740991999 * millisecond, by decide⟩ := by
  have hlongest := toString_readsBack ⟨9007199254740991999999999, by decide⟩ (by decide)
  have hwhole := toString_readsBack ⟨9007199254740991999 * millisecond, by decide⟩ (by decide)
  have htext : (⟨9007199254740991999999999, by decide⟩ : Duration).toString = "2501999792983h36m31s999ms" := by
    decide +kernel
  rw [htext] at hlongest
  exact ⟨hlongest.1, hwhole.2 (by decide)⟩

end Duration

end MediaPaths
