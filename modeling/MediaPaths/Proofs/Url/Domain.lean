import MediaPaths.Proofs.Url.Encoding
import MediaPaths.Proofs.Url.Ip
import MediaPaths.Url.Domain

/-!
# The form of domain names

A domain name that has been brought to its one form is made of ASCII characters that may stand in names, however it was
given. A name made of them is that form already, as long as no label of it comes in Punycode.
-/

namespace MediaPaths.Url

variable {s d : List Char} {c : Char} {n : Nat} {ns label meant : List Nat}

/-! ## Punycode -/

namespace Punycode

/-- The digits of numbers in Punycode. -/
def digits : List Char := "abcdefghijklmnopqrstuvwxyz0123456789".toList

theorem digit_mem (h : n < 36) : digit n ∈ digits := by
  interval_cases n <;> decide

theorem threshold_bounds (k bias : Nat) : 1 ≤ threshold k bias ∧ threshold k bias ≤ 26 := by
  unfold threshold
  split_ifs <;> omega

theorem mem_writeNumber {bias fuel k q : Nat} (hc : c ∈ writeNumber bias fuel k q) : c ∈ digits := by
  induction fuel generalizing k q with
  | zero => cases hc
  | succ fuel ih =>
    obtain ⟨hpos, hle⟩ := threshold_bounds k bias
    unfold writeNumber at hc
    dsimp only at hc
    split at hc
    · rw [List.mem_singleton.1 hc]
      exact digit_mem (by omega)
    · rcases List.mem_cons.1 hc with rfl | hc
      · have := Nat.mod_lt (q - threshold k bias) (show 0 < 36 - threshold k bias by omega)
        exact digit_mem (by omega)
      · exact ih hc

/-- A step of writing adds nothing but digits. -/
theorem mem_out_visit {e : Encoder} {m : Nat} (hc : c ∈ (e.visit m).out) : c ∈ e.out ∨ c ∈ digits := by
  unfold Encoder.visit at hc
  split_ifs at hc
  · exact .inl hc
  · exact (List.mem_append.1 hc).imp_right mem_writeNumber
  · exact .inl hc

theorem mem_out_visits {e : Encoder} (hc : c ∈ (label.foldl Encoder.visit e).out) : c ∈ e.out ∨ c ∈ digits := by
  induction label generalizing e with
  | nil => exact .inl hc
  | cons m label ih => exact (ih hc).elim mem_out_visit .inr

theorem mem_encodeFrom {fuel : Nat} {e : Encoder} (hc : c ∈ encodeFrom label fuel e) : c ∈ e.out ∨ c ∈ digits := by
  induction fuel generalizing e with
  | zero => exact .inl hc
  | succ fuel ih =>
    unfold encodeFrom at hc
    split at hc
    · exact .inl hc
    · exact (ih hc).elim mem_out_visits .inr

/-- Behind the ASCII characters of a label stand a hyphen and digits. -/
theorem mem_encode (hc : c ∈ encode label) : (∃ n ∈ label, n < 0x80 ∧ Char.ofNat n = c) ∨ c ∈ '-' :: digits := by
  rcases mem_encodeFrom hc with hc | hc
  · dsimp only at hc
    have hbasic : c ∈ (label.filter (· < 0x80)).map Char.ofNat ∨ c = '-' := by
      split at hc
      · cases hc
      · simpa using hc
    rcases hbasic with hc | rfl
    · obtain ⟨n, hn, rfl⟩ := List.mem_map.1 hc
      obtain ⟨hmem, hlt⟩ := List.mem_filter.1 hn
      exact .inl ⟨n, hmem, of_decide_eq_true hlt, rfl⟩
    · exact .inr (List.mem_cons_self ..)
  · exact .inr (List.mem_cons_of_mem _ hc)

end Punycode

namespace Domain

open Unicode

/-! ## Characters -/

/-- A character of domain names in their one form. -/
structure IsPlain (c : Char) : Prop where
  ascii : c.toNat < 0x80
  allowed : isForbidden c = false
  lower : c.isUpper = false

instance (c : Char) : Decidable (IsPlain c) :=
  decidable_of_iff (c.toNat < 0x80 ∧ isForbidden c = false ∧ c.isUpper = false)
    ⟨fun ⟨ascii, allowed, lower⟩ => ⟨ascii, allowed, lower⟩, fun h => ⟨h.ascii, h.allowed, h.lower⟩⟩

theorem toNat_ofNat (h : n < 0x80) : (Char.ofNat n).toNat = n := by
  rw [Char.ofNat, dif_pos (.inl (by omega))]
  rfl

theorem isPlain_ofNat (h : n < 0x80) (hn : isAllowed n = true) : IsPlain (Char.ofNat n) := by
  simp only [isAllowed, Bool.or_eq_true, decide_eq_true_eq, Bool.not_eq_true', Bool.or_eq_false_iff] at hn
  obtain ⟨hallowed, hlower⟩ := hn.resolve_left (by omega)
  exact ⟨by rwa [toNat_ofNat h], hallowed, hlower⟩

theorem IsPlain.isAllowed (h : IsPlain c) : isAllowed c.toNat = true := by
  simp [Domain.isAllowed, h.allowed, h.lower]

theorem isPlain_of_mem_digits (h : c ∈ '-' :: Punycode.digits) : IsPlain c := by
  have hall : ('-' :: Punycode.digits).all (fun c => decide (IsPlain c)) = true := by decide
  exact of_decide_eq_true (List.all_eq_true.1 hall c h)

/-! ## Names are brought to plain characters -/

theorem isAllowed_of_prepare? (h : prepare? s = some ns) : ∀ n ∈ ns, isAllowed n = true := by
  obtain ⟨mapped, -, h⟩ := Option.bind_eq_some_iff.1 h
  dsimp only at h
  generalize (if mapped.flatten.all (· < 0x80) then mapped.flatten else normalize mapped.flatten) = ms at h
  split at h
  · rename_i hall
    cases h
    exact List.all_eq_true.1 hall
  · cases h

/-- The ASCII characters of a label that has been read are allowed, whether it was itself given or its code. -/
theorem isAllowed_of_readLabel? (h : readLabel? label = some meant) (hlabel : ∀ n ∈ label, isAllowed n = true) :
    ∀ n ∈ meant, n < 0x80 → isAllowed n = true := by
  unfold readLabel? at h
  dsimp only at h
  split at h
  · split at h
    · cases h
    · split at h
      · cases h
      · split at h
        · cases h
        · rename_i hchecks
          cases h
          intro n hn hascii
          simp only [Bool.or_eq_true, not_or, Bool.not_eq_true, Bool.not_eq_false'] at hchecks
          have hstays := List.all_eq_true.1 hchecks.1.2 n hn
          rw [readLabel?.stays, if_pos hascii, Bool.and_eq_true] at hstays
          exact hstays.1
  · split at h
    · cases h
      exact fun n hn _ => hlabel n hn
    · cases h

theorem isPlain_of_mem_writeLabel (h : ∀ n ∈ label, n < 0x80 → isAllowed n = true) (hc : c ∈ writeLabel label) :
    IsPlain c := by
  unfold writeLabel at hc
  split at hc
  · rename_i hascii
    obtain ⟨n, hn, rfl⟩ := List.mem_map.1 hc
    have hlt : n < 0x80 := by simpa using List.all_eq_true.1 hascii n hn
    exact isPlain_ofNat hlt (h n hn hlt)
  · rcases List.mem_append.1 hc with hc | hc
    · simp only [List.mem_cons, List.not_mem_nil, or_false] at hc
      rcases hc with rfl | rfl | rfl | rfl <;> decide
    · rcases Punycode.mem_encode hc with ⟨n, hn, hlt, rfl⟩ | hc
      · exact isPlain_ofNat hlt (h n hn hlt)
      · exact isPlain_of_mem_digits hc

/-- The one form of a domain name is made of plain characters. -/
theorem isPlain_of_toAscii? (h : toAscii? s = some d) : ∀ c ∈ d, IsPlain c := by
  simp only [toAscii?, Option.bind_eq_bind, Option.bind_eq_some_iff] at h
  obtain ⟨ns, hns, meant, hmeant, h⟩ := h
  split at h
  · cases h
  · cases h
    intro c hc
    rcases mem_intercalate hc with hc | ⟨written, hwritten, hc⟩
    · rw [List.mem_singleton.1 hc]
      decide
    · obtain ⟨m, hm, rfl⟩ := List.mem_map.1 hwritten
      obtain ⟨label, hlabel, hread⟩ := exists_of_mapM hmeant m hm
      refine isPlain_of_mem_writeLabel (isAllowed_of_readLabel? hread fun n hn => ?_) hc
      exact isAllowed_of_prepare? hns n (mem_of_mem_splitOn hlabel hn)

/-! ## Names of plain characters -/

/-- Whether a name has a label that comes in Punycode. -/
def HasCode (d : List Char) : Prop := ∃ label ∈ splitOn '.' d, ['x', 'n', '-', '-'] <+: label

instance (d : List Char) : Decidable (HasCode d) := inferInstanceAs (Decidable (∃ _ ∈ _, _))

theorem map?_of_isPlain (h : IsPlain c) : map? c = some [c.toNat] := by
  have hlower : c.toLower = c := dif_neg (of_decide_eq_false h.lower)
  rw [map?, if_pos h.ascii, hlower]

theorem prepare?_of_isPlain (h : ∀ c ∈ d, IsPlain c) : prepare? d = some (d.map Char.toNat) := by
  have hmap : d.mapM map? = some (d.map fun c => [c.toNat]) := mapM_eq_map fun c hc => map?_of_isPlain (h c hc)
  have hflat : (d.map fun c => [c.toNat]).flatten = d.map Char.toNat := by
    rw [← List.flatMap_def, List.map_eq_flatMap]
  have hascii : (d.map Char.toNat).all (· < 0x80) = true := by
    simpa using fun c hc => (h c hc).ascii
  have hallowed : (d.map Char.toNat).all isAllowed = true := by
    simpa using fun c hc => (h c hc).isAllowed
  simp only [prepare?, hmap, hflat, hascii, hallowed, Option.bind_eq_bind, Option.bind_some, if_true]

theorem readLabel?_of_isPlain {label : List Char} (h : ∀ c ∈ label, IsPlain c)
    (hcode : ¬ ['x', 'n', '-', '-'] <+: label) : readLabel? (label.map Char.toNat) = some (label.map Char.toNat) := by
  have hsame : (label.map Char.toNat).map Char.ofNat = label := by simp [Function.comp_def]
  have hascii : (label.map Char.toNat).all (· < 0x80) = true := by
    simpa using fun c hc => (h c hc).ascii
  unfold readLabel?
  dsimp only
  rw [hsame]
  split
  · exact absurd (List.prefix_append ['x', 'n', '-', '-'] _) hcode
  · rw [hascii, Bool.true_or, if_pos rfl]

/-- A name of plain characters is the one form of itself, if no label comes in Punycode. -/
theorem toAscii?_of_isPlain (h : ∀ c ∈ d, IsPlain c) (hcode : ¬ HasCode d) : toAscii? d = some d := by
  have hlabels : labels (d.map Char.toNat) = (splitOn '.' d).map (·.map Char.toNat) :=
    splitOn_map fun c _ => by rw [Bool.eq_iff_iff, beq_iff_eq, beq_iff_eq, Char.toNat_inj]
  have hplain : ∀ label ∈ splitOn '.' d, ∀ c ∈ label, IsPlain c := fun label hlabel c hc =>
    h c (mem_of_mem_splitOn hlabel hc)
  have hascii : ∀ label ∈ splitOn '.' d, (label.map Char.toNat).all (· < 0x80) = true := fun label hlabel => by
    simpa using fun c hc => (hplain label hlabel c hc).ascii
  have hread : ((splitOn '.' d).map (·.map Char.toNat)).mapM readLabel? =
      some ((splitOn '.' d).map (·.map Char.toNat)) := by
    rw [List.mapM_map]
    exact mapM_eq_map fun label hlabel =>
      readLabel?_of_isPlain (hplain label hlabel) fun hx => hcode ⟨label, hlabel, hx⟩
  have hleft : (((splitOn '.' d).map (·.map Char.toNat)).any fun l => l.any fun n =>
      0x80 ≤ n && ["r", "al", "an"].contains (bidiClass n)) = false := by
    rw [List.any_eq_false]
    intro l hl
    obtain ⟨label, hlabel, rfl⟩ := List.mem_map.1 hl
    rw [Bool.not_eq_true, List.any_eq_false]
    intro n hn
    have hlt : n < 0x80 := of_decide_eq_true (List.all_eq_true.1 (hascii label hlabel) n hn)
    simp [hlt]
  have hwrite : ((splitOn '.' d).map (·.map Char.toNat)).map writeLabel = splitOn '.' d := by
    have hsame : ∀ label ∈ splitOn '.' d, writeLabel (label.map Char.toNat) = label := fun label hlabel => by
      rw [writeLabel, if_pos (hascii label hlabel), List.map_map]
      simp [Function.comp_def]
    rw [List.map_map]
    exact (List.map_congr_left hsame).trans (List.map_id _)
  simp only [toAscii?, prepare?_of_isPlain h, hlabels, hread, hleft, hwrite, Option.bind_eq_bind, Option.bind_some,
    Bool.false_and, Bool.false_eq_true, if_false]
  rw [splitOn_eq, List.intercalate_splitOn]

end Domain

end MediaPaths.Url
