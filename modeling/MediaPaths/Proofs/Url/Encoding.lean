import Mathlib.Tactic.IntervalCases
import MediaPaths.Url.Percent

/-!
# What has been encoded

The codes of bytes are made of percent signs and hexadecimal digits. None of them is encoded anywhere, so what has been
encoded once is left as it is.
-/

namespace MediaPaths

variable {s : List Char} {c : Char} {n : Nat}

/-! ## Bytes -/

namespace Utf8

theorem codeBytes_of_ascii (h : n < 0x80) : codeBytes n = [n] := if_pos h

theorem codeBytes_ne_nil (n : Nat) : codeBytes n ≠ [] := by
  unfold codeBytes
  split_ifs <;> simp

theorem lt_of_mem_codeBytes {b : Nat} (hb : b ∈ codeBytes c.toNat) : b < 256 := by
  have hc : c.toNat < 0x110000 := by
    have hvalid : c.toNat < 0xD800 ∨ 0xDFFF < c.toNat ∧ c.toNat < 0x110000 := c.valid
    omega
  unfold codeBytes at hb
  split_ifs at hb <;> simp only [List.mem_cons, List.not_mem_nil, or_false] at hb <;> omega

theorem char?_of_ascii (h : c.toNat < 0x80) : char? [c.toNat] = some c := by
  have hpayload : payload [c.toNat] = c.toNat := if_pos h
  have hvalid : c.toNat.isValidChar := c.valid
  have hbytes : (codeBytes c.toNat == [c.toNat]) = true := by rw [codeBytes_of_ascii h, beq_self_eq_true]
  unfold char?
  rw [hpayload, dif_pos hvalid, if_pos hbytes]
  rfl

theorem decodeFrom?_of_ascii (h : ∀ c ∈ s, c.toNat < 0x80) : decodeFrom? s.length (s.map Char.toNat) = some s := by
  induction s with
  | nil => rfl
  | cons c s ih =>
    have hc : c.toNat < 0x80 := h c (List.mem_cons_self ..)
    have hwidth : width c.toNat = 1 := if_pos (by omega)
    simp only [List.map_cons, List.length_cons, decodeFrom?, hwidth, List.take_succ_cons, List.take_zero,
      char?_of_ascii hc, List.drop_succ_cons, List.drop_zero, ih fun d hd => h d (List.mem_cons_of_mem _ hd),
      Option.map_some]

/-- The bytes of ASCII text stand for it. -/
theorem decode?_of_ascii (h : ∀ c ∈ s, c.toNat < 0x80) : decode? (s.map Char.toNat) = some s := by
  rw [decode?, List.length_map, decodeFrom?_of_ascii h]

end Utf8

/-! ## Codes -/

namespace Url

variable {inSet : Char → Bool}

/-- The characters that codes are made of. -/
def codeChars : List Char := "%0123456789ABCDEF".toList

theorem upperHex_mem (h : n < 16) : upperHex n ∈ codeChars := by
  interval_cases n <;> decide

theorem mem_codeChars_of_mem_byteCode {b : Nat} (hb : b < 256) (hc : c ∈ byteCode b) : c ∈ codeChars := by
  simp only [byteCode, List.mem_cons, List.not_mem_nil, or_false] at hc
  rcases hc with rfl | rfl | rfl
  · decide
  · exact upperHex_mem (by omega)
  · exact upperHex_mem (by omega)

/-- A character of an encoded text is one that is not encoded, or part of a code. -/
theorem mem_percentEncode (hc : c ∈ percentEncode inSet s) : (c ∈ s ∧ inSet c = false) ∨ c ∈ codeChars := by
  obtain ⟨d, hd, hc⟩ := List.mem_flatMap.1 hc
  split at hc
  · obtain ⟨b, hb, hc⟩ := List.mem_flatMap.1 hc
    exact .inr (mem_codeChars_of_mem_byteCode (Utf8.lt_of_mem_codeBytes hb) hc)
  · rename_i hset
    obtain rfl := List.mem_singleton.1 hc
    exact .inl ⟨hd, by simpa using hset⟩

theorem percentEncode_eq_self (h : ∀ c ∈ s, inSet c = false) : percentEncode inSet s = s := by
  induction s with
  | nil => rfl
  | cons c s ih =>
    have hc : inSet c = false := h c (List.mem_cons_self ..)
    have hs : percentEncode inSet s = s := ih fun d hd => h d (List.mem_cons_of_mem _ hd)
    rw [percentEncode, List.flatMap_cons, ← percentEncode, hs, hc]
    rfl

theorem percentEncode_eq_nil : percentEncode inSet s = [] ↔ s = [] := by
  cases s with
  | nil => simp [percentEncode]
  | cons c s =>
    have hcode : (Utf8.codeBytes c.toNat).flatMap byteCode ≠ [] := by
      obtain ⟨b, bs, hbytes⟩ := List.exists_cons_of_ne_nil (Utf8.codeBytes_ne_nil c.toNat)
      simp [hbytes, byteCode]
    simp only [percentEncode, List.flatMap_cons, List.append_eq_nil_iff, reduceCtorEq, iff_false, not_and]
    intro hnil
    split at hnil
    · exact absurd hnil hcode
    · cases hnil

/-- ASCII text without percent signs is its own bytes. -/
theorem percentDecode_of_ascii (h : ∀ c ∈ s, c.toNat < 0x80 ∧ c ≠ '%') : percentDecode s = s.map Char.toNat := by
  induction s with
  | nil => rfl
  | cons c s ih =>
    obtain ⟨hc, hpercent⟩ := h c (List.mem_cons_self ..)
    unfold percentDecode
    split
    · rename_i heq
      cases heq
    · rename_i heq
      cases heq
      exact absurd rfl hpercent
    · rename_i heq
      cases heq
      rw [Utf8.codeBytes_of_ascii hc, ih fun d hd => h d (List.mem_cons_of_mem _ hd)]
      rfl

end Url

end MediaPaths
