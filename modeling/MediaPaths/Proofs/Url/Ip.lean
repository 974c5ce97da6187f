import Mathlib.Data.List.Induction
import Mathlib.Data.List.TakeWhile
import Mathlib.Tactic.IntervalCases
import MediaPaths.Url.Ip

/-!
# IP addresses are read as they are written

The numbers of an address are within bounds once it has been read. An address within bounds is written in one form, four
decimal numbers or eight hexadecimal ones with the longest run of zeros left out, and that form is read as it.
-/

namespace MediaPaths.Url

variable {s : List Char} {c : Char} {n : Nat} {ps : List Nat}

/-! ## Texts in parts -/

section Parts

variable {α β : Type} {a sep : α} {as part : List α} {bs : List β} {parts : List (List α)}

/-- Splitting is that of the library. -/
theorem splitOn_eq [BEq α] (sep : α) (as : List α) : splitOn sep as = as.splitOn sep := by
  induction as with
  | nil => rfl
  | cons a as ih =>
    rw [splitOn, ih, List.splitOn_cons_eq_if_modifyHead]
    split
    · rfl
    · obtain ⟨part, parts, hparts⟩ := List.exists_cons_of_ne_nil (List.splitOn_ne_nil sep as)
      simp [hparts]

theorem mem_intercalate {between : List α} (h : a ∈ between.intercalate parts) :
    a ∈ between ∨ ∃ part ∈ parts, a ∈ part := by
  induction parts with
  | nil => cases h
  | cons part parts ih =>
    cases parts with
    | nil => exact .inr ⟨part, List.mem_singleton_self _, by simpa [List.intercalate_singleton] using h⟩
    | cons next parts =>
      rw [List.intercalate_cons_cons, List.mem_append, List.mem_append] at h
      rcases h with (h | h) | h
      · exact .inr ⟨part, List.mem_cons_self .., h⟩
      · exact .inl h
      · exact (ih h).imp_right fun ⟨other, hother, ha⟩ => ⟨other, List.mem_cons_of_mem _ hother, ha⟩

/-- Splitting makes no new characters. -/
theorem mem_of_mem_splitOn [BEq α] (hpart : part ∈ splitOn sep as) (ha : a ∈ part) : a ∈ as := by
  induction as generalizing part with
  | nil =>
    obtain rfl := List.mem_singleton.1 hpart
    exact ha
  | cons c as ih =>
    rw [splitOn_eq, List.splitOn_cons_eq_if_modifyHead, ← splitOn_eq] at hpart
    split at hpart
    · rcases List.mem_cons.1 hpart with rfl | hpart
      · cases ha
      · exact List.mem_cons_of_mem _ (ih hpart ha)
    · cases hsplit : splitOn sep as with
      | nil => simp [hsplit] at hpart
      | cons first parts =>
        rw [hsplit, List.modifyHead_cons] at hpart
        rcases List.mem_cons.1 hpart with rfl | hpart
        · rcases List.mem_cons.1 ha with rfl | ha
          · exact List.mem_cons_self ..
          · exact List.mem_cons_of_mem _ (ih (hsplit ▸ List.mem_cons_self ..) ha)
        · exact List.mem_cons_of_mem _ (ih (hsplit ▸ List.mem_cons_of_mem _ hpart) ha)

/-- A text is split where its image is, if nothing else becomes a separator. -/
theorem splitOn_map [BEq α] [BEq β] {f : α → β} (h : ∀ a ∈ as, (f a == f sep) = (a == sep)) :
    splitOn (f sep) (as.map f) = (splitOn sep as).map (·.map f) := by
  induction as with
  | nil => rfl
  | cons a as ih =>
    simp only [splitOn_eq, List.map_cons, List.splitOn_cons_eq_if_modifyHead] at ih ⊢
    rw [h a (List.mem_cons_self ..), ih fun c hc => h c (List.mem_cons_of_mem _ hc)]
    split
    · rfl
    · cases as.splitOn sep <;> rfl

/-- Where every answer is known, all answers are. -/
theorem mapM_eq_map {f : α → Option β} {g : α → β} (h : ∀ a ∈ as, f a = some (g a)) : as.mapM f = some (as.map g) := by
  induction as with
  | nil => rfl
  | cons a as ih =>
    rw [List.mapM_cons, h a (List.mem_cons_self ..), ih fun c hc => h c (List.mem_cons_of_mem _ hc)]
    rfl

/-- Every answer comes from somewhere. -/
theorem exists_of_mapM {f : α → Option β} (h : as.mapM f = some bs) : ∀ b ∈ bs, ∃ a ∈ as, f a = some b := by
  induction as generalizing bs with
  | nil =>
    cases h
    simp
  | cons a as ih =>
    simp only [List.mapM_cons, Option.bind_eq_bind, Option.bind_eq_some_iff, Option.pure_def, Option.some.injEq] at h
    obtain ⟨b, hb, bs, hbs, rfl⟩ := h
    intro c hc
    rcases List.mem_cons.1 hc with rfl | hc
    · exact ⟨a, List.mem_cons_self .., hb⟩
    · obtain ⟨d, hd, hfd⟩ := ih hbs c hc
      exact ⟨d, List.mem_cons_of_mem _ hd, hfd⟩

end Parts

/-! ## Numerals -/

/-- A numeral is read from the front: what was read so far is the start for the rest. -/
theorem numeral?_append (b : Nat) (s t : List Char) : numeral? b (s ++ t) = (numeral? b s).bind fun n =>
    t.foldlM (fun n c => match hexValue? c with
      | some d => if d < b then some (n * b + d) else none
      | none => none) n := by
  rw [numeral?, List.foldlM_append]
  rfl

/-- The characters of hexadecimal numerals. -/
def digitChars : List Char := "0123456789abcdef".toList

/-- The digits that are written are read as their values. -/
theorem hexValue?_digitChar (h : n < 16) : hexValue? (Nat.digitChar n) = some n := by
  interval_cases n <;> rfl

theorem digitChar_mem (h : n < 16) : Nat.digitChar n ∈ digitChars := by
  interval_cases n <;> decide

section Base

variable {b : Nat}

theorem mem_toDigits (hb : 1 < b) (hb' : b ≤ 16) (hc : c ∈ Nat.toDigits b n) : c ∈ digitChars := by
  induction n using Nat.strong_induction_on with
  | _ n ih =>
    rw [Nat.toDigits_eq_if hb] at hc
    split at hc
    · rw [List.mem_singleton.1 hc]
      exact digitChar_mem (by omega)
    · rcases List.mem_append.1 hc with hc | hc
      · exact ih (n / b) (Nat.div_lt_self (by omega) hb) hc
      · rw [List.mem_singleton.1 hc]
        exact digitChar_mem (by have := Nat.mod_lt n (show 0 < b by omega); omega)

/-- A number is read from its digits. -/
theorem numeral?_toDigits (hb : 1 < b) (hb' : b ≤ 16) (n : Nat) : numeral? b (Nat.toDigits b n) = some n := by
  induction n using Nat.strong_induction_on with
  | _ n ih =>
    rw [Nat.toDigits_eq_if hb]
    split
    · rename_i hn
      simp [numeral?, hexValue?_digitChar (show n < 16 by omega), hn]
    · have hmod : n % b < b := Nat.mod_lt n (by omega)
      rw [numeral?_append, ih (n / b) (Nat.div_lt_self (by omega) hb)]
      simp [hexValue?_digitChar (show n % b < 16 by omega), hmod, Nat.div_add_mod']

/-- A numeral of so many digits is below that power of the base. -/
theorem numeral?_lt (hn : numeral? b s = some n) : n < b ^ s.length := by
  induction s using List.reverseRecOn generalizing n with
  | nil =>
    cases hn
    exact Nat.one_pos
  | append_singleton s c ih =>
    rw [numeral?_append] at hn
    obtain ⟨m, hm, hn⟩ := Option.bind_eq_some_iff.1 hn
    simp only [List.foldlM_cons, List.foldlM_nil, bind_pure] at hn
    split at hn
    · split at hn
      · rename_i d _ hd
        cases hn
        have hhigh : (m + 1) * b ≤ b ^ s.length * b := Nat.mul_le_mul_right b (ih hm)
        rw [List.length_append, List.length_singleton, Nat.pow_succ]
        rw [Nat.succ_mul] at hhigh
        omega
      · cases hn
    · cases hn

end Base

/-! ## IPv4 -/

/-- A part that is written in decimal is read as one: it has no leading zero that would make it octal. -/
theorem ipv4Part?_toDigits (h : n < 256) : ipv4Part? (Nat.toDigits 10 n) = some n := by
  have hall : ∀ n < 256, ipv4Part? (Nat.toDigits 10 n) = some n := by decide +kernel
  exact hall n h

theorem isDigit_of_mem_decimal (hc : c ∈ Nat.toDigits 10 n) : c.isDigit = true :=
  Nat.isDigit_of_mem_toDigits (by decide) (by decide) hc

/-- The four numbers that an IPv4 address is written as. -/
def ipv4Bytes (n : Nat) : List Nat := [n / 256 ^ 3 % 256, n / 256 ^ 2 % 256, n / 256 % 256, n % 256]

/-- An address is written as its four bytes, with points between them. -/
theorem writeIpv4_eq (n : Nat) : writeIpv4 n = ['.'].intercalate ((ipv4Bytes n).map (Nat.toDigits 10)) := by
  simp [writeIpv4, ipv4Bytes, List.intercalate]

/-- An address is written with digits and points. -/
theorem mem_writeIpv4 (hc : c ∈ writeIpv4 n) : c.isDigit = true ∨ c = '.' := by
  rw [writeIpv4_eq] at hc
  rcases mem_intercalate hc with hc | ⟨digits, hdigits, hc⟩
  · exact .inr (List.mem_singleton.1 hc)
  · obtain ⟨b, -, rfl⟩ := List.mem_map.1 hdigits
    exact .inl (isDigit_of_mem_decimal hc)

/-- Since no byte is written with a point, an address splits into its bytes. -/
theorem splitOn_writeIpv4 (n : Nat) : splitOn '.' (writeIpv4 n) = (ipv4Bytes n).map (Nat.toDigits 10) := by
  rw [splitOn_eq, writeIpv4_eq, List.splitOn_intercalate _ _ (by simp [ipv4Bytes])]
  intro l hl hdot
  obtain ⟨b, -, rfl⟩ := List.mem_map.1 hl
  exact absurd (isDigit_of_mem_decimal hdot) (by decide)

/-- A host that is written as an address is taken for one. -/
theorem endsInNumber_writeIpv4 (n : Nat) : endsInNumber (writeIpv4 n) = true := by
  have hlast : lastLabel (writeIpv4 n) = Nat.toDigits 10 (n % 256) := by
    obtain ⟨d, ds, hd⟩ := List.exists_cons_of_ne_nil (Nat.toDigits_ne_nil (n := n % 256) (b := 10))
    simp [lastLabel, splitOn_writeIpv4, ipv4Bytes, hd]
  simp [endsInNumber, hlast, ipv4Part?_toDigits (Nat.mod_lt n (show 0 < 256 by decide))]

/-- An IPv4 address is read from what is written. -/
theorem ipv4?_writeIpv4 (h : n < 256 ^ 4) : ipv4? (writeIpv4 n) = some n := by
  have hparts : ipv4Parts (writeIpv4 n) = (ipv4Bytes n).map (Nat.toDigits 10) := by
    simp [ipv4Parts, splitOn_writeIpv4, ipv4Bytes]
  have hread : ((ipv4Bytes n).map (Nat.toDigits 10)).mapM ipv4Part? = some (ipv4Bytes n) := by
    have hpart : ∀ m, ipv4Part? (Nat.toDigits 10 (m % 256)) = some (m % 256) := fun m =>
      ipv4Part?_toDigits (Nat.mod_lt m (by decide))
    simp [ipv4Bytes, hpart]
  have hbyte : ∀ m, m % 256 ≤ 255 := fun m => by omega
  unfold ipv4?
  rw [hparts, hread]
  simp [ipv4Bytes, hbyte]
  omega

/-- Bytes put together stay below the power for their number. -/
theorem foldl_bytes_lt (bytes : List Nat) (h : ∀ b ∈ bytes, b < 256) (m : Nat) :
    bytes.foldl (fun n b => n * 256 + b) m < (m + 1) * 256 ^ bytes.length := by
  induction bytes generalizing m with
  | nil => simp
  | cons b bytes ih =>
    have hb : b < 256 := h b (List.mem_cons_self ..)
    calc (b :: bytes).foldl (fun n b => n * 256 + b) m
        < (m * 256 + b + 1) * 256 ^ bytes.length := ih (fun d hd => h d (List.mem_cons_of_mem _ hd)) _
      _ ≤ ((m + 1) * 256) * 256 ^ bytes.length := Nat.mul_le_mul_right _ (by omega)
      _ = (m + 1) * 256 ^ (b :: bytes).length := by rw [List.length_cons, Nat.pow_succ, Nat.mul_assoc, Nat.mul_comm 256]

/-- An IPv4 address has four bytes. -/
theorem ipv4?_lt (h : ipv4? s = some n) : n < 256 ^ 4 := by
  unfold ipv4? at h
  simp only [Option.bind_eq_bind, Option.bind_eq_some_iff] at h
  obtain ⟨numbers, -, last, -, h⟩ := h
  split at h
  · cases h
  · rename_i hbounds
    simp only [Bool.or_eq_true, decide_eq_true_eq, List.any_eq_true, not_or, not_exists, not_and, not_lt, not_le]
      at hbounds
    obtain ⟨⟨hlength, hbytes⟩, hlast⟩ := hbounds
    cases h
    have hhigh := foldl_bytes_lt numbers.dropLast (fun b hb => by have := hbytes b hb; omega) 0
    have hsplit : 256 ^ numbers.dropLast.length * 256 ^ (4 - numbers.dropLast.length) = 256 ^ 4 := by
      rw [← Nat.pow_add]
      congr 1
      omega
    rw [Nat.zero_add, Nat.one_mul] at hhigh
    calc _ < (numbers.dropLast.foldl (fun n b => n * 256 + b) 0 + 1) * 256 ^ (4 - numbers.dropLast.length) := by
          rw [Nat.succ_mul]
          exact Nat.add_lt_add_left hlast _
      _ ≤ 256 ^ numbers.dropLast.length * 256 ^ (4 - numbers.dropLast.length) := Nat.mul_le_mul_right _ hhigh
      _ = 256 ^ 4 := hsplit

/-! ## IPv6 -/

/-- No colon is a hexadecimal digit, so pieces can be told apart. -/
theorem colon_notMem_toDigits (n : Nat) : ':' ∉ Nat.toDigits 16 n := by
  intro h
  exact absurd (mem_toDigits (by decide) (by decide) h) (by decide)

/-- Pieces are joined with digits and colons. -/
theorem mem_joinPieces (hc : c ∈ joinPieces ps) : c = ':' ∨ c ∈ digitChars := by
  rcases mem_intercalate hc with hc | ⟨digits, hdigits, hc⟩
  · exact .inl (List.mem_singleton.1 hc)
  · obtain ⟨p, -, rfl⟩ := List.mem_map.1 hdigits
    exact .inr (mem_toDigits (by decide) (by decide) hc)

/-- Between two pieces stands one colon. -/
theorem joinPieces_cons_cons (p q : Nat) (ps : List Nat) :
    joinPieces (p :: q :: ps) = Nat.toDigits 16 p ++ ':' :: joinPieces (q :: ps) := by
  simp [joinPieces, List.intercalate_cons_cons]

/-- Joined pieces do not begin with a colon, so a gap before them has just two. -/
theorem exists_joinPieces (p : Nat) (ps : List Nat) : ∃ d s, joinPieces (p :: ps) = d :: s ∧ d ≠ ':' := by
  obtain ⟨d, ds, hd⟩ := List.exists_cons_of_ne_nil (Nat.toDigits_ne_nil (n := p) (b := 16))
  have hne : d ≠ ':' := by
    rintro rfl
    exact colon_notMem_toDigits p (by simp [hd])
  cases ps with
  | nil => exact ⟨d, ds, by simpa [joinPieces] using hd, hne⟩
  | cons q ps => exact ⟨d, ds ++ ':' :: joinPieces (q :: ps), by rw [joinPieces_cons_cons, hd]; rfl, hne⟩

/-- A piece that is written in hexadecimal is read as itself. -/
theorem piece?_toDigits (h : n < 65536) : piece? (Nat.toDigits 16 n) = some n := by
  have hlength : (Nat.toDigits 16 n).length ≤ 4 := (Nat.length_toDigits_le_iff (by decide) (by decide)).2 h
  rw [piece?, if_neg, numeral?_toDigits (by decide) (by decide)]
  simp [hlength]

/-- No point is a hexadecimal digit, so no piece is taken for an address of four bytes. -/
theorem dot_notMem_toDigits (n : Nat) : '.' ∉ Nat.toDigits 16 n := by
  intro h
  exact absurd (mem_toDigits (by decide) (by decide) h) (by decide)

/-- Pieces are read from what they are written as. -/
theorem pieces?_map_toDigits (h : ∀ p ∈ ps, p < 65536) : pieces? (ps.map (Nat.toDigits 16)) = some ps := by
  induction ps with
  | nil => rfl
  | cons p ps ih =>
    have hp : piece? (Nat.toDigits 16 p) = some p := piece?_toDigits (h p (List.mem_cons_self ..))
    cases ps with
    | nil =>
      have hdot : ¬ (Nat.toDigits 16 p).contains '.' = true := by simpa using dot_notMem_toDigits p
      rw [List.map_cons, List.map_nil, pieces?, if_neg hdot, hp, Option.map_some]
    | cons q ps =>
      rw [List.map_cons, pieces?, hp, ih fun p hp => h p (List.mem_cons_of_mem _ hp)]
      · rfl
      · simp

/-- Joined pieces split into themselves. -/
theorem splitOn_joinPieces (hne : ps ≠ []) : splitOn ':' (joinPieces ps) = ps.map (Nat.toDigits 16) := by
  rw [splitOn_eq, joinPieces, List.splitOn_intercalate _ _ (by simpa using hne)]
  intro l hl
  obtain ⟨p, -, rfl⟩ := List.mem_map.1 hl
  exact colon_notMem_toDigits p

/-- A side of the gap reads back. -/
theorem side?_joinPieces (h : ∀ p ∈ ps, p < 65536) : side? (joinPieces ps) = some ps := by
  cases ps with
  | nil => rfl
  | cons p ps =>
    obtain ⟨d, s, hd, -⟩ := exists_joinPieces p ps
    rw [side?, if_neg (by simp [hd]), splitOn_joinPieces (by simp), pieces?_map_toDigits h]

/-- The gap is looked for from the front, past everything that has no colon. -/
theorem splitGap?_append (h : ':' ∉ s) (t : List Char) :
    splitGap? (s ++ t) = (splitGap? t).map fun (a, b) => (s ++ a, b) := by
  induction s with
  | nil => simp
  | cons c s ih =>
    obtain ⟨hc, hs⟩ : ':' ≠ c ∧ ':' ∉ s := by simpa using h
    rw [List.cons_append, splitGap?, ih hs, Option.map_map]
    · rfl
    · rintro t rfl
      exact absurd rfl hc

/-- There is no gap within pieces. -/
theorem splitGap?_joinPieces (ps : List Nat) (t : List Char) :
    splitGap? (joinPieces ps ++ t) = (splitGap? t).map fun (a, b) => (joinPieces ps ++ a, b) := by
  induction ps with
  | nil => simp [joinPieces]
  | cons p ps ih =>
    cases ps with
    | nil => simpa [joinPieces] using splitGap?_append (colon_notMem_toDigits p) t
    | cons q ps =>
      obtain ⟨d, s, hd, hcolon⟩ := exists_joinPieces q ps
      have hnext : splitGap? (':' :: (joinPieces (q :: ps) ++ t)) =
          (splitGap? t).map fun (a, b) => (':' :: (joinPieces (q :: ps) ++ a), b) := by
        rw [splitGap?, ih, Option.map_map]
        · rfl
        · rintro t' - heq
          rw [hd, List.cons_append, List.cons.injEq] at heq
          exact hcolon heq.1
      rw [joinPieces_cons_cons, List.append_assoc, List.cons_append, splitGap?_append (colon_notMem_toDigits p), hnext,
        Option.map_map]
      simp [Function.comp_def]

/-- The longest run is one of zeros, and there are two at least. -/
theorem longestRun?_eq_some {i k : Nat} (h : longestRun? ps = some (i, k)) : 2 ≤ k ∧ k = zeroRun (ps.drop i) := by
  have hbest : ∀ (runs : List (Nat × Nat)) (best : Nat × Nat),
      runs.foldl (fun best run => if best.2 < run.2 then run else best) best ∈ best :: runs := by
    intro runs
    induction runs with
    | nil => simp
    | cons run runs ih =>
      intro best
      rw [List.foldl_cons]
      split
      · exact List.mem_cons_of_mem _ (ih run)
      · rcases List.mem_cons.1 (ih best) with hbest | hmem
        · exact List.mem_cons.2 (.inl hbest)
        · exact List.mem_cons_of_mem _ (List.mem_cons_of_mem _ hmem)
  unfold longestRun? at h
  dsimp only at h
  split at h
  · cases h
  · rename_i hlong
    have hmem := hbest ((List.range ps.length).map fun i => (i, zeroRun (ps.drop i))) (0, 0)
    rw [Option.some.inj h] at hmem hlong
    refine ⟨Nat.le_of_not_lt hlong, ?_⟩
    rcases List.mem_cons.1 hmem with hzero | hrun
    · cases hzero
      exact absurd hlong (by decide)
    · obtain ⟨j, -, hj⟩ := List.mem_map.1 hrun
      cases hj
      rfl

/-- The zeros that are left out are put back. -/
theorem drop_eq_replicate (ps : List Nat) (i : Nat) :
    ps.drop i = List.replicate (zeroRun (ps.drop i)) 0 ++ ps.drop (i + zeroRun (ps.drop i)) := by
  have hzeros : (ps.drop i).takeWhile (· == 0) = List.replicate (zeroRun (ps.drop i)) 0 := by
    refine List.eq_replicate_iff.2 ⟨rfl, fun p hp => ?_⟩
    simpa using List.mem_takeWhile_imp hp
  have hsplit : ps.drop i = List.replicate (zeroRun (ps.drop i)) 0 ++ (ps.drop i).dropWhile (· == 0) := by
    rw [← hzeros, List.takeWhile_append_dropWhile]
  rw [← List.drop_drop]
  generalize zeroRun (ps.drop i) = k at hsplit ⊢
  rw [hsplit, List.drop_left' List.length_replicate]

/-! Pieces have 16 bits. -/

/-- A piece has sixteen bits. -/
theorem piece?_lt (h : piece? s = some n) : n < 65536 := by
  unfold piece? at h
  split at h
  · cases h
  · rename_i hlength
    have hfour : s.length ≤ 4 := by
      simp only [Bool.or_eq_true, decide_eq_true_eq, not_or, not_lt] at hlength
      exact hlength.2
    calc n < 16 ^ s.length := numeral?_lt h
      _ ≤ 16 ^ 4 := Nat.pow_le_pow_right (by decide) hfour

/-- A decimal byte has eight bits. -/
theorem decimalByte?_lt (h : decimalByte? s = some n) : n < 256 := by
  unfold decimalByte? at h
  split at h
  · cases h
    decide
  · cases h
  · cases h
  · obtain ⟨m, -, h⟩ := Option.bind_eq_some_iff.1 h
    split at h
    · rename_i hm
      cases h
      exact hm
    · cases h

/-- The two pieces of an address of four bytes have sixteen bits each. -/
theorem ipv4Pieces?_lt (h : ipv4Pieces? s = some ps) : ∀ p ∈ ps, p < 65536 := by
  obtain ⟨bytes, hbytes, h⟩ := Option.bind_eq_some_iff.1 h
  have hbound : ∀ b ∈ bytes, b < 256 := by
    intro b hb
    obtain ⟨part, -, hpart⟩ := exists_of_mapM hbytes b hb
    exact decimalByte?_lt hpart
  split at h
  · rename_i a b c d
    cases h
    simp only [List.mem_cons, List.not_mem_nil, or_false, forall_eq_or_imp, forall_eq] at hbound ⊢
    omega
  · cases h

/-- All pieces of a list of parts have sixteen bits, an address at its end as well. -/
theorem pieces?_lt {parts : List (List Char)} (h : pieces? parts = some ps) : ∀ p ∈ ps, p < 65536 := by
  induction parts generalizing ps with
  | nil =>
    cases h
    simp
  | cons part parts ih =>
    unfold pieces? at h
    split at h
    · rename_i heq
      cases heq
    · rename_i heq
      cases heq
      split at h
      · exact ipv4Pieces?_lt h
      · obtain ⟨n, hn, rfl⟩ := Option.map_eq_some_iff.1 h
        simpa using piece?_lt hn
    · rename_i heq
      cases heq
      simp only [Option.bind_eq_bind, Option.bind_eq_some_iff, Option.some.injEq] at h
      obtain ⟨n, hn, more, hmore, rfl⟩ := h
      simpa using ⟨piece?_lt hn, ih hmore⟩

/-- All the pieces of a side have sixteen bits. -/
theorem side?_lt (h : side? s = some ps) : ∀ p ∈ ps, p < 65536 := by
  unfold side? at h
  split at h
  · cases h
    simp
  · exact pieces?_lt h

/-- An IPv6 address has eight pieces of 16 bits. -/
theorem ipv6?_bounds (h : ipv6? s = some ps) : ps.length = 8 ∧ ∀ p ∈ ps, p < 65536 := by
  unfold ipv6? at h
  split at h
  · obtain ⟨qs, hqs, h⟩ := Option.bind_eq_some_iff.1 h
    split at h
    · rename_i hlength
      cases h
      exact ⟨hlength, pieces?_lt hqs⟩
    · cases h
  · split at h
    · cases h
    · simp only [Option.bind_eq_bind, Option.bind_eq_some_iff] at h
      obtain ⟨front, hfront, back, hback, h⟩ := h
      split at h
      · cases h
        refine ⟨by simp only [List.length_append, List.length_replicate]; omega, fun p hp => ?_⟩
        simp only [List.mem_append, List.mem_replicate] at hp
        rcases hp with (hp | ⟨-, rfl⟩) | hp
        · exact side?_lt hfront p hp
        · decide
        · exact side?_lt hback p hp
      · cases h

/-- An IPv6 address is read from what is written between the brackets. -/
theorem exists_writeIpv6 (hlength : ps.length = 8) (h : ∀ p ∈ ps, p < 65536) :
    ∃ inner, writeIpv6 ps = '[' :: (inner ++ [']']) ∧ ipv6? inner = some ps ∧
      ∀ c ∈ inner, c = ':' ∨ c ∈ digitChars := by
  have hne : ps ≠ [] := by
    rintro rfl
    cases hlength
  cases hrun : longestRun? ps with
  | none =>
    refine ⟨joinPieces ps, by simp [writeIpv6, hrun], ?_, fun c => mem_joinPieces⟩
    have hgap : splitGap? (joinPieces ps) = none := by simpa [splitGap?] using splitGap?_joinPieces ps []
    simp [ipv6?, hgap, splitOn_joinPieces hne, pieces?_map_toDigits h, hlength]
  | some run =>
    obtain ⟨i, k⟩ := run
    obtain ⟨htwo, hk⟩ := longestRun?_eq_some hrun
    have hsplit : ps = ps.take i ++ (List.replicate k 0 ++ ps.drop (i + k)) := by
      rw [hk, ← drop_eq_replicate, List.take_append_drop]
    have hfront : ∀ p ∈ ps.take i, p < 65536 := fun p hp => h p (List.mem_of_mem_take hp)
    have hback : ∀ p ∈ ps.drop (i + k), p < 65536 := fun p hp => h p (List.mem_of_mem_drop hp)
    have hsum : (ps.take i).length + (k + (ps.drop (i + k)).length) = 8 := by
      rw [← hlength]
      conv_rhs => rw [hsplit]
      simp only [List.length_append, List.length_replicate]
    refine ⟨joinPieces (ps.take i) ++ ':' :: ':' :: joinPieces (ps.drop (i + k)), by simp [writeIpv6, hrun], ?_, ?_⟩
    · have hgap := splitGap?_joinPieces (ps.take i) (':' :: ':' :: joinPieces (ps.drop (i + k)))
      simp only [splitGap?, Option.map_some, List.append_nil] at hgap
      have hdot : (joinPieces (ps.take i)).contains '.' = false := by
        rw [← Bool.not_eq_true, List.contains_iff_mem]
        intro hmem
        rcases mem_joinPieces hmem with hc | hc <;> exact absurd hc (by decide)
      have hshort : (ps.take i).length + (ps.drop (i + k)).length < 8 := by omega
      have hzeros : 8 - (ps.take i).length - (ps.drop (i + k)).length = k := by omega
      simp only [ipv6?, hgap, hdot, side?_joinPieces hfront, side?_joinPieces hback, Bool.false_eq_true, if_false,
        Option.bind_eq_bind, Option.bind_some, if_pos hshort, hzeros, List.append_assoc, ← hsplit]
    · intro c hc
      simp only [List.mem_append, List.mem_cons] at hc
      rcases hc with hc | hc | hc | hc
      · exact mem_joinPieces hc
      · exact .inl hc
      · exact .inl hc
      · exact mem_joinPieces hc

end MediaPaths.Url
