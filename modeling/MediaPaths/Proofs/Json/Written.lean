import Mathlib.Algebra.Order.Group.Nat
import Mathlib.Data.List.Induction
import MediaPaths.Json.Printer
import MediaPaths.Proofs.Json.Order

/-!
# Reading what has been written

The compact text of a value is read as that value, up to where something follows that cannot go on with it. This holds
for values that can be read at all: their numbers are whole and fit, the members of their objects are in order, and
they are not nested too deeply.
-/

namespace MediaPaths.Json

variable {c : Char} {cs ds rest : List Char} {n fuel levels : Nat} {v w : Value}

/-! ## Members that are put in order -/

namespace Members

variable {ms ms' : Members} {name : String} {v : Value}

/-- Members that are put in one by one are in the order of their names. -/
theorem inOrder_ofList (ms : List (String × Value)) : (ofList ms).InOrder := InOrder.overlay .nil ms

/-- A new name adds a member and moves the others. -/
theorem insert_perm (h : ∀ m ∈ ms, m.1 ≠ name) (v : Value) : (ms.insert name v).Perm ((name, v) :: ms) := by
  induction ms with
  | nil => exact List.Perm.refl _
  | cons m ms ih =>
    obtain ⟨k, w⟩ := m
    have hne : ¬ (name == k) = true := by simpa using (h (k, w) (List.mem_cons_self ..)).symm
    rw [insert, if_neg hne]
    split
    · exact List.Perm.refl _
    · have hrest := ih fun m hm => h m (List.mem_cons_of_mem _ hm)
      exact (hrest.cons (k, w)).trans (List.Perm.swap ..)

/-- Members of different names are all kept. -/
theorem ofList_perm (h : (ms.map (·.1)).Nodup) : (ofList ms).Perm ms := by
  induction ms using List.reverseRecOn with
  | nil => exact List.Perm.refl []
  | append_singleton ms m ih =>
    rw [List.map_append, List.map_singleton, List.nodup_append] at h
    obtain ⟨hms, -, hnew⟩ := h
    have hperm := ih hms
    have hfresh : ∀ k ∈ ofList ms, k.1 ≠ m.1 := fun k hk =>
      hnew k.1 (List.mem_map_of_mem (hperm.mem_iff.1 hk)) m.1 (List.mem_singleton.2 rfl)
    rw [ofList, List.foldl_append]
    refine (insert_perm hfresh m.2).trans ((hperm.cons m).trans ?_)
    exact (List.perm_append_singleton m ms).symm

/-- There is one order only, so the same members are the same list. -/
theorem InOrder.eq_of_perm (h : ms.InOrder) (h' : ms'.InOrder) (hperm : ms.Perm ms') : ms = ms' :=
  List.Perm.eq_of_pairwise (fun _ _ _ _ hlt hgt => absurd hlt (lt_asymm hgt)) h h' hperm

/-- Members in order have distinct names. -/
theorem InOrder.nodup (h : ms.InOrder) : (ms.map (·.1)).Nodup :=
  List.pairwise_map.2 (h.imp fun hlt => hlt.ne)

/-- In whatever order members come, they are put in the same one. -/
theorem InOrder.ofList_eq_of_perm (h : ms.InOrder) (hperm : ms'.Perm ms) : ofList ms' = ms := by
  have hnodup : (ms'.map (·.1)).Nodup := (hperm.map _).nodup_iff.2 h.nodup
  exact (inOrder_ofList ms').eq_of_perm h ((ofList_perm hnodup).trans hperm)

/-- Where names are distinct, a member is found under its name. -/
theorem get?_eq_some (hnodup : (ms.map (·.1)).Nodup) (h : (name, v) ∈ ms) : get? ms name = some v := by
  induction ms with
  | nil => exact absurd h List.not_mem_nil
  | cons m ms ih =>
    obtain ⟨k, w⟩ := m
    rw [List.map_cons, List.nodup_cons] at hnodup
    rw [get?_cons]
    rcases List.mem_cons.1 h with hfirst | hrest
    · obtain ⟨rfl, rfl⟩ := Prod.mk.inj hfirst
      rw [if_pos rfl]
    · have hne : name ≠ k := by
        rintro rfl
        exact hnodup.1 (List.mem_map.2 ⟨(name, v), hrest, rfl⟩)
      rw [if_neg hne, ih hnodup.2 hrest]

end Members

/-! ## Strings -/

/-- Every control character is told by its two last digits. -/
theorem readHex_written (h : n < 0x20) (rest : List Char) :
    readHex ('0' :: '0' :: hexDigit (n / 16) :: hexDigit (n % 16) :: rest) = .ok (n, rest) := by
  have hdigits : ∀ k < 0x20, (([hexDigit (k / 16), hexDigit (k % 16)].map Char.utf8Size) = [1, 1]) ∧
      ['0', '0', hexDigit (k / 16), hexDigit (k % 16)].mapM hexValue? = some [0, 0, k / 16, k % 16] := by decide
  obtain ⟨hsize, hvalues⟩ := hdigits n h
  simp only [List.map_cons, List.map_nil, List.cons.injEq, and_true] at hsize
  unfold readHex
  simp only [List.take_succ_cons, List.take_zero, List.foldl_cons, List.foldl_nil, hsize, hvalues,
    show ('0' : Char).utf8Size = 1 from rfl]
  rw [if_neg (by decide)]
  have hvalue : n / 16 * 16 + n % 16 = n := Nat.div_add_mod' n 16
  simp [hvalue]

/-- A control character that is written as an escape is read as itself. -/
theorem readCode_written (h : c.toNat < 0x20) (rest : List Char) :
    readCode ('0' :: '0' :: hexDigit (c.toNat / 16) :: hexDigit (c.toNat % 16) :: rest) = .ok (c, rest) := by
  unfold readCode
  rw [readHex_written h]
  dsimp only
  rw [if_neg (by omega), if_pos (by omega), Char.ofNat_toNat]

/-- Reading takes a written character in one round. -/
theorem readStringFrom_writeChar (fuel : Nat) (taken : List Char) (c : Char) (rest : List Char) :
    readStringFrom (fuel + 1) taken (writeChar c ++ rest) = readStringFrom fuel (c :: taken) rest := by
  have hescape : ∀ {e cs : List Char}, readEscape (e ++ rest) = .ok (c, rest) → cs = '\\' :: e →
      readStringFrom (fuel + 1) taken (cs ++ rest) = readStringFrom fuel (c :: taken) rest := by
    rintro e cs he rfl
    rw [List.cons_append, readStringFrom, he]
  unfold writeChar
  split_ifs with hquote hb ht hn hf hr hlow
  · rw [Bool.or_eq_true, beq_iff_eq, beq_iff_eq] at hquote
    rcases hquote with rfl | rfl <;> exact hescape rfl rfl
  · obtain rfl := eq_of_beq hb
    exact hescape rfl rfl
  · obtain rfl := eq_of_beq ht
    exact hescape rfl rfl
  · obtain rfl := eq_of_beq hn
    exact hescape rfl rfl
  · obtain rfl := eq_of_beq hf
    exact hescape rfl rfl
  · obtain rfl := eq_of_beq hr
    exact hescape rfl rfl
  · exact hescape (e := ['u', '0', '0', _, _]) (readCode_written hlow rest) rfl
  · simp only [Bool.or_eq_true, beq_iff_eq, not_or] at hquote
    rw [List.singleton_append, readStringFrom, if_neg hlow]
    · exact hquote.1
    · exact hquote.2

/-- The characters of a string are read one by one, each as the one that was written. -/
theorem readStringFrom_written (cs : List Char) (hfuel : cs.length < fuel) (taken rest : List Char) :
    readStringFrom fuel taken (cs.flatMap writeChar ++ '"' :: rest) =
      .ok (String.ofList (taken.reverse ++ cs), rest) := by
  induction cs generalizing fuel taken with
  | nil =>
    obtain ⟨fuel, rfl⟩ := Nat.exists_eq_add_one_of_ne_zero (Nat.ne_of_gt hfuel)
    rw [List.flatMap_nil, List.nil_append, readStringFrom, List.append_nil]
  | cons c cs ih =>
    rw [List.length_cons] at hfuel
    obtain ⟨fuel, rfl⟩ := Nat.exists_eq_add_one_of_ne_zero (n := fuel) (by omega)
    rw [List.flatMap_cons, List.append_assoc, readStringFrom_writeChar, ih (by omega)]
    simp

/-- Every character is written with something, so the length of the text bounds their number. -/
theorem writeChar_ne_nil (c : Char) : writeChar c ≠ [] := by
  unfold writeChar
  split_ifs <;> exact List.cons_ne_nil _ _

theorem length_le_length_flatMap {α β : Type} {f : α → List β} (hf : ∀ a, f a ≠ []) (as : List α) :
    as.length ≤ (as.flatMap f).length := by
  induction as with
  | nil => exact Nat.zero_le _
  | cons a as ih =>
    have hpos := List.length_pos_of_ne_nil (hf a)
    rw [List.flatMap_cons, List.length_cons, List.length_append]
    omega

/-- A string reads back. -/
theorem readString_written (s : String) (rest : List Char) :
    readString (s.toList.flatMap writeChar ++ '"' :: rest) = .ok (s, rest) := by
  have hlength := length_le_length_flatMap writeChar_ne_nil s.toList
  rw [readString, readStringFrom_written _ (by rw [List.length_append, List.length_cons]; omega)]
  simp

/-! ## Numbers -/

/-- The digits of a number do not begin with a zero, which the grammar forbids. -/
theorem head?_toDigits (hn : 0 < n) : (Nat.toDigits 10 n).head? ≠ some '0' := by
  induction n using Nat.strongRecOn with
  | _ n ih =>
    rw [Nat.toDigits_eq_if (by decide)]
    split
    · rename_i hlow
      have hdigit : ∀ k < 10, 0 < k → k.digitChar ≠ '0' := by decide
      simpa using hdigit n hlow hn
    · rename_i hhigh
      rw [List.head?_append_of_ne_nil _ Nat.toDigits_ne_nil]
      exact ih (n / 10) (by omega) (by omega)

theorem exists_toDigits (n : Nat) : ∃ d ds, Nat.toDigits 10 n = d :: ds ∧ d.isDigit = true := by
  obtain ⟨d, ds, heq⟩ := List.exists_cons_of_ne_nil (Nat.toDigits_ne_nil (n := n) (b := 10))
  exact ⟨d, ds, heq, Nat.isDigit_of_mem_toDigits (b := 10) (n := n) (by decide) (by decide) (by simp [heq])⟩

/-- Digits are taken as long as the number fits, so all of them are. -/
theorem absorb_eq (h : Nat.ofDigitChars 10 ds n < UInt64.size) : absorb n ds = (Nat.ofDigitChars 10 ds n, 0) := by
  have hle : ∀ (ds : List Char) (n : Nat), n ≤ Nat.ofDigitChars 10 ds n := by
    intro ds
    induction ds with
    | nil => exact fun n => Nat.le_refl n
    | cons d ds ih =>
      intro n
      rw [Nat.ofDigitChars_cons]
      have := ih (10 * n + (d.toNat - '0'.toNat))
      omega
  induction ds generalizing n with
  | nil => rfl
  | cons d ds ih =>
    rw [Nat.ofDigitChars_cons] at h ⊢
    have hfits := Nat.lt_of_le_of_lt (hle ds _) h
    rw [absorb]
    simp only [Nat.mul_comm n]
    rw [if_pos hfits, ih h]

/-- Digits that are followed by neither a fraction nor an exponent make a whole number. -/
theorem whole_exact (neg : Bool) (n : Nat) (rest : List Char) :
    readNumber.whole neg n 0 rest = (wholeNumber neg n).map fun f => (f, rest) := by
  rw [readNumber.whole, if_pos (by decide)]

/-- The digits end where the number ends. -/
theorem span_digits (hds : ∀ c ∈ ds, c.isDigit = true) (hrest : Ends rest) :
    (ds ++ rest).takeWhile Char.isDigit = ds ∧ (ds ++ rest).dropWhile Char.isDigit = rest := by
  rw [List.takeWhile_append_of_pos hds, List.dropWhile_append_of_pos hds]
  cases rest with
  | nil => exact ⟨List.append_nil ds, rfl⟩
  | cons c cs =>
    have hc : ¬ c.isDigit = true := by
      intro hdigit
      have hplain := hrest c rfl
      rw [isPlain_of_isDigit hdigit] at hplain
      cases hplain
    rw [List.takeWhile_cons_of_neg hc, List.dropWhile_cons_of_neg hc, List.append_nil]
    exact ⟨rfl, rfl⟩

/-- A zero in front is the only digit. -/
theorem front_of_toDigits (h : Nat.toDigits 10 n = c :: ds) : (c == '0' && !ds.isEmpty) = false := by
  rcases Nat.eq_zero_or_pos n with rfl | hpos
  · rw [Nat.toDigits_zero] at h
    obtain ⟨rfl, rfl⟩ := List.cons.inj h
    rfl
  · have hc := head?_toDigits hpos
    rw [h] at hc
    have hne : c ≠ '0' := by simpa using hc
    simp [hne]

/-- The digits of a number, if nothing follows that a number goes on with. -/
theorem readNumber_written (neg : Bool) (hn : n < UInt64.size) (hrest : Ends rest) :
    readNumber neg (Nat.toDigits 10 n ++ rest) = (wholeNumber neg n).map fun f => (f, rest) := by
  have hdigits : ∀ c ∈ Nat.toDigits 10 n, c.isDigit = true := fun c hc =>
    Nat.isDigit_of_mem_toDigits (by decide) (by decide) hc
  obtain ⟨htake, hdrop⟩ := span_digits hdigits hrest
  have hvalue : Nat.ofDigitChars 10 (Nat.toDigits 10 n) 0 = n := Nat.ofDigitChars_toDigits (by decide) (by decide)
  have habsorb : absorb 0 (Nat.toDigits 10 n) = (n, 0) := by rw [absorb_eq (by rw [hvalue]; exact hn), hvalue]
  obtain ⟨d, more, heq, -⟩ := exists_toDigits n
  unfold readNumber
  simp only [htake, hdrop]
  rw [heq]
  simp only [front_of_toDigits heq, Bool.false_eq_true, if_false]
  rw [← heq, habsorb]
  dsimp only
  split
  · exact absurd (hrest '.' rfl) (by decide)
  · rename_i c cs hpoint
    have hexponent : ¬ (c == 'e' || c == 'E') = true := by
      intro hc
      rw [Bool.or_eq_true, beq_iff_eq, beq_iff_eq] at hc
      have := hrest c rfl
      rcases hc with rfl | rfl <;> revert this <;> decide
    rw [if_neg hexponent]
    exact whole_exact neg n (c :: cs)
  · exact whole_exact neg n []

/-! ## Values that are not nested -/

/-- Whole numbers that are read as they are written. -/
def Number.IsWhole : Number → Prop
  | natural _ => True
  | negative n => 0 < n ∧ n ≤ UInt64.size / 2
  | float _ _ => False

/-- A natural number is written in decimal digits. -/
theorem write_natural (n : UInt64) : write (.number (.natural n)) = Nat.toDigits 10 n.toNat := by
  simp [write, Number.text]

/-- A negative number is written with a sign before its digits. -/
theorem write_negative (n : Nat) : write (.number (.negative n)) = '-' :: Nat.toDigits 10 n := by
  simp [write, Number.text]

theorem readScalar_digit (h : c.isDigit = true) :
    readScalar (c :: cs) = (readNumber false (c :: cs)).map fun (n, rest) => (.number n, rest) := by
  unfold readScalar
  dsimp only
  split
  case h_6 => rw [if_pos h]
  all_goals exact absurd h (by decide)

/-- A whole number reads back, if what follows cannot be taken for a part of it. -/
theorem readScalar_number {k : Number} (hk : k.IsWhole) (hrest : Ends rest) :
    readScalar (write (.number k) ++ rest) = .ok (.number k, rest) := by
  cases k with
  | natural n =>
    obtain ⟨d, more, heq, hd⟩ := exists_toDigits n.toNat
    rw [write_natural, heq, List.cons_append, readScalar_digit hd, ← List.cons_append, ← heq,
      readNumber_written false n.toNat_lt hrest]
    simp [wholeNumber, Except.map]
  | negative n =>
    obtain ⟨hpos, hle⟩ := hk
    have hfits : n < UInt64.size := Nat.lt_of_le_of_lt hle (by decide)
    rw [write_negative, List.cons_append]
    show (readNumber true _).map _ = _
    rw [readNumber_written true hfits hrest]
    have hwhole : wholeNumber true n = .ok (.negative n) := by
      have hsmall : ¬ (n == 0 || decide (UInt64.size / 2 < n)) = true := by
        simp only [Bool.or_eq_true, beq_iff_eq, decide_eq_true_eq]
        omega
      unfold wholeNumber
      rw [if_neg (by decide), if_neg hsmall]
    rw [hwhole]
    rfl
  | float => exact absurd hk id

/-- A string reads back as a value. -/
theorem readScalar_string (s : String) (rest : List Char) :
    readScalar (writeString s ++ rest) = .ok (.string s, rest) := by
  have htext : writeString s ++ rest = '"' :: (s.toList.flatMap writeChar ++ '"' :: rest) := by
    simp [writeString]
  rw [htext]
  show (readString _).map _ = _
  rw [readString_written]
  rfl

/-- What is no array and no object. -/
def Value.IsScalar : Value → Prop
  | .array _ => False
  | .object _ => False
  | _ => True

/-! ## All values -/

/-- The values that are read as they are written, with so many levels for their arrays and objects. -/
def Value.Storable : Nat → Value → Prop
  | _, .null => True
  | _, .bool _ => True
  | _, .number k => k.IsWhole
  | _, .string _ => True
  | 0, .array _ => False
  | levels + 1, .array vs => ∀ v ∈ vs, v.Storable levels
  | 0, .object _ => False
  | levels + 1, .object ms => Members.InOrder ms ∧ ∀ m ∈ ms, m.2.Storable levels

/-- Written values begin with something that is no white space, and no end of what is around them. -/
theorem begins_write (h : v.Storable levels) : Begins (write v) := by
  have hclosed : ∀ {c : Char} {cs : List Char}, (isBlank c = false ∧ c ≠ ']' ∧ c ≠ '\x7d') →
      Begins (c :: cs) := by
    intro c cs hc
    exact ⟨c, cs, rfl, hc⟩
  cases v with
  | null => exact hclosed (by decide)
  | bool b => cases b <;> exact hclosed (by decide)
  | string s => exact hclosed (by decide)
  | array vs =>
    rw [write]
    exact hclosed (by decide)
  | object ms =>
    rw [write]
    exact hclosed (by decide)
  | number k =>
    cases k with
    | natural n =>
      obtain ⟨d, more, heq, hd⟩ := exists_toDigits n.toNat
      rw [write_natural, heq]
      exact begins_of_isPlain (isPlain_of_isDigit hd)
    | negative n =>
      rw [write_negative]
      exact hclosed (by decide)
    | float =>
      cases levels <;> exact absurd h id

/-- No blank comes before what is written. -/
theorem skipBlank_of_begins (h : Begins cs) (rest : List Char) : skipBlank (cs ++ rest) = cs ++ rest := by
  obtain ⟨c, cs, rfl, hc, -⟩ := h
  rw [List.cons_append, skipBlank, List.dropWhile_cons_of_neg (by simp [hc])]

theorem ends_cons (h : isPlain c = false) : Ends (c :: cs) := by
  rintro d hd
  obtain rfl := Option.some.inj hd
  exact h

/-- Reading gives the value behind whose text the rest begins. -/
def ReadsBack (levels : Nat) (v : Value) : Prop :=
  ∀ rest, Ends rest → readValue levels (write v ++ rest) = .ok (v, rest)

/-! ### Arrays -/

/-- The text of a list is longer than the list, so the reader does not run out of steps. -/
theorem length_le_writeElements (v : Value) (vs : List Value) : vs.length < (writeElements (v :: vs)).length := by
  induction vs generalizing v with
  | nil =>
    rw [writeElements, List.length_append, List.length_cons]
    omega
  | cons w vs ih =>
    have := ih w
    rw [writeElements, List.length_append, List.length_cons, List.length_cons]
    · omega
    · exact List.cons_ne_nil w vs

/-- The elements of a list begin as the first of them does. -/
theorem begins_writeElements (h : Begins (write v)) (vs : List Value) : Begins (writeElements (v :: vs)) := by
  obtain ⟨c, cs, hc, hbegins⟩ := h
  cases vs with
  | nil => exact ⟨c, cs ++ [']'], by rw [writeElements, hc, List.cons_append], hbegins⟩
  | cons w vs => exact ⟨c, _, by rw [writeElements, hc, List.cons_append]; exact List.cons_ne_nil w vs, hbegins⟩

/-- The elements are read one after the other, as they were written. -/
theorem readElementsFrom_written (vs : List Value)
    (hread : ∀ w ∈ v :: vs, Begins (write w) ∧ ReadsBack levels w)
    (hfuel : vs.length < fuel) (taken : List Value) (rest : List Char) :
    readElementsFrom (readValue levels) fuel taken (writeElements (v :: vs) ++ rest) =
      .ok (taken.reverse ++ v :: vs, rest) := by
  have hclosing : skipBlank (']' :: rest) = ']' :: rest := List.dropWhile_cons_of_neg (by decide)
  have hcomma : ∀ cs : List Char, skipBlank (',' :: cs) = ',' :: cs := fun cs =>
    List.dropWhile_cons_of_neg (by decide)
  induction vs generalizing v fuel taken with
  | nil =>
    obtain ⟨fuel, rfl⟩ := Nat.exists_eq_add_one_of_ne_zero (Nat.ne_of_gt hfuel)
    have hv := (hread v (List.mem_cons_self ..)).2 (']' :: rest) (ends_cons (by decide))
    rw [writeElements, List.append_assoc, List.singleton_append, readElementsFrom, hv]
    dsimp only
    rw [hclosing]
    simp
  | cons w vs ih =>
    rw [List.length_cons] at hfuel
    obtain ⟨fuel, rfl⟩ := Nat.exists_eq_add_one_of_ne_zero (n := fuel) (by omega)
    have hv := (hread v (List.mem_cons_self ..)).2 (',' :: (writeElements (w :: vs) ++ rest)) (ends_cons (by decide))
    have hnext : readElementsFrom (readValue levels) fuel (v :: taken) (writeElements (w :: vs) ++ rest) =
        .ok ((v :: taken).reverse ++ w :: vs, rest) :=
      ih (fun u hu => hread u (List.mem_cons_of_mem _ hu)) (by omega) _
    have hbegins := begins_writeElements (hread w (by simp)).1 vs
    have hskip := skipBlank_of_begins hbegins rest
    obtain ⟨c, cs, hc, -, hbracket, -⟩ := hbegins
    have htext : writeElements (w :: vs) ++ rest = c :: (cs ++ rest) := by rw [hc, List.cons_append]
    rw [writeElements, List.append_assoc, List.cons_append, readElementsFrom, hv, htext]
    · rw [htext] at hskip hnext
      simp only [hcomma, hskip]
      split
      · rename_i heq
        cases heq
      · rename_i heq
        exact absurd (List.cons.inj heq).1 hbracket
      · rw [hnext]
        simp
    · exact List.cons_ne_nil w vs

/-! ### Objects -/

/-- The text of an object is longer than the number of its members. -/
theorem length_le_writeMembers (m : String × Value) (ms : Members) : ms.length < (writeMembers (m :: ms)).length := by
  induction ms generalizing m with
  | nil =>
    rw [writeMembers, List.length_append, List.length_append]
    simp
  | cons k ms ih =>
    have := ih k
    rw [writeMembers, List.length_append, List.length_cons, List.length_append, List.length_cons, List.length_cons]
    · omega
    · exact List.cons_ne_nil k ms

/-- Members begin with the quote of a name. -/
theorem writeMembers_eq_cons (m : String × Value) (ms : Members) : ∃ cs, writeMembers (m :: ms) = '"' :: cs := by
  obtain ⟨k, v⟩ := m
  cases ms with
  | nil =>
    rw [writeMembers, writeString]
    exact ⟨_, rfl⟩
  | cons m ms =>
    rw [writeMembers, writeString]
    · exact ⟨_, rfl⟩
    · exact List.cons_ne_nil m ms

/-- How a value that has been read is put under its name. -/
def member (levels : Nat) (name : String) (ms : Members) (cs : List Char) : Result Members :=
  match readColon cs with
  | .ok rest => (readValue levels rest).map fun (v, rest) => (ms.insert name v, rest)
  | .error e => .error e

/-- One member reads back, and is put where its name belongs. -/
theorem member_written (hread : readValue levels (write v ++ rest) = .ok (v, rest)) (s : String) (ms : Members) :
    member levels s ms (':' :: (write v ++ rest)) = .ok (ms.insert s v, rest) := by
  have hcolon : readColon (':' :: (write v ++ rest)) = .ok (write v ++ rest) := rfl
  rw [member, hcolon]
  simp only [hread, Except.map]

/-- The members are read one after the other, as they were written. -/
theorem readMembersFrom_written {m : String × Value} (ms done : Members)
    (hread : ∀ k ∈ m :: ms, ReadsBack levels k.2) (hfuel : ms.length < fuel) (rest : List Char) :
    readMembersFrom (member levels) fuel done (writeMembers (m :: ms) ++ rest) =
      .ok (done.overlay (m :: ms), rest) := by
  have hclosing : skipBlank ('\x7d' :: rest) = '\x7d' :: rest := List.dropWhile_cons_of_neg (by decide)
  have hblank : ∀ (c : Char) (cs : List Char), isBlank c = false → skipBlank (c :: cs) = c :: cs := fun c cs hc =>
    List.dropWhile_cons_of_neg (by simp [hc])
  induction ms generalizing m fuel done with
  | nil =>
    obtain ⟨k, v⟩ := m
    obtain ⟨fuel, rfl⟩ := Nat.exists_eq_add_one_of_ne_zero (Nat.ne_of_gt hfuel)
    have hv := member_written (hread (k, v) (List.mem_cons_self ..) ('\x7d' :: rest) (ends_cons (by decide))) k done
    have htext : writeMembers [(k, v)] ++ rest =
        '"' :: (k.toList.flatMap writeChar ++ '"' :: ':' :: (write v ++ '\x7d' :: rest)) := by
      simp [writeMembers, writeString]
    rw [htext, readMembersFrom, readString_written]
    dsimp only
    rw [hv]
    dsimp only
    rw [hclosing]
    rfl
  | cons m' ms ih =>
    obtain ⟨k, v⟩ := m
    rw [List.length_cons] at hfuel
    obtain ⟨fuel, rfl⟩ := Nat.exists_eq_add_one_of_ne_zero (n := fuel) (by omega)
    obtain ⟨cs, hc⟩ := writeMembers_eq_cons m' ms
    have hv := member_written (hread (k, v) (List.mem_cons_self ..) (',' :: '"' :: (cs ++ rest))
      (ends_cons (by decide))) k done
    have htext : writeMembers ((k, v) :: m' :: ms) ++ rest =
        '"' :: (k.toList.flatMap writeChar ++ '"' :: ':' :: (write v ++ ',' :: '"' :: (cs ++ rest))) := by
      rw [writeMembers, hc]
      · simp [writeString]
      · exact List.cons_ne_nil m' ms
    have hnext : readMembersFrom (member levels) fuel (done.insert k v) (writeMembers (m' :: ms) ++ rest) =
        .ok ((done.insert k v).overlay (m' :: ms), rest) :=
      ih _ (fun u hu => hread u (List.mem_cons_of_mem _ hu)) (by omega)
    rw [hc, List.cons_append] at hnext
    rw [htext, readMembersFrom, readString_written]
    dsimp only
    rw [hv]
    simp only [hblank ',' _ (by decide), hblank '"' _ (by decide)]
    exact hnext

/-! ### Values -/

/-- Every scalar reads back. -/
theorem readScalar_write (h : v.Storable levels) (hrest : Ends rest) (hv : v.IsScalar) :
    readScalar (write v ++ rest) = .ok (v, rest) := by
  cases v with
  | null => rfl
  | bool b => cases b <;> rfl
  | number k =>
    have hk : k.IsWhole := by cases levels <;> exact h
    exact readScalar_number hk hrest
  | string s => exact readScalar_string s rest
  | array | object => exact absurd hv id

theorem readValue_of_readScalar (h : readScalar cs = .ok (v, rest)) (hcs : skipBlank cs = cs) (levels : Nat) :
    readValue levels cs = .ok (v, rest) := by
  unfold readValue
  rw [hcs]
  split
  · cases h
  · cases h
  · cases h
  · cases h
  · exact h

/-- A list reads back if its elements do. -/
theorem readElements_written {vs : List Value} (hread : ∀ v ∈ vs, Begins (write v) ∧ ReadsBack levels v)
    (rest : List Char) : readElements (readValue levels) (writeElements vs ++ rest) = .ok (vs, rest) := by
  cases vs with
  | nil => rfl
  | cons v vs =>
    have hbegins := begins_writeElements (hread v (List.mem_cons_self ..)).1 vs
    have hskip := skipBlank_of_begins hbegins rest
    have hfuel : vs.length < (writeElements (v :: vs) ++ rest).length + 1 := by
      have := length_le_writeElements v vs
      rw [List.length_append]
      omega
    have hall := readElementsFrom_written vs hread hfuel [] rest
    obtain ⟨c, cs, hc, -, hbracket, -⟩ := hbegins
    rw [readElements, hskip]
    split
    · rename_i heq
      rw [hc] at heq
      cases heq
    · rename_i heq
      rw [hc] at heq
      exact absurd (List.cons.inj heq).1 hbracket
    · exact hall

/-- An object reads back if the values of its members do. -/
theorem readMembers_written {ms : Members} (hread : ∀ m ∈ ms, ReadsBack levels m.2) (rest : List Char) :
    readMembers (member levels) [] (writeMembers ms ++ rest) = .ok (.ofList ms, rest) := by
  cases ms with
  | nil => rfl
  | cons m ms =>
    obtain ⟨cs, hc⟩ := writeMembers_eq_cons m ms
    have hskip : skipBlank (writeMembers (m :: ms) ++ rest) = writeMembers (m :: ms) ++ rest := by
      rw [hc, List.cons_append]
      exact List.dropWhile_cons_of_neg (by decide)
    have hfuel : ms.length < (writeMembers (m :: ms) ++ rest).length + 1 := by
      have := length_le_writeMembers m ms
      rw [List.length_append]
      omega
    have hall : readMembersFrom (member levels) _ [] (writeMembers (m :: ms) ++ rest) =
        .ok (.ofList (m :: ms), rest) := readMembersFrom_written ms [] hread hfuel rest
    rw [readMembers, hskip]
    split
    · rename_i heq
      rw [hc] at heq
      cases heq
    · rename_i heq
      rw [hc] at heq
      cases heq
    · exact hall

/-- Of an object with members in any order, the members are read in order, and of one name the last. -/
theorem readObject_written {ms : Members} (hread : ∀ m ∈ ms, ReadsBack levels m.2) (rest : List Char) :
    readValue (levels + 1) (write (.object ms) ++ rest) = .ok (.object (Members.ofList ms), rest) := by
  have hmembers := readMembers_written hread rest
  have hskip : skipBlank ('\x7b' :: (writeMembers ms ++ rest)) = '\x7b' :: (writeMembers ms ++ rest) :=
    List.dropWhile_cons_of_neg (by decide)
  unfold readValue
  rw [write, List.cons_append, hskip]
  show (readMembers (member levels) [] _).map _ = _
  simp only [hmembers, Except.map]

/-- A value is read as it is written. -/
theorem Value.Storable.readsBack (h : v.Storable levels) : ReadsBack levels v := by
  induction levels generalizing v with
  | zero =>
    intro rest hrest
    have hskip := skipBlank_of_begins (begins_write h) rest
    cases v with
    | array | object => exact absurd h id
    | null | bool | number | string => exact readValue_of_readScalar (readScalar_write h hrest trivial) hskip 0
  | succ levels ih =>
    intro rest hrest
    have hskip := skipBlank_of_begins (begins_write h) rest
    cases v with
    | null | bool | number | string => exact readValue_of_readScalar (readScalar_write h hrest trivial) hskip _
    | array vs =>
      have hread := readElements_written (fun v hv => ⟨begins_write (h v hv), ih (h v hv)⟩) rest
      unfold readValue
      rw [hskip, write, List.cons_append]
      simp only [hread, Except.map]
    | object ms =>
      obtain ⟨horder, hms⟩ := h
      have hread := readObject_written (fun m hm => ih (hms m hm)) rest
      rw [hread, horder.ofList_eq_of_perm (List.Perm.refl ms)]

/-- A document is read as a value with nothing left over. -/
theorem Value.ofString_of_readValue (h : readValue maxLevels (write v ++ []) = .ok (w, [])) :
    Value.ofString v.compact = .ok w := by
  rw [List.append_nil] at h
  unfold Value.ofString readAll Value.compact
  rw [String.toList_ofList, h]
  rfl

/-- The compact text of a value is read as that value. -/
theorem Value.ofString_compact (h : v.Storable maxLevels) : Value.ofString v.compact = .ok v :=
  ofString_of_readValue (h.readsBack [] fun c hc => absurd hc (by simp))

/-- The compact text of an object, whatever the order of its members. -/
theorem Value.ofString_object {ms : Members} (h : ∀ m ∈ ms, ∀ levels, m.2.Storable levels) :
    Value.ofString (Value.object ms).compact = .ok (.object (Members.ofList ms)) :=
  ofString_of_readValue (readObject_written (fun m hm => (h m hm _).readsBack) [])

end MediaPaths.Json
