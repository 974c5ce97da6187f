import Mathlib.Data.List.TakeWhile
import MediaPaths.Json.Typed
import MediaPaths.Proofs.Json.Strings

/-!
# What readers take

What a reader takes from the front of a text is spelled as the grammar says: white space and one value. The
members of an object are taken one after the other, and what a reader makes of each is all that it makes of
the object.
-/

namespace MediaPaths.Json

variable {α σ : Type} {P : α → List Char → Prop} {R R' : List Char → Prop} {a : α} {as : List α}
  {b cs rest u v word : List Char} {name : String} {n m levels fuel : Nat} {e : Int} {neg : Bool}
  {number : Number} {w : Value} {t : Tree}

/-- White space and then such a text are at the front. -/
def Front (R : List Char → Prop) (cs rest : List Char) : Prop :=
  ∃ b v, cs = b ++ v ++ rest ∧ Blank b ∧ R v

/-- The text is a value. -/
def IsValue (v : List Char) : Prop := ∃ t, Spells t v

/-- What is skipped is blank. -/
theorem exists_blank (cs : List Char) : ∃ b, Blank b ∧ cs = b ++ skipBlank cs :=
  ⟨cs.takeWhile isBlank, fun _ hc => List.mem_takeWhile_imp hc, List.takeWhile_append_dropWhile.symm⟩

/-- After some blank the front of the text is what it should be. -/
theorem Front.of_skipBlank (h : skipBlank cs = v ++ rest) (hv : R v) : Front R cs rest := by
  obtain ⟨b, hb, hcs⟩ := exists_blank cs
  exact ⟨b, v, by rw [List.append_assoc, ← h, ← hcs], hb, hv⟩

/-- A front of one kind is one of every wider kind. -/
theorem Front.imp (h : Front R cs rest) (hR : ∀ v, R v → R' v) : Front R' cs rest := by
  obtain ⟨b, v, hcs, hb, hv⟩ := h
  exact ⟨b, v, hcs, hb, hR v hv⟩

/-- More blank at the front does no harm. -/
theorem Front.skipBlank (h : Front R (skipBlank cs) rest) : Front R cs rest := by
  obtain ⟨b, v, hcs, hb, hv⟩ := h
  obtain ⟨b', hb', heq⟩ := exists_blank cs
  refine ⟨b' ++ b, v, ?_, ?_, hv⟩
  · rw [heq, hcs]
    simp only [List.append_assoc]
  · intro c hc
    rcases List.mem_append.1 hc with hc | hc
    · exact hb' c hc
    · exact hb c hc

/-- A result that was changed comes from one that was there. -/
theorem map_eq_ok {ε β : Type} {x : Except ε α} {f : α → β} {y : β} (h : x.map f = .ok y) :
    ∃ a, x = .ok a ∧ f a = y := by
  cases x with
  | error e => cases h
  | ok a => exact ⟨a, rfl, Except.ok.inj h⟩

/-- Two readers one after the other both succeeded if the whole did. -/
theorem bind_eq_ok {ε β : Type} {x : Except ε α} {f : α → Except ε β} {y : β} (h : x >>= f = .ok y) :
    ∃ a, x = .ok a ∧ f a = .ok y := by
  cases x with
  | error e => cases h
  | ok a => exact ⟨a, rfl, h⟩

/-! ## Words and numbers -/

/-- The text goes on with plain characters. -/
def Runs (cs rest : List Char) : Prop := ∃ v, cs = v ++ rest ∧ ∀ c ∈ v, isPlain c = true

/-- Nothing was read yet. -/
theorem Runs.refl (cs : List Char) : Runs cs cs := ⟨[], rfl, by simp⟩

/-- Plain characters read in two goes were read in one. -/
theorem Runs.trans (h : Runs cs v) (h' : Runs v rest) : Runs cs rest := by
  obtain ⟨u, rfl, hu⟩ := h
  obtain ⟨w, rfl, hw⟩ := h'
  refine ⟨u ++ w, by simp, ?_⟩
  intro c hc
  rcases List.mem_append.1 hc with hc | hc
  · exact hu c hc
  · exact hw c hc

/-- One more plain character. -/
theorem Runs.cons {c : Char} (hc : isPlain c = true) (h : Runs cs rest) : Runs (c :: cs) rest :=
  Runs.trans ⟨[c], rfl, by simpa using hc⟩ h

/-- Digits are plain characters. -/
theorem isPlain_of_isDigit {c : Char} (h : c.isDigit = true) : isPlain c = true := by
  simp [isPlain, Char.isAlphanum, h]

/-- Digits are skipped as a run of plain characters. -/
theorem runs_digits (cs : List Char) : Runs cs (cs.dropWhile Char.isDigit) :=
  ⟨cs.takeWhile Char.isDigit, List.takeWhile_append_dropWhile.symm,
    fun _ hc => isPlain_of_isDigit (List.mem_takeWhile_imp hc)⟩

/-- Plain characters are a value if there are any. -/
theorem Runs.spells {c : Char} (hc : isPlain c = true) (h : Runs cs rest) :
    ∃ u, c :: cs = u ++ rest ∧ Spells .leaf u := by
  obtain ⟨v, rfl, hv⟩ := h
  refine ⟨c :: v, rfl, .plain (List.cons_ne_nil c v) ?_⟩
  intro d hd
  rcases List.mem_cons.1 hd with rfl | hd
  · exact hc
  · exact hv d hd

/-- Plain characters in a row are a value, if there are any. -/
theorem Runs.isValue {c : Char} (hc : isPlain c = true) (h : Runs cs rest) :
    ∃ u, c :: cs = u ++ rest ∧ IsValue u := by
  obtain ⟨u, hu, hspells⟩ := h.spells hc
  exact ⟨u, hu, _, hspells⟩

/-- A word is read letter by letter. -/
theorem readWord_sound (hw : word.all isPlain = true) (h : readWord word cs = .ok rest) : Runs cs rest := by
  induction word generalizing cs with
  | nil =>
    cases h
    exact .refl _
  | cons c word ih =>
    cases cs with
    | nil => cases h
    | cons d cs =>
      rw [List.all_cons, Bool.and_eq_true] at hw
      simp only [readWord] at h
      split at h
      · rename_i heq
        obtain rfl : c = d := by simpa using heq
        exact .cons hw.1 (ih hw.2 h)
      · cases h

theorem readWord_null_sound (h : readWord ['u', 'l', 'l'] cs = .ok rest) :
    ∃ v, 'n' :: cs = v ++ rest ∧ IsValue v :=
  (readWord_sound (by decide) h).isValue (by decide)

/-- An exponent is a run of plain characters. -/
theorem readExponent_sound (h : readExponent neg n e cs = .ok (number, rest)) : Runs cs rest := by
  unfold readExponent at h
  split at h
  rename_i down digits heq
  have hsign : Runs cs digits := by
    split at heq <;> cases heq
    · exact .cons (by decide) (.refl _)
    · exact .cons (by decide) (.refl _)
    · exact .refl _
  refine hsign.trans ?_
  have hdigits := runs_digits digits
  dsimp only at h
  split_ifs at h
  · cases h
    exact hdigits
  all_goals
    obtain ⟨_, -, hrest⟩ := map_eq_ok h
    cases hrest
    exact hdigits

/-- What stands for an exponent is such a run, even if there is none. -/
theorem readOptionalExponent_sound (h : readOptionalExponent neg n e cs = .ok (number, rest)) : Runs cs rest := by
  unfold readOptionalExponent at h
  split at h
  · obtain ⟨_, -, hrest⟩ := map_eq_ok h
    cases hrest
    exact .refl _
  · split at h
    · rename_i c cs hc
      refine .cons ?_ (readExponent_sound h)
      simp only [Bool.or_eq_true, beq_iff_eq] at hc
      rcases hc with rfl | rfl <;> decide
    · obtain ⟨_, -, hrest⟩ := map_eq_ok h
      cases hrest
      exact .refl _

/-- A fraction is a run of plain characters, with the exponent that may follow. -/
theorem readFraction_sound (h : readFraction neg n e cs = .ok (number, rest)) : Runs cs rest := by
  unfold readFraction at h
  dsimp only at h
  split at h
  · cases h
  · exact (runs_digits cs).trans (readOptionalExponent_sound h)

/-- A whole number is a run of plain characters, with all that may follow. -/
theorem whole_sound (h : readNumber.whole neg n m cs = .ok (number, rest)) : Runs cs rest := by
  obtain ⟨_, -, hrest⟩ := map_eq_ok h
  cases hrest
  exact .refl _

/-- A number is taken up to where it ends; its first digits are taken in any case. -/
theorem readNumber_sound (h : readNumber neg cs = .ok (number, rest)) :
    Runs (cs.dropWhile Char.isDigit) rest := by
  unfold readNumber at h
  dsimp only at h
  generalize cs.dropWhile Char.isDigit = after at h
  split at h
  · cases h
  · split at h
    · cases h
    · split at h
      · exact .cons (by decide) (readFraction_sound h)
      · split at h
        · rename_i c cs hpoint hc
          refine .cons ?_ (readExponent_sound h)
          simp only [Bool.or_eq_true, beq_iff_eq] at hc
          rcases hc with rfl | rfl <;> decide
        · exact whole_sound h
      · exact whole_sound h

/-- A number that begins with a digit is a value. -/
theorem readNumber_digit_sound {c : Char} (hc : c.isDigit = true)
    (h : readNumber false (c :: cs) = .ok (number, rest)) : ∃ v, c :: cs = v ++ rest ∧ IsValue v := by
  have hafter := readNumber_sound h
  rw [List.dropWhile_cons_of_pos hc] at hafter
  exact ((runs_digits cs).trans hafter).isValue (isPlain_of_isDigit hc)

/-- A number that begins with a sign is a value. -/
theorem readNumber_minus_sound (h : readNumber true cs = .ok (number, rest)) :
    ∃ v, '-' :: cs = v ++ rest ∧ IsValue v :=
  ((runs_digits cs).trans (readNumber_sound h)).isValue (by decide)

/-- Reads one value that is no array and no object. -/
theorem readScalar_sound (h : readScalar cs = .ok (w, rest)) : ∃ v, cs = v ++ rest ∧ IsValue v := by
  unfold readScalar at h
  split at h
  · cases h
  · split at h
    · obtain ⟨⟨t, r⟩, ht, hrest⟩ := map_eq_ok h
      cases hrest
      obtain ⟨raw, rfl, hraw⟩ := readString_sound ht
      exact ⟨'"' :: raw ++ ['"'], by simp, _, .string hraw.quoted⟩
    · obtain ⟨r, hr, hrest⟩ := map_eq_ok h
      cases hrest
      exact readWord_null_sound hr
    · obtain ⟨r, hr, hrest⟩ := map_eq_ok h
      cases hrest
      exact (readWord_sound (by decide) hr).isValue (by decide)
    · obtain ⟨r, hr, hrest⟩ := map_eq_ok h
      cases hrest
      exact (readWord_sound (by decide) hr).isValue (by decide)
    · obtain ⟨⟨t, r⟩, ht, hrest⟩ := map_eq_ok h
      cases hrest
      exact readNumber_minus_sound ht
    · split at h
      · rename_i hc
        obtain ⟨⟨t, r⟩, ht, hrest⟩ := map_eq_ok h
        cases hrest
        exact readNumber_digit_sound hc ht
      · cases h

/-! ## Arrays -/

/-- A series may begin with blank. -/
theorem Series.blank_append (hb : Blank b) (h : Series P as v) : Series P as (b ++ v) := by
  have happend : ∀ {b' : List Char}, Blank b' → Blank (b ++ b') := by
    intro b' hb' c hc
    rcases List.mem_append.1 hc with hc | hc
    · exact hb c hc
    · exact hb' c hc
  cases h with
  | one hb' h hc =>
    rw [← List.append_assoc, ← List.append_assoc]
    exact .one (happend hb') h hc
  | cons hb' h hc hr =>
    rw [← List.append_assoc, ← List.append_assoc, ← List.append_assoc]
    exact .cons (happend hb') h hc hr

/-- What was read as elements is a series of values, up to the bracket that closes it. -/
theorem readElementsFrom_sound {element : List Char → Result α} {taken : List α}
    (helement : ∀ ⦃cs a rest⦄, element cs = .ok (a, rest) → Front IsValue cs rest)
    (h : readElementsFrom element fuel taken cs = .ok (as, rest)) :
    ∃ ts v, cs = v ++ ']' :: rest ∧ Series Spells ts v := by
  fun_induction readElementsFrom element fuel taken cs with
  | case1 | case2 | case3 | case5 | case6 | case8 => cases h
  | case4 fuel taken cs v r hv r' hend =>
    cases h
    obtain ⟨b, u, rfl, hb, t, ht⟩ := helement hv
    obtain ⟨c, hc, heq⟩ := exists_blank r
    rw [hend] at heq
    exact ⟨[t], b ++ u ++ c, by simp [heq], .one hb ht hc⟩
  | case7 fuel taken cs v r hv r' hcomma hne hcl ih =>
    obtain ⟨b, u, rfl, hb, t, ht⟩ := helement hv
    obtain ⟨c, hc, heq⟩ := exists_blank r
    obtain ⟨c', hc', heq'⟩ := exists_blank r'
    obtain ⟨ts, v', hrest, hts⟩ := ih h
    rw [hcomma] at heq
    rw [hrest] at heq'
    exact ⟨t :: ts, b ++ u ++ c ++ ',' :: (c' ++ v'), by simp [heq, heq'],
      .cons hb ht hc (hts.blank_append hc')⟩

/-- What was read as a list is a value. -/
theorem readElements_sound {element : List Char → Result α}
    (helement : ∀ ⦃cs a rest⦄, element cs = .ok (a, rest) → Front IsValue cs rest)
    (h : readElements element cs = .ok (as, rest)) : ∃ v, '[' :: cs = v ++ rest ∧ IsValue v := by
  obtain ⟨b, hb, heq⟩ := exists_blank cs
  unfold readElements at h
  split at h
  · cases h
  · rename_i hend
    cases h
    rw [hend] at heq
    exact ⟨'[' :: b ++ [']'], by simp [heq], _, .emptyArray hb⟩
  · obtain ⟨ts, v, hv, hts⟩ := readElementsFrom_sound helement h
    rw [hv] at heq
    exact ⟨'[' :: (b ++ v) ++ [']'], by simp [heq], _, .array (hts.blank_append hb)⟩

/-! ## Objects -/

/-- What is made of the members of an object, one after the other. -/
inductive Steps (Q : σ → String → Tree → σ → Prop) : σ → List (List Char × Tree) → σ → Prop where
  | nil {s : σ} : Steps Q s [] s
  | cons {s s' s'' : σ} {raw : List Char} {name : String} {t : Tree} {ms : List (List Char × Tree)}
      (hname : Denotes raw name.toList) (hstep : Q s name t s') (hrest : Steps Q s' ms s'') :
      Steps Q s ((raw, t) :: ms) s''

/-- Only blank stands before a colon. -/
theorem readColon_sound (h : readColon cs = .ok rest) : ∃ b, cs = b ++ ':' :: rest ∧ Blank b := by
  obtain ⟨b, hb, heq⟩ := exists_blank cs
  unfold readColon at h
  split at h
  · cases h
  · rename_i hcolon
    cases h
    rw [hcolon] at heq
    exact ⟨b, heq, hb⟩
  · cases h

/-- A colon and then such a text are at the front. -/
def Behind (R : List Char → Prop) (cs rest : List Char) : Prop :=
  ∃ b cs', cs = b ++ ':' :: cs' ∧ Blank b ∧ Front R cs' rest

/-- A name, a colon and a value are a member. -/
theorem labelled_of_behind {Q : Tree → Prop} {r : List Char} (hr : readString cs = .ok (name, r))
    (h : Behind (fun v => ∃ t, Spells t v ∧ Q t) r rest) :
    ∃ raw t v, '"' :: cs = v ++ rest ∧ Labelled Spells (raw, t) v ∧ Denotes raw name.toList ∧ Q t := by
  obtain ⟨raw, rfl, hraw⟩ := readString_sound hr
  obtain ⟨b, cs', rfl, hb, b', u, rfl, hb', t, ht, hQ⟩ := h
  exact ⟨raw, t, '"' :: raw ++ '"' :: b ++ ':' :: b' ++ u, by simp, .mk hraw.quoted hb hb' ht, hraw, hQ⟩

/-- What was read as members is a series of members, each of them handled in its turn, up to the brace that closes
it. -/
theorem readMembersFrom_sound {member : String → σ → List Char → Result σ}
    {Q : σ → String → Tree → σ → Prop} {s s' : σ}
    (hmember : ∀ ⦃name s cs s' rest⦄, member name s cs = .ok (s', rest) →
      Behind (fun v => ∃ t, Spells t v ∧ Q s name t s') cs rest)
    (h : readMembersFrom member fuel s cs = .ok (s', rest)) :
    ∃ ms v, cs = v ++ '\x7d' :: rest ∧ Series (Labelled Spells) ms v ∧ Steps Q s ms s' := by
  fun_induction readMembersFrom member fuel s cs with
  | case1 | case2 | case3 | case4 | case6 | case7 | case9 | case10 => cases h
  | case5 fuel s cs name r hr s₁ r' hm r'' hend =>
    cases h
    obtain ⟨raw, t, v, hcs, hv, hraw, hstep⟩ := labelled_of_behind hr (hmember hm)
    obtain ⟨c, hc, heq⟩ := exists_blank r'
    rw [hend] at heq
    exact ⟨[(raw, t)], [] ++ v ++ c, by simp [hcs, heq], .one (by simp [Blank]) hv hc, .cons hraw hstep .nil⟩
  | case8 fuel s cs name r hr s₁ r' hm r'' hcomma hne hcl ih =>
    obtain ⟨raw, t, v, hcs, hv, hraw, hstep⟩ := labelled_of_behind hr (hmember hm)
    obtain ⟨c, hc, heq⟩ := exists_blank r'
    obtain ⟨c', hc', heq'⟩ := exists_blank r''
    obtain ⟨ms, v', hrest, hms, hsteps⟩ := ih h
    rw [hcomma] at heq
    rw [hrest] at heq'
    exact ⟨(raw, t) :: ms, [] ++ v ++ c ++ ',' :: (c' ++ v'), by simp [hcs, heq, heq'],
      .cons (by simp [Blank]) hv hc (hms.blank_append hc'), .cons hraw hstep hsteps⟩

/-- What is made of an object is made of its members. -/
theorem readMembers_sound {member : String → σ → List Char → Result σ}
    {Q : σ → String → Tree → σ → Prop} {s s' : σ}
    (hmember : ∀ ⦃name s cs s' rest⦄, member name s cs = .ok (s', rest) →
      Behind (fun v => ∃ t, Spells t v ∧ Q s name t s') cs rest)
    (h : readMembers member s cs = .ok (s', rest)) :
    ∃ ms v, '\x7b' :: cs = v ++ rest ∧ Spells (.object ms) v ∧ Steps Q s ms s' := by
  obtain ⟨b, hb, heq⟩ := exists_blank cs
  unfold readMembers at h
  split at h
  · cases h
  · rename_i hend
    cases h
    rw [hend] at heq
    exact ⟨[], '\x7b' :: b ++ ['\x7d'], by simp [heq], .emptyObject hb, .nil⟩
  · obtain ⟨ms, v, hv, hms, hsteps⟩ := readMembersFrom_sound hmember h
    rw [hv] at heq
    exact ⟨ms, '\x7b' :: (b ++ v) ++ ['\x7d'], by simp [heq], .object (hms.blank_append hb), hsteps⟩

/-! ## Values -/

/-- Reads one value. -/
theorem readValue_sound ⦃cs : List Char⦄ ⦃w : Value⦄ ⦃rest : List Char⦄ (h : readValue levels cs = .ok (w, rest)) :
    Front IsValue cs rest := by
  induction levels generalizing cs w rest with
  | zero =>
    unfold readValue at h
    split at h
    · cases h
    · rename_i heq
      cases heq
    · cases h
    · rename_i heq
      cases heq
    · obtain ⟨v, hv, hvalue⟩ := readScalar_sound h
      exact .of_skipBlank hv hvalue
  | succ levels ih =>
    unfold readValue at h
    split at h
    · rename_i heq
      cases heq
    · rename_i hskip heq
      cases heq
      obtain ⟨⟨vs, r⟩, hvs, hrest⟩ := map_eq_ok h
      cases hrest
      obtain ⟨v, hv, hvalue⟩ := readElements_sound ih hvs
      exact .of_skipBlank (hskip.trans hv) hvalue
    · rename_i heq
      cases heq
    · rename_i hskip heq
      cases heq
      dsimp only at h
      obtain ⟨⟨ms, r⟩, hms, hrest⟩ := map_eq_ok h
      cases hrest
      have hobject := readMembers_sound (Q := fun _ _ _ _ => True) (fun name s cs s' rest h => ?_) hms
      · obtain ⟨ms, v, hv, hvalue, -⟩ := hobject
        exact .of_skipBlank (hskip.trans hv) ⟨_, hvalue⟩
      · split at h
        · rename_i r hr
          obtain ⟨b, hcs, hb⟩ := readColon_sound hr
          obtain ⟨⟨v, r'⟩, hv, hrest⟩ := map_eq_ok h
          cases hrest
          exact ⟨b, r, hcs, hb, (ih hv).imp fun v ⟨t, ht⟩ => ⟨t, ht, trivial⟩⟩
        · cases h
    · obtain ⟨v, hv, hvalue⟩ := readScalar_sound h
      exact .of_skipBlank hv hvalue

/-! ## Values of a known shape -/

/-- What was read as a text is a string that denotes it. -/
theorem readText_sound {expected t : String} (h : readText expected cs = .ok (t, rest)) :
    ∃ raw, Front (fun v => v = '"' :: raw ++ ['"']) cs rest ∧ Denotes raw t.toList := by
  unfold readText at h
  split at h
  · cases h
  · rename_i hskip
    obtain ⟨raw, rfl, hraw⟩ := readString_sound h
    exact ⟨raw, .of_skipBlank (hskip.trans (by simp)) rfl, hraw⟩
  · cases h

/-- What may be missing is a value or the word for none, in either case a value. -/
theorem readOptional_sound {reader : List Char → Result α} {x : Option α}
    (hreader : ∀ ⦃cs a rest⦄, reader cs = .ok (a, rest) → Front IsValue cs rest)
    (h : readOptional reader cs = .ok (x, rest)) : Front IsValue cs rest := by
  unfold readOptional at h
  split at h
  · rename_i hskip
    obtain ⟨r, hr, hrest⟩ := map_eq_ok h
    cases hrest
    obtain ⟨v, hv, hvalue⟩ := readWord_null_sound hr
    exact .of_skipBlank (hskip.trans hv) hvalue
  · obtain ⟨⟨a, r⟩, ha, hrest⟩ := map_eq_ok h
    cases hrest
    exact (hreader ha).skipBlank

/-- The word for none is a value. -/
theorem readNull_sound (h : readNull cs = .ok rest) : Front IsValue cs rest := by
  unfold readNull at h
  split at h
  · cases h
  · rename_i hskip
    obtain ⟨v, hv, hvalue⟩ := readWord_null_sound h
    exact .of_skipBlank (hskip.trans hv) hvalue
  · cases h

/-- A size is a number. -/
theorem readSizeAfter_sound {k : UInt64} (h : readSizeAfter neg cs = .ok (k, rest)) :
    ∃ n, readNumber neg cs = .ok (n, rest) := by
  unfold readSizeAfter at h
  split at h
  · rename_i n r hn
    obtain ⟨_, -, hrest⟩ := map_eq_ok h
    cases hrest
    exact ⟨n, hn⟩
  · cases h

/-- A size is a value. -/
theorem readSize_sound {k : UInt64} (h : readSize cs = .ok (k, rest)) : Front IsValue cs rest := by
  unfold readSize at h
  split at h
  · cases h
  · rename_i hskip
    obtain ⟨n, hn⟩ := readSizeAfter_sound h
    obtain ⟨v, hv, hvalue⟩ := readNumber_minus_sound hn
    exact .of_skipBlank (hskip.trans hv) hvalue
  · rename_i hskip
    split at h
    · rename_i hc
      obtain ⟨n, hn⟩ := readSizeAfter_sound h
      obtain ⟨v, hv, hvalue⟩ := readNumber_digit_sound hc hn
      exact .of_skipBlank (hskip.trans hv) hvalue
    · cases h

/-- Reads an object whose only member is a name with the value `null`. -/
theorem readVariantMember_sound {variants : List (String × α)} (h : readVariantMember variants cs = .ok (a, rest)) :
    ∃ v, '\x7b' :: cs = v ++ rest ∧ IsValue v := by
  unfold readVariantMember at h
  split at h
  · cases h
  · rename_i t r ht
    obtain ⟨raw, ⟨b, _, rfl, hb, rfl⟩, hraw⟩ := readText_sound ht
    split at h
    · cases h
    · split at h
      · cases h
      · rename_i r' hr'
        obtain ⟨r'', hcolon, hnull⟩ := bind_eq_ok hr'
        obtain ⟨c, rfl, hc⟩ := readColon_sound hcolon
        obtain ⟨d, u, rfl, hd, t, ht⟩ := readNull_sound hnull
        obtain ⟨e, he, heq⟩ := exists_blank r'
        split at h
        · rename_i hend
          cases h
          rw [hend] at heq
          refine ⟨'\x7b' :: (b ++ ('"' :: raw ++ '"' :: c ++ ':' :: d ++ u) ++ e) ++ ['\x7d'], by simp [heq], _,
            .object (.one hb (.mk hraw.quoted hc hd ht) he)⟩
        · cases h
        · cases h

/-- What was read as a name out of a list, in either of its forms, is a value. -/
theorem readVariant_sound {variants : List (String × α)} (h : readVariant variants levels cs = .ok (a, rest)) :
    Front IsValue cs rest := by
  unfold readVariant at h
  split at h
  · cases h
  · rename_i hskip
    split at h
    · rename_i t r ht
      obtain ⟨_, -, hrest⟩ := map_eq_ok h
      cases hrest
      obtain ⟨raw, rfl, hraw⟩ := readString_sound ht
      exact .of_skipBlank (hskip.trans (by simp)) ⟨_, .string hraw.quoted⟩
    · cases h
  · cases h
  · rename_i hskip _
    obtain ⟨v, hv, hvalue⟩ := readVariantMember_sound h
    exact .of_skipBlank (hskip.trans hv) hvalue
  · cases h

end MediaPaths.Json
