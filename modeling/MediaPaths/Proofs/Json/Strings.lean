import MediaPaths.Json.Skip
import MediaPaths.Proofs.Json.Grammar

/-!
# Strings of JSON text

What the text between quotes denotes, and that reading gives it. A text denotes one string at most. Where a
string is passed over it has only to end where its closing quote is.
-/

namespace MediaPaths.Json

/-! ## What strings denote -/

/-- Four hexadecimal digits and the number they are. -/
def Code (cs : List Char) (n : Nat) : Prop :=
  cs.length = 4 ∧ (cs.mapM hexValue?).map (fun digits => digits.foldl (fun n d => n * 16 + d) 0) = some n

/-- The characters that are written as one character behind a backslash. -/
def letters : List (Char × Char) :=
  [('"', '"'), ('\\', '\\'), ('/', '/'), ('b', '\x08'), ('f', '\x0c'), ('n', '\n'), ('r', '\r'), ('t', '\t')]

/-- What stands behind a backslash, and the character that is meant. -/
inductive Escape : List Char → Char → Prop where
  | letter {c d : Char} (h : (c, d) ∈ letters) : Escape [c] d
  | code {cs : List Char} {n : Nat} (h : Code cs n) (hn : n < 0xD800 ∨ 0xDFFF < n) :
      Escape ('u' :: cs) (Char.ofNat n)
  | pair {cs ds : List Char} {n m : Nat} (h : Code cs n) (hn : 0xD800 ≤ n ∧ n ≤ 0xDBFF) (h' : Code ds m)
      (hm : 0xDC00 ≤ m ∧ m ≤ 0xDFFF) :
      Escape ('u' :: cs ++ '\\' :: 'u' :: ds) (Char.ofNat ((n - 0xD800) * 0x400 + (m - 0xDC00) + 0x10000))

/-- What stands between quotes, and the characters that are meant. -/
inductive Denotes : List Char → List Char → Prop where
  | nil : Denotes [] []
  | plain {c : Char} {cs s : List Char} (hq : c ≠ '"') (hb : c ≠ '\\') (hc : 0x20 ≤ c.toNat)
      (h : Denotes cs s) : Denotes (c :: cs) (c :: s)
  | escape {c : Char} {e cs s : List Char} (he : Escape e c) (h : Denotes cs s) :
      Denotes ('\\' :: e ++ cs) (c :: s)

variable {c c' d : Char} {cs ds e e' raw r r' s s' taken rest : List Char} {n m fuel : Nat} {t : String}

/-! ## A text denotes one string -/

theorem Code.unique (h : Code cs n) (h' : Code ds m) (heq : cs ++ r = ds ++ r') :
    cs = ds ∧ n = m ∧ r = r' := by
  obtain ⟨rfl, rfl⟩ := List.append_inj heq (h.1.trans h'.1.symm)
  exact ⟨rfl, Option.some.inj (h.2.symm.trans h'.2), rfl⟩

theorem not_mem_letters_u {d : Char} : ('u', d) ∉ letters := by simp [letters]

theorem letters_unique (h : (c, d) ∈ letters) (h' : (c, c') ∈ letters) : d = c' := by
  simp only [letters, List.mem_cons, Prod.mk.injEq, List.not_mem_nil, or_false] at h h'
  rcases h with ⟨rfl, rfl⟩ | ⟨rfl, rfl⟩ | ⟨rfl, rfl⟩ | ⟨rfl, rfl⟩ | ⟨rfl, rfl⟩ | ⟨rfl, rfl⟩ | ⟨rfl, rfl⟩ |
    ⟨rfl, rfl⟩ <;> exact Eq.symm (by simpa using h')

theorem Escape.unique (h : Escape e c) (h' : Escape e' c') (heq : e ++ r = e' ++ r') :
    c = c' ∧ r = r' := by
  cases h with
  | letter h =>
    cases h' with
    | letter h' =>
      obtain ⟨rfl, rfl⟩ := List.cons.inj heq
      exact ⟨letters_unique h h', rfl⟩
    | code | pair =>
      obtain ⟨rfl, -⟩ := List.cons.inj heq
      exact absurd h not_mem_letters_u
  | code h hn =>
    cases h' with
    | letter h' =>
      obtain ⟨rfl, -⟩ := List.cons.inj heq
      exact absurd h' not_mem_letters_u
    | code h' =>
      obtain ⟨-, rfl, rfl⟩ := h.unique h' (List.cons.inj heq).2
      exact ⟨rfl, rfl⟩
    | pair h' hn' =>
      simp only [List.append_assoc, List.cons_append] at heq
      obtain ⟨-, rfl, -⟩ := h.unique h' (List.cons.inj heq).2
      omega
  | pair h hn hd hm =>
    cases h' with
    | letter h' =>
      obtain ⟨rfl, -⟩ := List.cons.inj heq
      exact absurd h' not_mem_letters_u
    | code h' hn' =>
      simp only [List.append_assoc, List.cons_append] at heq
      obtain ⟨-, rfl, -⟩ := h.unique h' (List.cons.inj heq).2
      omega
    | pair h' hn' hd' =>
      simp only [List.append_assoc, List.cons_append] at heq
      obtain ⟨-, rfl, heq⟩ := h.unique h' (List.cons.inj heq).2
      obtain ⟨-, rfl, rfl⟩ := hd.unique hd' (List.cons.inj (List.cons.inj heq).2).2
      exact ⟨rfl, rfl⟩

theorem Denotes.unique (h : Denotes raw s) (h' : Denotes raw s') : s = s' := by
  induction h generalizing s' with
  | nil =>
    cases h'
    rfl
  | @plain c cs s hq hb hc h ih =>
    generalize heq : c :: cs = raw at h'
    cases h' with
    | nil => cases heq
    | plain hq' hb' hc' h' =>
      obtain ⟨rfl, rfl⟩ := List.cons.inj heq
      rw [ih h']
    | escape => exact absurd (List.cons.inj heq).1 hb
  | @escape c e cs s he h ih =>
    generalize heq : '\\' :: e ++ cs = raw at h'
    cases h' with
    | nil => cases heq
    | plain hq' hb' => exact absurd (List.cons.inj heq).1.symm hb'
    | escape he' h' =>
      obtain ⟨rfl, rfl⟩ := he.unique he' (List.cons.inj heq).2
      rw [ih h']

/-! ## What is denoted is quoted -/

theorem Quoted.append (h : Quoted cs) (h' : Quoted ds) : Quoted (cs ++ ds) := by
  induction h with
  | nil => exact h'
  | plain hq hb h ih => exact .plain hq hb ih
  | escape h ih => exact .escape ih

theorem quoted_of_hexValue? (h : cs.mapM hexValue? = some ns) : Quoted cs := by
  induction cs generalizing ns with
  | nil => exact .nil
  | cons c cs ih =>
    simp only [List.mapM_cons, Option.bind_eq_bind, Option.bind_eq_some_iff] at h
    obtain ⟨n, hc, ns, hcs, -⟩ := h
    refine .plain ?_ ?_ (ih hcs) <;> rintro rfl <;> exact absurd hc (by simp [hexValue?])

theorem Code.quoted (h : Code cs n) : Quoted cs := by
  obtain ⟨digits, hd, -⟩ := Option.map_eq_some_iff.1 h.2
  exact quoted_of_hexValue? hd

theorem Escape.quoted (h : Escape e c) : Quoted ('\\' :: e) := by
  cases h with
  | letter => exact .escape .nil
  | code h => exact .escape h.quoted
  | pair h _ h' => exact .escape (h.quoted.append (.escape h'.quoted))

theorem Denotes.quoted (h : Denotes raw s) : Quoted raw := by
  induction h with
  | nil => exact .nil
  | plain hq hb _ h ih => exact .plain hq hb ih
  | escape he h ih => exact he.quoted.append ih

/-! ## Reading -/

theorem readHex_sound (h : readHex cs = .ok (n, rest)) : ∃ ds, cs = ds ++ rest ∧ Code ds n := by
  unfold readHex at h
  split at h
  · cases h
  · split at h
    · rename_i a b c d rest' hlength
      split at h
      · rename_i digits hd
        cases h
        exact ⟨[a, b, c, d], rfl, rfl, by rw [hd]; rfl⟩
      · cases h
    · cases h

theorem readCode_sound (h : readCode cs = .ok (c, rest)) :
    ∃ e, cs = e ++ rest ∧ Escape ('u' :: e) c := by
  unfold readCode at h
  split at h
  · cases h
  · rename_i n r hn
    obtain ⟨ds, rfl, hds⟩ := readHex_sound hn
    split at h
    · cases h
    · split at h
      · cases h
        exact ⟨ds, rfl, .code hds (by omega)⟩
      · split at h
        · cases h
        · cases h
        · split at h
          · cases h
          · rename_i m r' hm
            obtain ⟨es, rfl, hes⟩ := readHex_sound hm
            split at h
            · cases h
            · obtain ⟨rfl, rfl⟩ := Prod.mk.inj (Except.ok.inj h)
              exact ⟨ds ++ '\\' :: 'u' :: es, by simp, .pair hds (by omega) hes (by omega)⟩
        · cases h

theorem readEscape_sound (h : readEscape cs = .ok (c, rest)) : ∃ e, cs = e ++ rest ∧ Escape e c := by
  have hletter : ∀ {a b : Char} {as : List Char}, (a, b) ∈ letters →
      ∃ e, a :: as = e ++ as ∧ Escape e b := fun h => ⟨[_], rfl, .letter h⟩
  unfold readEscape at h
  split at h
  · cases h
  · split at h
    case h_9 =>
      obtain ⟨e, rfl, he⟩ := readCode_sound h
      exact ⟨'u' :: e, rfl, he⟩
    case h_10 => cases h
    all_goals
      cases h
      exact hletter (by decide)

theorem readStringFrom_sound (h : readStringFrom fuel taken cs = .ok (t, rest)) :
    ∃ raw s, cs = raw ++ '"' :: rest ∧ Denotes raw s ∧ t = String.ofList (taken.reverse ++ s) := by
  fun_induction readStringFrom fuel taken cs with
  | case1 | case2 | case5 | case6 => cases h
  | case3 fuel taken cs =>
    cases h
    exact ⟨[], [], rfl, .nil, by simp⟩
  | case4 fuel taken cs c rest' hc ih =>
    obtain ⟨e, rfl, he⟩ := readEscape_sound hc
    obtain ⟨raw, s, rfl, hraw, rfl⟩ := ih h
    exact ⟨_, _, by simp, .escape he hraw, by simp⟩
  | case7 fuel taken c cs hq hb hlow ih =>
    obtain ⟨raw, s, rfl, hraw, rfl⟩ := ih h
    exact ⟨_, _, by simp, .plain hq hb (by omega) hraw, by simp⟩

/-- The string that is read is what stands before the closing quote. -/
theorem readString_sound (h : readString cs = .ok (t, rest)) :
    ∃ raw, cs = raw ++ '"' :: rest ∧ Denotes raw t.toList := by
  obtain ⟨raw, s, hcs, hraw, rfl⟩ := readStringFrom_sound h
  exact ⟨raw, hcs, by simpa using hraw⟩

/-! ## Passing over -/

theorem skipStringFrom_sound (h : skipStringFrom fuel cs = .ok rest) :
    ∃ raw, cs = raw ++ '"' :: rest ∧ Quoted raw := by
  fun_induction skipStringFrom fuel cs with
  | case1 | case2 | case4 | case6 | case8 | case9 => cases h
  | case3 fuel cs =>
    cases h
    exact ⟨[], rfl, .nil⟩
  | case5 fuel cs n rest' hn ih =>
    obtain ⟨ds, rfl, hds⟩ := readHex_sound hn
    obtain ⟨raw, rfl, hraw⟩ := ih h
    exact ⟨'\\' :: 'u' :: (ds ++ raw), by simp, .escape (hds.quoted.append hraw)⟩
  | case7 fuel c cs hu hletter ih =>
    obtain ⟨raw, rfl, hraw⟩ := ih h
    exact ⟨_, rfl, .escape hraw⟩
  | case10 fuel c cs _ _ _ _ _ ih =>
    obtain ⟨raw, rfl, hraw⟩ := ih h
    refine ⟨_, rfl, .plain ‹_› ?_ hraw⟩
    rintro rfl
    cases raw <;> simp_all

/-- What is passed over ends before the closing quote. -/
theorem skipString_sound (h : skipString cs = .ok rest) :
    ∃ raw, cs = raw ++ '"' :: rest ∧ Quoted raw := skipStringFrom_sound h

end MediaPaths.Json
