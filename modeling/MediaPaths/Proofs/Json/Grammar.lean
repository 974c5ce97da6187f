import MediaPaths.Json.Reader

/-!
# The grammar of JSON

How a text is made up of arrays, objects and what is neither. `Spells` says which text has which structure,
without regard to how it is read. It is not concerned with what words, numbers and strings denote: the names of
members are kept as they are written. A text has no more than one structure.
-/

namespace MediaPaths.Json

/-! ## Texts and their structure -/

/-- The structure of a text. -/
inductive Tree where
  /-- A string, a number or a word. -/
  | leaf
  /-- An array. -/
  | array (elements : List Tree)
  /-- An object; the names of its members are as they are written. -/
  | object (members : List (List Char × Tree))

/-- White space only. -/
def Blank (cs : List Char) : Prop := ∀ c ∈ cs, isBlank c = true

/-- Whether a character may stand in a number or a word. -/
def isPlain (c : Char) : Bool := c.isAlphanum || c == '+' || c == '-' || c == '.'

/-- What stands between quotes: a quote within it is behind a backslash. -/
inductive Quoted : List Char → Prop where
  | nil : Quoted []
  | plain {c : Char} {cs : List Char} (hq : c ≠ '"') (hb : c ≠ '\\') (h : Quoted cs) : Quoted (c :: cs)
  | escape {c : Char} {cs : List Char} (h : Quoted cs) : Quoted ('\\' :: c :: cs)

/-- Some things, each with white space around it, and commas between them. -/
inductive Series {α : Type} (P : α → List Char → Prop) : List α → List Char → Prop where
  | one {a : α} {b cs c : List Char} (hb : Blank b) (h : P a cs) (hc : Blank c) :
      Series P [a] (b ++ cs ++ c)
  | cons {a : α} {as : List α} {b cs c rest : List Char} (hb : Blank b) (h : P a cs) (hc : Blank c)
      (hr : Series P as rest) : Series P (a :: as) (b ++ cs ++ c ++ ',' :: rest)

/-- A member: its name, a colon and its value. -/
inductive Labelled (P : Tree → List Char → Prop) : List Char × Tree → List Char → Prop where
  | mk {name b c cs : List Char} {t : Tree} (hn : Quoted name) (hb : Blank b) (hc : Blank c) (h : P t cs) :
      Labelled P (name, t) ('"' :: name ++ '"' :: b ++ ':' :: c ++ cs)

/-- The text, without white space around it, has the structure. -/
inductive Spells : Tree → List Char → Prop where
  | plain {cs : List Char} (hne : cs ≠ []) (h : ∀ c ∈ cs, isPlain c = true) : Spells .leaf cs
  | string {cs : List Char} (h : Quoted cs) : Spells .leaf ('"' :: cs ++ ['"'])
  | emptyArray {b : List Char} (hb : Blank b) : Spells (.array []) ('[' :: b ++ [']'])
  | array {ts : List Tree} {cs : List Char} (h : Series Spells ts cs) :
      Spells (.array ts) ('[' :: cs ++ [']'])
  | emptyObject {b : List Char} (hb : Blank b) : Spells (.object []) ('\x7b' :: b ++ ['\x7d'])
  | object {ms : List (List Char × Tree)} {cs : List Char} (h : Series (Labelled Spells) ms cs) :
      Spells (.object ms) ('\x7b' :: cs ++ ['\x7d'])

/-- The structure of a text as a whole. -/
def Structure (text : String) (t : Tree) : Prop :=
  ∃ b v c, text.toList = b ++ v ++ c ∧ Blank b ∧ Spells t v ∧ Blank c

variable {α : Type} {a a' : α} {as as' : List α} {b b' c c' v v' r r' name name' : List Char} {t t' : Tree}
  {P : α → List Char → Prop} {e : Char} {n : Nat}

/-! ## Beginnings and ends -/

/-- No number and no word goes on here. -/
def Ends (r : List Char) : Prop := ∀ c ∈ r.head?, isPlain c = false

/-- Something begins here that is no white space, and no end of what is around it. -/
def Begins (v : List Char) : Prop :=
  ∃ c cs, v = c :: cs ∧ isBlank c = false ∧ c ≠ ']' ∧ c ≠ '\x7d'

/-- A run of characters of some kind goes as far as it can. -/
theorem run_unique {p : Char → Bool} (hb : ∀ x ∈ b, p x = true) (hb' : ∀ x ∈ b', p x = true)
    (hv : ∀ x ∈ v.head?, p x = false) (hv' : ∀ x ∈ v'.head?, p x = false) (h : b ++ v = b' ++ v') :
    b = b' ∧ v = v' := by
  have htake : ∀ {b v : List Char}, (∀ x ∈ b, p x = true) → (∀ x ∈ v.head?, p x = false) →
      (b ++ v).takeWhile p = b := by
    intro b v hb hv
    rw [List.takeWhile_append_of_pos hb]
    cases v with
    | nil => simp
    | cons x xs => simp [hv x rfl]
  have heq : b = b' := by rw [← htake hb hv, h, htake hb' hv']
  subst heq
  exact ⟨rfl, List.append_cancel_left h⟩

theorem isPlain_of_isBlank {x : Char} (h : isBlank x = true) : isPlain x = false := by
  simp only [isBlank, Bool.or_eq_true, beq_iff_eq] at h
  rcases h with ((rfl | rfl) | rfl) | rfl <;> decide

theorem not_isBlank_of_isPlain {x : Char} (h : isPlain x = true) : isBlank x = false := by
  cases hb : isBlank x with
  | false => rfl
  | true => rw [isPlain_of_isBlank hb] at h; cases h

theorem begins_of_isPlain {x : Char} {xs : List Char} (h : isPlain x = true) : Begins (x :: xs) := by
  refine ⟨x, xs, rfl, not_isBlank_of_isPlain h, ?_, ?_⟩ <;> rintro rfl <;> revert h <;> decide

theorem begins_of_spells (h : Spells t v) : Begins v := by
  cases h with
  | @plain cs hne h =>
    obtain ⟨x, xs, rfl⟩ := List.exists_cons_of_ne_nil hne
    exact begins_of_isPlain (h x (List.mem_cons_self ..))
  | string | emptyArray | array | emptyObject | object => exact ⟨_, _, rfl, by decide, by decide, by decide⟩

theorem begins_of_labelled {m : List Char × Tree} (h : Labelled Spells m v) : Begins v := by
  cases h
  exact ⟨_, _, rfl, by decide, by decide, by decide⟩

/-! ## A text has one structure -/

theorem Quoted.unique (h : Quoted v) (h' : Quoted v') (heq : v ++ '"' :: r = v' ++ '"' :: r') :
    v = v' ∧ r = r' := by
  induction h generalizing v' with
  | nil =>
    cases h' with
    | nil => exact ⟨rfl, (List.cons.inj heq).2⟩
    | plain hq => exact absurd (List.cons.inj heq).1.symm hq
    | escape => exact absurd (List.cons.inj heq).1 (by decide)
  | plain hq hb h ih =>
    cases h' with
    | nil => exact absurd (List.cons.inj heq).1 hq
    | plain hq' hb' h' =>
      obtain ⟨rfl, hrest⟩ := List.cons.inj heq
      obtain ⟨rfl, rfl⟩ := ih h' hrest
      exact ⟨rfl, rfl⟩
    | escape => exact absurd (List.cons.inj heq).1 hb
  | escape h ih =>
    cases h' with
    | nil => exact absurd (List.cons.inj heq).1 (by decide)
    | plain hq' hb' => exact absurd (List.cons.inj heq).1.symm hb'
    | escape h' =>
      obtain ⟨rfl, hrest⟩ := List.cons.inj (List.cons.inj heq).2
      obtain ⟨rfl, rfl⟩ := ih h' hrest
      exact ⟨rfl, rfl⟩

/-- Where things up to some length can be told apart, at the front of a text there is one at most. -/
def Unique (P : α → List Char → Prop) (n : Nat) : Prop :=
  ∀ a v a' v' r r', v.length ≤ n → P a v → P a' v' → v ++ r = v' ++ r' → Ends r → Ends r' →
    a = a' ∧ v = v'

theorem blank_unique (hb : Blank b) (hb' : Blank b') (hv : Begins v) (hv' : Begins v')
    (h : b ++ (v ++ r) = b' ++ (v' ++ r')) : b = b' ∧ v ++ r = v' ++ r' := by
  obtain ⟨x, xs, rfl, hx, -⟩ := hv
  obtain ⟨x', xs', rfl, hx', -⟩ := hv'
  exact run_unique hb hb' (by simpa using hx) (by simpa using hx') h

/-- White space, and then a comma or the end of what is around. -/
theorem Blank.ends (hc : Blank c) (he : isPlain e = false) : Ends (c ++ e :: r) := by
  cases c with
  | nil =>
    rintro x hx
    obtain rfl := Option.some.inj hx
    exact he
  | cons x xs =>
    rintro y hy
    obtain rfl := Option.some.inj hy
    exact isPlain_of_isBlank (hc x (List.mem_cons_self ..))

/-- The first of some things ends where it ends. -/
theorem item_unique {e e' : Char} (hP : Unique P n) (hbegins : ∀ a v, P a v → Begins v)
    (hn : v.length ≤ n) (hb : Blank b) (h : P a v) (hc : Blank c) (hb' : Blank b') (h' : P a' v')
    (hc' : Blank c') (he : isPlain e = false ∧ isBlank e = false)
    (he' : isPlain e' = false ∧ isBlank e' = false)
    (heq : b ++ v ++ c ++ e :: r = b' ++ v' ++ c' ++ e' :: r') :
    a = a' ∧ b ++ v ++ c = b' ++ v' ++ c' ∧ e = e' ∧ r = r' := by
  simp only [List.append_assoc] at heq
  obtain ⟨rfl, hitem⟩ := blank_unique hb hb' (hbegins _ _ h) (hbegins _ _ h') heq
  obtain ⟨rfl, rfl⟩ := hP a v a' v' _ _ hn h h' hitem (hc.ends he.1) (hc'.ends he'.1)
  obtain ⟨rfl, hend⟩ := run_unique hc hc' (by simpa using he.2) (by simpa using he'.2)
    (List.append_cancel_left hitem)
  obtain ⟨rfl, rfl⟩ := List.cons.inj hend
  exact ⟨rfl, rfl, rfl, rfl⟩

theorem comma_assoc : v ++ ',' :: r ++ e :: r' = v ++ ',' :: (r ++ e :: r') := by
  rw [List.append_assoc, List.cons_append]

theorem Series.unique (hP : Unique P n) (hbegins : ∀ a v, P a v → Begins v)
    (he : isPlain e = false ∧ isBlank e = false ∧ e ≠ ',') (h : Series P as v) (h' : Series P as' v')
    (hn : v.length ≤ n) (heq : v ++ e :: r = v' ++ e :: r') : as = as' ∧ v = v' ∧ r = r' := by
  have hcomma : isPlain ',' = false ∧ isBlank ',' = false := by decide
  have hend : isPlain e = false ∧ isBlank e = false := ⟨he.1, he.2.1⟩
  induction h generalizing as' v' with
  | one hb h hc =>
    have hlen : ∀ {m}, m ≤ _ → m ≤ n := fun hm => Nat.le_trans hm hn
    cases h' with
    | one hb' h' hc' =>
      obtain ⟨rfl, htext, -, rfl⟩ := item_unique hP hbegins (hlen (by simp; omega)) hb h hc hb' h' hc' hend
        hend heq
      exact ⟨rfl, htext, rfl⟩
    | cons hb' h' hc' hr' =>
      rw [comma_assoc] at heq
      obtain ⟨-, -, hcontra, -⟩ := item_unique hP hbegins (hlen (by simp; omega)) hb h hc hb' h' hc' hend
        hcomma heq
      exact absurd hcontra he.2.2
  | cons hb h hc hr ih =>
    have hlen : ∀ {m}, m ≤ _ → m ≤ n := fun hm => Nat.le_trans hm hn
    rw [comma_assoc] at heq
    cases h' with
    | one hb' h' hc' =>
      obtain ⟨-, -, hcontra, -⟩ := item_unique hP hbegins (hlen (by simp; omega)) hb h hc hb' h' hc' hcomma
        hend heq
      exact absurd hcontra.symm he.2.2
    | cons hb' h' hc' hr' =>
      rw [comma_assoc] at heq
      obtain ⟨rfl, htext, -, heq⟩ := item_unique hP hbegins (hlen (by simp; omega)) hb h hc hb' h' hc' hcomma
        hcomma heq
      obtain ⟨rfl, rfl, rfl⟩ := ih hr' (hlen (by simp; omega)) heq
      exact ⟨rfl, by rw [htext], rfl⟩

/-- Something stands between brackets, or nothing does. -/
theorem Series.begins (hbegins : ∀ a v, P a v → Begins v) (h : Series P as v) :
    ∃ b u, v = b ++ u ∧ Blank b ∧ Begins u := by
  cases h with
  | @one a b u c hb h hc =>
    obtain ⟨x, xs, rfl, hx⟩ := hbegins _ _ h
    exact ⟨b, _, by rw [List.append_assoc, List.cons_append], hb, x, _, rfl, hx⟩
  | @cons a as b u c rest hb h hc hr =>
    obtain ⟨x, xs, rfl, hx⟩ := hbegins _ _ h
    refine ⟨b, x :: xs ++ c ++ ',' :: rest, ?_, hb, x, _, rfl, hx⟩
    simp only [List.append_assoc]

theorem Series.ne_blank (hbegins : ∀ a v, P a v → Begins v) (he : e = ']' ∨ e = '\x7d') (h : Series P as v)
    (hb : Blank b) : b ++ e :: r ≠ v ++ e :: r' := by
  intro heq
  obtain ⟨b', u, rfl, hb', x, xs, rfl, hx, hclose⟩ := h.begins hbegins
  have hblank : isBlank e = false := by rcases he with rfl | rfl <;> decide
  rw [List.append_assoc] at heq
  obtain ⟨-, heq⟩ := run_unique hb hb' (by simpa using hblank) (by simpa using hx) heq
  obtain rfl := (List.cons.inj heq).1
  rcases he with rfl | rfl
  · exact hclose.1 rfl
  · exact hclose.2 rfl

theorem Labelled.unique (hP : Unique Spells n) : Unique (Labelled Spells) n := by
  intro m v m' v' r r' hn h h' heq hr hr'
  cases h with
  | @mk name b c cs t hq hb hc h =>
    cases h' with
    | @mk name' b' c' cs' t' hq' hb' hc' h' =>
      simp only [List.append_assoc, List.cons_append] at heq
      obtain ⟨rfl, hcolon⟩ := hq.unique hq' (List.cons.inj heq).2
      have hblank : ∀ {u : List Char}, ∀ x ∈ (':' :: u).head?, isBlank x = false := by
        rintro u x hx
        obtain rfl := Option.some.inj hx
        decide
      obtain ⟨rfl, hvalue⟩ := run_unique hb hb' hblank hblank hcolon
      obtain ⟨rfl, htext⟩ := blank_unique hc hc' (begins_of_spells h) (begins_of_spells h')
        (List.cons.inj hvalue).2
      obtain ⟨rfl, rfl⟩ := hP t cs t' cs' r r' (by simp at hn; omega) h h' htext hr hr'
      exact ⟨rfl, rfl⟩

/-- What is made of plain characters begins with one. -/
theorem plain_append_ne {x : Char} (hne : v ≠ []) (h : ∀ c ∈ v, isPlain c = true)
    (hx : isPlain x = false) : v ++ r ≠ x :: r' := by
  intro heq
  obtain ⟨y, ys, rfl⟩ := List.exists_cons_of_ne_nil hne
  obtain rfl := (List.cons.inj heq).1
  rw [h _ (List.mem_cons_self ..)] at hx
  cases hx

/-- At the front of a text there is one value at most. -/
theorem spells_unique (n : Nat) : Unique Spells n := by
  induction n with
  | zero =>
    intro t v t' v' r r' hn h
    obtain ⟨x, xs, rfl, -⟩ := begins_of_spells h
    simp at hn
  | succ n ih =>
    have hbracket : isPlain ']' = false ∧ isBlank ']' = false ∧ ']' ≠ ',' := by decide
    have hbrace : isPlain '\x7d' = false ∧ isBlank '\x7d' = false ∧ '\x7d' ≠ ',' := by decide
    have hspells : ∀ a v, Spells a v → Begins v := fun _ _ => begins_of_spells
    have hlabelled : ∀ a v, Labelled Spells a v → Begins v := fun _ _ => begins_of_labelled
    have hclosed : ∀ {x : Char} {u : List Char}, isBlank x = false → ∀ y ∈ (x :: u).head?, isBlank y = false := by
      rintro x u hx y hy
      obtain rfl := Option.some.inj hy
      exact hx
    intro t v t' v' r r' hn h h' heq hr hr'
    cases h with
    | plain hne h =>
      cases h' with
      | plain hne' h' =>
        obtain ⟨rfl, -⟩ := run_unique h h' hr hr' heq
        exact ⟨rfl, rfl⟩
      | string | emptyArray | array | emptyObject | object =>
        exact absurd heq (plain_append_ne hne h (by decide))
    | string h =>
      cases h' with
      | plain hne' h' => exact absurd heq.symm (plain_append_ne hne' h' (by decide))
      | string h' =>
        simp only [List.append_assoc, List.cons_append, List.cons.injEq, true_and] at heq
        obtain ⟨rfl, -⟩ := h.unique h' heq
        exact ⟨rfl, rfl⟩
      | emptyArray | array | emptyObject | object => exact absurd (List.cons.inj heq).1 (by decide)
    | emptyArray hb =>
      cases h' with
      | plain hne' h' => exact absurd heq.symm (plain_append_ne hne' h' (by decide))
      | emptyArray hb' =>
        simp only [List.append_assoc, List.cons_append, List.cons.injEq, true_and] at heq
        obtain ⟨rfl, -⟩ := run_unique hb hb' (hclosed hbracket.2.1) (hclosed hbracket.2.1) heq
        exact ⟨rfl, rfl⟩
      | array h' =>
        simp only [List.append_assoc, List.cons_append, List.cons.injEq, true_and] at heq
        exact absurd heq (h'.ne_blank hspells (.inl rfl) hb)
      | string | emptyObject | object => exact absurd (List.cons.inj heq).1 (by decide)
    | array h =>
      cases h' with
      | plain hne' h' => exact absurd heq.symm (plain_append_ne hne' h' (by decide))
      | emptyArray hb' =>
        simp only [List.append_assoc, List.cons_append, List.cons.injEq, true_and] at heq
        exact absurd heq.symm (h.ne_blank hspells (.inl rfl) hb')
      | array h' =>
        simp only [List.append_assoc, List.cons_append, List.cons.injEq, true_and] at heq
        obtain ⟨rfl, rfl, -⟩ := h.unique ih hspells hbracket h' (by simp at hn; omega) heq
        exact ⟨rfl, rfl⟩
      | string | emptyObject | object => exact absurd (List.cons.inj heq).1 (by decide)
    | emptyObject hb =>
      cases h' with
      | plain hne' h' => exact absurd heq.symm (plain_append_ne hne' h' (by decide))
      | emptyObject hb' =>
        simp only [List.append_assoc, List.cons_append, List.cons.injEq, true_and] at heq
        obtain ⟨rfl, -⟩ := run_unique hb hb' (hclosed hbrace.2.1) (hclosed hbrace.2.1) heq
        exact ⟨rfl, rfl⟩
      | object h' =>
        simp only [List.append_assoc, List.cons_append, List.cons.injEq, true_and] at heq
        exact absurd heq (h'.ne_blank hlabelled (.inr rfl) hb)
      | string | emptyArray | array => exact absurd (List.cons.inj heq).1 (by decide)
    | object h =>
      cases h' with
      | plain hne' h' => exact absurd heq.symm (plain_append_ne hne' h' (by decide))
      | emptyObject hb' =>
        simp only [List.append_assoc, List.cons_append, List.cons.injEq, true_and] at heq
        exact absurd heq.symm (h.ne_blank hlabelled (.inr rfl) hb')
      | object h' =>
        simp only [List.append_assoc, List.cons_append, List.cons.injEq, true_and] at heq
        obtain ⟨rfl, rfl, -⟩ := h.unique (Labelled.unique ih) hlabelled hbrace h' (by simp at hn; omega) heq
        exact ⟨rfl, rfl⟩
      | string | emptyArray | array => exact absurd (List.cons.inj heq).1 (by decide)

theorem Structure.unique {text : String} (h : Structure text t) (h' : Structure text t') : t = t' := by
  obtain ⟨b, v, c, heq, hb, hv, hc⟩ := h
  obtain ⟨b', v', c', heq', hb', hv', hc'⟩ := h'
  have hends : ∀ {c : List Char}, Blank c → Ends c := by
    intro c hc x hx
    exact isPlain_of_isBlank (hc x (List.mem_of_mem_head? hx))
  rw [heq, List.append_assoc, List.append_assoc] at heq'
  obtain ⟨-, hvalue⟩ := blank_unique hb hb' (begins_of_spells hv) (begins_of_spells hv') heq'
  exact (spells_unique _ t v t' v' c c' (Nat.le_refl _) hv hv' hvalue (hends hc) (hends hc')).1

end MediaPaths.Json
