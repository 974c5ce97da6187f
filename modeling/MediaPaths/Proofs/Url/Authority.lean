import Mathlib.Data.List.TakeWhile
import MediaPaths.Url.Basic

/-!
# What a URL takes from its authority

A text that begins with a scheme, two slashes, an authority and a slash is read so that scheme, credentials, host and
port come from what stands before that slash, and the path begins with it. What follows has no part in that.
-/

namespace MediaPaths.Url

/-- A scheme in the form in which it is kept, other than that of files. -/
structure IsScheme (w : List Char) : Prop where
  begins : ∃ c cs, w = c :: cs ∧ c.isAlpha = true
  chars : ∀ c ∈ w, isSchemeChar c = true
  lower : w.map Char.toLower = w
  notFile : w ≠ "file".toList

/-- A text that can stand between two slashes and a third as an authority. -/
structure IsAuthority (a : List Char) : Prop where
  ne_nil : a ≠ []
  chars : ∀ c ∈ a, 0x20 ≤ c.toNat ∧ c ≠ '/' ∧ c ≠ '?' ∧ c ≠ '#' ∧ c ≠ '\\'

variable {scheme a s : List Char} {special : Bool}

/-! ## Schemes -/

theorem toNat_of_isSchemeChar {c : Char} (h : isSchemeChar c = true) : 0x20 < c.toNat ∧ c.toNat < 0x80 := by
  have hupper : c.isUpper = true → 65 ≤ c.toNat ∧ c.toNat ≤ 90 := fun h => of_decide_eq_true h
  have hlower : c.isLower = true → 97 ≤ c.toNat ∧ c.toNat ≤ 122 := fun h =>
    ⟨of_decide_eq_true (Bool.and_eq_true_iff.1 h).1, of_decide_eq_true (Bool.and_eq_true_iff.1 h).2⟩
  have hdigit : c.isDigit = true → 48 ≤ c.toNat ∧ c.toNat ≤ 57 := Char.isDigit_iff_toNat.1
  have halpha : c.isAlpha = true → 65 ≤ c.toNat ∧ c.toNat ≤ 122 := by
    intro h
    rcases Bool.or_eq_true_iff.1 h with h | h
    · have := hupper h
      omega
    · have := hlower h
      omega
  simp only [isSchemeChar, Bool.or_eq_true, beq_iff_eq] at h
  rcases h with ((h | rfl) | rfl) | rfl
  · rcases Bool.or_eq_true_iff.1 h with h | h
    · have := halpha h
      omega
    · have := hdigit h
      omega
  all_goals decide

theorem splitScheme?_append (h : IsScheme scheme) (s : List Char) :
    splitScheme? (scheme ++ ':' :: s) = some (scheme, s) := by
  obtain ⟨c, cs, rfl, hc⟩ := h.begins
  have htake : (c :: cs ++ ':' :: s).takeWhile isSchemeChar = c :: cs := by
    rw [List.takeWhile_append_of_pos h.chars, List.takeWhile_cons_of_neg (by decide), List.append_nil]
  have hdrop : (c :: cs ++ ':' :: s).dropWhile isSchemeChar = ':' :: s := by
    rw [List.dropWhile_append_of_pos h.chars, List.dropWhile_cons_of_neg (by decide)]
  rw [splitScheme?, htake, hdrop]
  simp only [hc, if_true, h.lower]

/-! ## Cleaning -/

/-- A blank, which does not count at the ends of a text. -/
def isBlank (c : Char) : Bool := c.toNat ≤ 0x20

/-- Tabs and line ends do not count anywhere. -/
def counts (c : Char) : Bool := c != '\t' && c != '\n' && c != '\r'

/-- What cleaning leaves of the front of a text. -/
def cleanFront (p : List Char) : List Char := (p.dropWhile isBlank).filter counts

/-- What cleaning leaves of the back of a text. -/
def cleanBack (s : List Char) : List Char := (s.reverse.dropWhile isBlank).reverse.filter counts

theorem counts_of_visible {c : Char} (hc : 0x20 < c.toNat) : counts c = true := by
  have hne : ∀ d : Char, d.toNat ≤ 0x20 → c ≠ d := by
    rintro d hd rfl
    omega
  simp [counts, hne '\t' (by decide), hne '\n' (by decide), hne '\r' (by decide)]

theorem cleanBack_append {c : Char} (hc : 0x20 < c.toNat) (p s : List Char) :
    cleanBack (p ++ c :: s) = p.filter counts ++ c :: cleanBack s := by
  have hstay : ((p ++ c :: s).reverse.dropWhile isBlank).reverse = p ++ c :: (s.reverse.dropWhile isBlank).reverse := by
    have hblank : ¬ isBlank c = true := by simpa [isBlank] using hc
    rw [List.reverse_append, List.reverse_cons, List.append_assoc, List.dropWhile_append]
    split
    · rename_i hnil
      rw [List.isEmpty_iff.1 hnil, List.singleton_append, List.dropWhile_cons_of_neg hblank]
      simp
    · simp
  rw [cleanBack, hstay, List.filter_append, List.filter_cons_of_pos (counts_of_visible hc), cleanBack]

/-- A character that counts keeps the front of a text from its back. -/
theorem clean_append {c : Char} (hc : 0x20 < c.toNat) (p s : List Char) :
    clean (p ++ c :: s) = cleanFront p ++ c :: cleanBack s := by
  have hblank : ¬ isBlank c = true := by simpa [isBlank] using hc
  have hfront : (p ++ c :: s).dropWhile isBlank = p.dropWhile isBlank ++ c :: s := by
    rw [List.dropWhile_append]
    split
    · rename_i hnil
      rw [List.isEmpty_iff.1 hnil, List.dropWhile_cons_of_neg hblank, List.nil_append]
    · rfl
  change cleanBack ((p ++ c :: s).dropWhile isBlank) = _
  rw [hfront, cleanBack_append hc, cleanFront]

theorem cleanFront_eq_self {p : List Char} (h : ∀ c ∈ p, 0x20 < c.toNat) : cleanFront p = p := by
  have hfront : p.dropWhile isBlank = p := by
    cases p with
    | nil => rfl
    | cons c p => exact List.dropWhile_cons_of_neg (by simpa [isBlank] using h c (List.mem_cons_self ..))
  rw [cleanFront, hfront, List.filter_eq_self.2 fun c hc => counts_of_visible (h c hc)]

theorem IsScheme.visible {c : Char} (h : IsScheme scheme) (hc : c ∈ scheme) : 0x20 < c.toNat :=
  (toNat_of_isSchemeChar (h.chars c hc)).1

/-- Cleaning keeps the scheme, its colon, and what stands behind it up to a character that counts. -/
theorem clean_scheme {c : Char} (h : IsScheme scheme) (hc : 0x20 < c.toNat) (s t : List Char) :
    clean (scheme ++ ':' :: (s ++ c :: t)) = scheme ++ ':' :: (s.filter counts ++ c :: cleanBack t) := by
  rw [clean_append (by decide), cleanFront_eq_self fun d => h.visible, cleanBack_append hc]

/-! ## Paths -/

theorem head?_of_prefix {p l : List Char} (hp : p ≠ []) (h : p <+: l) : p.head? = l.head? := by
  obtain ⟨t, rfl⟩ := h
  cases p with
  | nil => exact absurd rfl hp
  | cons c p => rfl

theorem head?_upToSlash {path : List Char} (h : '/' ∈ path) : (upToSlash path).head? = path.head? := by
  refine head?_of_prefix ?_ ?_
  · rw [upToSlash, ne_eq, List.reverse_eq_nil_iff, List.dropWhile_eq_nil_iff]
    intro hall
    simpa using hall '/' (by simpa using h)
  · rw [upToSlash, ← List.reverse_suffix, List.reverse_reverse]
    exact List.dropWhile_suffix _

theorem head?_parent {path : List Char} (h : path.head? = some '/') : (parent path).head? = some '/' := by
  unfold parent
  dsimp only
  split
  · rename_i hinner
    simp only [Bool.and_eq_true, List.contains_iff_mem] at hinner
    rw [head?_upToSlash hinner.1, head?_of_prefix (List.ne_nil_of_mem hinner.1) (List.dropLast_prefix path), h]
  · rw [head?_upToSlash (List.mem_of_mem_head? h), h]

/-- A path that begins with a slash goes on so. -/
theorem head?_readPathFrom (fuel : Nat) {path : List Char} (s : List Char) (h : path.head? = some '/') :
    (readPathFrom special fuel path s).1.head? = some '/' := by
  induction fuel generalizing path s with
  | zero => exact h
  | succ fuel ih =>
    have hstep : ∀ segment more, (if isDoubleDot segment then parent path else if isSingleDot segment then path
        else path ++ percentEncode inPathSet segment ++ more).head? = some '/' := by
      intro segment more
      split
      · exact head?_parent h
      · split
        · exact h
        · rw [List.append_assoc, List.head?_append, h]
          rfl
    unfold readPathFrom
    dsimp only
    split
    · exact ih _ (hstep ..)
    · exact hstep ..

/-- The path after an authority begins with a slash, unless nothing or a query or a fragment follows. -/
theorem exists_readPathAfterAuthority {c : Char} (hc : c ≠ '?' ∧ c ≠ '#') (s : List Char) :
    ∃ path rest, readPathAfterAuthority special (c :: s) = ('/' :: path, rest) := by
  have hread : ∀ s, ∃ path rest, readPath special ['/'] s = ('/' :: path, rest) := by
    intro s
    have h : (readPath special ['/'] s).1.head? = some '/' := head?_readPathFrom (s.length + 1) s rfl
    obtain ⟨path, hpath⟩ := List.head?_eq_some_iff.1 h
    exact ⟨path, _, Prod.ext hpath rfl⟩
  have hother : (special || (c != '?' && c != '#')) = true := by simp [hc]
  simp only [readPathAfterAuthority, hother, if_true]
  split
  · exact hread s
  · exact hread (c :: s)

/-! ## Authorities -/

theorem head?_splitHost (inside : Bool) (s : List Char) :
    (splitHost inside s).2 = [] ∨ (splitHost inside s).2.head? = some ':' := by
  induction s generalizing inside with
  | nil => exact .inl rfl
  | cons c s ih =>
    unfold splitHost
    split
    · rename_i hc
      simp only [Bool.and_eq_true, beq_iff_eq] at hc
      exact .inr (by simp [hc.1])
    · exact ih _

/-- Behind a port there is nothing left but what a backslash begins. -/
theorem readPort_rest {port : Option Nat} {rest : List Char} (hs : s = [] ∨ s.head? = some ':')
    (h : readPort scheme s = .ok (port, rest)) : ∀ c, rest.head? = some c → c = '\\' := by
  unfold readPort at h
  split at h
  · rename_i s
    dsimp only at h
    split at h
    · cases h
    · split at h
      · cases h
      · rename_i hrest
        obtain rfl : s.dropWhile Char.isDigit = rest := by
          split at h <;> cases h <;> rfl
        intro c hc
        simpa [hc] using hrest
  · rename_i hno
    cases h
    rcases hs with rfl | hs
    · simp
    · obtain ⟨t, rfl⟩ := List.head?_eq_some_iff.1 hs
      exact absurd rfl (hno t)

/-- What an authority has been read from. -/
theorem readAuthority_sound {more : Bool} {a : Authority} (h : readAuthority scheme more s = .ok a) :
    credentials ((splitUserinfo s).1.getD []) = (a.username, a.password) ∧
    Host.read (isSpecial scheme) (splitHost false (splitUserinfo s).2).1 = .ok a.host ∧
    readPort scheme (splitHost false (splitUserinfo s).2).2 = .ok (a.port, a.rest) := by
  unfold readAuthority at h
  simp only [bind, Except.bind, throw, throwThe, MonadExceptOf.throw, pure, Except.pure] at h
  split at h
  · cases h
  · split at h
    · cases h
    · split at h
      · cases h
      · rename_i hhost
        split at h
        · cases h
        · split at h
          · cases h
          · rename_i hport
            split at h
            · cases h
            · cases h
              exact ⟨rfl, hhost, hport⟩

/-! ## Whole URLs -/

/-- Behind the slashes, what stands before the next slash is all that the authority is read from. -/
theorem exists_parseAfterSlashes (ha : ∀ c ∈ a, c ≠ '/' ∧ c ≠ '?' ∧ c ≠ '#' ∧ c ≠ '\\') (s : List Char) :
    ∃ path query fragment, parseAfterSlashes scheme (a ++ '/' :: s) = (readAuthority scheme true a).map fun b =>
      ⟨scheme, b.username, b.password, some b.host, b.port, '/' :: path, query, fragment⟩ := by
  have hstay : ∀ c ∈ a, (!endsAuthority (isSpecial scheme) c) = true := by
    intro c hc
    simp [endsAuthority, ha c hc]
  have htake : (a ++ '/' :: s).takeWhile (!endsAuthority (isSpecial scheme) ·) = a := by
    rw [List.takeWhile_append_of_pos hstay, List.takeWhile_cons_of_neg (by simp [endsAuthority]), List.append_nil]
  have hdrop : (a ++ '/' :: s).dropWhile (!endsAuthority (isSpecial scheme) ·) = '/' :: s := by
    rw [List.dropWhile_append_of_pos hstay, List.dropWhile_cons_of_neg (by simp [endsAuthority])]
  unfold parseAfterSlashes
  simp only [htake, hdrop, List.isEmpty_cons, Bool.not_false]
  cases hread : readAuthority scheme true a with
  | error e => exact ⟨[], none, none, rfl⟩
  | ok b =>
    -- The path begins with the slash, or with a backslash that the port has left.
    obtain ⟨c, t, ht, hc⟩ : ∃ c t, b.rest ++ '/' :: s = c :: t ∧ c ≠ '?' ∧ c ≠ '#' := by
      have hport := (readAuthority_sound hread).2.2
      have hrest := readPort_rest (head?_splitHost ..) hport
      cases hb : b.rest with
      | nil => exact ⟨'/', s, rfl, by decide⟩
      | cons c t => exact ⟨c, t ++ '/' :: s, rfl, by simp [hrest c (by simp [hb])]⟩
    obtain ⟨path, rest, hpath⟩ : ∃ path rest, readPathAfterAuthority (isSpecial scheme) (c :: t) =
        ('/' :: path, rest) := exists_readPathAfterAuthority hc t
    exact ⟨path, _, _, by simp only [ht, hpath, Except.map]; rfl⟩

/-- Cleaning keeps the scheme and what stands behind it up to a slash. -/
theorem exists_clean_scheme (h : IsScheme scheme) (ha : ∀ c ∈ a, 0x20 ≤ c.toNat) (s : List Char) :
    ∃ s', clean (scheme ++ ':' :: (a ++ '/' :: s)) = scheme ++ ':' :: (a ++ '/' :: s') := by
  have hcounts : ∀ c ∈ a, counts c = true := by
    intro c hc
    have hne : ∀ d : Char, d.toNat < 0x20 → c ≠ d := by
      rintro d hd rfl
      exact absurd (ha c hc) (by omega)
    simp [counts, hne '\t' (by decide), hne '\n' (by decide), hne '\r' (by decide)]
  exact ⟨cleanBack s, by rw [clean_scheme h (by decide), List.filter_eq_self.2 hcounts]⟩

/-- What stands behind the two slashes is read as an authority and what follows it. -/
theorem parseChars_eq {x : List Char} (hsplit : splitScheme? (clean s) = some (scheme, '/' :: '/' :: x))
    (hfile : scheme ≠ "file".toList) (hx : x.head?.any (isSeparator true) = false) :
    parseChars s = parseAfterSlashes scheme x := by
  have hslashes : ('/' :: '/' :: x).dropWhile (isSeparator true) = x := by
    rw [List.dropWhile_cons_of_pos rfl, List.dropWhile_cons_of_pos rfl]
    cases x with
    | nil => rfl
    | cons c x => exact List.dropWhile_cons_of_neg (by simpa using hx)
  unfold parseChars
  rw [hsplit]
  dsimp only
  rw [if_neg (by simpa using hfile)]
  split
  · rw [hslashes]
  · rfl

/-- What stands between the slashes behind the scheme and the next slash is all that the authority is read from. -/
theorem exists_parseChars (h : IsScheme scheme) (ha : IsAuthority a) (s : List Char) :
    ∃ path query fragment, parseChars (scheme ++ ':' :: '/' :: '/' :: (a ++ '/' :: s)) =
      (readAuthority scheme true a).map fun b =>
        ⟨scheme, b.username, b.password, some b.host, b.port, '/' :: path, query, fragment⟩ := by
  obtain ⟨s', hclean⟩ : ∃ s', clean (scheme ++ ':' :: '/' :: '/' :: (a ++ '/' :: s)) =
      scheme ++ ':' :: '/' :: '/' :: (a ++ '/' :: s') := by
    refine exists_clean_scheme (a := '/' :: '/' :: a) h (fun c hc => ?_) s
    simp only [List.mem_cons] at hc
    rcases hc with rfl | rfl | hc
    · decide
    · decide
    · exact (ha.chars c hc).1
  have hfront : (a ++ '/' :: s').head?.any (isSeparator true) = false := by
    obtain ⟨d, t, rfl⟩ := List.exists_cons_of_ne_nil ha.ne_nil
    have hd := ha.chars d (List.mem_cons_self ..)
    simp [isSeparator, hd]
  rw [parseChars_eq (hclean ▸ splitScheme?_append h _) h.notFile hfront]
  exact exists_parseAfterSlashes (fun d hd => (ha.chars d hd).2) s'

theorem parseAfterSlashes_eq_ok {u : Url} (h : parseAfterSlashes scheme s = .ok u) :
    u.scheme = scheme ∧ u.host.isSome = true := by
  unfold parseAfterSlashes at h
  dsimp only at h
  split at h
  · cases h
  · cases h
    exact ⟨rfl, rfl⟩

/-- A text that begins with a scheme and two slashes is read as a URL of that scheme with an authority. -/
theorem parseChars_eq_ok {u : Url} (hscheme : IsScheme scheme)
    (h : parseChars (scheme ++ ':' :: '/' :: '/' :: s) = .ok u) : u.scheme = scheme ∧ u.host.isSome = true := by
  obtain ⟨s', hclean⟩ : ∃ s', clean (scheme ++ ':' :: '/' :: '/' :: s) = scheme ++ ':' :: '/' :: '/' :: s' :=
    exists_clean_scheme (a := ['/']) hscheme (by simp) s
  have hfile : ¬ (scheme == "file".toList) = true := by simpa using hscheme.notFile
  rw [parseChars, hclean, splitScheme?_append hscheme] at h
  dsimp only at h
  rw [if_neg hfile] at h
  split at h <;> exact parseAfterSlashes_eq_ok h

theorem isEmpty_of_special {s : List Char} {host : Host} (h : Host.special s = .ok host) : host.isEmpty = false := by
  unfold Host.special at h
  split at h
  · unfold Host.bracketed at h
    split at h
    · split at h <;> cases h
      rfl
    · cases h
  · split at h
    · cases h
    · cases h
    · rename_i text hne _
      split at h
      · split at h <;> cases h
        rfl
      · cases h
        cases text with
        | nil => exact absurd rfl (hne ·)
        | cons c cs => rfl

/-- A URL of a special scheme has a host. -/
theorem hasHost_of_isSpecial (h : IsScheme scheme) (hspecial : isSpecial scheme = true) {u : Url}
    (hparse : parseChars (scheme ++ ':' :: '/' :: s) = .ok u) : u.hasHost = true := by
  obtain ⟨s', hclean⟩ := exists_clean_scheme (a := []) h (List.forall_mem_nil _) s
  have hfile : ¬ (scheme == "file".toList) = true := by simpa using h.notFile
  unfold parseChars at hparse
  rw [List.nil_append] at hclean
  rw [hclean, splitScheme?_append h] at hparse
  dsimp only at hparse
  rw [if_neg hfile, if_pos hspecial] at hparse
  unfold parseAfterSlashes at hparse
  dsimp only at hparse
  split at hparse
  · cases hparse
  · rename_i b hread
    cases hparse
    have hhost := (readAuthority_sound hread).2.1
    rw [Host.read, if_pos hspecial] at hhost
    simp [hasHost, isEmpty_of_special hhost]

end MediaPaths.Url
