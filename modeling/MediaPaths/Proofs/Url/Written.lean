import Mathlib.Data.List.Basic
import MediaPaths.Proofs.Url.Authority
import MediaPaths.Proofs.Url.Hosts

/-!
# URLs are read as they are written

The port of a URL and its credentials are written in a form in which they are read again, and so is the authority that
they make up with the host. What is written for a URL with a host is therefore read as one that leads to the same place,
with the same credentials.
-/

namespace MediaPaths.Url

variable {special : Bool} {scheme s : List Char} {host : Host} {c : Char}

/-! ## Ports -/

/-- A port that is written: it is in range and not the one of the scheme. -/
def IsPort (scheme : List Char) (n : Nat) : Prop := n ≤ 65535 ∧ defaultPort? scheme ≠ some n

theorem isPort_of_readPort {n : Nat} {rest : List Char} (h : readPort scheme s = .ok (some n, rest)) :
    IsPort scheme n := by
  unfold readPort at h
  split at h
  · dsimp only at h
    split at h
    · cases h
    · rename_i hle
      split at h
      · cases h
      · split at h
        · cases h
        · rename_i hport
          cases h
          simp only [Bool.or_eq_true, beq_iff_eq, not_or] at hport
          exact ⟨by simpa using hle, hport.2⟩
  · cases h

/-- What is written for a port. -/
def writePort (port : Option Nat) : List Char := writeOptional ':' (port.map (Nat.toDigits 10))

theorem writePort_front (port : Option Nat) : writePort port = [] ∨ (writePort port).head? = some ':' := by
  cases port with
  | none => exact .inl rfl
  | some n => exact .inr rfl

theorem isWritten_of_mem_writePort {port : Option Nat} (hc : c ∈ writePort port) : Host.IsWritten c := by
  cases port with
  | none => cases hc
  | some n =>
    rcases List.mem_cons.1 hc with rfl | hc
    · decide
    · exact (Host.isWritten_of_mem_address (.inr (mem_toDigits (by decide) (by decide) hc))).1

/-- A port is read from what is written for it. -/
theorem readPort_writePort {port : Option Nat} (h : ∀ n, port = some n → IsPort scheme n) :
    readPort scheme (writePort port) = .ok (port, []) := by
  cases port with
  | none => rfl
  | some n =>
    obtain ⟨hle, hdefault⟩ := h n rfl
    have hdigits : ∀ c ∈ Nat.toDigits 10 n, c.isDigit = true := fun c hc =>
      Nat.isDigit_of_mem_toDigits (by decide) (by decide) hc
    have hvalue : (Nat.toDigits 10 n).foldl (fun n d => n * 10 + (d.toNat - '0'.toNat)) 0 = n := by
      simpa only [Nat.ofDigitChars_eq_foldl, Nat.mul_comm 10] using Nat.ofDigitChars_ten_toDigits (n := n)
    have htake : (Nat.toDigits 10 n).takeWhile Char.isDigit = Nat.toDigits 10 n := List.takeWhile_eq_self_iff.2 hdigits
    have hdrop : (Nat.toDigits 10 n).dropWhile Char.isDigit = [] := List.dropWhile_eq_nil_iff.2 hdigits
    have hwritten : ((Nat.toDigits 10 n).isEmpty || defaultPort? scheme == some n) = false := by simp [hdefault]
    change readPort scheme (':' :: Nat.toDigits 10 n) = _
    simp only [readPort]
    rw [htake, hdrop, hvalue, if_neg (by omega), hwritten]
    rfl

/-! ## Credentials -/

theorem splitUserinfo_of_notMem (h : '@' ∉ s) : splitUserinfo s = (none, s) := by
  induction s with
  | nil => rfl
  | cons c s ih =>
    obtain ⟨hc, hs⟩ : '@' ≠ c ∧ '@' ∉ s := by simpa using h
    simp [splitUserinfo, ih hs, hc.symm]

/-- What stands behind the last of several signs is what stands behind the last of those that come after the first. -/
theorem splitUserinfo_append (info s : List Char) : splitUserinfo (info ++ '@' :: s) =
    (some (info ++ ((splitUserinfo s).1.elim [] ('@' :: ·))), (splitUserinfo s).2) := by
  induction info with
  | nil => cases h : splitUserinfo s with
    | mk first rest => cases first <;> simp [splitUserinfo, h]
  | cons c info ih => simp [splitUserinfo, ih]

/-- A text that has been encoded for a user name or a password. -/
def IsEncoded (s : List Char) : Prop := ∀ c ∈ s, inUserinfoSet c = false

theorem isEncoded_percentEncode (s : List Char) : IsEncoded (percentEncode inUserinfoSet s) := by
  intro c hc
  rcases mem_percentEncode hc with ⟨-, hc⟩ | hc
  · exact hc
  · exact (Host.of_mem_codeChars hc).2.2

theorem isWritten_of_inUserinfoSet (h : inUserinfoSet c = false) : Host.IsWritten c ∧ c ≠ ':' := by
  simp only [inUserinfoSet, inPathSet, inFragmentSet, isControl, Bool.or_eq_false_iff, decide_eq_false_iff_not, not_lt,
    List.contains_eq_mem, List.mem_cons, List.not_mem_nil, or_false, not_or] at h
  have hspace : c.toNat ≠ 0x20 := fun heq => h.1.1.2.1 (Char.toNat_inj.1 heq)
  simp only [Host.IsWritten, List.mem_cons, List.not_mem_nil, or_false, not_or]
  refine ⟨⟨by omega, ?_⟩, ?_⟩ <;> tauto

/-- Credentials that have been encoded are read from what is written for them. -/
theorem credentials_eq {username password : List Char} (hu : IsEncoded username) (hp : IsEncoded password) :
    credentials (username ++ if password.isEmpty then [] else ':' :: password) = (username, password) := by
  have hcolon : ∀ c ∈ username, (c != ':') = true := fun c hc => by simpa using (isWritten_of_inUserinfoSet (hu c hc)).2
  cases password with
  | nil =>
    have htake : username.takeWhile (· != ':') = username := List.takeWhile_eq_self_iff.2 hcolon
    have hdrop : username.dropWhile (· != ':') = [] := List.dropWhile_eq_nil_iff.2 hcolon
    rw [List.isEmpty_nil, if_pos rfl, List.append_nil, credentials, htake, hdrop, percentEncode_eq_self hu]
    rfl
  | cons c password =>
    have htake : (username ++ ':' :: c :: password).takeWhile (· != ':') = username := by
      rw [List.takeWhile_append_of_pos hcolon, List.takeWhile_cons_of_neg (by decide), List.append_nil]
    have hdrop : (username ++ ':' :: c :: password).dropWhile (· != ':') = ':' :: c :: password := by
      rw [List.dropWhile_append_of_pos hcolon, List.dropWhile_cons_of_neg (by decide)]
    simp [credentials, htake, hdrop, percentEncode_eq_self hu, percentEncode_eq_self hp]

/-! ## Authorities -/

section Authority

variable {more : Bool} {a : Authority}

theorem isEmpty_of_read_nil (h : Host.read special [] = .ok host) : host.isEmpty = true := by
  cases special with
  | true =>
    have hnil : Host.special [] = .error .emptyHost := by decide +kernel
    cases hnil.symm.trans h
  | false =>
    cases h
    rfl

/-- An authority with a host is read from a host and a port that are read; there are no other conditions. -/
theorem readAuthority_eq_ok (hne : a.host.isEmpty = false) : readAuthority scheme more s = .ok a ↔
    credentials ((splitUserinfo s).1.getD []) = (a.username, a.password) ∧
    Host.read (isSpecial scheme) (splitHost false (splitUserinfo s).2).1 = .ok a.host ∧
    readPort scheme (splitHost false (splitUserinfo s).2).2 = .ok (a.port, a.rest) := by
  refine ⟨readAuthority_sound, fun ⟨hcredentials, hhost, hport⟩ => ?_⟩
  have htext : (splitHost false (splitUserinfo s).2).1.isEmpty = false := by
    rw [Bool.eq_false_iff]
    intro hnil
    rw [List.isEmpty_iff.1 hnil] at hhost
    rw [isEmpty_of_read_nil hhost] at hne
    cases hne
  have hrest : (splitUserinfo s).2.isEmpty = false := by
    rw [Bool.eq_false_iff]
    intro hnil
    rw [List.isEmpty_iff.1 hnil] at htext
    cases htext
  simp only [readAuthority, hcredentials, hhost, hport, htext, hrest, hne, bind, Except.bind, pure, Except.pure,
    Bool.and_false, Bool.false_and, Bool.false_eq_true, if_false]

end Authority

/-! ## What follows an authority -/

/-- What can follow an authority: nothing, or what a slash, a question mark or a number sign begins. -/
def Follows (s : List Char) : Prop := ∀ c, s.head? = some c → c ∈ ['/', '?', '#']

theorem Follows.cut (special : Bool) {rest : List Char} (h : Follows rest) (hs : ∀ c ∈ s, Host.IsWritten c ∨ c = '@') :
    (s ++ rest).takeWhile (!endsAuthority special ·) = s ∧ (s ++ rest).dropWhile (!endsAuthority special ·) = rest := by
  have hstay : ∀ c ∈ s, (!endsAuthority special c) = true := by
    intro c hc
    rcases hs c hc with ⟨-, hne⟩ | rfl
    · simp only [List.mem_cons, List.not_mem_nil, or_false, not_or] at hne
      simp [endsAuthority, hne]
    · simp [endsAuthority]
  rw [List.takeWhile_append_of_pos hstay, List.dropWhile_append_of_pos hstay]
  cases rest with
  | nil => simp
  | cons c rest =>
    have hends : endsAuthority special c = true := by
      have hc := h c rfl
      simp only [List.mem_cons, List.not_mem_nil, or_false] at hc
      rcases hc with rfl | rfl | rfl <;> simp [endsAuthority]
    simp [hends]

theorem readPathAfterAuthority_front (s : List Char) :
    (readPathAfterAuthority special s).1 = [] ∨ (readPathAfterAuthority special s).1.head? = some '/' := by
  unfold readPathAfterAuthority
  split
  · cases special
    · exact .inl rfl
    · exact .inr rfl
  · split
    · exact .inr (head?_readPathFrom _ _ rfl)
    · split
      · exact .inr (head?_readPathFrom _ _ rfl)
      · exact .inl rfl

theorem follows_path {path : List Char} (h : path = [] ∨ path.head? = some '/') (query fragment : Option (List Char)) :
    Follows (path ++ (writeOptional '?' query ++ writeOptional '#' fragment)) := by
  intro c hc
  rcases h with rfl | h
  · cases query with
    | some q =>
      cases hc
      decide
    | none =>
      cases fragment with
      | some f =>
        cases hc
        decide
      | none => cases hc
  · rw [List.head?_append, h] at hc
    cases hc
    decide

/-- The URL that an authority and what follows it are read as. -/
def Authority.url (scheme : List Char) (a : Authority) (rest : List Char) : Url :=
  let (path, rest) := readPathAfterAuthority (isSpecial scheme) (a.rest ++ rest)
  let (query, fragment) := readTail (isSpecial scheme) rest
  ⟨scheme, a.username, a.password, some a.host, a.port, path, query, fragment⟩

theorem parseAfterSlashes_iff {u : Url} : parseAfterSlashes scheme s = .ok u ↔
    ∃ a, readAuthority scheme (!(s.dropWhile (!endsAuthority (isSpecial scheme) ·)).isEmpty)
        (s.takeWhile (!endsAuthority (isSpecial scheme) ·)) = .ok a ∧
      u = a.url scheme (s.dropWhile (!endsAuthority (isSpecial scheme) ·)) := by
  unfold parseAfterSlashes
  dsimp only
  split
  · rename_i hread
    simp [hread]
  · rename_i hread
    simp only [hread, Except.ok.injEq, exists_eq_left', eq_comm]
    rfl

/-! ## Whole URLs -/

/-- What a URL with a host is once it has been read, its credentials apart. -/
structure IsSite (u : Url) : Prop where
  scheme : IsScheme u.scheme
  host : ∃ host, u.host = some host ∧ host.isEmpty = false ∧ host.IsRead (isSpecial u.scheme)
  port : ∀ n, u.port = some n → IsPort u.scheme n
  path : u.path = [] ∨ u.path.head? = some '/'

variable {u v : Url}

theorem toLower_of_isSchemeChar (h : isSchemeChar c = true) :
    isSchemeChar c.toLower = true ∧ c.toLower.toLower = c.toLower ∧ (c.isAlpha = true → c.toLower.isAlpha = true) := by
  have hall : ∀ n < 0x80, isSchemeChar (Char.ofNat n) = true → isSchemeChar (Char.ofNat n).toLower = true ∧
      (Char.ofNat n).toLower.toLower = (Char.ofNat n).toLower ∧
      ((Char.ofNat n).isAlpha = true → (Char.ofNat n).toLower.isAlpha = true) := by decide +kernel
  simpa using hall c.toNat (toNat_of_isSchemeChar h).2 (by simpa using h)

theorem isScheme_of_splitScheme? {rest : List Char} (h : splitScheme? s = some (scheme, rest))
    (hfile : scheme ≠ "file".toList) : IsScheme scheme := by
  unfold splitScheme? at h
  split at h
  · rename_i c cs _ htake _
    split at h
    · rename_i halpha
      cases h
      have hchars : ∀ d ∈ c :: cs, isSchemeChar d = true := fun d hd =>
        List.mem_takeWhile_imp (p := isSchemeChar) (by rwa [htake])
      refine ⟨⟨c.toLower, cs.map Char.toLower, rfl, ?_⟩, fun d hd => ?_, ?_, hfile⟩
      · exact (toLower_of_isSchemeChar (hchars c (List.mem_cons_self ..))).2.2 halpha
      · obtain ⟨e, he, rfl⟩ := List.mem_map.1 hd
        exact (toLower_of_isSchemeChar (hchars e he)).1
      · rw [List.map_map]
        exact List.map_congr_left fun d hd => (toLower_of_isSchemeChar (hchars d hd)).2.1
    · cases h
  · cases h

theorem hasHost_of_parseFile (h : parseFile scheme s = .ok u) : u.hasHost = false := by
  unfold parseFile at h
  dsimp only at h
  split at h
  · split at h
    · split at h
      · cases h
        rfl
      · split at h
        · cases h
          rfl
        · cases h
    · cases h
      rfl
  · cases h
    rfl

theorem isSite_of_parseAfterSlashes (hscheme : IsScheme scheme) (h : parseAfterSlashes scheme s = .ok u)
    (hhost : u.hasHost = true) : IsSite u := by
  obtain ⟨a, hread, rfl⟩ := parseAfterSlashes_iff.1 h
  obtain ⟨-, hread, hport⟩ := readAuthority_sound hread
  refine ⟨hscheme, ⟨a.host, rfl, by simpa [hasHost, Authority.url] using hhost, Host.isRead_of_read hread⟩, ?_, ?_⟩
  · intro n hn
    rw [show a.port = some n from hn] at hport
    exact isPort_of_readPort hport
  · exact readPathAfterAuthority_front _

/-- A URL with a host has been read as one whose parts are in order. -/
theorem isSite_of_parseChars (h : parseChars s = .ok u) (hhost : u.hasHost = true) : IsSite u := by
  unfold parseChars at h
  split at h
  · cases h
  · rename_i w rest hsplit
    split at h
    · rw [hasHost_of_parseFile h] at hhost
      cases hhost
    · rename_i hfile
      have hscheme : IsScheme w := isScheme_of_splitScheme? hsplit (by simpa using hfile)
      split at h
      · exact isSite_of_parseAfterSlashes hscheme h hhost
      · split at h
        · exact isSite_of_parseAfterSlashes hscheme h hhost
        · cases h
          cases hhost

/-- What is written between the two slashes of a URL with a host and its path. -/
def writtenAuthority (u : Url) (host : Host) : List Char := u.writeCredentials ++ (host.write ++ writePort u.port)

theorem exists_write (hu : IsSite u) (hhost : u.host = some host) :
    ∃ tail, Follows tail ∧ u.write = u.scheme ++ ':' :: '/' :: '/' :: (writtenAuthority u host ++ tail) := by
  have hfollows := follows_path hu.path u.query u.fragment
  refine ⟨_, hfollows, ?_⟩
  simp [write, writeAuthority, hhost, writtenAuthority, writePort]

theorem isWritten_of_mem_writtenAuthority (hhost : host.IsRead special) (huser : IsEncoded u.username)
    (hpassword : IsEncoded u.password) (hc : c ∈ writtenAuthority u host) : Host.IsWritten c ∨ c = '@' := by
  have hcredentials : c ∈ u.writeCredentials → Host.IsWritten c ∨ c = '@' := by
    intro hc
    unfold writeCredentials at hc
    split at hc
    · cases hc
    · simp only [List.mem_append, List.mem_singleton] at hc
      rcases hc with (hc | hc) | hc
      · exact .inl (isWritten_of_inUserinfoSet (huser c hc)).1
      · split at hc
        · cases hc
        · rcases List.mem_cons.1 hc with rfl | hc
          · exact .inl (by decide)
          · exact .inl (isWritten_of_inUserinfoSet (hpassword c hc)).1
      · exact .inr hc
  rcases List.mem_append.1 hc with hc | hc
  · exact hcredentials hc
  · rcases List.mem_append.1 hc with hc | hc
    · exact .inl (hhost.isWritten hc)
    · exact .inl (isWritten_of_mem_writePort hc)

theorem visible_of_isWritten (h : Host.IsWritten c ∨ c = '@') : 0x20 < c.toNat := by
  rcases h with h | rfl
  · exact h.1
  · decide

/-- Cleaning keeps what is written up to the path. -/
theorem exists_clean_write {tail : List Char} (h : IsScheme scheme) (hs : ∀ c ∈ s, 0x20 < c.toNat) (hne : s ≠ [])
    (ht : Follows tail) :
    ∃ tail', Follows tail' ∧ clean (scheme ++ ':' :: (s ++ tail)) = scheme ++ ':' :: (s ++ tail') := by
  cases tail with
  | nil =>
    obtain ⟨front, c, rfl⟩ := (List.eq_nil_or_concat' s).resolve_left hne
    have hfront : front.filter counts = front :=
      List.filter_eq_self.2 fun d hd => counts_of_visible (hs d (List.mem_append_left _ hd))
    refine ⟨[], ht, ?_⟩
    rw [List.append_nil, clean_scheme h (hs c (List.mem_append_right _ (List.mem_singleton_self c))), hfront]
    rfl
  | cons c tail =>
    have hc : 0x20 < c.toNat := by
      have := ht c rfl
      simp only [List.mem_cons, List.not_mem_nil, or_false] at this
      rcases this with rfl | rfl | rfl <;> decide
    have hcounts : s.filter counts = s := List.filter_eq_self.2 fun d hd => counts_of_visible (hs d hd)
    exact ⟨c :: cleanBack tail, ht, by rw [clean_scheme h hc, hcounts]⟩

/-- From the text of a URL with a host its scheme is read, and its authority, and whatever follows that. -/
theorem exists_parseChars_write (hu : IsSite u) (hhost : u.host = some host) (huser : IsEncoded u.username)
    (hpassword : IsEncoded u.password) : ∃ more tail, ∀ v, parseChars u.write = .ok v ↔
      ∃ a, readAuthority u.scheme more (writtenAuthority u host) = .ok a ∧ v = a.url u.scheme tail := by
  obtain ⟨_, hhost', hempty, hread⟩ := hu.host
  obtain rfl := Option.some.inj (hhost.symm.trans hhost')
  have hchars : ∀ c ∈ writtenAuthority u host, Host.IsWritten c ∨ c = '@' := fun c =>
    isWritten_of_mem_writtenAuthority hread huser hpassword
  obtain ⟨tail, ht, hwrite⟩ := exists_write hu hhost
  obtain ⟨tail', ht', hclean⟩ := exists_clean_write (s := '/' :: '/' :: writtenAuthority u host) hu.scheme
    (by simpa using fun c hc => visible_of_isWritten (hchars c hc)) (by simp) ht
  have hparse : parseChars u.write = parseAfterSlashes u.scheme (writtenAuthority u host ++ tail') := by
    refine parseChars_eq ?_ hu.scheme.notFile ?_
    · rw [hwrite]
      exact hclean ▸ splitScheme?_append hu.scheme _
    · have hne : writtenAuthority u host ≠ [] := by
        simp [writtenAuthority, Host.write_ne_nil hempty]
      obtain ⟨c, s, hs⟩ := List.exists_cons_of_ne_nil hne
      rw [hs, List.cons_append, List.head?_cons, Option.any_some]
      rcases hchars c (hs ▸ List.mem_cons_self ..) with ⟨-, hc⟩ | rfl
      · simp only [List.mem_cons, List.not_mem_nil, or_false, not_or] at hc
        simp [isSeparator, hc]
      · rfl
  obtain ⟨htake, hdrop⟩ := ht'.cut (isSpecial u.scheme) hchars
  refine ⟨!tail'.isEmpty, tail', fun v => ?_⟩
  rw [hparse, parseAfterSlashes_iff, htake, hdrop]

/-! ## Reading a URL again -/

theorem at_notMem (hhost : host.IsRead special) (port : Option Nat) : '@' ∉ host.write ++ writePort port := by
  intro hat
  rcases List.mem_append.1 hat with hat | hat
  · exact absurd (hhost.isWritten hat) (by decide)
  · exact absurd (isWritten_of_mem_writePort hat) (by decide)

theorem splitUserinfo_writtenAuthority (hhost : host.IsRead special) (huser : IsEncoded u.username)
    (hpassword : IsEncoded u.password) :
    credentials ((splitUserinfo (writtenAuthority u host)).1.getD []) = (u.username, u.password) ∧
      (splitUserinfo (writtenAuthority u host)).2 = host.write ++ writePort u.port := by
  have hat := at_notMem hhost u.port
  unfold writtenAuthority writeCredentials
  split
  · rename_i hnone
    obtain ⟨huser, hpassword⟩ := Bool.and_eq_true_iff.1 hnone
    rw [List.nil_append, splitUserinfo_of_notMem hat, List.isEmpty_iff.1 huser, List.isEmpty_iff.1 hpassword]
    exact ⟨rfl, rfl⟩
  · rw [List.append_assoc, List.singleton_append, splitUserinfo_append, splitUserinfo_of_notMem hat]
    exact ⟨by simpa using credentials_eq huser hpassword, rfl⟩

/-- Whatever is read from the text of a URL has the scheme and the credentials of that URL. -/
theorem credentials_of_parseChars_write (hu : IsSite u) (huser : IsEncoded u.username)
    (hpassword : IsEncoded u.password) (h : parseChars u.write = .ok v) :
    v.scheme = u.scheme ∧ v.username = u.username ∧ v.password = u.password := by
  obtain ⟨host, hhost, -, hread⟩ := hu.host
  obtain ⟨more, tail, hparse⟩ := exists_parseChars_write hu hhost huser hpassword
  obtain ⟨a, ha, rfl⟩ := (hparse v).1 h
  have hcredentials := (readAuthority_sound ha).1
  rw [(splitUserinfo_writtenAuthority hread huser hpassword).1, Prod.mk.injEq] at hcredentials
  exact ⟨rfl, hcredentials.1.symm, hcredentials.2.symm⟩

/-- The text of a URL with a host can be read, and leads where the URL leads. For a domain name with a label in Punycode
that is so if the name is the one form of itself. -/
theorem exists_parseChars_write_eq (hu : IsSite u) (huser : IsEncoded u.username) (hpassword : IsEncoded u.password)
    (hcode : ∀ d, u.host = some (.name d) → isSpecial u.scheme = true → Domain.HasCode d → Domain.toAscii? d = some d) :
    ∃ path query fragment, parseChars u.write = .ok { u with path, query, fragment } := by
  obtain ⟨host, hhost, hempty, hread⟩ := hu.host
  obtain ⟨more, tail, hparse⟩ := exists_parseChars_write hu hhost huser hpassword
  obtain ⟨hcredentials, hsite⟩ := splitUserinfo_writtenAuthority hread huser hpassword
  have hsplit := hread.splitHost_write (writePort_front u.port)
  have ha : readAuthority u.scheme more (writtenAuthority u host) = .ok ⟨u.username, u.password, host, u.port, []⟩ := by
    rw [readAuthority_eq_ok hempty, hcredentials, hsite, hsplit]
    exact ⟨rfl, hread.read_write fun d hd => hcode d (hd ▸ hhost), readPort_writePort hu.port⟩
  rw [(hparse _).2 ⟨_, ha, rfl⟩, hhost]
  exact ⟨_, _, _, rfl⟩

end MediaPaths.Url
