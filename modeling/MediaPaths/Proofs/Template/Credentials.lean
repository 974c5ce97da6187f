import MediaPaths.Proofs.Template.Origin
import MediaPaths.Proofs.Url.Written

/-!
# Configured credentials

A source may hold credentials, and its entry has some of its own, either of which may be empty. An address carries those
of the entry and nothing of those in the source: they stand encoded in front of the host, they are what is read there,
and two sources that differ in user information alone have the same address, or neither has one.
-/

namespace MediaPaths

open Url

/-! ## User information in front of a host -/

namespace Url

variable {scheme lead s t info : List Char} {username password : String} {u v : Url}

/-- Text with user information in front of a host, or without. -/
def withUserinfo (info : Option (List Char)) (site : List Char) : List Char :=
  match info with
  | none => site
  | some info => info ++ '@' :: site

/-- What is read of a text, with other credentials. -/
def carry (r : Except UrlError Url) (username password : String) : Option Url :=
  r.toOption.bind (·.withCredentials? username password)

theorem carry_eq_some {r : Except UrlError Url} :
    carry r username password = some u ↔ ∃ v, r = .ok v ∧ v.withCredentials? username password = some u := by
  cases r with
  | error e => simp [carry, Except.toOption]
  | ok v => simp [carry, Except.toOption]

/-- Two authorities with the same host and port, and the same behind them, lead to the same place. -/
theorem carry_of_same_site (hsite : (splitUserinfo (s.takeWhile (!endsAuthority (isSpecial scheme) ·))).2 =
      (splitUserinfo (t.takeWhile (!endsAuthority (isSpecial scheme) ·))).2)
    (hrest : s.dropWhile (!endsAuthority (isSpecial scheme) ·) = t.dropWhile (!endsAuthority (isSpecial scheme) ·))
    (h : carry (parseAfterSlashes scheme s) username password = some u) :
    carry (parseAfterSlashes scheme t) username password = some u := by
  obtain ⟨v, hv, hu⟩ := carry_eq_some.1 h
  obtain ⟨a, ha, rfl⟩ := parseAfterSlashes_iff.1 hv
  obtain ⟨hhost, rfl⟩ := withCredentials?_eq_some.1 hu
  have hempty : a.host.isEmpty = false := by simpa [hasHost, Authority.url] using hhost
  obtain ⟨-, hread, hport⟩ := readAuthority_sound ha
  rw [hsite] at hread hport
  let other := credentials ((splitUserinfo (t.takeWhile (!endsAuthority (isSpecial scheme) ·))).1.getD [])
  let b : Authority := { a with username := other.1, password := other.2 }
  have hb : ∀ more, readAuthority scheme more (t.takeWhile (!endsAuthority (isSpecial scheme) ·)) = .ok b := fun more =>
    (readAuthority_eq_ok (a := b) hempty).2 ⟨rfl, hread, hport⟩
  refine carry_eq_some.2 ⟨_, parseAfterSlashes_iff.2 ⟨b, hb _, rfl⟩, withCredentials?_eq_some.2 ⟨hhost, ?_⟩⟩
  rw [hrest]
  rfl

/-- User information has no part in where a text leads with other credentials. -/
theorem carry_withUserinfo {info : Option (List Char)} (hinfo : ∀ i, info = some i → ∀ c ∈ i, c ∉ ['/', '?', '#', '\\'])
    (s : List Char) : carry (parseAfterSlashes scheme (withUserinfo info s)) username password =
      carry (parseAfterSlashes scheme s) username password := by
  cases info with
  | none => rfl
  | some i =>
    have hstay : ∀ c ∈ i ++ ['@'], (!endsAuthority (isSpecial scheme) c) = true := by
      intro c hc
      rcases List.mem_append.1 hc with hc | hc
      · have hne := hinfo i rfl c hc
        simp only [List.mem_cons, List.not_mem_nil, or_false, not_or] at hne
        simp [endsAuthority, hne]
      · rw [List.mem_singleton.1 hc]
        simp [endsAuthority]
    have hcut : withUserinfo (some i) s = (i ++ ['@']) ++ s := by simp [withUserinfo]
    have hsite : (splitUserinfo ((withUserinfo (some i) s).takeWhile (!endsAuthority (isSpecial scheme) ·))).2 =
        (splitUserinfo (s.takeWhile (!endsAuthority (isSpecial scheme) ·))).2 := by
      rw [hcut, List.takeWhile_append_of_pos hstay, List.append_assoc, List.singleton_append, splitUserinfo_append]
    have hrest : (withUserinfo (some i) s).dropWhile (!endsAuthority (isSpecial scheme) ·) =
        s.dropWhile (!endsAuthority (isSpecial scheme) ·) := by
      rw [hcut, List.dropWhile_append_of_pos hstay]
    exact Option.ext fun u => ⟨carry_of_same_site hsite hrest, carry_of_same_site hsite.symm hrest.symm⟩

/-- Whether a text begins with a scheme shows before its first colon. -/
theorem splitScheme?_lead (hlead : ':' ∉ lead) :
    (∀ s, splitScheme? (lead ++ ':' :: s) = none) ∨
      ∃ scheme, ∀ s, splitScheme? (lead ++ ':' :: s) = some (scheme, s) := by
  by_cases hall : ∀ c ∈ lead, isSchemeChar c = true
  · have htake : ∀ s, (lead ++ ':' :: s).takeWhile isSchemeChar = lead := fun s => by
      rw [List.takeWhile_append_of_pos hall, List.takeWhile_cons_of_neg (by decide), List.append_nil]
    have hdrop : ∀ s, (lead ++ ':' :: s).dropWhile isSchemeChar = ':' :: s := fun s => by
      rw [List.dropWhile_append_of_pos hall, List.dropWhile_cons_of_neg (by decide)]
    cases lead with
    | nil => exact .inl fun s => by simp only [splitScheme?, htake]
    | cons c cs =>
      by_cases halpha : c.isAlpha = true
      · exact .inr ⟨(c :: cs).map Char.toLower, fun s => by simp only [splitScheme?, htake, hdrop, if_pos halpha]⟩
      · exact .inl fun s => by simp only [splitScheme?, htake, hdrop, if_neg halpha]
  · refine .inl fun s => ?_
    -- What is left begins with a character before the colon.
    have hne : lead.dropWhile isSchemeChar ≠ [] := by simpa [List.dropWhile_eq_nil_iff] using hall
    obtain ⟨d, t, ht⟩ := List.exists_cons_of_ne_nil hne
    have hd : d ≠ ':' := by
      rintro rfl
      exact hlead ((List.dropWhile_suffix _).subset (ht ▸ List.mem_cons_self ..))
    have hdrop : (lead ++ ':' :: s).dropWhile isSchemeChar = d :: (t ++ ':' :: s) := by
      rw [List.dropWhile_append, if_neg (by simpa using hne), ht]
      rfl
    unfold splitScheme?
    split
    · rename_i heq
      rw [hdrop] at heq
      cases heq
      exact absurd rfl hd
    · rfl

theorem carry_parseFile : carry (parseFile scheme s) username password = none := by
  rw [Option.eq_none_iff_forall_not_mem]
  intro u hu
  obtain ⟨v, hv, hu⟩ := carry_eq_some.1 hu
  rw [withCredentials?_eq_some, hasHost_of_parseFile hv] at hu
  cases hu.1

/-- What is read of a text with two slashes behind its first colon, and no further one there, is read of what stands
behind them, or is nothing whatever stands there. -/
theorem carry_lead (hlead : ':' ∉ lead) :
    (∀ s x, clean s = lead ++ ':' :: '/' :: '/' :: x → carry (parseChars s) username password = none) ∨
    ∃ scheme, ∀ s x, clean s = lead ++ ':' :: '/' :: '/' :: x → x.head?.any (isSeparator true) = false →
      parseChars s = parseAfterSlashes scheme x := by
  rcases splitScheme?_lead hlead with hnone | ⟨scheme, hscheme⟩
  · refine .inl fun s x hs => ?_
    rw [parseChars, hs, hnone]
    rfl
  · by_cases hfile : scheme = "file".toList
    · refine .inl fun s x hs => ?_
      rw [parseChars, hs, hscheme]
      simp only [hfile, beq_self_eq_true, if_true]
      exact carry_parseFile
    · exact .inr ⟨scheme, fun s x hs hx => parseChars_eq (hs ▸ hscheme _) hfile hx⟩

/-! ## Texts that differ in their user information -/

/-- A text that has user information, or none, between two slashes behind its first colon and a host. -/
structure IsUserinfoOf (info : Option (List Char)) (lead site text : List Char) : Prop where
  text : text = lead ++ ':' :: '/' :: '/' :: withUserinfo info site
  lead : ':' ∉ lead
  info : ∀ i, info = some i → ∀ c ∈ i, c ∉ ['/', '?', '#', '\\']
  -- A slash is not where a host begins. Without user information it would be one more in front of a host further on.
  site : ∀ c, (site.filter counts).head? = some c → c ∉ ['/', '\\']

theorem clean_withUserinfo (info : Option (List Char)) (lead site : List Char) :
    clean (lead ++ ':' :: '/' :: '/' :: withUserinfo info site) =
      cleanFront lead ++ ':' :: '/' :: '/' :: withUserinfo (info.map (·.filter counts)) (cleanBack site) := by
  rw [clean_append (by decide)]
  cases info with
  | none =>
    have hback := cleanBack_append (c := '/') (by decide) ['/'] site
    exact congrArg (cleanFront lead ++ ':' :: ·) hback
  | some i =>
    have hback := cleanBack_append (c := '@') (by decide) ('/' :: '/' :: i) site
    exact congrArg (cleanFront lead ++ ':' :: ·) hback

theorem head?_cleanBack {c : Char} (h : (cleanBack s).head? = some c) : (s.filter counts).head? = some c := by
  have htrimmed : (s.reverse.dropWhile isBlank).reverse <+: s := by
    rw [← List.reverse_suffix, List.reverse_reverse]
    exact List.dropWhile_suffix _
  have hne : cleanBack s ≠ [] := by
    intro hnil
    rw [hnil] at h
    cases h
  rw [← head?_of_prefix hne (htrimmed.filter counts), h]

/-- Nothing that separates segments comes first behind the two slashes. -/
theorem IsUserinfoOf.front {info : Option (List Char)} {site : List Char} (h : IsUserinfoOf info lead site s) :
    (withUserinfo (info.map (·.filter counts)) (cleanBack site)).head?.any (isSeparator true) = false := by
  have hfront : ∀ c, (withUserinfo (info.map (·.filter counts)) (cleanBack site)).head? = some c →
      c ∉ ['/', '\\'] := by
    intro c hc
    cases info with
    | none => exact h.site c (head?_cleanBack hc)
    | some i =>
      rw [Option.map_some, withUserinfo, List.head?_append] at hc
      cases hi : (i.filter counts).head? with
      | none =>
        rw [hi] at hc
        cases hc
        decide
      | some d =>
        rw [hi] at hc
        cases hc
        have hd := h.info i rfl c (List.mem_filter.1 (List.mem_of_mem_head? hi)).1
        simp only [List.mem_cons, List.not_mem_nil, or_false, not_or] at hd ⊢
        exact ⟨hd.1, hd.2.2.2⟩
  cases hx : (withUserinfo (info.map (·.filter counts)) (cleanBack site)).head? with
  | none => rfl
  | some c =>
    have hc := hfront c hx
    simp only [List.mem_cons, List.not_mem_nil, or_false, not_or] at hc
    simp [isSeparator, hc]

/-- The user information of a text has no part in where the text leads with other credentials. -/
theorem carry_congr {info₁ info₂ : Option (List Char)} {site : List Char} (h₁ : IsUserinfoOf info₁ lead site s)
    (h₂ : IsUserinfoOf info₂ lead site t) :
    carry (parseChars s) username password = carry (parseChars t) username password := by
  have hlead : ':' ∉ cleanFront lead := fun hc =>
    h₁.lead ((List.dropWhile_suffix _).subset (List.mem_of_mem_filter hc))
  have hclean₁ := h₁.text ▸ clean_withUserinfo info₁ lead site
  have hclean₂ := h₂.text ▸ clean_withUserinfo info₂ lead site
  have hkept : ∀ {info : Option (List Char)} {s : List Char}, IsUserinfoOf info lead site s →
      ∀ i, info.map (·.filter counts) = some i → ∀ c ∈ i, c ∉ ['/', '?', '#', '\\'] := by
    intro info s h i hi c hc
    obtain ⟨j, hj, rfl⟩ := Option.map_eq_some_iff.1 hi
    exact h.info j hj c (List.mem_filter.1 hc).1
  rcases carry_lead hlead with hnone | ⟨scheme, hparse⟩
  · rw [hnone _ _ hclean₁, hnone _ _ hclean₂]
  · rw [hparse _ _ hclean₁ h₁.front, hparse _ _ hclean₂ h₂.front, carry_withUserinfo (hkept h₁),
      carry_withUserinfo (hkept h₂)]

end Url

/-! ## Addresses -/

namespace Template

variable {username password r : String} {u : Url}

/-- What stands in front of a host for two configured texts: nothing for two that are empty, and no colon for an empty
password. -/
def userinfo (username password : String) : List Char :=
  if username = "" ∧ password = "" then []
  else percentEncode inUserinfoSet username.toList ++
    (if password = "" then [] else ':' :: percentEncode inUserinfoSet password.toList) ++ ['@']

/-- A URL has two configured texts as its user name and its password, encoded. -/
structure HasCredentials (u : Url) (username password : String) : Prop where
  username : u.username = percentEncode inUserinfoSet username.toList
  password : u.password = percentEncode inUserinfoSet password.toList

/-- If the host is a domain name with a label in Punycode, it is the one form of itself, as the form of a name is meant to
be. Names without such labels are so in any case. -/
def IsSettled (u : Url) : Prop :=
  ∀ d, u.host = some (.name d) → isSpecial u.scheme = true → Domain.HasCode d → Domain.toAscii? d = some d

/-- A text is the address of a URL with two configured credentials. -/
structure IsAddressOf (u : Url) (username password r : String) : Prop where
  /-- The credentials stand encoded in front of the host, and there are no others. -/
  text : ∃ host tail, u.host = some host ∧ Follows tail ∧ '@' ∉ host.write ++ writePort u.port ∧ r.toList =
    u.scheme ++ ':' :: '/' :: '/' :: (userinfo username password ++ (host.write ++ writePort u.port ++ tail))
  /-- Whatever is read from the text has the credentials. -/
  reads : ∀ v, Url.parse r = .ok v → HasCredentials v username password
  /-- A URL is read from the text, and it leads where the URL leads. -/
  again : IsSettled u → ∃ v, Url.parse r = .ok v ∧ v.endpoint = u.endpoint

theorem writeCredentials_eq (h : HasCredentials u username password) :
    u.writeCredentials = userinfo username password := by
  have hempty : ∀ s : String, (percentEncode inUserinfoSet s.toList).isEmpty = decide (s = "") := fun s => by
    rw [Bool.eq_iff_iff, List.isEmpty_iff, percentEncode_eq_nil, String.toList_eq_nil_iff, decide_eq_true_eq]
  simp [writeCredentials, userinfo, h.username, h.password, hempty]

/-- Where a source leads with the credentials of its entry is written as an address of it. -/
theorem LeadsTo.isAddressOf {filled : String} (h : LeadsTo filled username password u) :
    IsAddressOf u username password (String.ofList u.write) := by
  obtain ⟨v, hv, hu⟩ := h
  obtain ⟨hhost, rfl⟩ := withCredentials?_eq_some.1 hu
  have hv := isSite_of_parseChars hv hhost
  generalize hu : ({ v with
    username := percentEncode inUserinfoSet username.toList
    password := percentEncode inUserinfoSet password.toList } : Url) = u
  have hsite : IsSite u := hu ▸ ⟨hv.scheme, hv.host, hv.port, hv.path⟩
  have hcredentials : HasCredentials u username password := hu ▸ ⟨rfl, rfl⟩
  have huser : IsEncoded u.username := hcredentials.username ▸ isEncoded_percentEncode _
  have hpassword : IsEncoded u.password := hcredentials.password ▸ isEncoded_percentEncode _
  constructor
  · obtain ⟨host, hhost, -, hread⟩ := hsite.host
    obtain ⟨tail, htail, hwrite⟩ := exists_write hsite hhost
    refine ⟨host, tail, hhost, htail, at_notMem hread u.port, ?_⟩
    rw [String.toList_ofList, hwrite, writtenAuthority, writeCredentials_eq hcredentials, List.append_assoc]
  · intro w hw
    rw [Url.parse, String.toList_ofList] at hw
    obtain ⟨-, husername, hpassword⟩ := credentials_of_parseChars_write hsite huser hpassword hw
    exact ⟨husername.trans hcredentials.username, hpassword.trans hcredentials.password⟩
  · intro hsettled
    obtain ⟨path, query, fragment, hparse⟩ := exists_parseChars_write_eq hsite huser hpassword hsettled
    exact ⟨{ u with path, query, fragment }, by rw [Url.parse, String.toList_ofList, hparse], rfl⟩

/-- The credentials of an entry are all that an address carries. Whatever was filled in, they stand encoded in front of
the host of an address and are what is read there; and two texts that differ in user information alone have the same
address, or neither has one. -/
theorem resolve_credentials (username password : String) :
    (∀ source groups query r, resolve source groups query username password = .ok r →
      ∃ u, LeadsTo (fill source groups query) username password u ∧ IsAddressOf u username password r) ∧
    ∀ source₁ groups₁ query₁ source₂ groups₂ query₂ info₁ info₂ lead site,
      IsUserinfoOf info₁ lead site (fill source₁ groups₁ query₁).toList →
      IsUserinfoOf info₂ lead site (fill source₂ groups₂ query₂).toList →
      ∀ r, resolve source₁ groups₁ query₁ username password = .ok r ↔
        resolve source₂ groups₂ query₂ username password = .ok r := by
  constructor
  · intro source groups query r h
    obtain ⟨u, hu, rfl⟩ := resolve_eq_ok.1 h
    exact ⟨u, hu, hu.isAddressOf⟩
  · intro source₁ groups₁ query₁ source₂ groups₂ query₂ info₁ info₂ lead site h₁ h₂ r
    have hsame : ∀ u, LeadsTo (fill source₁ groups₁ query₁) username password u ↔
        LeadsTo (fill source₂ groups₂ query₂) username password u := fun u => by
      rw [LeadsTo, LeadsTo, ← carry_eq_some, ← carry_eq_some]
      exact Eq.congr_left (carry_congr h₁ h₂)
    simp only [resolve_eq_ok, hsame]

/-- Credentials in a source are replaced, with a host that a request names; without them the address is the same. -/
theorem resolve_credentials_replaced :
    resolve "https://old:pw@$G1/live" ["cam", "x.example"] "" "a@b" "" = .ok "https://a%40b@x.example/live" ∧
    resolve "https://x.example/live" [] "" "a@b" "" = .ok "https://a%40b@x.example/live" ∧
    ∃ v, Url.parse "https://a%40b@x.example/live" = .ok v ∧ HasCredentials v "a@b" "" := by
  have h : resolve "https://old:pw@$G1/live" ["cam", "x.example"] "" "a@b" "" = .ok "https://a%40b@x.example/live" := by
    decide +kernel
  have hold : IsUserinfoOf (some "old:pw".toList) "https".toList "x.example/live".toList
      (fill "https://old:pw@$G1/live" ["cam", "x.example"] "").toList := by
    refine ⟨by decide +kernel, by decide, ?_, ?_⟩
    · have hkept : "old:pw".toList.all (fun c => decide (c ∉ ['/', '?', '#', '\\'])) = true := by decide
      intro i hi
      cases hi
      exact fun c hc => of_decide_eq_true (List.all_eq_true.1 hkept c hc)
    · have hfront : ("x.example/live".toList.filter counts).head? = some 'x' := by decide
      intro c hc
      cases hfront.symm.trans hc
      decide
  have hnone : IsUserinfoOf none "https".toList "x.example/live".toList (fill "https://x.example/live" [] "").toList :=
    ⟨by decide +kernel, by decide, nofun, hold.site⟩
  have hparse : Url.parse (fill "https://old:pw@$G1/live" ["cam", "x.example"] "") = .ok ⟨"https".toList, "old".toList,
      "pw".toList, some (.name "x.example".toList), none, "/live".toList, none, none⟩ := by decide +kernel
  refine ⟨h, ((resolve_credentials "a@b" "").2 _ _ _ _ _ _ _ _ _ _ hold hnone _).1 h, ?_⟩
  obtain ⟨u, ⟨v, hv, hu⟩, haddress⟩ := (resolve_credentials "a@b" "").1 _ _ _ _ h
  have hsettled : IsSettled u := by
    cases hparse.symm.trans hv
    obtain ⟨-, rfl⟩ := withCredentials?_eq_some.1 hu
    rintro d hd - hcode
    cases hd
    exact absurd hcode (by decide)
  obtain ⟨w, hw, -⟩ := haddress.again hsettled
  exact ⟨w, hw, haddress.reads w hw⟩

end Template

end MediaPaths
