import MediaPaths.Proofs.Template.Pieces
import MediaPaths.Proofs.Url.Authority
import MediaPaths.Source.Kind

/-!
# Where a filled source leads

A source may leave its path open, and what a request brings along is written into it. When scheme and authority stand
in the source itself, nothing that is filled in behind them changes where the source leads and as whom.
-/

namespace MediaPaths

open Url

/-- Where a URL leads and as whom. -/
structure Endpoint where
  /-- The scheme. -/
  scheme : List Char
  /-- The user name, encoded. -/
  username : List Char
  /-- The password, encoded. -/
  password : List Char
  /-- The host. -/
  host : Option Host
  /-- The port, if it is not the one of the scheme. -/
  port : Option Nat
  deriving DecidableEq

/-- Where a URL leads and as whom. -/
def Url.endpoint (u : Url) : Endpoint := ⟨u.scheme, u.username, u.password, u.host, u.port⟩

theorem withCredentials?_eq_some {u v : Url} {username password : String} :
    u.withCredentials? username password = some v ↔ u.hasHost = true ∧
      v = { u with
        username := percentEncode inUserinfoSet username.toList
        password := percentEncode inUserinfoSet password.toList } := by
  unfold withCredentials?
  split
  · rename_i h
    simp only [h, true_and, Option.some.injEq, eq_comm]
  · rename_i h
    simp [h]

namespace Template

/-- A filled source leads to a URL: the one read from it, with the credentials. -/
def LeadsTo (filled username password : String) (u : Url) : Prop :=
  ∃ v, Url.parse filled = .ok v ∧ v.withCredentials? username password = some u

/-- A text writes a URL that leads to the site of another, and it does so up to the slash that begins the path. -/
structure WritesAt (site u : Url) (r : String) : Prop where
  text : r = String.ofList u.write
  endpoint : u.endpoint = site.endpoint
  lead : ∃ tail, u.write = site.scheme ++ ':' :: site.writeAuthority ++ '/' :: tail

variable {source query username password r : String} {groups : List String} {s t : List Char}

/-! ## Filling in -/

theorem fillGroups_append (h : '$' ∉ s) (t : List Char) : fillGroups groups (s ++ t) = s ++ fillGroups groups t := by
  unfold fillGroups
  induction (groups.zipIdx.drop 1).reverse generalizing t with
  | nil => rfl
  | cons g gs ih => rw [List.foldl_cons, groupMark_eq, Text.replaceAll_append_of_notMem h, ih, List.foldl_cons]; rfl

/-- What stands in front of the first placeholder stays as it is. -/
theorem fill_append (h : '$' ∉ s) (t : List Char) :
    fill (String.ofList (s ++ t)) groups query = String.ofList (s ++ (fill (String.ofList t) groups query).toList) := by
  simp only [fill, String.toList_ofList, fillGroups_append h, queryMark_eq, Text.replaceAll_append_of_notMem h]

/-! ## Addresses -/

/-- The address is the text of the URL that the filled source leads to. -/
theorem resolve_eq_ok : resolve source groups query username password = .ok r ↔
    ∃ u, LeadsTo (fill source groups query) username password u ∧ r = String.ofList u.write := by
  unfold resolve address LeadsTo
  constructor
  · intro h
    split at h
    · cases h
    · rename_i v hv
      split at h
      · rename_i u hu
        cases h
        exact ⟨u, ⟨v, hv, hu⟩, rfl⟩
      · cases h
  · rintro ⟨u, ⟨v, hv, hu⟩, rfl⟩
    simp only [hv, hu]

theorem LeadsTo.unique {filled : String} {u v : Url} (hu : LeadsTo filled username password u)
    (hv : LeadsTo filled username password v) : u = v := by
  obtain ⟨u', hparse, hu⟩ := hu
  obtain ⟨v', hparse', hv⟩ := hv
  rw [hparse] at hparse'
  cases hparse'
  rw [hu] at hv
  exact Option.some.inj hv

/-! ## A fixed authority -/

variable {scheme a : List Char}

/-- What follows the slash behind an authority has no part in where the text leads. -/
theorem exists_site (hscheme : IsScheme scheme) (ha : IsAuthority a) {u : Url}
    (h : LeadsTo (String.ofList (scheme ++ ':' :: '/' :: '/' :: (a ++ '/' :: s))) username password u) :
    ∃ site, LeadsTo (String.ofList (scheme ++ ':' :: '/' :: '/' :: (a ++ ['/']))) username password site ∧
      site.scheme = scheme ∧ u.endpoint = site.endpoint ∧
      ∃ tail, u.write = site.scheme ++ ':' :: site.writeAuthority ++ '/' :: tail := by
  obtain ⟨v, hparse, hu⟩ := h
  obtain ⟨path, query, fragment, hs⟩ := exists_parseChars hscheme ha s
  obtain ⟨path', query', fragment', hbare⟩ := exists_parseChars hscheme ha []
  rw [Url.parse, String.toList_ofList, hs] at hparse
  cases hread : readAuthority scheme true a with
  | error e =>
    rw [hread] at hparse
    cases hparse
  | ok b =>
    rw [hread] at hparse hbare
    cases hparse
    obtain ⟨hhost, rfl⟩ := withCredentials?_eq_some.1 hu
    let bare : Url := ⟨scheme, b.username, b.password, some b.host, b.port, '/' :: path', query', fragment'⟩
    have hsite : bare.withCredentials? username password = some _ := withCredentials?_eq_some.2 ⟨hhost, rfl⟩
    refine ⟨_, ⟨bare, ?_, hsite⟩, rfl, rfl, path ++ writeOptional '?' query ++ writeOptional '#' fragment, ?_⟩
    · rw [Url.parse, String.toList_ofList, hbare]
      rfl
    · simp [write, writeAuthority, writeCredentials, bare]

/-- One request that gets an address gets one at the site that the source fixes. -/
theorem exists_writesAt (hscheme : IsScheme scheme) (ha : IsAuthority a) (hdollar : '$' ∉ scheme ++ a)
    (h : resolve (String.ofList (scheme ++ ':' :: '/' :: '/' :: (a ++ '/' :: s))) groups query username password =
      .ok r) :
    ∃ site u, site.scheme = scheme ∧
      LeadsTo (String.ofList (scheme ++ ':' :: '/' :: '/' :: (a ++ ['/']))) username password site ∧
      LeadsTo (fill (String.ofList (scheme ++ ':' :: '/' :: '/' :: (a ++ '/' :: s))) groups query) username password u ∧
      WritesAt site u r := by
  obtain ⟨u, hu, rfl⟩ := resolve_eq_ok.1 h
  have hfront : '$' ∉ scheme ++ ':' :: '/' :: '/' :: (a ++ ['/']) := by simpa using hdollar
  obtain ⟨t, hfill⟩ : ∃ t, fill (String.ofList (scheme ++ ':' :: '/' :: '/' :: (a ++ '/' :: s))) groups query =
      String.ofList (scheme ++ ':' :: '/' :: '/' :: (a ++ '/' :: t)) :=
    ⟨(fill (String.ofList s) groups query).toList, by simpa using fill_append hfront s⟩
  obtain ⟨site, hsite, hsame, hendpoint, hlead⟩ := exists_site hscheme ha (hfill ▸ hu)
  exact ⟨site, u, hsame, hsite, hu, rfl, hendpoint, hlead⟩

theorem isScheme_of_mem {scheme : String} {kind : SourceKind} (h : (scheme, kind) ∈ SourceKind.schemes) :
    IsScheme scheme.toList ∧ '$' ∉ scheme.toList := by
  have hall : ∀ p ∈ SourceKind.schemes, (p.1.toList.head?.any Char.isAlpha = true ∧
      p.1.toList.all isSchemeChar = true ∧ p.1.toList.map Char.toLower = p.1.toList) ∧
      p.1.toList ≠ "file".toList ∧ '$' ∉ p.1.toList := by decide
  obtain ⟨⟨hbegins, hchars, hlower⟩, hfile, hdollar⟩ := hall _ h
  refine ⟨⟨?_, List.all_eq_true.1 hchars, hlower, hfile⟩, hdollar⟩
  cases hscheme : scheme.toList with
  | nil => simp [hscheme] at hbegins
  | cons c cs => exact ⟨c, cs, rfl, by simpa [hscheme] using hbegins⟩

theorem site_eq (scheme authority rest : String) : scheme ++ "://" ++ authority ++ "/" ++ rest =
    String.ofList (scheme.toList ++ ':' :: '/' :: '/' :: (authority.toList ++ '/' :: rest.toList)) := by
  rw [← String.toList_inj]
  simp

/-- A source that fixes its scheme and its authority leads there with the credentials of its entry, whatever the groups
and the query are: two requests that both get an address get one with the same scheme, user, host and port. -/
theorem resolve_endpoint {scheme authority rest username password : String} {kind : SourceKind}
    (hscheme : (scheme, kind) ∈ SourceKind.schemes) (hne : authority ≠ "")
    (hauthority : ∀ c ∈ authority.toList, 0x20 ≤ c.toNat ∧ c ∉ ['$', '/', '?', '#', '\\'])
    {groups₁ groups₂ : List String} {query₁ query₂ r₁ r₂ : String}
    (h₁ : resolve (scheme ++ "://" ++ authority ++ "/" ++ rest) groups₁ query₁ username password = .ok r₁)
    (h₂ : resolve (scheme ++ "://" ++ authority ++ "/" ++ rest) groups₂ query₂ username password = .ok r₂) :
    ∃ site u₁ u₂ : Url, site.scheme = scheme.toList ∧
      LeadsTo (scheme ++ "://" ++ authority ++ "/") username password site ∧
      LeadsTo (fill (scheme ++ "://" ++ authority ++ "/" ++ rest) groups₁ query₁) username password u₁ ∧
      WritesAt site u₁ r₁ ∧
      LeadsTo (fill (scheme ++ "://" ++ authority ++ "/" ++ rest) groups₂ query₂) username password u₂ ∧
      WritesAt site u₂ r₂ := by
  obtain ⟨hscheme, hdollar⟩ := isScheme_of_mem hscheme
  have ha : IsAuthority authority.toList := by
    refine ⟨fun h => hne (by rwa [String.toList_eq_nil_iff] at h), fun c hc => ?_⟩
    obtain ⟨hge, hno⟩ := hauthority c hc
    simp only [List.mem_cons, List.not_mem_nil, or_false, not_or] at hno
    exact ⟨hge, hno.2⟩
  have hfree : '$' ∉ scheme.toList ++ authority.toList := by
    rw [List.mem_append, not_or]
    exact ⟨hdollar, fun hc => (hauthority _ hc).2 (List.mem_cons_self ..)⟩
  have hbare : scheme ++ "://" ++ authority ++ "/" =
      String.ofList (scheme.toList ++ ':' :: '/' :: '/' :: (authority.toList ++ ['/'])) := by
    simpa using site_eq scheme authority ""
  rw [site_eq] at h₁ h₂ ⊢
  rw [hbare]
  obtain ⟨site, u₁, hsame, hsite, hu₁, hat₁⟩ := exists_writesAt hscheme ha hfree h₁
  obtain ⟨site₂, u₂, -, hsite₂, hu₂, hat₂⟩ := exists_writesAt hscheme ha hfree h₂
  obtain rfl := hsite.unique hsite₂
  exact ⟨site, u₁, u₂, hsame, hsite, hu₁, hat₁, hu₂, hat₂⟩

/-- Neither a group `..` nor a query with `@`, `#` and a backslash gets out of its place: both addresses are at the
host and port of the template. -/
theorem resolve_endpoint_camera :
    resolve ("rtsp" ++ "://" ++ "10.0.0.1:554" ++ "/" ++ "$G1?$MTX_QUERY") ["cam/a", "a"] "" "u" "p" =
        .ok "rtsp://u:p@10.0.0.1:554/a?" ∧
      resolve ("rtsp" ++ "://" ++ "10.0.0.1:554" ++ "/" ++ "$G1?$MTX_QUERY") ["cam/..", ".."] "@other/#\\" "u" "p" =
        .ok "rtsp://u:p@10.0.0.1:554/?@other/#\\" ∧
      ∃ site u₁ u₂ : Url, site.scheme = "rtsp".toList ∧
        LeadsTo ("rtsp" ++ "://" ++ "10.0.0.1:554" ++ "/") "u" "p" site ∧
        WritesAt site u₁ "rtsp://u:p@10.0.0.1:554/a?" ∧ WritesAt site u₂ "rtsp://u:p@10.0.0.1:554/?@other/#\\" := by
  have h₁ : resolve ("rtsp" ++ "://" ++ "10.0.0.1:554" ++ "/" ++ "$G1?$MTX_QUERY") ["cam/a", "a"] "" "u" "p" =
      .ok "rtsp://u:p@10.0.0.1:554/a?" := by rfl
  have h₂ : resolve ("rtsp" ++ "://" ++ "10.0.0.1:554" ++ "/" ++ "$G1?$MTX_QUERY") ["cam/..", ".."] "@other/#\\" "u"
      "p" = .ok "rtsp://u:p@10.0.0.1:554/?@other/#\\" := by rfl
  have hscheme : ("rtsp", SourceKind.rtsp) ∈ SourceKind.schemes := by decide
  have hauthority : "10.0.0.1:554".toList.all
      (fun c => decide (0x20 ≤ c.toNat ∧ c ∉ ['$', '/', '?', '#', '\\'])) = true := by decide
  obtain ⟨site, u₁, u₂, hsame, hsite, -, hat₁, -, hat₂⟩ := resolve_endpoint hscheme (by decide)
    (fun c hc => of_decide_eq_true (List.all_eq_true.1 hauthority c hc)) h₁ h₂
  exact ⟨h₁, h₂, site, u₁, u₂, hsame, hsite, hat₁, hat₂⟩

end Template

end MediaPaths
