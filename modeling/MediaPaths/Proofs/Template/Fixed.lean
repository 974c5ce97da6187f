import MediaPaths.Proofs.Entry.Members
import MediaPaths.Proofs.Template.Origin

/-!
# Sources without placeholders

A source without a dollar sign stands for itself, whatever the groups and the query are. Validation has looked at it by
then, but not for all that an address needs: RTSP and the web are checked for a host, other schemes only for being a
URL, and UDP not even for that.
-/

namespace MediaPaths.Template

open Url

variable {source query username password : String} {groups : List String} {kind : SourceKind}

/-! ## Addresses of fixed sources -/

theorem fillGroups_nil (groups : List String) : fillGroups groups [] = [] := by
  unfold fillGroups
  induction (groups.zipIdx.drop 1).reverse with
  | nil => rfl
  | cons g gs ih => rwa [List.foldl_cons, Text.replaceAll_nil]

theorem fill_eq_self (h : '$' ∉ source.toList) : fill source groups query = source := by
  have hempty : fill (String.ofList []) groups query = "" := by
    simp [fill, fillGroups_nil]
  have hfill : fill (String.ofList (source.toList ++ [])) groups query = _ := fill_append h []
  simpa [hempty] using hfill

/-- A fixed source has an address just if it is a URL with a host. -/
theorem resolve_fixed_iff (h : '$' ∉ source.toList) : (∃ r, resolve source groups query username password = .ok r) ↔
    ∃ u, Url.parse source = .ok u ∧ u.hasHost = true := by
  simp only [resolve_eq_ok, fill_eq_self h, LeadsTo, withCredentials?_eq_some]
  constructor
  · rintro ⟨r, u, ⟨v, hv, hhost, -⟩, -⟩
    exact ⟨v, hv, hhost⟩
  · rintro ⟨v, hv, hhost⟩
    exact ⟨_, _, ⟨v, hv, hhost, rfl⟩, rfl⟩

theorem resolve_fixed_error {u : Url} (h : '$' ∉ source.toList) (hparse : Url.parse source = .ok u)
    (hhost : u.hasHost = false) : resolve source groups query username password =
      .error (.invalidAddress source "cannot carry credentials") := by
  unfold resolve address
  rw [fill_eq_self h, hparse]
  simp [withCredentials?, hhost]

/-! ## What validation has checked -/

theorem exists_lead (h : SourceKind.ofSource? source = some kind) :
    ∃ scheme rest, (scheme, kind) ∈ SourceKind.schemes ∧ source.toList = SourceKind.lead scheme ++ rest := by
  unfold SourceKind.ofSource? at h
  obtain ⟨p, hp, rfl⟩ := Option.map_eq_some_iff.1 h
  have hlead : (SourceKind.lead p.1).isPrefixOf source.toList = true := by simpa using List.find?_some hp
  obtain ⟨rest, hrest⟩ := List.isPrefixOf_iff_prefix.1 hlead
  exact ⟨p.1, rest, List.mem_of_find?_eq_some hp, hrest.symm⟩

/-- An address of the web that is a URL has a host. -/
theorem hasHost_of_hls {u : Url} (h : SourceKind.ofSource? source = some .hls) (hparse : Url.parse source = .ok u) :
    u.hasHost = true := by
  obtain ⟨scheme, rest, hmem, hsource⟩ := exists_lead h
  have hall : ∀ p ∈ SourceKind.schemes, p.2 = .hls → isSpecial p.1.toList = true := by decide
  refine hasHost_of_isSpecial (isScheme_of_mem hmem).1 (hall _ hmem rfl) (s := '/' :: rest) ?_
  rw [← hparse, Url.parse, hsource]
  simp [SourceKind.lead]

theorem of_faultIf_not {b : Bool} {f : EntryFault} (h : Entry.faultIf (!b) f = none) : b = true := by
  cases b with
  | true => rfl
  | false => cases h

theorem hasHost_of_isRtspAddress (h : Entry.isRtspAddress source = true) :
    ∃ u, Url.parse source = .ok u ∧ u.hasHost = true := by
  unfold Entry.isRtspAddress at h
  split at h
  · rename_i u hparse
    exact ⟨u, hparse, (Bool.and_eq_true_iff.1 h).2⟩
  · cases h

theorem exists_parse_of_webFault? (h : Entry.webFault? source = none) : ∃ u, Url.parse source = .ok u := by
  unfold Entry.webFault? at h
  split at h
  · cases h
  · rename_i u hparse
    exact ⟨u, hparse⟩

theorem exists_parse_of_isUrl (h : Entry.isUrl source = true) : ∃ u, Url.parse source = .ok u := by
  unfold Entry.isUrl at h
  cases hparse : Url.parse source with
  | ok u => exact ⟨u, rfl⟩
  | error e => simp [hparse, Except.toBool] at h

/-- A source of any kind but UDP is a URL once it has passed, and one of RTSP or HLS has a host. -/
theorem exists_parse (h : Entry.sourceFault? source = none) (hkind : SourceKind.ofSource? source = some kind)
    (hudp : kind ≠ .udp) :
    ∃ u, Url.parse source = .ok u ∧ (kind = .rtsp ∨ kind = .hls → u.hasHost = true) := by
  unfold Entry.sourceFault? at h
  split at h
  · rename_i hplain
    have hnone : SourceKind.ofSource? source = none := by
      rcases Bool.or_eq_true_iff.1 hplain with hplain | hplain <;> rw [beq_iff_eq.1 hplain] <;> decide
    rw [hnone] at hkind
    cases hkind
  · rw [hkind] at h
    cases kind with
    | rtsp =>
      obtain ⟨u, hparse, hhost⟩ := hasHost_of_isRtspAddress (of_faultIf_not h)
      exact ⟨u, hparse, fun _ => hhost⟩
    | hls =>
      obtain ⟨u, hparse⟩ := exists_parse_of_webFault? h
      exact ⟨u, hparse, fun _ => hasHost_of_hls hkind hparse⟩
    | udp => exact absurd rfl hudp
    | rtmp =>
      obtain ⟨u, hparse⟩ := exists_parse_of_webFault? h
      exact ⟨u, hparse, by simp⟩
    | srt | webRtc =>
      obtain ⟨u, hparse⟩ := exists_parse_of_isUrl (of_faultIf_not h)
      exact ⟨u, hparse, by simp⟩

/-! ## Entries -/

/-- An entry whose source is fixed is valid. Then the source has an address, for every request, just if it is a URL with
a host; a source of RTSP or HLS has one, and the one thing that a source of RTMP, SRT or WebRTC can lack is the host. -/
theorem resolve_of_validate {s : Settings} {name : String} {e : Entry} (h : Entry.validate s name = .ok e)
    (hkind : e.settings.sourceKind? = some kind) (hfixed : '$' ∉ e.settings.source.toList)
    (groups : List String) (query username password : String) :
    ((∃ r, resolve e.settings.source groups query username password = .ok r) ↔
      ∃ u, Url.parse e.settings.source = .ok u ∧ u.hasHost = true) ∧
    (kind = .rtsp ∨ kind = .hls → ∃ r, resolve e.settings.source groups query username password = .ok r) ∧
    (kind ≠ .udp → (∃ r, resolve e.settings.source groups query username password = .ok r) ∨
      resolve e.settings.source groups query username password =
        .error (.invalidAddress e.settings.source "cannot carry credentials")) := by
  obtain ⟨hfault, hsettings⟩ := Entry.validate_eq_ok h
  have hsource : e.settings.source = s.source := by
    obtain ⟨_, _, _, hs⟩ := Settings.exists_renamed s
    rw [hsettings, hs]
  rw [← hsource] at hfault
  refine ⟨resolve_fixed_iff hfixed, fun hweb => ?_, fun hudp => ?_⟩
  · obtain ⟨u, hparse, hhost⟩ := exists_parse hfault hkind (by rcases hweb with rfl | rfl <;> decide)
    exact (resolve_fixed_iff hfixed).2 ⟨u, hparse, hhost hweb⟩
  · obtain ⟨u, hparse, -⟩ := exists_parse hfault hkind hudp
    cases hhost : u.hasHost with
    | true => exact .inl ((resolve_fixed_iff hfixed).2 ⟨u, hparse, hhost⟩)
    | false => exact .inr (resolve_fixed_error hfixed hparse hhost)

/-- Two valid sources: one that always has an address, and one that never has, for its port is none. -/
theorem resolve_of_validate_udp :
    (∃ e, Entry.validate { source := "rtsp://10.0.0.1:554/live" } "cam" = .ok e ∧
      ∀ groups query username password, ∃ r, resolve e.settings.source groups query username password = .ok r) ∧
    ∃ e, Entry.validate { source := "udp://127.0.0.1:99999" } "cam" = .ok e ∧
      ∀ groups query username password, ¬ ∃ r, resolve e.settings.source groups query username password = .ok r := by
  constructor
  · have hvalid : Entry.validate { source := "rtsp://10.0.0.1:554/live" } "cam" =
      .ok { name := "cam", settings := { source := "rtsp://10.0.0.1:554/live" } } := by decide +kernel
    have hkind : SourceKind.ofSource? "rtsp://10.0.0.1:554/live" = some .rtsp := by decide
    refine ⟨_, hvalid, fun groups query username password => ?_⟩
    exact (resolve_of_validate hvalid hkind (by decide) groups query username password).2.1 (.inl rfl)
  · have hvalid : Entry.validate { source := "udp://127.0.0.1:99999" } "cam" =
      .ok { name := "cam", settings := { source := "udp://127.0.0.1:99999" } } := by decide +kernel
    have hkind : SourceKind.ofSource? "udp://127.0.0.1:99999" = some .udp := by decide
    have hparse : Url.parse "udp://127.0.0.1:99999" = .error .invalidPort := by decide +kernel
    refine ⟨_, hvalid, fun groups query username password hok => ?_⟩
    obtain ⟨u, hu, -⟩ := (resolve_of_validate hvalid hkind (by decide) groups query username password).1.1 hok
    rw [hparse] at hu
    cases hu

end MediaPaths.Template
