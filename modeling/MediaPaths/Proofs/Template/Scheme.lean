import MediaPaths.Proofs.Entry.Rules

/-!
# The scheme of a filled source

The client that pulls a source is chosen from the scheme of its text, before anything is filled in. What is filled in
stands behind the scheme, whatever it is, and an address is written with the scheme that was read: the client is never
given an address of another protocol.
-/

namespace MediaPaths

open Url

/-! ## Reading and writing -/

namespace Url

variable {scheme s : List Char} {u : Url}

/-- A URL with an authority is written with its scheme and two slashes in front. -/
theorem exists_write_eq (h : u.host.isSome = true) : ∃ rest, u.write = u.scheme ++ ':' :: '/' :: '/' :: rest := by
  obtain ⟨host, hhost⟩ := Option.isSome_iff_exists.1 h
  simp only [write, writeAuthority, hhost]
  exact ⟨_, by simp only [List.cons_append, List.nil_append, List.append_assoc]; rfl⟩

end Url

/-! ## Addresses -/

namespace Template

variable {source query username password r scheme : String} {groups : List String} {kind : SourceKind}

theorem lead_fill (hmem : (scheme, kind) ∈ SourceKind.schemes) (h : SourceKind.lead scheme <+: source.toList) :
    SourceKind.lead scheme <+: (fill source groups query).toList := by
  obtain ⟨rest, hsource⟩ := h
  have hdollar : '$' ∉ SourceKind.lead scheme := by
    simpa [SourceKind.lead] using (isScheme_of_mem hmem).2
  have hfill : fill (String.ofList (SourceKind.lead scheme ++ rest)) groups query = _ := fill_append hdollar rest
  rw [hsource, String.ofList_toList] at hfill
  rw [hfill, String.toList_ofList]
  exact List.prefix_append ..

/-- Where a text leads that begins with a scheme, it leads by that scheme. -/
theorem LeadsTo.scheme_eq {filled : String} {u : Url} (hscheme : IsScheme scheme.toList)
    (hlead : SourceKind.lead scheme <+: filled.toList) (h : LeadsTo filled username password u) :
    u.scheme = scheme.toList ∧ u.host.isSome = true := by
  obtain ⟨v, hparse, hu⟩ := h
  obtain ⟨rest, hrest⟩ := hlead
  obtain ⟨-, rfl⟩ := withCredentials?_eq_some.1 hu
  refine parseChars_eq_ok (u := v) (s := rest) hscheme ?_
  rw [← hparse, Url.parse, ← hrest]
  simp [SourceKind.lead]

/-- An address is of the kind of its source, and begins with the very scheme of its source. So does every URL that is
read from it. -/
theorem resolve_scheme (hkind : SourceKind.ofSource? source = some kind)
    (h : resolve source groups query username password = .ok r) :
    SourceKind.ofSource? r = some kind ∧
    ∃ scheme, (scheme, kind) ∈ SourceKind.schemes ∧ SourceKind.lead scheme <+: source.toList ∧
      SourceKind.lead scheme <+: r.toList ∧ ∀ u, Url.parse r = .ok u → u.scheme = scheme.toList := by
  obtain ⟨scheme, hmem, hlead⟩ := Entry.ofSource?_eq_some.1 hkind
  have hscheme := (isScheme_of_mem hmem).1
  obtain ⟨u, hu, rfl⟩ := resolve_eq_ok.1 h
  obtain ⟨hsame, hhost⟩ := hu.scheme_eq hscheme (lead_fill hmem hlead)
  obtain ⟨rest, hwrite⟩ := exists_write_eq hhost
  rw [hsame] at hwrite
  have hkept : SourceKind.lead scheme <+: (String.ofList u.write).toList :=
    ⟨rest, by rw [String.toList_ofList, hwrite]; simp [SourceKind.lead]⟩
  refine ⟨Entry.ofSource?_eq_some.2 ⟨scheme, hmem, hkept⟩, scheme, hmem, hlead, hkept, fun v hv => ?_⟩
  rw [Url.parse, String.toList_ofList, hwrite] at hv
  exact (parseChars_eq_ok hscheme hv).1

/-- What is filled in here is a URL of another protocol, in the place of the whole authority. -/
theorem resolve_scheme_spliced :
    resolve "rtsp://$G1/live?$MTX_QUERY" ["cam/http", "http://evil"] "rtmp://b" "u" "" =
        .ok "rtsp://u@http//evil/live?rtmp://b" ∧
      SourceKind.ofSource? "rtsp://u@http//evil/live?rtmp://b" = some .rtsp := by
  have h : resolve "rtsp://$G1/live?$MTX_QUERY" ["cam/http", "http://evil"] "rtmp://b" "u" "" =
      .ok "rtsp://u@http//evil/live?rtmp://b" := by decide +kernel
  exact ⟨h, (resolve_scheme (by decide) h).1⟩

end Template

end MediaPaths
