import MediaPaths.Proofs.Configuration.Resolution
import MediaPaths.Proofs.Template.Fixed

/-!
# What makes an entry valid

The rules that a name and some settings have to keep, without regard to the order in which they are checked and to what
is set in between. `Entry.revalidate` accepts an entry just if all of them are kept, whatever name and pattern the entry
had before; it then sets the name, the pattern, and what is given under other names.
-/

namespace MediaPaths

open Regex Url

namespace Entry

/-! ## The rules -/

/-- The names of entries that are about many paths. -/
def IsMany (name : String) : Prop := name = "all" ∨ name = "all_others" ∨ name.toList.head? = some '~'

/-- The names of entries, with the pattern that each stands for. -/
inductive Names (name : String) : Option Pattern → Prop where
  | catchAll {p : Pattern} (h : name = "all" ∨ name = "all_others") (hp : Pattern.compile? "^.*$" = some p) :
      Names name (some p)
  | pattern {text : List Char} {p : Pattern} (h : name.toList = '~' :: text)
      (hp : Pattern.compile? (String.ofList text) = some p) : Names name (some p)
  | literal (h : Name.IsPathName name) (hmany : ¬ IsMany name) : Names name none

/-- The source begins with one of some schemes and what follows a scheme. -/
def HasScheme (schemes : List String) (source : String) : Prop :=
  ∃ scheme ∈ schemes, SourceKind.lead scheme <+: source.toList

/-- A URL of RTSP with a host. -/
def IsRtspUrl (address : String) : Prop :=
  ∃ url, Url.parse address = .ok url ∧ (url.scheme = "rtsp".toList ∨ url.scheme = "rtsps".toList) ∧
    url.hasHost = true

/-- The sources that an entry may have. -/
inductive IsSource (source : String) : Prop where
  | publisher (h : source = "publisher")
  | redirect (h : source = "redirect")
  | rtsp {url : Url} (h : HasScheme ["rtsp", "rtsps"] source) (hurl : Url.parse source = .ok url)
      (hhost : url.hasHost = true)
  | web {url : Url} (h : HasScheme ["rtmp", "rtmps", "http", "https"] source) (hurl : Url.parse source = .ok url)
      (hcredentials : url.username = [] ↔ url.password = [])
  | udp {host port : List Char} (h : source.toList = "udp://".toList ++ host ++ ':' :: port) (hhost : host ≠ [])
      (hport : port ≠ []) (hlast : ':' ∉ port)
  | stream {url : Url} (h : HasScheme ["srt", "whep", "wheps"] source) (hurl : Url.parse source = .ok url)

/-- No passphrase, or one of 10 to 79 bytes. -/
def IsPassphraseOrEmpty (s : String) : Prop := s = "" ∨ 10 ≤ s.utf8ByteSize ∧ s.utf8ByteSize ≤ 79

/-- No fallback, a path, or a URL of RTSP. -/
def IsFallback (fallback : String) : Prop :=
  fallback = "" ∨ (∃ name, fallback.toList = '/' :: name ∧ Name.IsPathName (String.ofList name)) ∨
    IsRtspUrl fallback

/-- The rules for settings, given whether the entry is about many paths. -/
structure Rules (s : Settings) (many : Prop) : Prop where
  source : IsSource s.source
  pulledOnDemand : many → s.source ≠ "publisher" → s.source ≠ "redirect" → s.sourceOnDemand = true
  publishedAnyTime : s.source = "publisher" → s.sourceOnDemand = false
  readPassphrase : IsPassphraseOrEmpty s.srtReadPassphrase
  publishPassphrase : IsPassphraseOrEmpty s.srtPublishPassphrase
  passphrasePublisher : s.srtPublishPassphrase ≠ "" → s.source = "publisher"
  fallback : IsFallback s.fallback
  redirect : s.source = "redirect" → IsRtspUrl s.sourceRedirect
  runOnInit : many → s.runOnInit = ""
  demandPublisher : s.runOnDemand ≠ "" ∨ s.runOnUnDemand ≠ "" → s.source = "publisher"

variable {name source address fallback text : String} {b many : Bool} {f : EntryFault} {s : Settings}
  {e e' : Entry} {kind : SourceKind} {pattern : Option Pattern}

/-! ## Faults -/

/-- A check passes if its condition does not hold. -/
theorem faultIf_eq_none : faultIf b f = none ↔ b = false := by
  cases b <;> simp [faultIf]

/-- A check of what is required passes if that holds. -/
theorem faultIf_not_eq_none : faultIf (!b) f = none ↔ b = true := by
  cases b <;> simp [faultIf]

theorem firstFault_nil : firstFault [] = none := rfl

/-- All checks of a list pass just when each of them does. -/
theorem firstFault_cons {fault : Option EntryFault} {faults : List (Option EntryFault)} :
    firstFault (fault :: faults) = none ↔ fault = none ∧ firstFault faults = none := by
  cases fault <;> simp [firstFault]

/-! ## Names -/

/-- Two names catch all. -/
theorem isCatchAll_iff : Name.isCatchAll name = true ↔ name = "all" ∨ name = "all_others" := by
  simp [Name.isCatchAll]

/-- A pattern is compiled just when its text is an expression. -/
theorem compile_eq_ok : compile text = .ok pattern ↔ ∃ p, Pattern.compile? text = some p ∧ pattern = some p := by
  unfold compile
  cases Pattern.compile? text with
  | none => simp
  | some p => simp [eq_comm]

/-- A name stands for a pattern or for itself just if it is the name of an entry. -/
theorem patternOf_eq_ok : patternOf name = .ok pattern ↔ Names name pattern := by
  constructor
  · intro h
    unfold patternOf at h
    split at h
    · rename_i hcatchAll
      obtain ⟨p, hp, rfl⟩ := compile_eq_ok.1 h
      exact .catchAll (isCatchAll_iff.1 hcatchAll) hp
    · rename_i hcatchAll
      split at h
      · rename_i text htext
        obtain ⟨p, hp, rfl⟩ := compile_eq_ok.1 h
        exact .pattern htext hp
      · rename_i htilde
        split at h
        · cases h
        · rename_i hfault
          cases h
          refine .literal (Name.fault?_eq_none.1 hfault) ?_
          rintro (hall | hothers | hhead)
          · exact hcatchAll (isCatchAll_iff.2 (.inl hall))
          · exact hcatchAll (isCatchAll_iff.2 (.inr hothers))
          · obtain ⟨text, htext⟩ := List.head?_eq_some_iff.1 hhead
            exact htilde text htext
  · intro h
    unfold patternOf
    cases h with
    | catchAll h hp =>
      rw [if_pos (isCatchAll_iff.2 h)]
      exact compile_eq_ok.2 ⟨_, hp, rfl⟩
    | @pattern text p h hp =>
      have hcatchAll : ¬ Name.isCatchAll name = true := by
        rw [isCatchAll_iff]
        rintro (rfl | rfl) <;> exact absurd (List.cons.inj h).1 (by decide)
      rw [if_neg hcatchAll, h]
      exact compile_eq_ok.2 ⟨p, hp, rfl⟩
    | literal h hmany =>
      have hcatchAll : ¬ Name.isCatchAll name = true := by
        rw [isCatchAll_iff]
        exact fun hc => hmany (hc.imp_right .inl)
      rw [if_neg hcatchAll, Name.fault?_eq_none.2 h]
      split
      · rename_i text htext
        exact absurd (.inr (.inr (by rw [htext]; rfl))) hmany
      · rfl

/-- Only a name that stands for many has a pattern. -/
theorem isMany_iff (h : Names name pattern) : pattern.isSome = true ↔ IsMany name := by
  cases h with
  | catchAll h hp =>
    have hmany : IsMany name := h.imp_right .inl
    simp [hmany]
  | pattern h hp => simp [IsMany, h]
  | literal h hmany => simp [hmany]

/-- A catch-all stands for a pattern in any case. -/
theorem names_of_catchAll (h : name = "all" ∨ name = "all_others") : ∃ p, Names name (some p) := by
  have hp : Pattern.compile? "^.*$" = some ⟨"^.*$", anythingExpr, exprOf_anything⟩ := Pattern.compile?_eq_some.2 rfl
  exact ⟨_, .catchAll h hp⟩

/-! ## Sources -/

/-- The check of an address of this kind is its rule. -/
theorem isRtspAddress_iff : isRtspAddress address = true ↔ IsRtspUrl address := by
  unfold isRtspAddress IsRtspUrl
  split
  · rename_i url hparse
    simp [hparse]
  · rename_i err hparse
    simp [hparse]

/-- An address is checked by parsing it. -/
theorem isUrl_iff : isUrl address = true ↔ ∃ url, Url.parse address = .ok url := by
  unfold isUrl
  cases Url.parse address <;> simp [Except.toBool]

/-- A web address passes if it parses and has both a user and a password or neither. -/
theorem webFault?_eq_none : webFault? address = none ↔
    ∃ url, Url.parse address = .ok url ∧ (url.username = [] ↔ url.password = []) := by
  unfold webFault?
  split
  · rename_i err hparse
    simp [hparse]
  · rename_i url hparse
    simp only [hparse, faultIf_eq_none, Except.ok.injEq, exists_eq_left']
    cases url.username <;> cases url.password <;> simp

/-- A UDP address is only split at its last colon: both sides must be there, and nothing else is looked at. -/
theorem isUdpAddress_iff {rest : List Char} (h : address.toList = "udp://".toList ++ rest) :
    isUdpAddress address = true ↔
      ∃ host port, rest = host ++ ':' :: port ∧ host ≠ [] ∧ port ≠ [] ∧ ':' ∉ port := by
  have hrest : address.toList.drop "udp://".length = rest := by
    rw [h]
    rfl
  unfold isUdpAddress
  dsimp only
  rw [hrest]
  constructor
  · intro h
    split at h
    · rename_i host hhost
      have hback : rest.reverse.takeWhile (· != ':') ++ ':' :: host = rest.reverse := by
        rw [← hhost, List.takeWhile_append_dropWhile]
      refine ⟨host.reverse, (rest.reverse.takeWhile (· != ':')).reverse, ?_, ?_, ?_, ?_⟩
      · have hrest := congrArg List.reverse hback
        simpa using hrest.symm
      · intro hnil
        simp [List.reverse_eq_nil_iff.1 hnil] at h
      · intro hnil
        rw [List.reverse_eq_nil_iff.1 hnil] at h
        simp at h
      · intro hmem
        simpa using List.mem_takeWhile_imp (List.mem_reverse.1 hmem)
    · cases h
  · rintro ⟨host, port, rfl, hhost, hport, hlast⟩
    have hback : (host ++ ':' :: port).reverse = port.reverse ++ ':' :: host.reverse := by simp
    have hstay : ∀ c ∈ port.reverse, (c != ':') = true := by
      intro c hc
      have hne : c ≠ ':' := fun heq => hlast (heq ▸ List.mem_reverse.1 hc)
      simpa using hne
    rw [hback, List.takeWhile_append_of_pos hstay, List.dropWhile_append_of_pos hstay,
      List.takeWhile_cons_of_neg (by decide), List.dropWhile_cons_of_neg (by decide)]
    simp [hhost, hport]

/-- The client of a source is that of the scheme with which it begins. -/
theorem ofSource?_eq_some : SourceKind.ofSource? source = some kind ↔
    ∃ scheme, (scheme, kind) ∈ SourceKind.schemes ∧ SourceKind.lead scheme <+: source.toList := by
  constructor
  · intro h
    obtain ⟨scheme, rest, hmem, hsource⟩ := Template.exists_lead h
    exact ⟨scheme, hmem, rest, hsource.symm⟩
  · rintro ⟨scheme, hmem, hlead⟩
    have hfree : ∀ p ∈ SourceKind.schemes, ∀ q ∈ SourceKind.schemes,
        SourceKind.lead p.1 <+: SourceKind.lead q.1 → p = q := by decide
    have hsome : (SourceKind.schemes.find? fun s => (SourceKind.lead s.1).isPrefixOf source.toList).isSome = true := by
      rw [List.find?_isSome]
      exact ⟨_, hmem, List.isPrefixOf_iff_prefix.2 hlead⟩
    obtain ⟨p, hp⟩ := Option.isSome_iff_exists.1 hsome
    have hpmem := List.mem_of_find?_eq_some hp
    have hplead : SourceKind.lead p.1 <+: source.toList := by simpa using List.find?_some hp
    -- Of two beginnings of one text, one is a beginning of the other.
    have heq : p = (scheme, kind) := by
      rcases List.prefix_or_prefix_of_prefix hplead hlead with h | h
      · exact hfree p hpmem _ hmem h
      · exact (hfree _ hmem p hpmem h).symm
    rw [SourceKind.ofSource?, hp, heq]
    rfl

/-- A URL has the scheme with which its text begins. -/
theorem scheme_of_lead {scheme : String} {u : Url} (hmem : (scheme, kind) ∈ SourceKind.schemes)
    (hlead : SourceKind.lead scheme <+: source.toList) (h : Url.parse source = .ok u) : u.scheme = scheme.toList := by
  obtain ⟨rest, hrest⟩ := hlead
  have htext : source.toList = scheme.toList ++ ':' :: '/' :: '/' :: rest := by
    rw [← hrest]
    simp [SourceKind.lead]
  rw [Url.parse, htext] at h
  exact (parseChars_eq_ok (Template.isScheme_of_mem hmem).1 h).1

/-- A source of a scheme has the kind of that scheme. -/
theorem exists_kind {schemes : List String} (h : HasScheme schemes source) (kinds : List SourceKind)
    (hkinds : ∀ scheme ∈ schemes, ∃ kind ∈ kinds, (scheme, kind) ∈ SourceKind.schemes) :
    ∃ kind ∈ kinds, SourceKind.ofSource? source = some kind := by
  obtain ⟨scheme, hscheme, hlead⟩ := h
  obtain ⟨kind, hkind, hmem⟩ := hkinds scheme hscheme
  exact ⟨kind, hkind, ofSource?_eq_some.2 ⟨scheme, hmem, hlead⟩⟩

/-- A kind of source is known by its schemes. -/
theorem hasScheme_of_kind (h : SourceKind.ofSource? source = some kind) (schemes : List String)
    (hschemes : ∀ p ∈ SourceKind.schemes, p.2 = kind → p.1 ∈ schemes) : HasScheme schemes source := by
  obtain ⟨scheme, hmem, hlead⟩ := ofSource?_eq_some.1 h
  exact ⟨scheme, hschemes _ hmem rfl, hlead⟩

/-- A source in which nothing is wrong has what its kind needs. -/
theorem isSource_of_sourceFault? (h : sourceFault? source = none) : IsSource source := by
  unfold sourceFault? at h
  split at h
  · rename_i hend
    rw [Bool.or_eq_true, beq_iff_eq, beq_iff_eq] at hend
    exact hend.elim .publisher .redirect
  · cases hkind : SourceKind.ofSource? source with
    | none =>
      rw [hkind] at h
      cases h
    | some kind =>
      rw [hkind] at h
      cases kind with
      | rtsp =>
        rw [faultIf_not_eq_none, isRtspAddress_iff] at h
        obtain ⟨url, hurl, -, hhost⟩ := h
        exact .rtsp (hasScheme_of_kind hkind _ (by decide)) hurl hhost
      | rtmp | hls =>
        obtain ⟨url, hurl, hcredentials⟩ := webFault?_eq_none.1 h
        exact .web (hasScheme_of_kind hkind _ (by decide)) hurl hcredentials
      | udp =>
        rw [faultIf_not_eq_none] at h
        obtain ⟨scheme, hscheme, rest, hrest⟩ := hasScheme_of_kind hkind ["udp"] (by decide)
        obtain rfl := List.mem_singleton.1 hscheme
        obtain ⟨host, port, rfl, hhost, hport, hlast⟩ := (isUdpAddress_iff hrest.symm).1 h
        exact .udp (hrest.symm.trans (List.append_assoc ..).symm) hhost hport hlast
      | srt | webRtc =>
        rw [faultIf_not_eq_none, isUrl_iff] at h
        obtain ⟨url, hurl⟩ := h
        exact .stream (hasScheme_of_kind hkind _ (by decide)) hurl

/-- A scheme has one kind, so nothing else is asked of a source. -/
theorem sourceFault?_of_isSource (h : IsSource source) : sourceFault? source = none := by
  unfold sourceFault?
  split
  · rfl
  · rename_i hend
    rw [Bool.or_eq_true, beq_iff_eq, beq_iff_eq, not_or] at hend
    cases h with
    | publisher h => exact absurd h hend.1
    | redirect h => exact absurd h hend.2
    | rtsp h hurl hhost =>
      obtain ⟨scheme, hscheme, hlead⟩ := h
      have hmem : (scheme, SourceKind.rtsp) ∈ SourceKind.schemes := by
        have hall : ∀ scheme ∈ ["rtsp", "rtsps"], (scheme, SourceKind.rtsp) ∈ SourceKind.schemes := by decide
        exact hall scheme hscheme
      have hrtsp : IsRtspUrl source := by
        refine ⟨_, hurl, ?_, hhost⟩
        rw [scheme_of_lead hmem hlead hurl]
        simp only [List.mem_cons, List.not_mem_nil, or_false] at hscheme
        exact hscheme.imp (congrArg String.toList) (congrArg String.toList)
      rw [ofSource?_eq_some.2 ⟨scheme, hmem, hlead⟩]
      exact faultIf_not_eq_none.2 (isRtspAddress_iff.2 hrtsp)
    | web h hurl hcredentials =>
      have hfault := webFault?_eq_none.2 ⟨_, hurl, hcredentials⟩
      obtain ⟨kind, hkind, hsource⟩ := exists_kind h [.rtmp, .hls] (by decide)
      rw [hsource]
      simp only [List.mem_cons, List.not_mem_nil, or_false] at hkind
      rcases hkind with rfl | rfl <;> exact hfault
    | udp h hhost hport hlast =>
      rw [List.append_assoc] at h
      have hudp := (isUdpAddress_iff h).2 ⟨_, _, rfl, hhost, hport, hlast⟩
      have hkind : SourceKind.ofSource? source = some .udp :=
        ofSource?_eq_some.2 ⟨"udp", by decide, _, h.symm⟩
      rw [hkind]
      exact faultIf_not_eq_none.2 hudp
    | stream h hurl =>
      obtain ⟨kind, hkind, hsource⟩ := exists_kind h [.srt, .webRtc] (by decide)
      have hfault : faultIf (!isUrl source) (.invalidUrl source) = none :=
        faultIf_not_eq_none.2 (isUrl_iff.2 ⟨_, hurl⟩)
      rw [hsource]
      simp only [List.mem_cons, List.not_mem_nil, or_false] at hkind
      rcases hkind with rfl | rfl <;> exact hfault

/-- Each kind of source is checked for what it needs. -/
theorem sourceFault?_eq_none : sourceFault? source = none ↔ IsSource source :=
  ⟨isSource_of_sourceFault?, sourceFault?_of_isSource⟩

/-! ## Passphrases, fallbacks and redirections -/

/-- A character takes as many bytes as the library counts. -/
theorem length_codeBytes (c : Char) : (Utf8.codeBytes c.toNat).length = c.utf8Size := by
  have hval : c.toNat = c.val.toNat := rfl
  unfold Utf8.codeBytes Char.utf8Size
  simp only [UInt32.le_iff_toNat_le, UInt32.toNat_ofNatLT, hval]
  split_ifs <;> first | rfl | omega

/-- The size of a text is its number of bytes. -/
theorem utf8Size_eq (s : String) : Utf8.size s = s.utf8ByteSize := by
  have hsize : ∀ cs : List Char, (Utf8.encode cs).length = String.utf8Len cs := by
    intro cs
    induction cs with
    | nil => rfl
    | cons c cs ih =>
      rw [Utf8.encode, List.flatMap_cons, List.length_append, length_codeBytes, String.utf8Len_cons, ← ih,
        Nat.add_comm]
      rfl
  rw [Utf8.size, hsize, ← String.utf8ByteSize_ofList, String.ofList_toList]

/-- A passphrase has ten to seventy-nine bytes. -/
theorem isPassphrase_iff {s : String} : isPassphrase s = true ↔ 10 ≤ s.utf8ByteSize ∧ s.utf8ByteSize ≤ 79 := by
  unfold isPassphrase
  rw [utf8Size_eq]
  simp

/-- The check lets an empty passphrase pass, which means that there is none. -/
theorem isPassphraseOrEmpty_iff {s : String} :
    IsPassphraseOrEmpty s ↔ (!s.isEmpty && !isPassphrase s) = false := by
  rw [IsPassphraseOrEmpty, ← isPassphrase_iff]
  cases isPassphrase s <;> simp

/-- A text that begins with a slash has no scheme. -/
theorem not_isRtspUrl_of_slash {cs : List Char} (h : address.toList = '/' :: cs) : ¬ IsRtspUrl address := by
  have hclean : ∃ cs', clean ('/' :: cs) = '/' :: cs' := by
    have hback : ∃ t, (('/' :: cs).reverse.dropWhile fun d => d.toNat ≤ 0x20) = t ++ ['/'] := by
      rw [List.reverse_cons, List.dropWhile_append]
      split
      · exact ⟨[], by decide⟩
      · exact ⟨_, rfl⟩
    obtain ⟨t, ht⟩ := hback
    have hfront : (('/' :: cs).dropWhile fun d => d.toNat ≤ 0x20) = '/' :: cs :=
      List.dropWhile_cons_of_neg (by decide)
    unfold clean
    simp only [hfront, ht]
    simp
  obtain ⟨cs', hcs⟩ := hclean
  have hnone : splitScheme? ('/' :: cs') = none := by
    simp [splitScheme?, isSchemeChar]
  rintro ⟨url, hurl, -⟩
  unfold Url.parse parseChars at hurl
  rw [h, hcs, hnone] at hurl
  cases hurl

/-- A redirection to nowhere breaks its rule. -/
theorem not_isRtspUrl_empty : ¬ IsRtspUrl "" := by
  have hparse : Url.parse "" = .error .noScheme := by decide
  rintro ⟨url, hurl, -⟩
  rw [hparse] at hurl
  cases hurl

/-- The check of the fallback is its rule. -/
theorem fallbackFault?_eq_none : fallbackFault? fallback = none ↔ IsFallback fallback := by
  unfold fallbackFault?
  split
  · rename_i hnil
    exact iff_of_true rfl (.inl (String.toList_eq_nil_iff.1 hnil))
  · rename_i name hname
    have hne : fallback ≠ "" := by
      rintro rfl
      cases hname
    have hother := not_isRtspUrl_of_slash hname
    rw [Option.map_eq_none_iff, Name.fault?_eq_none]
    constructor
    · intro h
      exact .inr (.inl ⟨name, hname, h⟩)
    · rintro (h | ⟨name', hname', h⟩ | h)
      · exact absurd h hne
      · obtain rfl := (List.cons.inj (hname.symm.trans hname')).2
        exact h
      · exact absurd h hother
  · rename_i hnil hslash
    rw [faultIf_not_eq_none, isRtspAddress_iff]
    constructor
    · intro h
      exact .inr (.inr h)
    · rintro (h | ⟨name, hname, -⟩ | h)
      · exact absurd (String.toList_eq_nil_iff.2 h) hnil
      · exact absurd hname (hslash name)
      · exact h

/-- The check of the redirection is its rule. -/
theorem redirectFault?_eq_none :
    redirectFault? s = none ↔ (s.source = "redirect" → IsRtspUrl s.sourceRedirect) := by
  unfold redirectFault?
  split
  · rename_i hother
    have hne : s.source ≠ "redirect" := by simpa [Settings.redirect] using hother
    exact iff_of_true rfl fun h => absurd h hne
  · rename_i hredirect
    have heq : s.source = "redirect" := by simpa [Settings.redirect] using hredirect
    rw [firstFault_cons, firstFault_cons, faultIf_eq_none, faultIf_not_eq_none, isRtspAddress_iff]
    constructor
    · intro h _
      exact h.2.1
    · intro h
      have hrtsp := h heq
      refine ⟨?_, hrtsp, firstFault_nil⟩
      rw [String.isEmpty_eq_false_iff]
      intro hempty
      rw [hempty] at hrtsp
      exact not_isRtspUrl_empty hrtsp

/-- The checks of what concerns publishers are their rules. -/
theorem publisherFault?_eq_none : publisherFault? s = none ↔
    IsPassphraseOrEmpty s.srtPublishPassphrase ∧ (s.srtPublishPassphrase ≠ "" → s.source = "publisher") := by
  unfold publisherFault?
  split
  · rename_i hempty
    rw [String.isEmpty_iff] at hempty
    simp [IsPassphraseOrEmpty, hempty]
  · rename_i hempty
    rw [String.isEmpty_iff] at hempty
    rw [firstFault_cons, firstFault_cons, faultIf_eq_none, faultIf_not_eq_none, isPassphrase_iff,
      bne_eq_false_iff_eq]
    constructor
    · rintro ⟨hpublisher, hsize, -⟩
      exact ⟨.inr hsize, fun _ => hpublisher⟩
    · rintro ⟨hpassphrase, hpublisher⟩
      exact ⟨hpublisher hempty, hpassphrase.resolve_left hempty, firstFault_nil⟩

/-- The checks of the commands are their rules. -/
theorem commandFault?_eq_none : commandFault? s many = none ↔
    (many = true → s.runOnInit = "") ∧
      (s.runOnDemand ≠ "" ∨ s.runOnUnDemand ≠ "" → s.source = "publisher") := by
  have hinit : (!s.runOnInit.isEmpty && many) = false ↔ (many = true → s.runOnInit = "") := by
    cases many <;> simp
  have hdemand : ((!s.runOnDemand.isEmpty || !s.runOnUnDemand.isEmpty) && s.source != Settings.publisher) = false ↔
      (s.runOnDemand ≠ "" ∨ s.runOnUnDemand ≠ "" → s.source = "publisher") := by
    simp only [Bool.and_eq_false_imp, Bool.or_eq_true, Bool.not_eq_true', String.isEmpty_eq_false_iff,
      bne_eq_false_iff_eq]
    exact Iff.rfl
  unfold commandFault?
  rw [firstFault_cons, firstFault_cons, faultIf_eq_none, faultIf_eq_none, hinit, hdemand]
  exact and_congr_right' (and_iff_left firstFault_nil)

/-- The checks of the source and of what goes with it are their rules. -/
theorem generalFault?_eq_none : generalFault? s many = none ↔ IsSource s.source ∧
    (many = true → s.source ≠ "publisher" → s.source ≠ "redirect" → s.sourceOnDemand = true) ∧
    (s.source = "publisher" → s.sourceOnDemand = false) ∧ IsPassphraseOrEmpty s.srtReadPassphrase ∧
    IsFallback s.fallback := by
  have hstatic : (s.source != Settings.publisher && s.source != Settings.redirect && many &&
      !s.sourceOnDemand) = false ↔
      (many = true → s.source ≠ "publisher" → s.source ≠ "redirect" → s.sourceOnDemand = true) := by
    simp only [Bool.and_eq_false_imp, Bool.and_eq_true, bne_iff_ne, Bool.not_eq_false']
    exact ⟨fun h hmany hpublisher hredirect => h ⟨⟨hpublisher, hredirect⟩, hmany⟩,
      fun h hall => h hall.2 hall.1.1 hall.1.2⟩
  have hpublisher : (s.sourceOnDemand && s.source == Settings.publisher) = false ↔
      (s.source = "publisher" → s.sourceOnDemand = false) := by
    cases s.sourceOnDemand <;> simp [Settings.publisher]
  unfold generalFault?
  rw [firstFault_cons, firstFault_cons, firstFault_cons, firstFault_cons, firstFault_cons, faultIf_eq_none,
    faultIf_eq_none, faultIf_eq_none, sourceFault?_eq_none, fallbackFault?_eq_none, hstatic, hpublisher,
    ← isPassphraseOrEmpty_iff]
  constructor
  · rintro ⟨hmany, hsource, hdemand, hread, hfallback, -⟩
    exact ⟨hsource, hmany, hdemand, hread, hfallback⟩
  · rintro ⟨hsource, hmany, hdemand, hread, hfallback⟩
    exact ⟨hmany, hsource, hdemand, hread, hfallback, firstFault_nil⟩

/-! ## Validation -/

/-- What is checked one after the other is what the rules say. -/
theorem rules_iff {p : Prop} (hp : many = true ↔ p) : Rules s p ↔ generalFault? s many = none ∧
    publisherFault? s = none ∧ redirectFault? s = none ∧ commandFault? s many = none := by
  rw [generalFault?_eq_none, publisherFault?_eq_none, redirectFault?_eq_none, commandFault?_eq_none, hp]
  constructor
  · intro h
    exact ⟨⟨h.source, h.pulledOnDemand, h.publishedAnyTime, h.readPassphrase, h.fallback⟩,
      ⟨h.publishPassphrase, h.passphrasePublisher⟩, h.redirect, h.runOnInit, h.demandPublisher⟩
  · rintro ⟨hgeneral, ⟨hpublish, hpublisher⟩, hredirect, hinit, hdemand⟩
    obtain ⟨hsource, hpulled, hpublished, hread, hfallback⟩ := hgeneral
    exact ⟨hsource, hpulled, hpublished, hread, hpublish, hpublisher, hfallback, hredirect, hinit, hdemand⟩

-- What takes effect in between is not what is checked afterwards.
/-- The old name of the override does not concern the checks of publishers. -/
theorem publisherFault?_applyPublisherAlias (s : Settings) :
    publisherFault? (applyPublisherAlias s) = publisherFault? s := by
  unfold applyPublisherAlias
  split <;> rfl

/-- Old names do not concern the check of the redirection. -/
theorem redirectFault?_renamed (s : Settings) : redirectFault? s.renamed = redirectFault? s := by
  obtain ⟨_, _, _, hs⟩ := s.exists_renamed
  rw [hs]
  rfl

/-- Nor do they concern the checks of the commands. -/
theorem commandFault?_renamed (s : Settings) (many : Bool) :
    commandFault? s.renamed many = commandFault? s many := by
  obtain ⟨_, _, _, hs⟩ := s.exists_renamed
  rw [hs]
  rfl

/-- An entry is accepted just if its name and its settings keep the rules. -/
theorem revalidate_eq_none : e.revalidate name = (e', none) ↔
    ∃ pattern, Names name pattern ∧ Rules e.settings (IsMany name) ∧
      e' = ⟨name, pattern, e.settings.renamed⟩ := by
  have hpublisher := publisherFault?_applyPublisherAlias e.settings
  have hredirect := redirectFault?_renamed e.settings
  have hcommand := commandFault?_renamed e.settings
  unfold Settings.renamed at hredirect hcommand ⊢
  unfold revalidate
  constructor
  · intro h
    dsimp only at h
    split at h
    · cases h
    · rename_i pattern hname
      have hnames := patternOf_eq_ok.1 hname
      split at h
      · cases h
      · rename_i hgeneral
        split at h
        · cases h
        · rename_i hpublish
          split at h
          · cases h
          · rename_i hrest
            cases h
            rw [firstFault_cons, firstFault_cons, hredirect, hcommand] at hrest
            refine ⟨pattern, hnames, (rules_iff (isMany_iff hnames)).2 ⟨hgeneral, ?_, hrest.1, hrest.2.1⟩, rfl⟩
            rw [← hpublisher]
            exact hpublish
  · rintro ⟨pattern, hnames, hrules, rfl⟩
    obtain ⟨hgeneral, hpublish, hredirects, hcommands⟩ := (rules_iff (isMany_iff hnames)).1 hrules
    have hrest := firstFault_cons.2 ⟨(hredirect.trans hredirects), firstFault_cons.2
      ⟨(hcommand pattern.isSome).trans hcommands, firstFault_nil⟩⟩
    rw [patternOf_eq_ok.2 hnames]
    simp only [hgeneral, hpublisher, hpublish, hrest]

/-- What a name has to be for an entry to have it. -/
def IsName (name : String) : Prop :=
  name = "all" ∨ name = "all_others" ∨
    (∃ text p, name.toList = '~' :: text ∧ Pattern.compile? (String.ofList text) = some p) ∨
    Name.IsPathName name ∧ ¬ IsMany name

/-- A valid name is one that names something. -/
theorem isName_iff : IsName name ↔ ∃ pattern, Names name pattern := by
  constructor
  · rintro (h | h | ⟨text, p, h, hp⟩ | ⟨h, hmany⟩)
    · obtain ⟨p, hp⟩ := names_of_catchAll (.inl h)
      exact ⟨some p, hp⟩
    · obtain ⟨p, hp⟩ := names_of_catchAll (.inr h)
      exact ⟨some p, hp⟩
    · exact ⟨some p, .pattern h hp⟩
    · exact ⟨none, .literal h hmany⟩
  · rintro ⟨pattern, hpattern⟩
    cases hpattern with
    | catchAll h hp => exact h.imp_right .inl
    | pattern h hp => exact .inr (.inr (.inl ⟨_, _, h, hp⟩))
    | literal h hmany => exact .inr (.inr (.inr ⟨h, hmany⟩))

/-- The old name of the override means its opposite, and is kept beside it. -/
theorem applyPublisherAlias_eq (s : Settings) : applyPublisherAlias s = { s with
    overridePublisher := (s.disablePublisherOverride.map (! ·)).getD s.overridePublisher } := by
  unfold applyPublisherAlias
  split
  · rename_i disable h
    have hpublisher : (s.disablePublisherOverride.map (! ·)).getD s.overridePublisher = !disable := by
      rw [h]
      rfl
    rw [hpublisher]
  · rename_i h
    have hpublisher : (s.disablePublisherOverride.map (! ·)).getD s.overridePublisher = s.overridePublisher := by
      rw [h]
      rfl
    rw [hpublisher]

/-- Each old name that is given takes the place of the new one. -/
theorem renamed_eq (s : Settings) : s.renamed = { s with
    overridePublisher := (s.disablePublisherOverride.map (! ·)).getD s.overridePublisher
    rtspTransport := s.sourceProtocol.getD s.rtspTransport
    rtspAnyPort := s.sourceAnyPortEnable.getD s.rtspAnyPort } := by
  rw [Settings.renamed, applyPublisherAlias_eq]
  rfl

/-- An entry of any kind is accepted under a name just if the name is one that an entry can have and the settings keep
the rules. It then has that name and the pattern it stands for, and its settings are the same but for the three that
have other names. -/
theorem revalidate_iff_rules (e : Entry) (name : String) :
    ((∃ e', e.revalidate name = (e', none)) ↔ IsName name ∧ Rules e.settings (IsMany name)) ∧
    ∀ e', e.revalidate name = (e', none) → e'.name = name ∧ Names name e'.pattern ∧
      e'.settings = { e.settings with
        overridePublisher := (e.settings.disablePublisherOverride.map (! ·)).getD e.settings.overridePublisher
        rtspTransport := e.settings.sourceProtocol.getD e.settings.rtspTransport
        rtspAnyPort := e.settings.sourceAnyPortEnable.getD e.settings.rtspAnyPort } := by
  constructor
  · rw [isName_iff]
    constructor
    · rintro ⟨e', h⟩
      obtain ⟨pattern, hnames, hrules, -⟩ := revalidate_eq_none.1 h
      exact ⟨⟨pattern, hnames⟩, hrules⟩
    · rintro ⟨⟨pattern, hnames⟩, hrules⟩
      exact ⟨_, revalidate_eq_none.2 ⟨pattern, hnames, hrules, rfl⟩⟩
  · intro e' h
    obtain ⟨pattern, hnames, -, rfl⟩ := revalidate_eq_none.1 h
    exact ⟨rfl, hnames, renamed_eq _⟩

/-- A pattern of cameras whose source has the scheme with encryption: its rules hold, so it is valid, and the
transport that was left open becomes TCP. -/
theorem revalidate_iff_rules_camera :
    ∃ s : Settings, s.source = "rtsps://10.0.0.$G1:322/live" ∧ s.rtspTransport = .automatic ∧
      Rules s (IsMany "~^cam([0-9]+)$") ∧
      ∃ e', Entry.revalidate ⟨"old", none, s⟩ "~^cam([0-9]+)$" = (e', none) ∧ e'.name = "~^cam([0-9]+)$" ∧
        e'.settings.rtspTransport = .tcp := by
  let s : Settings := { source := "rtsps://10.0.0.$G1:322/live", sourceOnDemand := true, sourceProtocol := some .tcp }
  have hok : (Entry.revalidate ⟨"old", none, s⟩ "~^cam([0-9]+)$").2 = none := by decide +kernel
  obtain ⟨haccepts, heffect⟩ := revalidate_iff_rules ⟨"old", none, s⟩ "~^cam([0-9]+)$"
  have hresult : Entry.revalidate ⟨"old", none, s⟩ "~^cam([0-9]+)$" = (_, none) := Prod.ext rfl hok
  obtain ⟨hname, -, hsettings⟩ := heffect _ hresult
  refine ⟨s, rfl, rfl, (haccepts.1 ⟨_, hresult⟩).2, _, hresult, hname, ?_⟩
  rw [hsettings]
  rfl

end Entry

end MediaPaths
