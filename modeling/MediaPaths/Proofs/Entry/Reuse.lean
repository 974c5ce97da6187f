import MediaPaths.Proofs.Entry.Stored

/-!
# Entries that are validated more than once

Validation works on the entry itself, and when it fails, what it has set so far stays set. No later validation can tell:
the name and the pattern are set before anything is looked at, what is given under other names takes effect in the same
way once more, and none of the rules is about a setting that has another name. So an entry may be declared under one name
after another, and what comes of each is what would have come of it at first.
-/

namespace MediaPaths

namespace Entry

/-- An entry after validation under some names, one after the other, each with or without success. -/
def reused (e : Entry) (names : List String) : Entry := names.foldl (fun e name => (e.revalidate name).1) e

/-- What is wrong with settings under a name: the name, or else the first rule that they break. -/
def error? (name : String) (s : Settings) : Option EntryError :=
  match patternOf name with
  | .error err => some err
  | .ok pattern =>
    (firstFault [generalFault? s pattern.isSome, publisherFault? s, redirectFault? s,
      commandFault? s pattern.isSome]).map (.broken name)

/-! ## What validation sees -/

/-- The error is about the settings as they were, although some are set between the checks. -/
theorem revalidate_snd (e : Entry) (name : String) : (e.revalidate name).2 = error? name e.settings := by
  have hredirect := redirectFault?_renamed e.settings
  have hcommand := commandFault?_renamed e.settings
  unfold Settings.renamed at hredirect hcommand
  unfold revalidate error?
  cases patternOf name with
  | error err => rfl
  | ok pattern =>
    simp only [publisherFault?_applyPublisherAlias, hredirect, hcommand, firstFault, List.findSome?_cons, id_eq]
    cases generalFault? e.settings pattern.isSome with
    | some f => rfl
    | none =>
      cases publisherFault? e.settings with
      | some f => rfl
      | none =>
        cases redirectFault? e.settings with
        | some f => rfl
        | none => cases commandFault? e.settings pattern.isSome <;> rfl

/-- No rule is about a setting that has another name. -/
theorem error?_renamed (name : String) (s : Settings) : error? name s.renamed = error? name s := by
  obtain ⟨_, _, _, hs⟩ := s.exists_renamed
  rw [hs]
  rfl

/-! ## What validation leaves -/

/-- The settings stay as they are, or what is given under one or all of the other names takes effect. -/
theorem settings_revalidate (e : Entry) (name : String) : (e.revalidate name).1.settings = e.settings ∨
    (e.revalidate name).1.settings = applyPublisherAlias e.settings ∨
    (e.revalidate name).1.settings = e.settings.renamed := by
  unfold revalidate
  dsimp only
  split
  · exact .inl rfl
  · split
    · exact .inl rfl
    · split
      · exact .inr (.inl rfl)
      · split <;> exact .inr (.inr rfl)

theorem renamed_applyPublisherAlias (s : Settings) : (applyPublisherAlias s).renamed = s.renamed := by
  rw [renamed_eq, applyPublisherAlias_eq, renamed_eq]
  cases s.disablePublisherOverride <;> rfl

/-- Whatever becomes of a validation, the settings will be the same once all other names have taken effect. -/
theorem renamed_revalidate (e : Entry) (name : String) :
    (e.revalidate name).1.settings.renamed = e.settings.renamed := by
  rcases settings_revalidate e name with h | h | h
  · rw [h]
  · rw [h, renamed_applyPublisherAlias]
  · rw [h, Settings.renamed_renamed]

theorem renamed_reused (e : Entry) (names : List String) : (e.reused names).settings.renamed = e.settings.renamed := by
  induction names generalizing e with
  | nil => rfl
  | cons name names ih => exact (ih (e.revalidate name).1).trans (renamed_revalidate e name)

/-! ## Validation once more -/

/-- Entries cannot be told apart by validation if their settings are the same once the other names have taken effect. -/
theorem revalidate_congr {e e' : Entry} (h : e.settings.renamed = e'.settings.renamed) (name : String) :
    (e.revalidate name).2 = (e'.revalidate name).2 ∧
    ∀ f, e'.revalidate name = (f, none) → e.revalidate name = (f, none) := by
  have hsame : (e.revalidate name).2 = (e'.revalidate name).2 := by
    rw [revalidate_snd, revalidate_snd, ← error?_renamed, h, error?_renamed]
  refine ⟨hsame, fun f hf => ?_⟩
  rw [hf] at hsame
  obtain ⟨pattern, hnames, -, rfl⟩ := revalidate_eq_none.1 hf
  obtain ⟨pattern', hnames', -, hresult⟩ := revalidate_eq_none.1 (Prod.ext rfl hsame)
  have hpattern : pattern' = pattern :=
    Except.ok.inj ((patternOf_eq_ok.2 hnames').symm.trans (patternOf_eq_ok.2 hnames))
  rw [hpattern, h] at hresult
  exact Prod.ext hresult hsame

end Entry

/-- A declaration looks at no more of an entry than its validation gives. -/
theorem Listing.insert_congr {e e' : Entry} {name : String} (herror : (e.revalidate name).2 = (e'.revalidate name).2)
    (hentry : ∀ f, e'.revalidate name = (f, none) → e.revalidate name = (f, none)) :
    insert name e = insert name e' := by
  rcases h' : e'.revalidate name with ⟨f', _ | err⟩
  · simp only [insert, hentry f' h', h']
  · rcases h : e.revalidate name with ⟨f, r⟩
    obtain rfl : r = some err := by simpa [h, h'] using herror
    simp only [insert, h, h']

namespace Entry

/-- Whatever names an entry was validated under before, with or without success, it is accepted under a name or refused
with an error just as at first; when it is accepted it is the same entry, which has this name and its pattern, and is
accepted as it stands under this name again. So a table takes it just as it would have at first. -/
theorem revalidate_reused (e : Entry) (earlier : List String) (name : String) :
    ((e.reused earlier).revalidate name).2 = (e.revalidate name).2 ∧
    (∀ e', e.revalidate name = (e', none) →
      (e.reused earlier).revalidate name = (e', none) ∧ e'.revalidate name = (e', none) ∧
      e'.name = name ∧ Names name e'.pattern) ∧
    Listing.insert name (e.reused earlier) = Listing.insert name e := by
  obtain ⟨herror, hentry⟩ := revalidate_congr (renamed_reused e earlier) name
  refine ⟨herror, fun e' h => ⟨hentry e' h, ?_, ?_⟩, Listing.insert_congr herror hentry⟩
  · have hrenamed := renamed_revalidate e name
    rw [h] at hrenamed
    exact (revalidate_congr hrenamed name).2 e' h
  · obtain ⟨pattern, hnames, -, rfl⟩ := revalidate_eq_none.1 h
    exact ⟨rfl, hnames⟩

/-- A command is refused under a pattern, when the pattern and the other names have been set already. Under a path name
the entry is what it would have been without that. -/
theorem revalidate_reused_refused :
    ∃ e e' : Entry, e.settings.rtspTransport = .automatic ∧
      (e.revalidate "~^cam([0-9]+)$").2 = some (.broken "~^cam([0-9]+)$" .initOnPattern) ∧
      (e.revalidate "~^cam([0-9]+)$").1.settings.rtspTransport = .tcp ∧
      (e.revalidate "~^cam([0-9]+)$").1.isPattern = true ∧
      e.revalidate "cam" = (e', none) ∧ e'.isPattern = false ∧
      (e.reused ["~^cam([0-9]+)$", "a b"]).revalidate "cam" = (e', none) := by
  let e : Entry := { settings := {
    source := "rtsp://10.0.0.1:554/live"
    sourceOnDemand := true
    sourceProtocol := some .tcp
    runOnInit := "setup" } }
  have hok : (e.revalidate "cam").2 = none := by decide +kernel
  have hresult : e.revalidate "cam" = ((e.revalidate "cam").1, none) := Prod.ext rfl hok
  exact ⟨e, _, rfl, by decide +kernel, by decide +kernel, by decide +kernel, hresult, by decide +kernel,
    ((revalidate_reused e ["~^cam([0-9]+)$", "a b"] "cam").2.1 _ hresult).1⟩

end Entry

end MediaPaths
