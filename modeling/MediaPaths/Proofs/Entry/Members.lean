import Mathlib.Data.List.Nodup
import Mathlib.Data.List.Pairwise
import MediaPaths.Entry.Basic
import MediaPaths.Entry.Codec
import MediaPaths.Proofs.Json.Order

/-!
# Settings from members

No two settings have the same name, and setting one leaves the others as they are. So each setting has the value that
the member of its name gives, or else its default. Three settings have another name as well; what is given under it is
a setting of its own, and validation lets it take effect.
-/

namespace MediaPaths

open Json

namespace Settings

variable {f g a : Field} {s s' t : Settings} {ms ms' : Members} {name : String}

/-! ## Each setting on its own -/

theorem nodup_fields : (fields.map (·.name)).Nodup := by decide

theorem field_unique (hf : f ∈ fields) (hg : g ∈ fields) (h : f.name = g.name) : f = g :=
  List.inj_on_of_nodup_map nodup_fields hf hg h

theorem pairwise_fields : fields.Pairwise fun f g =>
    (∀ s a, f.get (g.set s a) = f.get s) ∧ ∀ s a, g.get (f.set s a) = g.get s := by
  unfold fields
  simp only [List.pairwise_cons, List.forall_mem_cons, List.not_mem_nil, false_imp_iff, implies_true, and_true,
    List.Pairwise.nil]

/-- Setting one leaves the others as they are. -/
theorem get_set_of_ne (hf : f ∈ fields) (hg : g ∈ fields) (h : f.name ≠ g.name) (s : Settings) (x : g.α) :
    f.get (g.set s x) = f.get s := by
  have hne : f ≠ g := fun hfg => h (hfg ▸ rfl)
  have : Std.Symm fun f g : Field =>
      (∀ s a, f.get (g.set s a) = f.get s) ∧ ∀ s a, g.get (f.set s a) = g.get s := ⟨fun _ _ => And.symm⟩
  exact (pairwise_fields.forall hf hg hne).1 s x

/-! ## Reading members -/

theorem readMember_get {m : String × Value} (hf : f ∈ fields) (h : readMember s m = .ok s') :
    (m.1 = f.name → f.codec.decode m.2 = .ok (f.get s')) ∧ (m.1 ≠ f.name → f.get s' = f.get s) := by
  unfold readMember at h
  split at h
  · rename_i g hfind
    have hg := List.mem_of_find?_eq_some hfind
    have hname : g.name = m.1 := by simpa using List.find?_some hfind
    obtain ⟨x, hx, rfl⟩ := map_eq_ok h
    refine ⟨fun hm => ?_, fun hm => get_set_of_ne hf hg (fun h => hm (by rw [← hname, h])) s x⟩
    obtain rfl := field_unique hg hf (hname.trans hm)
    rw [g.get_set, hx]
  · rename_i hfind
    cases h
    refine ⟨fun hm => ?_, fun _ => rfl⟩
    simpa [hm] using List.find?_eq_none.1 hfind f hf

theorem foldlM_readMember_get (hf : f ∈ fields) (hms : ms.InOrder) (h : ms.foldlM readMember s = .ok s') :
    (∀ w, ms.get? f.name = some w → f.codec.decode w = .ok (f.get s')) ∧
      (ms.get? f.name = none → f.get s' = f.get s) := by
  induction ms generalizing s with
  | nil =>
    cases h
    exact ⟨fun _ hw => absurd hw (by simp [Members.get?]), fun _ => rfl⟩
  | cons m ms ih =>
    obtain ⟨hm, hrest⟩ := List.pairwise_cons.1 hms
    obtain ⟨s₁, hs₁, h⟩ := bind_eq_ok h
    obtain ⟨hread, hskip⟩ := readMember_get hf hs₁
    obtain ⟨hsome, hnone⟩ := ih hrest h
    rw [Members.get?_cons]
    split
    · rename_i hname
      refine ⟨fun w hw => ?_, fun hw => absurd hw (by simp)⟩
      obtain rfl := Option.some.inj hw
      rw [hnone (Members.get?_eq_none fun m' hm' => hname ▸ (hm m' hm').ne'), hread hname.symm]
    · rename_i hname
      exact ⟨hsome, fun hw => (hnone hw).trans (hskip (Ne.symm hname))⟩

/-- A setting has the value that the member of its name gives, or else its default. -/
theorem ofMembers_get (hf : f ∈ fields) (hms : ms.InOrder) (h : ofMembers ms = .ok s) :
    (∀ w, ms.get? f.name = some w → f.codec.decode w = .ok (f.get s)) ∧ (ms.get? f.name = none → f.get s = f.get {}) :=
  foldlM_readMember_get hf hms h

theorem ofMembers_congr (hf : f ∈ fields) (hms : ms.InOrder) (hms' : ms'.InOrder) (h : ofMembers ms = .ok s)
    (h' : ofMembers ms' = .ok s') (heq : ms.get? f.name = ms'.get? f.name) : f.get s = f.get s' := by
  obtain ⟨hsome, hnone⟩ := ofMembers_get hf hms h
  obtain ⟨hsome', hnone'⟩ := ofMembers_get hf hms' h'
  cases hget : ms.get? f.name with
  | none => rw [hnone hget, hnone' (heq ▸ hget)]
  | some w =>
    have hdecode := hsome w hget
    rw [hsome' w (heq ▸ hget)] at hdecode
    exact (Except.ok.inj hdecode).symm

/-! ## Other names -/

/-- The settings that have another name, each with it. -/
def otherNames : List (String × String) := [
  ("overridePublisher", "disablePublisherOverride"), ("rtspTransport", "sourceProtocol"),
  ("rtspAnyPort", "sourceAnyPortEnable")]

/-- The settings once what is given under the other names has taken effect. -/
def renamed (s : Settings) : Settings := Entry.applyRtspAliases (Entry.applyPublisherAlias s)

/-- What is given under the name of `a` decides the setting `f`. -/
structure Decides (a f : Field) : Prop where
  null : ∀ v x, a.codec.decode v = .ok x → (x = a.get {} ↔ v = .null)
  absent : ∀ s, a.get s = a.get {} → f.get s.renamed = f.get s
  given : ∀ s t, a.get s = a.get t → a.get s ≠ a.get {} → f.get s.renamed = f.get t.renamed

theorem optional_decode {α : Type} {c : Codec α} {v : Value} {x : Option α} (h : (Codec.optional c).decode v = .ok x) :
    x = none ↔ v = .null := by
  unfold Codec.optional Value.toOptional at h
  dsimp only at h
  split at h
  · cases h
    simp
  · rename_i hnull
    obtain ⟨y, -, rfl⟩ := map_eq_ok h
    simpa using hnull

theorem exists_renamed (s : Settings) : ∃ publisher transport anyPort, s.renamed =
    { s with overridePublisher := publisher, rtspTransport := transport, rtspAnyPort := anyPort } := by
  unfold renamed Entry.applyPublisherAlias
  split
  · exact ⟨_, _, _, rfl⟩
  · exact ⟨_, _, _, rfl⟩

/-- Settings without another name stay as they are. -/
theorem get_renamed (hf : f ∈ fields) (h : f.name ∉ otherNames.map (·.1)) (s : Settings) :
    f.get s.renamed = f.get s := by
  obtain ⟨publisher, transport, anyPort, hs⟩ := exists_renamed s
  have hall : ∀ f ∈ fields, f.name ∈ otherNames.map (·.1) ∨ f.get s.renamed = f.get s := by
    rw [hs]
    unfold fields
    simp [otherNames]
  exact (hall f hf).resolve_left h

theorem decides_of {α : Type} {n : String} {c : Codec α} {get : Settings → Option α}
    {set : Settings → Option α → Settings} {get_set : ∀ s x, get (set s x) = x} (take : α → f.α) (hnone : get {} = none)
    (htake : ∀ s, f.get s.renamed = ((get s).map take).getD (f.get s)) :
    Decides (.of n (.optional c) get set get_set) f where
  null v x h := by
    rw [← optional_decode h]
    exact hnone ▸ Iff.rfl
  absent s h := by
    have h : get s = none := h.trans hnone
    rw [htake, h]
    rfl
  given s t h hs := by
    have hs : get s ≠ none := fun hget => hs (hget.trans hnone.symm)
    obtain ⟨x, hx⟩ := Option.ne_none_iff_exists'.1 hs
    have ht : get t = some x := h.symm.trans hx
    rw [htake, htake, hx, ht]
    rfl

theorem exists_decides {n : String} (hf : f ∈ fields) (h : (f.name, n) ∈ otherNames) :
    ∃ a ∈ fields, a.name = n ∧ Decides a f := by
  have hall : ∀ p ∈ otherNames, ∃ a ∈ fields, ∃ g ∈ fields, a.name = p.2 ∧ g.name = p.1 ∧ Decides a g := by
    have hmem : ∀ n g, fields.find? (·.name == n) = some g → g ∈ fields := fun _ _ => List.mem_of_find?_eq_some
    simp only [otherNames, List.forall_mem_cons, List.not_mem_nil, false_imp_iff, implies_true, and_true]
    refine ⟨⟨_, hmem "disablePublisherOverride" _ rfl, _, hmem "overridePublisher" _ rfl, rfl, rfl,
        decides_of (! ·) rfl fun s => ?_⟩,
      ⟨_, hmem "sourceProtocol" _ rfl, _, hmem "rtspTransport" _ rfl, rfl, rfl, decides_of id rfl fun s => ?_⟩,
      ⟨_, hmem "sourceAnyPortEnable" _ rfl, _, hmem "rtspAnyPort" _ rfl, rfl, rfl, decides_of id rfl fun s => ?_⟩⟩
    · show (Entry.applyPublisherAlias s).overridePublisher =
        (s.disablePublisherOverride.map (! ·)).getD s.overridePublisher
      unfold Entry.applyPublisherAlias
      split <;> rename_i hs <;> rw [hs] <;> rfl
    · show (Entry.applyPublisherAlias s).sourceProtocol.getD (Entry.applyPublisherAlias s).rtspTransport = _
      rw [Option.map_id]
      unfold Entry.applyPublisherAlias
      split <;> rfl
    · show (Entry.applyPublisherAlias s).sourceAnyPortEnable.getD (Entry.applyPublisherAlias s).rtspAnyPort = _
      rw [Option.map_id]
      unfold Entry.applyPublisherAlias
      split <;> rfl
  obtain ⟨a, ha, g, hg, hname, hgname, hdecides⟩ := hall _ h
  exact ⟨a, ha, hname, field_unique hg hf hgname ▸ hdecides⟩

theorem exists_otherName (h : name ∈ otherNames.map (·.1)) : ∃ n, (name, n) ∈ otherNames := by
  obtain ⟨⟨k, n⟩, hmem, rfl⟩ := List.mem_map.1 h
  exact ⟨n, hmem⟩

/-- What is given under the name of a setting counts if nothing is given under its other name. -/
theorem get_renamed_of_absent (hf : f ∈ fields) (hms : ms.InOrder) (h : ofMembers ms = .ok s)
    (hother : ∀ n, (f.name, n) ∈ otherNames → ms.get? n = none ∨ ms.get? n = some .null) :
    f.get s.renamed = f.get s := by
  by_cases hname : f.name ∈ otherNames.map (·.1)
  · obtain ⟨n, hn⟩ := exists_otherName hname
    obtain ⟨a, ha, rfl, hdecides⟩ := exists_decides hf hn
    obtain ⟨hsome, hnone⟩ := ofMembers_get ha hms h
    rcases hother _ hn with hget | hget
    · exact hdecides.absent s (hnone hget)
    · exact hdecides.absent s ((hdecides.null _ _ (hsome _ hget)).2 rfl)
  · exact get_renamed hf hname s

/-- What is given under the other name of a setting counts, whatever is given under its own. -/
theorem get_renamed_of_given {n : String} {v : Value} (hf : f ∈ fields) (hms : ms.InOrder) (hms' : ms'.InOrder)
    (h : ofMembers ms = .ok s) (h' : ofMembers ms' = .ok s') (hn : (f.name, n) ∈ otherNames)
    (hget : ms.get? n = some v) (hget' : ms'.get? n = some v) (hv : v ≠ .null) :
    f.get s.renamed = f.get s'.renamed := by
  obtain ⟨a, ha, rfl, hdecides⟩ := exists_decides hf hn
  have hread := (ofMembers_get ha hms h).1 v hget
  exact hdecides.given s s' (ofMembers_congr ha hms hms' h h' (hget.trans hget'.symm))
    fun hnone => hv ((hdecides.null _ _ hread).1 hnone)

/-- A setting comes from what is given under its name and its other name. -/
theorem renamed_congr (hf : f ∈ fields) (hms : ms.InOrder) (hms' : ms'.InOrder) (h : ofMembers ms = .ok s)
    (h' : ofMembers ms' = .ok s') (heq : ms.get? f.name = ms'.get? f.name)
    (hother : ∀ n, (f.name, n) ∈ otherNames → ms.get? n = ms'.get? n) : f.get s.renamed = f.get s'.renamed := by
  have hsame := ofMembers_congr hf hms hms' h h' heq
  by_cases hname : f.name ∈ otherNames.map (·.1)
  · obtain ⟨n, hn⟩ := exists_otherName hname
    obtain ⟨a, ha, rfl, hdecides⟩ := exists_decides hf hn
    have halias := ofMembers_congr ha hms hms' h h' (hother _ hn)
    by_cases hnone : a.get s = a.get {}
    · rw [hdecides.absent s hnone, hdecides.absent s' (halias ▸ hnone), hsame]
    · exact hdecides.given s s' halias hnone
  · rw [get_renamed hf hname, get_renamed hf hname, hsame]

end Settings

theorem Entry.sourceFault?_of_generalFault? {s : Settings} {many : Bool} (h : generalFault? s many = none) :
    sourceFault? s.source = none := by
  unfold generalFault? firstFault at h
  exact List.findSome?_eq_none_iff.1 h (sourceFault? s.source) (by simp)

/-- A valid entry has a source of the right form, and what is given under the other names has taken effect in it. -/
theorem Entry.validate_eq_ok {s : Settings} {name : String} {e : Entry} (h : Entry.validate s name = .ok e) :
    sourceFault? s.source = none ∧ e.settings = s.renamed := by
  unfold validate at h
  split at h
  · cases h
  · rename_i e' he
    cases h
    unfold revalidate at he
    dsimp only at he
    split at he
    · cases he
    · split at he
      · cases he
      · rename_i hgeneral
        split at he
        · cases he
        · split at he
          · cases he
          · cases he
            exact ⟨sourceFault?_of_generalFault? hgeneral, rfl⟩

end MediaPaths
