import MediaPaths.Proofs.Duration.Written
import MediaPaths.Proofs.Entry.Rules

/-!
# Stored entries

The settings of an entry are stored as the members of an object, each under its name, but for those that are left out
because nothing is given. Every setting is read back from its own member, and a setting that has been left out has its
default. Validation changes nothing any more where it has taken effect already, so a stored entry is the same once it
has been read and validated again.
-/

namespace MediaPaths

open Json

/-! ## Values of single settings -/

/-- A value of this kind is always written, and read back from what is written. -/
def Codec.Stores {α : Type} (c : Codec α) (a : α) : Prop :=
  ∃ v, c.encode a = some v ∧ c.decode v = .ok a ∧ v ≠ .null ∧ ∀ levels, v.Storable levels

/-- The setting is read back from what is written, and has its default if it is left out. -/
structure Field.Keeps (f : Field) (s : Settings) : Prop where
  written : ∀ v, f.write s = some v → f.codec.decode v = .ok (f.get s) ∧ ∀ levels, v.Storable levels
  leftOut : f.write s = none → f.get s = f.get {}

namespace Codec

theorem storable_string (text : String) (levels : Nat) : (Value.string text).Storable levels := by
  cases levels <;> trivial

theorem stores_text (a : String) : text.Stores a := ⟨_, rfl, rfl, by simp, storable_string a⟩

theorem stores_flag (a : Bool) : flag.Stores a :=
  ⟨_, rfl, rfl, by simp, fun levels => by cases levels <;> trivial⟩

theorem stores_size (a : UInt64) : size.Stores a :=
  ⟨_, rfl, rfl, by simp, fun levels => by cases levels <;> trivial⟩

theorem stores_transport (a : Transport) : transport.Stores a :=
  ⟨_, rfl, by cases a <;> rfl, by simp, storable_string a.text⟩

theorem stores_rangeType (a : RangeType) : rangeType.Stores a :=
  ⟨_, rfl, by cases a <;> rfl, by simp, storable_string a.text⟩

theorem stores_duration {d : Duration} (h : d.IsStorable) : duration.Stores d :=
  ⟨_, rfl, h.readDuration, by simp, storable_string d.toString⟩

end Codec

namespace Field

variable {f : Field} {s : Settings}

theorem keeps_of_stores (h : f.codec.Stores (f.get s)) : f.Keeps s := by
  obtain ⟨v, hv, hread, -, hstorable⟩ := h
  constructor
  · intro w hw
    obtain rfl : v = w := Option.some.inj (hv.symm.trans hw)
    exact ⟨hread, hstorable⟩
  · intro hnone
    rw [Field.write, hv] at hnone
    cases hnone

theorem keeps_optional {α : Type} {name : String} {c : Codec α} {get : Settings → Option α}
    {set : Settings → Option α → Settings} {get_set : ∀ s a, get (set s a) = a} (hc : ∀ a, c.Stores a)
    (hnone : get {} = none) (s : Settings) : (Field.of name (.optional c) get set get_set).Keeps s := by
  constructor
  · intro w hw
    have hwrite : (get s).bind c.encode = some w := hw
    obtain ⟨a, ha, haw⟩ := Option.bind_eq_some_iff.1 hwrite
    obtain ⟨v, hv, hread, hnull, hstorable⟩ := hc a
    obtain rfl : v = w := Option.some.inj (hv.symm.trans haw)
    refine ⟨?_, hstorable⟩
    show Value.toOptional c.decode v = .ok (get s)
    rw [ha, Value.toOptional, hread]
    · rfl
    · exact hnull
  · intro hw
    show get s = get {}
    cases ha : get s with
    | none => exact hnone.symm
    | some a =>
      obtain ⟨v, hv, -⟩ := hc a
      have hwrite : (get s).bind c.encode = none := hw
      rw [ha, Option.bind_some, hv] at hwrite
      cases hwrite

end Field

namespace Settings

variable {s t : Settings} {f : Field}

/-- The durations can be stored. -/
structure IsStorable (s : Settings) : Prop where
  sourceOnDemandStartTimeout : s.sourceOnDemandStartTimeout.IsStorable
  sourceOnDemandCloseAfter : s.sourceOnDemandCloseAfter.IsStorable
  runOnDemandStartTimeout : s.runOnDemandStartTimeout.IsStorable
  runOnDemandCloseAfter : s.runOnDemandCloseAfter.IsStorable

theorem IsStorable.keeps (h : s.IsStorable) : ∀ f ∈ fields, f.Keeps s := by
  have htext : ∀ {name get set get_set}, (Field.of name .text get set get_set).Keeps s :=
    Field.keeps_of_stores (Codec.stores_text _)
  have hflag : ∀ {name get set get_set}, (Field.of name .flag get set get_set).Keeps s :=
    Field.keeps_of_stores (Codec.stores_flag _)
  have hsize : ∀ {name get set get_set}, (Field.of name .size get set get_set).Keeps s :=
    Field.keeps_of_stores (Codec.stores_size _)
  have htransport : ∀ {name get set get_set}, (Field.of name .transport get set get_set).Keeps s :=
    Field.keeps_of_stores (Codec.stores_transport _)
  have hrangeType : ∀ {name get set get_set}, (Field.of name .rangeType get set get_set).Keeps s :=
    Field.keeps_of_stores (Codec.stores_rangeType _)
  have hduration : ∀ {name get set get_set}, (get s).IsStorable →
      (Field.of name .duration get set get_set).Keeps s := fun hd =>
    Field.keeps_of_stores (Codec.stores_duration hd)
  unfold fields
  simp only [List.forall_mem_cons, List.not_mem_nil, false_imp_iff, implies_true, and_true, true_and, htext, hflag,
    hsize, htransport, hrangeType]
  exact ⟨hduration h.sourceOnDemandStartTimeout, hduration h.sourceOnDemandCloseAfter,
    Field.keeps_optional Codec.stores_flag rfl s, Field.keeps_optional Codec.stores_transport rfl s,
    Field.keeps_optional Codec.stores_flag rfl s, hduration h.runOnDemandStartTimeout,
    hduration h.runOnDemandCloseAfter⟩

/-- Settings that agree in each setting are the same. -/
theorem ext_fields (h : ∀ f ∈ fields, f.get s = f.get t) : s = t := by
  unfold fields at h
  simp only [List.forall_mem_cons, List.not_mem_nil, false_imp_iff, implies_true, and_true] at h
  cases s
  cases t
  simpa only [mk.injEq] using h

/-! ## All settings -/

/-- The members that are written, in the order of the settings. -/
def written (s : Settings) : List (String × Value) :=
  fields.filterMap fun f => (f.write s).map fun v => (f.name, v)

theorem mem_written {m : String × Value} :
    m ∈ s.written ↔ ∃ f ∈ fields, f.name = m.1 ∧ f.write s = some m.2 := by
  obtain ⟨name, v⟩ := m
  simp only [written, List.mem_filterMap, Option.map_eq_some_iff, Prod.mk.injEq]
  constructor
  · rintro ⟨f, hf, w, hw, hname, rfl⟩
    exact ⟨f, hf, hname, hw⟩
  · rintro ⟨f, hf, hname, hw⟩
    exact ⟨f, hf, v, hw, hname, rfl⟩

theorem nodup_written (s : Settings) : (s.written.map (·.1)).Nodup := by
  have hsublist : ∀ fs : List Field, ((fs.filterMap fun f => (f.write s).map fun v => (f.name, v)).map (·.1)).Sublist
      (fs.map (·.name)) := by
    intro fs
    induction fs with
    | nil => exact List.Sublist.refl []
    | cons f fs ih =>
      rw [List.filterMap_cons]
      cases f.write s with
      | none => exact ih.cons _
      | some v => exact ih.cons_cons _
  exact nodup_fields.sublist (hsublist fields)

theorem mem_toMembers {m : String × Value} :
    m ∈ s.toMembers ↔ ∃ f ∈ fields, f.name = m.1 ∧ f.write s = some m.2 :=
  (Members.ofList_perm s.nodup_written).mem_iff.trans mem_written

theorem inOrder_toMembers (s : Settings) : s.toMembers.InOrder := Members.inOrder_ofList s.written

/-- A setting is found under its name. -/
theorem get?_toMembers (hf : f ∈ fields) : s.toMembers.get? f.name = f.write s := by
  cases hw : f.write s with
  | some v => exact Members.get?_eq_some s.inOrder_toMembers.nodup (mem_toMembers.2 ⟨f, hf, rfl, hw⟩)
  | none =>
    refine Members.get?_eq_none fun m hm hname => ?_
    obtain ⟨g, hg, hgname, hgw⟩ := mem_toMembers.1 hm
    obtain rfl := field_unique hg hf (hgname.trans hname)
    rw [hw] at hgw
    cases hgw

theorem exists_foldlM {ms : Members}
    (h : ∀ m ∈ ms, ∃ f ∈ fields, f.name = m.1 ∧ ∃ a, f.codec.decode m.2 = .ok a) (t : Settings) :
    ∃ t', ms.foldlM readMember t = .ok t' := by
  induction ms generalizing t with
  | nil => exact ⟨t, rfl⟩
  | cons m ms ih =>
    obtain ⟨f, hf, hname, a, ha⟩ := h m (List.mem_cons_self ..)
    have hfind : fields.find? (·.name == m.1) = some f := by
      have hsome : (fields.find? (·.name == m.1)).isSome = true :=
        List.find?_isSome.2 ⟨f, hf, by simpa using hname⟩
      obtain ⟨g, hg⟩ := Option.isSome_iff_exists.1 hsome
      have hgname : g.name = m.1 := by simpa using List.find?_some hg
      rw [hg, field_unique (List.mem_of_find?_eq_some hg) hf (hgname.trans hname.symm)]
    have hread : readMember t m = .ok (f.set t a) := by
      rw [readMember, hfind]
      simp only [Field.read, ha, Except.map]
    obtain ⟨t', ht'⟩ := ih (fun k hk => h k (List.mem_cons_of_mem _ hk)) (f.set t a)
    refine ⟨t', ?_⟩
    rw [List.foldlM_cons, hread]
    exact ht'

/-- Settings are read back from what is written. -/
theorem IsStorable.ofJson_toJson (h : s.IsStorable) : Settings.ofJson s.toJson = .ok s := by
  have hkeeps := h.keeps
  have hmembers : ∀ m ∈ s.toMembers, ∃ f ∈ fields, f.name = m.1 ∧ ∃ a, f.codec.decode m.2 = .ok a := by
    intro m hm
    obtain ⟨f, hf, hname, hw⟩ := mem_toMembers.1 hm
    exact ⟨f, hf, hname, _, ((hkeeps f hf).written _ hw).1⟩
  obtain ⟨t, ht⟩ := exists_foldlM hmembers {}
  have hread : ofMembers s.toMembers = .ok t := ht
  have heq : t = s := by
    refine ext_fields fun f hf => ?_
    obtain ⟨hsome, hnone⟩ := ofMembers_get hf s.inOrder_toMembers hread
    rw [get?_toMembers hf] at hsome hnone
    cases hw : f.write s with
    | some v =>
      have hdecode := ((hkeeps f hf).written v hw).1
      rw [hsome v hw] at hdecode
      exact Except.ok.inj hdecode
    | none => rw [hnone hw, (hkeeps f hf).leftOut hw]
  show ofMembers s.toMembers = .ok s
  rw [hread, heq]

/-- The text of the members, in whatever order they are written, is read as the settings in JSON. -/
theorem IsStorable.ofString_object {ms : Members} (h : s.IsStorable) (hms : ms.Perm s.toMembers) :
    Value.ofString (Value.object ms).compact = .ok s.toJson := by
  have hstorable : ∀ m ∈ ms, ∀ levels, m.2.Storable levels := by
    intro m hm
    obtain ⟨f, hf, -, hw⟩ := mem_toMembers.1 (hms.mem_iff.1 hm)
    exact ((h.keeps f hf).written _ hw).2
  rw [Value.ofString_object hstorable, s.inOrder_toMembers.ofList_eq_of_perm hms]
  rfl

theorem isStorable_renamed : s.renamed.IsStorable ↔ s.IsStorable := by
  obtain ⟨_, _, _, hs⟩ := s.exists_renamed
  rw [hs]
  constructor
  · rintro ⟨hstart, hclose, hrunStart, hrunClose⟩
    exact ⟨hstart, hclose, hrunStart, hrunClose⟩
  · rintro ⟨hstart, hclose, hrunStart, hrunClose⟩
    exact ⟨hstart, hclose, hrunStart, hrunClose⟩

theorem renamed_renamed (s : Settings) : s.renamed.renamed = s.renamed := by
  have htwice : ∀ {α : Type} (x : Option α) (a : α), x.getD (x.getD a) = x.getD a := by
    intro α x a
    cases x <;> rfl
  rw [Entry.renamed_eq s.renamed, Entry.renamed_eq s]
  simp only [htwice]

end Settings

namespace Entry

variable {e e' : Entry} {s : Settings} {name : String} {p : Prop}

theorem rules_renamed : Rules s.renamed p ↔ Rules s p := by
  obtain ⟨_, _, _, hs⟩ := s.exists_renamed
  rw [hs]
  constructor
  · intro h
    exact ⟨h.source, h.pulledOnDemand, h.publishedAnyTime, h.readPassphrase, h.publishPassphrase,
      h.passphrasePublisher, h.fallback, h.redirect, h.runOnInit, h.demandPublisher⟩
  · intro h
    exact ⟨h.source, h.pulledOnDemand, h.publishedAnyTime, h.readPassphrase, h.publishPassphrase,
      h.passphrasePublisher, h.fallback, h.redirect, h.runOnInit, h.demandPublisher⟩

/-- Validation changes nothing in what it has made. -/
theorem validate_of_revalidate (h : e.revalidate name = (e', none)) : Entry.validate e'.settings name = .ok e' := by
  obtain ⟨pattern, hnames, hrules, rfl⟩ := revalidate_eq_none.1 h
  have hagain : revalidate { settings := e.settings.renamed } name =
      (⟨name, pattern, e.settings.renamed⟩, none) := by
    refine revalidate_eq_none.2 ⟨pattern, hnames, rules_renamed.2 hrules, ?_⟩
    rw [Settings.renamed_renamed]
  unfold validate
  rw [hagain]

/-- A valid entry is the same once its settings have been stored, in whatever order, read and validated again. -/
theorem revalidate_stored {ms : Members} (h : e.revalidate name = (e', none)) (hdurations : e'.settings.IsStorable)
    (hms : ms.Perm e'.settings.toMembers) :
    ∃ v s, Value.ofString (Value.object ms).compact = .ok v ∧ Settings.ofJson v = .ok s ∧
      Entry.validate s name = .ok e' :=
  ⟨_, _, hdurations.ofString_object hms, hdurations.ofJson_toJson, validate_of_revalidate h⟩

/-- The members of a valid entry are written in reverse and read again, with the largest number of readers, a wait
of an hour and a half and a quarter of a second, and an old name; the entry is the same. -/
theorem revalidate_stored_camera :
    ∃ (s s' : Settings) (e' : Entry) (v : Value), s.maxReaders = 18446744073709551615 ∧
      s.rtspRangeType = .undefined ∧ s.sourceOnDemandCloseAfter.nanos = 5400250 * Duration.millisecond ∧
      s.sourceProtocol = some .tcp ∧ Entry.revalidate ⟨"", none, s⟩ "~^cam([0-9]+)$" = (e', none) ∧
      Value.ofString (Value.object e'.settings.written).compact = .ok v ∧ Settings.ofJson v = .ok s' ∧
      Entry.validate s' "~^cam([0-9]+)$" = .ok e' := by
  let s : Settings := {
    source := "rtsps://10.0.0.$G1:322/live"
    sourceOnDemand := true
    sourceOnDemandCloseAfter := ⟨5400250 * Duration.millisecond, by decide⟩
    maxReaders := 18446744073709551615
    disablePublisherOverride := some true
    sourceProtocol := some .tcp }
  have hok : (Entry.revalidate ⟨"", none, s⟩ "~^cam([0-9]+)$").2 = none := by decide +kernel
  obtain ⟨e', he⟩ : ∃ e', Entry.revalidate ⟨"", none, s⟩ "~^cam([0-9]+)$" = (e', none) :=
    ⟨_, Prod.ext rfl hok⟩
  have hstorable : e'.settings.IsStorable := by
    obtain ⟨pattern, -, -, rfl⟩ := revalidate_eq_none.1 he
    exact Settings.isStorable_renamed.2 ⟨by decide, by decide, by decide, by decide⟩
  obtain ⟨v, s', htext, hread, hvalid⟩ :=
    revalidate_stored he hstorable (Members.ofList_perm e'.settings.nodup_written).symm
  exact ⟨s, s', e', v, rfl, rfl, rfl, rfl, he, htext, hread, hvalid⟩

end Entry

end MediaPaths
