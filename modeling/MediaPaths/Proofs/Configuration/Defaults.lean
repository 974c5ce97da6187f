import MediaPaths.Proofs.Configuration.Documents
import MediaPaths.Proofs.Entry.Members
import MediaPaths.Proofs.Json.Order

/-!
# Entries on top of the defaults

The members of an entry are put on top of those of the defaults before settings are read from them, and the other names
of settings take effect after that. So what an entry says wins over the defaults name by name: a setting that the
entry gives under its name is lost to the defaults if they give it under its other name.
-/

namespace MediaPaths

open Json

namespace Document

variable {d d' : Document} {levels count : Nat} {cs rest : List Char} {es es' : List (String × Value)}

/-! ## Members in order -/

/-- The values of a document have their members in order. -/
structure InOrder (d : Document) : Prop where
  defaults : ∀ v, d.pathDefaults = some v → v.InOrder
  entries : ∀ p ∈ d.paths, p.2.InOrder

theorem readEntry_inOrder {name : String} (h : readEntry levels name es cs = .ok (es', rest))
    (hes : ∀ p ∈ es, p.2.InOrder) : ∀ p ∈ es', p.2.InOrder := by
  unfold readEntry at h
  split at h
  · cases h
  · split at h
    · cases h
    · rename_i v r hv
      split at h
      · cases h
      · cases h
        intro p hp
        rcases List.mem_append.1 hp with hp | hp
        · exact hes p hp
        · obtain rfl := List.mem_singleton.1 hp
          exact readValue_inOrder hv

theorem readPaths_inOrder (h : readPaths levels cs = .ok (es, rest)) : ∀ p ∈ es, p.2.InOrder := by
  unfold readPaths at h
  split at h
  · cases h
  · cases h
  · exact readMembers_keeps (P := fun es => ∀ p ∈ es, p.2.InOrder)
      (fun _ _ _ _ _ hread hes => readEntry_inOrder hread hes) h nofun
  · obtain ⟨_, -, heq⟩ := map_eq_ok h
    cases heq
    exact nofun
  · cases h
  · cases h

theorem readOptional_inOrder {v : Value} (h : readOptional (readValue levels) cs = .ok (some v, rest)) :
    v.InOrder := by
  unfold readOptional at h
  split at h
  · obtain ⟨_, -, heq⟩ := map_eq_ok h
    cases heq
  · obtain ⟨⟨v', r⟩, hv, heq⟩ := map_eq_ok h
    cases heq
    exact readValue_inOrder hv

theorem member_inOrder {m : Member} (hm : m ∈ members) (h : m.read levels d cs = .ok (d', rest)) (hd : d.InOrder) :
    d'.InOrder := by
  simp only [members, List.mem_cons, List.not_mem_nil, or_false] at hm
  rcases hm with rfl | rfl | rfl | rfl | rfl | rfl <;> obtain ⟨⟨a, r⟩, ha, heq⟩ := map_eq_ok h <;> cases heq
  · exact ⟨hd.defaults, hd.entries⟩
  · exact ⟨hd.defaults, hd.entries⟩
  · exact ⟨hd.defaults, hd.entries⟩
  · exact ⟨hd.defaults, hd.entries⟩
  · exact ⟨fun v (hv : a = some v) => readOptional_inOrder (hv ▸ ha), hd.entries⟩
  · exact ⟨hd.defaults, readPaths_inOrder ha⟩

theorem readMember_inOrder {name : String} {s s' : Document × List String}
    (h : readMember levels name s cs = .ok (s', rest)) (hs : s.1.InOrder) : s'.1.InOrder := by
  unfold readMember at h
  dsimp only at h
  split at h
  · obtain ⟨_, -, heq⟩ := map_eq_ok h
    cases heq
    exact hs
  · rename_i m hfind
    split at h
    · cases h
    · split at h
      · cases h
      · obtain ⟨⟨d', r⟩, hd', heq⟩ := map_eq_ok h
        cases heq
        exact member_inOrder (List.mem_of_find?_eq_some hfind) hd' hs

/-- An element, and the elements behind it. -/
theorem element_inOrder {m : Member} {ms : List Member} (hm : m ∈ members)
    (hrest : ∀ {d cs}, readElementsInto levels count ms d cs = .ok (d', rest) → d.InOrder → d'.InOrder)
    (h : (match m.read levels d cs with
      | .ok (d, rest) => readElementsInto levels count ms d rest
      | .error e => .error e) = .ok (d', rest)) (hd : d.InOrder) : d'.InOrder := by
  split at h
  · rename_i hread
    exact hrest h (member_inOrder hm hread hd)
  · cases h

theorem readElementsInto_inOrder {ms : List Member} (hms : ∀ m ∈ ms, m ∈ members)
    (h : readElementsInto levels count ms d cs = .ok (d', rest)) (hd : d.InOrder) : d'.InOrder := by
  induction ms generalizing count d cs with
  | nil =>
    cases h
    exact hd
  | cons m ms ih =>
    have hm := hms m (List.mem_cons_self ..)
    have hrest : ∀ {d cs}, readElementsInto levels (count + 1) ms d cs = .ok (d', rest) → d.InOrder → d'.InOrder :=
      ih fun m hm => hms m (List.mem_cons_of_mem _ hm)
    unfold readElementsInto at h
    dsimp only at h
    split at h
    · cases h
    · split at h
      · cases h
        exact hd
      · cases h
    · split at h
      · exact element_inOrder hm hrest h hd
      · split at h
        · split at h
          · cases h
          · cases h
          · exact element_inOrder hm hrest h hd
        · cases h

theorem read_inOrder (h : read cs = .ok (d, rest)) : d.InOrder := by
  have hempty : ({} : Document).InOrder := ⟨nofun, nofun⟩
  unfold read at h
  dsimp only at h
  split at h
  · cases h
  · obtain ⟨⟨s', r⟩, hs', heq⟩ := map_eq_ok h
    cases heq
    exact readMembers_keeps (P := fun s => s.1.InOrder)
      (fun _ _ _ _ _ hread hs => readMember_inOrder hread hs) hs' hempty
  · split at h
    · rename_i d' r hd'
      obtain ⟨_, -, heq⟩ := map_eq_ok h
      cases heq
      exact readElementsInto_inOrder (fun _ hm => hm) hd' hempty
    · cases h
  · cases h

theorem readAll_inOrder {text : String} (h : readAll read text = .ok d) : d.InOrder := by
  unfold readAll at h
  split at h
  · cases h
  · rename_i d' r hd'
    split at h
    · cases h
      exact read_inOrder hd'
    · cases h

/-! ## Entries -/

variable {base top : Members} {p : String × Value}

theorem inOrder_defaultMembers (hd : d.InOrder) (h : d.defaultMembers = .ok base) : base.InOrder := by
  unfold defaultMembers at h
  split at h
  · rename_i ms hms
    cases h
    exact hd.defaults _ hms _ rfl
  · cases h
    exact .nil
  · cases h

theorem inOrder_entryMembers? (hp : p.2.InOrder) (h : entryMembers? p.2 = some top) : top.InOrder := by
  unfold entryMembers? at h
  split at h
  · rename_i ms hms
    cases h
    exact hp _ hms
  · cases h
    exact .nil
  · cases h

/-! ## Which of the two counts -/

/-- The members `top` of an entry are put on top of the members `base` of the defaults, and the setting `f` of the entry
comes out so. -/
structure Overrides (base top : Members) (defaults s : Settings) (f : Field) : Prop where
  /-- What the entry gives under the name counts, if neither gives anything under the other name. -/
  own : ∀ w, top.get? f.name = some w → (∀ n, (f.name, n) ∈ Settings.otherNames → top.get? n = none ∧
    (base.get? n = none ∨ base.get? n = some .null)) → f.codec.decode w = .ok (f.get s)
  /-- What the defaults alone give under the other name counts, whatever the entry gives under the name. -/
  renamed : ∀ n v, (f.name, n) ∈ Settings.otherNames → top.get? n = none → base.get? n = some v → v ≠ .null →
    f.get s = f.get defaults.renamed
  /-- What the defaults make of it counts, if the entry gives nothing. -/
  inherited : top.get? f.name = none → (∀ n, (f.name, n) ∈ Settings.otherNames → top.get? n = none) →
    f.get s = f.get defaults.renamed
  /-- The defaults make the built-in value of it, if they give nothing. -/
  builtIn : base.get? f.name = none → (∀ n, (f.name, n) ∈ Settings.otherNames → base.get? n = none) →
    f.get defaults.renamed = f.get {}

theorem overrides {f : Field} {defaults s : Settings} (hf : f ∈ Settings.fields) (hbase : base.InOrder)
    (htop : top.InOrder) (hdefaults : Settings.ofMembers base = .ok defaults)
    (hs : Settings.ofMembers (base.overlay top) = .ok s) : Overrides base top defaults s.renamed f := by
  have hms := hbase.overlay top
  have hget := Members.get?_overlay htop base
  constructor
  · intro w hw hother
    rw [Settings.get_renamed_of_absent hf hms hs fun n hn => by rw [hget, (hother n hn).1]; exact (hother n hn).2]
    exact (Settings.ofMembers_get hf hms hs).1 w (by rw [hget, hw]; rfl)
  · intro n v hn hnone hv hne
    exact Settings.get_renamed_of_given hf hms hbase hs hdefaults hn (by rw [hget, hnone, hv]; rfl) hv hne
  · intro hnone hother
    exact Settings.renamed_congr hf hms hbase hs hdefaults (by rw [hget, hnone]; rfl)
      fun n hn => by rw [hget, hother n hn]; rfl
  · intro hnone hother
    rw [Settings.get_renamed_of_absent hf hbase hdefaults fun n hn => .inl (hother n hn)]
    exact (Settings.ofMembers_get hf hbase hdefaults).2 hnone

/-- An entry of the table is the entry of the document on top of the defaults. -/
def LaidOver (base : Members) (defaults : Settings) (p : String × Value) (e : Entry) : Prop :=
  e.name = p.1 ∧ ∃ top, entryMembers? p.2 = some top ∧
    ∀ f ∈ Settings.fields, Overrides base top defaults e.settings f

theorem Made.laidOver {defaults : Settings} {e : Entry} (h : Made base p e) (hp : p.2.InOrder) (hbase : base.InOrder)
    (hdefaults : Settings.ofMembers base = .ok defaults) : LaidOver base defaults p e := by
  obtain ⟨top, s, htop, hs, he⟩ := h
  refine ⟨Entry.validate_name he, top, htop, fun f hf => ?_⟩
  rw [(Entry.validate_eq_ok he).2]
  exact overrides hf hbase (inOrder_entryMembers? hp htop) hdefaults hs

end Document

namespace Configuration

/-- In a configuration that was read from a text, each setting of an entry has the value that the entry gives, or else
the one that the defaults give, or else its own default, where what is given under other names goes first. -/
theorem ofString_laidOver {text : String} {c : Configuration} (h : ofString text = .ok c) :
    ∃ d base, readAll Document.read text = .ok d ∧ d.defaultMembers = .ok base ∧
      Settings.ofMembers base = .ok c.defaults ∧
      List.Forall₂ (Document.LaidOver base c.defaults) d.paths c.table.entries := by
  unfold ofString at h
  split at h
  · rename_i d hd
    obtain ⟨base, hbase, hdefaults, hentries⟩ := Document.toConfiguration_eq_ok h
    have horder := Document.readAll_inOrder hd
    have hmade := (List.forall₂_and_left _ _).2 ⟨horder.entries, hentries⟩
    exact ⟨d, base, hd, hbase, hdefaults,
      hmade.imp fun p e ⟨hp, he⟩ => he.laidOver hp (Document.inOrder_defaultMembers horder hbase) hdefaults⟩
  · cases h

/-- The transport that the entry gives is lost to the other name that the defaults give. -/
theorem ofString_laidOver_otherName : ∃ (c : Configuration) (d : Document) (base : Members),
    ofString ("\x7b\"pathDefaults\":\x7b\"sourceProtocol\":\"udp\",\"username\":\"u\"\x7d," ++
      "\"paths\":\x7b\"cam\":\x7b\"rtspTransport\":\"tcp\",\"password\":\"p\"\x7d\x7d\x7d") = .ok c ∧
    c.table.entries.map (fun e => (e.settings.rtspTransport, e.settings.username, e.settings.password)) =
      [(.udp, "u", "p")] ∧
    d.defaultMembers = .ok base ∧ List.Forall₂ (Document.LaidOver base c.defaults) d.paths c.table.entries := by
  have hread : (ofString ("\x7b\"pathDefaults\":\x7b\"sourceProtocol\":\"udp\",\"username\":\"u\"\x7d," ++
      "\"paths\":\x7b\"cam\":\x7b\"rtspTransport\":\"tcp\",\"password\":\"p\"\x7d\x7d\x7d")).toOption.map
        (fun c => c.table.entries.map fun e =>
          (e.settings.rtspTransport, e.settings.username, e.settings.password)) = some [(.udp, "u", "p")] := by
    decide +kernel
  cases hc : ofString ("\x7b\"pathDefaults\":\x7b\"sourceProtocol\":\"udp\",\"username\":\"u\"\x7d," ++
      "\"paths\":\x7b\"cam\":\x7b\"rtspTransport\":\"tcp\",\"password\":\"p\"\x7d\x7d\x7d") with
  | error e =>
    rw [hc] at hread
    cases hread
  | ok c =>
    rw [hc] at hread
    obtain ⟨d, base, -, hbase, -, hentries⟩ := ofString_laidOver hc
    exact ⟨c, d, base, rfl, Option.some.inj hread, hbase, hentries⟩

end Configuration

end MediaPaths
