import Mathlib.Data.List.Nodup
import MediaPaths.Configuration.Store

/-!
# Which entry applies to a path

The name of an entry decides about its pattern. So when two configurations have entries of one name
apply to a path, they give the same texts for the groups.
-/

namespace MediaPaths

/-! ## Valid entries -/

theorem Entry.validate_name {s : Settings} {name : String} {e : Entry} (h : Entry.validate s name = .ok e) :
    e.name = name := by
  have hn := Entry.revalidate_name { settings := s } name
  unfold Entry.validate at h
  split at h
  · cases h
  · rename_i e' he
    rw [he] at hn
    cases h
    exact hn

theorem Entry.revalidate_pattern {e e' : Entry} {name : String}
    (h : e.revalidate name = (e', none)) : Entry.patternOf name = .ok e'.pattern := by
  unfold Entry.revalidate at h
  simp only at h
  split at h
  · cases h
  · rename_i pattern hp
    split at h
    · cases h
    · split at h
      · cases h
      · split at h <;> cases h
        exact hp

/-- A valid entry has the pattern that its name stands for. -/
theorem Entry.patternOf_of_validate {s : Settings} {name : String} {e : Entry}
    (h : Entry.validate s name = .ok e) : Entry.patternOf name = .ok e.pattern := by
  unfold Entry.validate at h
  split at h
  · cases h
  · rename_i e' he
    cases h
    exact Entry.revalidate_pattern he

/-- A name that stands for itself is a path name. -/
theorem Entry.fault?_of_patternOf {name : String} (h : Entry.patternOf name = .ok none) :
    Name.fault? name = none := by
  have hc : ∀ text, Entry.compile text ≠ .ok none := by
    intro text hn
    unfold Entry.compile at hn
    split at hn <;> cases hn
  unfold Entry.patternOf at h
  split at h
  · exact absurd h (hc _)
  · split at h
    · exact absurd h (hc _)
    · split at h
      · cases h
      · assumption

/-! ## The index -/

namespace Listing.Sound

variable {l : Listing} {name : String} {e : Entry} {i : Nat}

/-- No two entries have the same name, for the index has one position for each. -/
theorem distinct (h : l.Sound) : (l.entries.map (·.name)).Nodup := by
  rw [List.nodup_iff_getElem?_ne_getElem?]
  intro i j hij hj heq
  rw [List.getElem?_eq_getElem hj] at heq
  have hi := (h.indexed _ i).2 heq
  rw [(h.indexed _ j).2 (List.getElem?_eq_getElem hj)] at hi
  have := Option.some.inj hi
  omega

/-- The index has a position for a name just if an entry of that name stands there. -/
theorem lookup_eq_some (h : l.Sound) : l.index.lookup name = some i ↔ ∃ e, l.entries[i]? = some e ∧ e.name = name := by
  rw [h.indexed, names, List.getElem?_map, Option.map_eq_some_iff]

theorem get?_eq_some (h : l.Sound) : l.get? name = some e ↔ e ∈ l.entries ∧ e.name = name := by
  rw [get?, Option.bind_eq_some_iff]
  constructor
  · rintro ⟨i, hi, he⟩
    obtain ⟨f, hf, hname⟩ := h.lookup_eq_some.1 hi
    rw [he] at hf
    cases hf
    exact ⟨List.mem_of_getElem? he, hname⟩
  · rintro ⟨hmem, hname⟩
    obtain ⟨i, hi⟩ := List.mem_iff_getElem?.1 hmem
    exact ⟨i, h.lookup_eq_some.2 ⟨e, hi, hname⟩, hi⟩

theorem get?_eq_none (h : l.Sound) : l.get? name = none ↔ name ∉ l.names := by
  rw [Option.eq_none_iff_forall_ne_some, names, List.mem_map, not_exists]
  exact forall_congr' fun e => not_congr h.get?_eq_some

end Listing.Sound

namespace Table

variable {t t' : Table} {name : String} {m m' : Match}

theorem distinct (t : Table) : (t.entries.map (·.name)).Nodup := t.sound.distinct

theorem valid (t : Table) : ∀ e ∈ t.entries, ∃ s, Entry.validate s e.name = .ok e := t.sound.valid

/-- Declaring an entry succeeds with the entry, valid now, at the end. -/
theorem insert_eq_ok {s : Settings} (h : t.insert name s = .ok t') :
    ∃ e, Entry.validate s name = .ok e ∧ t'.entries = t.entries ++ [e] := by
  have hcases := t.inserts_run name { settings := s }
  unfold insert at h
  split at h
  · rename_i hrun
    cases h
    rw [hrun] at hcases
    cases hcases with
    | inserted hnone he => exact ⟨_, Entry.validate_eq_ok_of_revalidate he, rfl⟩
  · cases h

theorem patternOf_of_mem {e : Entry} (he : e ∈ t.entries) :
    Entry.patternOf e.name = .ok e.pattern := by
  obtain ⟨s, hs⟩ := t.valid e he
  exact Entry.patternOf_of_validate hs

theorem entry_of_matchPattern? {e : Entry} (h : matchPattern? name e = some m) : m.entry = e := by
  unfold matchPattern? at h
  split at h
  · cases h
  · obtain ⟨groups, -, rfl⟩ := Option.map_eq_some_iff.1 h
    rfl

/-- The entry that applies to a path is the one of its very name, or another one whose pattern
matches. -/
theorem find_cases (h : t.find name = .ok m) :
    m.entry ∈ t.entries ∧ (m.entry.name = name ∧ m.groups = none ∨
      m.entry.name ≠ name ∧ matchPattern? name m.entry = some m) := by
  unfold find at h
  split at h
  · cases h
  · split at h
    · rename_i e he
      cases h
      obtain ⟨hmem, hn⟩ := t.sound.get?_eq_some.1 he
      exact ⟨hmem, .inl ⟨hn, rfl⟩⟩
    · rename_i hnone
      have hother : ∀ e ∈ t.entries, e.name ≠ name := by
        intro e he hn
        exact t.sound.get?_eq_none.1 hnone (List.mem_map.2 ⟨e, he, hn⟩)
      have hfound : ∀ {es : List Entry}, (∀ e ∈ es, e ∈ t.entries) →
          es.findSome? (matchPattern? name) = some m →
          m.entry ∈ t.entries ∧ (m.entry.name = name ∧ m.groups = none ∨
            m.entry.name ≠ name ∧ matchPattern? name m.entry = some m) := by
        intro es hes hm
        obtain ⟨e, he, hem⟩ := List.exists_of_findSome?_eq_some hm
        obtain rfl := entry_of_matchPattern? hem
        exact ⟨hes _ he, .inr ⟨hother _ (hes _ he), hem⟩⟩
      simp only [List.partition_eq_filter_filter] at h
      split at h
      · cases h
        exact hfound (fun e he => List.mem_of_mem_filter he) ‹_›
      · split at h
        · cases h
          exact hfound (fun e he => List.mem_of_mem_filter he) ‹_›
        · cases h

/-- Whether a pattern matched, and which texts its groups have, depends on the names of the path and of
the entry only. -/
theorem groups_eq_of_name_eq (h : t.find name = .ok m) (h' : t'.find name = .ok m')
    (hn : m.entry.name = m'.entry.name) : m.groups = m'.groups := by
  obtain ⟨hm, hg⟩ := find_cases h
  obtain ⟨hm', hg'⟩ := find_cases h'
  have hp : m.entry.pattern = m'.entry.pattern := by
    have hp := patternOf_of_mem hm
    rw [hn, patternOf_of_mem hm'] at hp
    exact (Except.ok.inj hp).symm
  rcases hg with ⟨hx, hg⟩ | ⟨hx, hg⟩
  · rcases hg' with ⟨-, hg'⟩ | ⟨hx', -⟩
    · rw [hg, hg']
    · exact absurd (hn ▸ hx) hx'
  · rcases hg' with ⟨hx', -⟩ | ⟨-, hg'⟩
    · exact absurd (hn ▸ hx') hx
    · unfold matchPattern? at hg hg'
      rw [hp] at hg
      split at hg
      · cases hg
      · rename_i p hpat
        rw [hpat] at hg'
        obtain ⟨groups, hc, hg⟩ := Option.map_eq_some_iff.1 hg
        obtain ⟨groups', hc', hg'⟩ := Option.map_eq_some_iff.1 hg'
        rw [hc] at hc'
        rw [← hg, ← hg', Option.some.inj hc']

/-- An entry is found under its name. -/
theorem get?_of_mem {e : Entry} (he : e ∈ t.entries) : t.get? e.name = some e := t.sound.get?_eq_some.2 ⟨he, rfl⟩

/-- An entry about a single path applies to it. -/
theorem find_of_mem {e : Entry} (he : e ∈ t.entries) (hp : e.pattern = none) :
    t.find e.name = .ok ⟨e, none⟩ := by
  have hf : Name.fault? e.name = none := by
    refine Entry.fault?_of_patternOf ?_
    rw [patternOf_of_mem he, hp]
  simp [find, hf, get?_of_mem he]

end Table

end MediaPaths
