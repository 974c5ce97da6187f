import MediaPaths.Configuration.Error
import MediaPaths.Entry.Basic

/-!
# The table of entries

Entries are kept in the order in which they were declared, no two under one name, with an index that says where the
entry of each name stands. The entry that applies to a path is the one of its very name if there is one, then the first
whose pattern matches, and last of all the catch-alls.
-/

namespace MediaPaths

namespace Entry

theorem revalidate_name (e : Entry) (name : String) : (e.revalidate name).1.name = name := by
  unfold revalidate
  simp only
  split
  · rfl
  · split
    · rfl
    · split
      · rfl
      · split <;> rfl

/-- Validation does not depend on the name and the pattern that an entry had before. -/
theorem validate_eq_ok_of_revalidate {e e' : Entry} {name : String} (h : e.revalidate name = (e', none)) :
    validate e.settings name = .ok e' := by
  have hsame : revalidate { settings := e.settings } name = (e', none) := by
    unfold revalidate at h ⊢
    dsimp only at h ⊢
    split at h
    · cases h
    · exact h
  rw [validate, hsame]

end Entry

/-- Entries in the order of their declaration, and where they stand. -/
structure Listing where
  /-- The entries in the order of their declaration. -/
  entries : List Entry := []
  /-- The position of the entry of each name. -/
  index : List (String × Nat) := []

namespace Listing

/-- The names of the entries. -/
def names (l : Listing) : List String := l.entries.map (·.name)

/-- The entry at the position that the index has for a name. -/
def get? (l : Listing) (name : String) : Option Entry := (l.index.lookup name).bind fun i => l.entries[i]?

/-- Declares an entry at the end. A name that is taken is refused before the entry is looked at. -/
def insert (name : String) (e : Entry) : EStateM ConfigError Listing Unit := do
  if ((← get).index.lookup name).isSome then throw (.duplicate name)
  match e.revalidate name with
  | (_, some err) => throw (.entry err)
  | (e, none) =>
    modify fun l => { l with index := (name, l.entries.length) :: l.index }
    modify fun l => { l with entries := l.entries ++ [e] }

/-- The index leads from each name to the entry of that name and from no other text anywhere, and every entry is
valid. -/
structure Sound (l : Listing) : Prop where
  /-- The index has a position for a name just if the entry there has this name. -/
  indexed : ∀ name i, l.index.lookup name = some i ↔ l.names[i]? = some name
  /-- Every entry is valid under its name. -/
  valid : ∀ e ∈ l.entries, ∃ s, Entry.validate s e.name = .ok e

theorem sound_empty : Sound {} := ⟨fun _ _ => by simp [names], List.forall_mem_nil _⟩

/-- What becomes of a declaration: the name is taken, or the entry is not valid, or it stands at the end now. -/
inductive Inserts (l : Listing) (name : String) (e : Entry) : EStateM.Result ConfigError Listing Unit → Prop where
  | duplicate {i : Nat} (h : l.index.lookup name = some i) : Inserts l name e (.error (.duplicate name) l)
  | refused {e' : Entry} {err : EntryError} (h : l.index.lookup name = none) (he : e.revalidate name = (e', some err)) :
      Inserts l name e (.error (.entry err) l)
  | inserted {e' : Entry} (h : l.index.lookup name = none) (he : e.revalidate name = (e', none)) :
      Inserts l name e (.ok () ⟨l.entries ++ [e'], (name, l.entries.length) :: l.index⟩)

theorem inserts_run (l : Listing) (name : String) (e : Entry) : l.Inserts name e ((insert name e).run l) := by
  have hrun : (insert name e).run l =
      if (l.index.lookup name).isSome then .error (.duplicate name) l
      else match e.revalidate name with
        | (_, some err) => .error (.entry err) l
        | (e', none) => .ok () ⟨l.entries ++ [e'], (name, l.entries.length) :: l.index⟩ := by
    simp only [insert, EStateM.run_bind, EStateM.run_get]
    split
    · rfl
    · rcases e.revalidate name with ⟨e', _ | err⟩ <;> rfl
  rw [hrun]
  split
  · rename_i htaken
    obtain ⟨i, hi⟩ := Option.isSome_iff_exists.1 htaken
    exact .duplicate hi
  · rename_i hfree
    have hnone : l.index.lookup name = none := Option.not_isSome_iff_eq_none.1 hfree
    rcases he : e.revalidate name with ⟨e', _ | err⟩
    · exact .inserted hnone he
    · exact .refused hnone he

namespace Sound

variable {l l' : Listing} {name : String} {e : Entry}

/-- A name that the index does not have is the name of no entry. -/
theorem lookup_eq_none (h : l.Sound) : l.index.lookup name = none ↔ name ∉ l.names := by
  rw [Option.eq_none_iff_forall_ne_some, List.mem_iff_getElem?, not_exists]
  exact forall_congr' fun i => not_congr (h.indexed name i)

/-- A declaration that gives no error leaves an index that is right. -/
theorem inserted (h : l.Sound) (hr : l.Inserts name e (.ok () l')) : l'.Sound := by
  cases hr with
  | @inserted e' hnone he =>
    have hname : e'.name = name := by
      have hname := Entry.revalidate_name e name
      rwa [he] at hname
    have hnew : name ∉ l.names := h.lookup_eq_none.1 hnone
    have hnames : names ⟨l.entries ++ [e'], (name, l.entries.length) :: l.index⟩ = l.names ++ [name] := by
      simp [names, hname]
    have hlength : l.entries.length = l.names.length := by simp [names]
    refine ⟨fun n i => ?_, fun f hf => ?_⟩
    · rw [hnames, hlength]
      by_cases hn : n = name
      · subst hn
        rw [List.lookup_cons_self, List.getElem?_append]
        split
        · rename_i hlt
          have hne : l.names[i]? ≠ some n := fun heq => hnew (List.mem_of_getElem? heq)
          simp only [hne, iff_false, Option.some.injEq]
          omega
        · rw [List.getElem?_singleton]
          split <;> simp <;> omega
      · have hbeq : (n == name) = false := by simpa using hn
        rw [List.lookup_cons, hbeq, h.indexed, List.getElem?_append]
        split
        · rfl
        · rename_i hge
          rw [List.getElem?_eq_none (by omega), List.getElem?_singleton]
          split <;> simp [Ne.symm hn]
    · rcases List.mem_append.1 hf with hf | hf
      · exact h.valid f hf
      · rw [List.mem_singleton.1 hf, hname]
        exact ⟨e.settings, Entry.validate_eq_ok_of_revalidate he⟩

end Sound

end Listing

/-- The entries of a configuration. -/
structure Table extends Listing where
  /-- The index is right and the entries are valid. -/
  sound : toListing.Sound := by exact Listing.sound_empty

/-- The entry that applies to a path. -/
structure Match where
  /-- The entry. -/
  entry : Entry
  /-- The texts of the groups if a pattern matched, the whole name first. -/
  groups : Option (List String)
  deriving DecidableEq

namespace Table

instance : Inhabited Table := ⟨{}⟩

/-- Declares an entry with settings at the end, unless its name is taken or it is not valid. -/
def insert (t : Table) (name : String) (s : Settings) : Except ConfigError Table :=
  match h : (Listing.insert name { settings := s }).run t.toListing with
  | .ok _ _ => .ok ⟨_, t.sound.inserted (h ▸ t.inserts_run name { settings := s })⟩
  | .error e _ => .error e

/-- The match of an entry's pattern with a name. -/
def matchPattern? (name : String) (e : Entry) : Option Match :=
  match e.pattern with
  | none => none
  | some p => (p.captures name).map fun groups => ⟨e, some groups⟩

/-- The entry that applies to a path. -/
def find (t : Table) (name : String) : Except LookupError Match :=
  match Name.fault? name with
  | some e => .error (.invalidName name e)
  | none =>
    match t.get? name with
    | some e => .ok ⟨e, none⟩
    | none =>
      let (last, first) := t.entries.partition fun e => Name.isCatchAll e.name
      match first.findSome? (matchPattern? name) with
      | some m => .ok m
      | none =>
        match last.findSome? (matchPattern? name) with
        | some m => .ok m
        | none => .error (.notConfigured name)

end Table

end MediaPaths
