import MediaPaths.Proofs.Entry.Rules

/-!
# Tables as declarations leave them

The entries of a table and its index are two things that one declaration changes one after the other. Whatever has been
declared before, with or without success, they fit together: the index has the position of each entry under its name and
nothing else, and what was refused has left no trace in either.
-/

namespace MediaPaths.Listing

variable {l l' : Listing} {c : String × Entry} {calls : List (String × Entry)} {results : List (Option ConfigError)}
  {name : String} {e e' : Entry} {err : ConfigError}

/-! ## Runs of declarations -/

/-- What a declaration leaves, and what is wrong if it is refused. -/
def declare (l : Listing) (c : String × Entry) : Listing × Option ConfigError :=
  match (insert c.1 c.2).run l with
  | .ok _ l' => (l', none)
  | .error err l' => (l', some err)

/-- What declarations one after the other leave, and what each of them came to. -/
def declareAll (l : Listing) : List (String × Entry) → Listing × List (Option ConfigError)
  | [] => (l, [])
  | c :: calls => (((l.declare c).1.declareAll calls).1, (l.declare c).2 :: ((l.declare c).1.declareAll calls).2)

/-- The declarations that were not refused. -/
def accepted (calls : List (String × Entry)) (results : List (Option ConfigError)) : List (String × Entry) :=
  ((calls.zip results).filter (·.2.isNone)).map (·.1)

/-- How the parts of a listing fit together, and to what was declared. -/
structure Keeps (calls : List (String × Entry)) (results : List (Option ConfigError)) (l : Listing) : Prop where
  /-- Every declaration has come to something. -/
  length : results.length = calls.length
  /-- The entries are those that were accepted, as validated under their names, in the order of their declaration. -/
  entries : l.entries = (accepted calls results).map fun c => (c.2.revalidate c.1).1
  /-- No two of them have the same name. -/
  distinct : l.names.Nodup
  /-- The index has a position for a name just if the entry of this name stands there. -/
  index : ∀ name i, l.index.lookup name = some i ↔ ∃ e, l.entries[i]? = some e ∧ e.name = name
  /-- The index has no other keys. -/
  keys : ∀ name, name ∈ l.index.map (·.1) ↔ name ∈ l.names
  /-- What is found under a name is the entry that was accepted under it. -/
  get : ∀ name e, l.get? name = some e ↔ ∃ c, (name, c) ∈ accepted calls results ∧ c.revalidate name = (e, none)
  /-- An entry has the pattern that its name stands for, if it is about many paths. -/
  pattern : ∀ e ∈ l.entries, Entry.Names e.name e.pattern ∧ (e.pattern.isSome = true ↔ Entry.IsMany e.name)

/-! ## Steps and runs -/

theorem accepted_cons_error : accepted (c :: calls) (some err :: results) = accepted calls results := rfl

theorem accepted_cons_ok : accepted (c :: calls) (none :: results) = c :: accepted calls results := rfl

/-- A declaration is refused and changes nothing, or the entry stands at the end, valid, and the index has it. -/
theorem Sound.declare (h : l.Sound) (c : String × Entry) : (∃ err, l.declare c = (l, some err)) ∨
    ∃ e l', c.2.revalidate c.1 = (e, none) ∧ l.declare c = (l', none) ∧ l'.Sound ∧ l'.entries = l.entries ++ [e] := by
  have hcases := l.inserts_run c.1 c.2
  unfold Listing.declare
  generalize (insert c.1 c.2).run l = r at hcases
  cases hcases with
  | duplicate | refused => exact .inl ⟨_, rfl⟩
  | inserted hnone he => exact .inr ⟨_, _, he, rfl, h.inserted (.inserted hnone he), rfl⟩

/-- A run of declarations adds the entries that were accepted, and keeps the index right. -/
theorem Sound.declareAll (h : l.Sound) (calls : List (String × Entry)) :
    (l.declareAll calls).1.Sound ∧ (l.declareAll calls).2.length = calls.length ∧
    (l.declareAll calls).1.entries =
      l.entries ++ (accepted calls (l.declareAll calls).2).map (fun c => (c.2.revalidate c.1).1) ∧
    ∀ c ∈ accepted calls (l.declareAll calls).2, (c.2.revalidate c.1).2 = none := by
  induction calls generalizing l with
  | nil => exact ⟨h, rfl, (List.append_nil _).symm, List.forall_mem_nil _⟩
  | cons c calls ih =>
    obtain ⟨err, hc⟩ | ⟨e, l', he, hc, hsound, hentries⟩ := h.declare c
    · obtain ⟨hlast, hlength, hall, haccepted⟩ := ih h
      simp only [Listing.declareAll, hc, accepted_cons_error]
      exact ⟨hlast, congrArg Nat.succ hlength, hall, haccepted⟩
    · obtain ⟨hlast, hlength, hall, haccepted⟩ := ih hsound
      simp only [Listing.declareAll, hc, accepted_cons_ok]
      refine ⟨hlast, congrArg Nat.succ hlength, ?_, List.forall_mem_cons.2 ⟨by rw [he], haccepted⟩⟩
      rw [hall, hentries, List.map_cons, he, List.append_assoc, List.singleton_append]

theorem Sound.mem_keys (h : l.Sound) : name ∈ l.index.map (·.1) ↔ name ∈ l.names := by
  rw [← not_iff_not, ← h.lookup_eq_none, List.lookup_eq_none_iff]
  constructor
  · rintro hkeys p hp
    rw [bne_iff_ne]
    rintro rfl
    exact hkeys (List.mem_map_of_mem hp)
  · rintro hall hkeys
    obtain ⟨p, hp, rfl⟩ := List.mem_map.1 hkeys
    simpa using hall p hp

/-- Whatever is declared on an empty table, the entries are those that were accepted, the index and they fit together,
and a declaration more is refused without a trace, first of all for a name that is taken, or adds its entry. -/
theorem declareAll_keeps (calls : List (String × Entry)) :
    Keeps calls (declareAll {} calls).2 (declareAll {} calls).1 ∧
    ∀ name e, (declareAll {} calls).1.Inserts name e ((insert name e).run (declareAll {} calls).1) := by
  obtain ⟨hsound, hlength, hentries, haccepted⟩ := sound_empty.declareAll calls
  rw [List.nil_append] at hentries
  refine ⟨⟨hlength, hentries, hsound.distinct, fun _ _ => hsound.lookup_eq_some, fun _ => hsound.mem_keys,
    fun name e => ?_, fun e he => ?_⟩, fun name e => inserts_run ..⟩
  · rw [hsound.get?_eq_some, hentries, List.mem_map]
    constructor
    · rintro ⟨⟨c, hc, rfl⟩, rfl⟩
      rw [Entry.revalidate_name]
      exact ⟨c.2, hc, Prod.ext rfl (haccepted c hc)⟩
    · rintro ⟨c, hc, he⟩
      have hname := Entry.revalidate_name c name
      rw [he] at hname
      exact ⟨⟨_, hc, by rw [he]⟩, hname⟩
  · obtain ⟨s, hs⟩ := hsound.valid e he
    have hnames := Entry.patternOf_eq_ok.1 (Entry.patternOf_of_validate hs)
    exact ⟨hnames, Entry.isMany_iff hnames⟩

example : (declareAll {} [("cam", {}), ("cam", { settings := { source := "?" } }), ("a b", {}), ("~^pub$", {})]).2 =
    [none, some (.duplicate "cam"), some (.entry (.invalidName "a b" .invalidCharacters)), none] := by decide +kernel

end MediaPaths.Listing
