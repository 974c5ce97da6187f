import MediaPaths.Proofs.Configuration.Documents
import MediaPaths.Proofs.Configuration.Lookup
import MediaPaths.Proofs.Regex.Anything
import MediaPaths.Proofs.Regex.Finding

/-!
# What a lookup answers

`Table.Answers` says which answer a request for a path has, in terms of the names of the entries: the entry of
that very name comes first, then the first that begins with a tilde and whose pattern matches, then the first
of the catch-alls. A lookup gives this answer and no other. The entries stand in the order of the document.
-/

namespace MediaPaths

open Json Regex

/-- The grammar of path names. -/
def Name.IsPathName (name : String) : Prop :=
  name.toList ≠ [] ∧ name.toList.head? ≠ some '/' ∧ name.toList.getLast? ≠ some '/' ∧
    ∀ c ∈ name.toList, Name.isAllowed c = true

/-- The texts of all groups of a match, given by where they begin and end. A group that took no part in the match
has the empty text. -/
def Regex.Pattern.texts (p : Pattern) (name : String) (slots : Slots) : List String :=
  (List.range p.groups).map fun i =>
    match slots.getD (2 * i) none, slots.getD (2 * i + 1) none with
    | some a, some b => String.ofList ((name.toList.drop a).take (b - a))
    | _, _ => ""

/-- The name of the entry is a tilde and a pattern that matches somewhere in the name of a path, with these texts
of its groups. -/
def Entry.Captures (e : Entry) (name : String) (groups : List String) : Prop :=
  ∃ text p slots, e.name.toList = '~' :: text ∧ Pattern.compile? (String.ofList text) = some p ∧
    search (program p.expr) (2 * p.groups) name.toList = some slots ∧ groups = p.texts name slots

/-- The pattern behind the tilde, read as an expression, matches from this position of the name on, with these texts
of its groups. The whole pattern is the group `0`, and there is a slot for either end of each group. -/
def Entry.MatchesAt (e : Entry) (name : String) (i : Nat) (groups : List String) : Prop :=
  ∃ text p j slots, e.name.toList = '~' :: text ∧ Pattern.compile? (String.ofList text) = some p ∧
    i ≤ name.toList.length ∧
    (Expr.group 0 p.expr).Matches name.toList (i, .replicate (2 * p.groups) none) (j, slots) ∧
    groups = p.texts name slots

namespace Table

/-- The answer that a request for a path has. -/
inductive Answers (t : Table) (name : String) : Except LookupError Match → Prop where
  | invalid {e : NameError} (h : ¬ Name.IsPathName name) (he : Name.fault? name = some e) :
      Answers t name (.error (.invalidName name e))
  | exact {e : Entry} (h : Name.IsPathName name) (he : e ∈ t.entries) (hname : e.name = name) :
      Answers t name (.ok ⟨e, none⟩)
  | pattern {before after : List Entry} {e : Entry} {groups : List String} (h : Name.IsPathName name)
      (hname : name ∉ t.names) (ht : t.entries = before ++ e :: after)
      (hbefore : ∀ f ∈ before, ∀ groups, ¬ f.Captures name groups) (he : e.Captures name groups) :
      Answers t name (.ok ⟨e, some groups⟩)
  | catchAll {before after : List Entry} {e : Entry} (h : Name.IsPathName name)
      (hname : name ∉ t.names) (hnone : ∀ f ∈ t.entries, ∀ groups, ¬ f.Captures name groups)
      (ht : t.entries = before ++ e :: after) (hbefore : ∀ f ∈ before, Name.isCatchAll f.name = false)
      (he : Name.isCatchAll e.name = true) : Answers t name (.ok ⟨e, some [name]⟩)
  | notConfigured (h : Name.IsPathName name) (hname : name ∉ t.names)
      (hnone : ∀ f ∈ t.entries, ∀ groups, ¬ f.Captures name groups)
      (hcatchAll : ∀ f ∈ t.entries, Name.isCatchAll f.name = false) :
      Answers t name (.error (.notConfigured name))

variable {t : Table} {name : String} {e : Entry} {groups : List String} {m : Match}

/-! ## Entries whose pattern matches -/

theorem captures_eq_some {p : Pattern} : p.captures name = some groups ↔
    ∃ slots, search (program p.expr) (2 * p.groups) name.toList = some slots ∧ groups = p.texts name slots := by
  unfold Pattern.captures
  rw [Option.map_eq_some_iff]
  constructor
  · rintro ⟨slots, hs, rfl⟩
    exact ⟨slots, hs, rfl⟩
  · rintro ⟨slots, hs, rfl⟩
    exact ⟨slots, hs, rfl⟩

/-- The match that a search finds is one of the expression, and none begins before it. -/
theorem matchesAt_of_captures (h : e.Captures name groups) :
    ∃ i, e.MatchesAt name i groups ∧ ∀ k < i, ∀ groups', ¬ e.MatchesAt name k groups' := by
  obtain ⟨text, p, slots, htext, hp, hs, hgroups⟩ := h
  obtain ⟨i, hi, ⟨j, hj⟩, hfirst⟩ := search_eq_some hs
  refine ⟨i, ⟨text, p, j, slots, htext, hp, hi, hj, hgroups⟩, fun k hk groups' hk' => ?_⟩
  obtain ⟨text', p', j', slots', htext', hp', -, hmatch, -⟩ := hk'
  obtain rfl := (List.cons.inj (htext.symm.trans htext')).2
  obtain rfl := Option.some.inj (hp.symm.trans hp')
  exact hfirst k hk _ hmatch

/-- A search finds a match just if the expression matches somewhere. -/
theorem exists_captures_iff : (∃ groups, e.Captures name groups) ↔ ∃ i groups, e.MatchesAt name i groups := by
  constructor
  · rintro ⟨groups, h⟩
    obtain ⟨i, hi, -⟩ := matchesAt_of_captures h
    exact ⟨i, groups, hi⟩
  · rintro ⟨i, groups, text, p, j, slots, htext, hp, hi, hmatch, -⟩
    cases hs : search (program p.expr) (2 * p.groups) name.toList with
    | none => exact absurd hmatch (search_eq_none hs hi _)
    | some slots' => exact ⟨_, text, p, slots', htext, hp, hs, rfl⟩

theorem matchPattern?_eq_some : matchPattern? name e = some m ↔
    ∃ p groups, e.pattern = some p ∧ p.captures name = some groups ∧ m = ⟨e, some groups⟩ := by
  unfold matchPattern?
  cases e.pattern with
  | none => simp
  | some p => simp [Option.map_eq_some_iff, eq_comm (a := m)]

theorem not_isCatchAll_of_tilde {text : List Char} (h : e.name.toList = '~' :: text) :
    Name.isCatchAll e.name = false := by
  have hne : ∀ s : String, s.toList.head? ≠ some '~' → e.name ≠ s := by
    rintro s hs rfl
    simp [h] at hs
  have hall := hne "all" (by decide)
  have hothers := hne "all_others" (by decide)
  simp [Name.isCatchAll, hall, hothers]

theorem compile_eq_some {text : String} {p : Pattern} :
    Entry.compile text = .ok (some p) ↔ Pattern.compile? text = some p := by
  unfold Entry.compile
  cases Pattern.compile? text with
  | none => simp
  | some q => simp

/-- An entry that is no catch-all has a pattern if its name begins with a tilde. -/
theorem pattern_eq_some (he : e ∈ t.entries) (hc : Name.isCatchAll e.name = false) {p : Pattern} :
    e.pattern = some p ↔
      ∃ text, e.name.toList = '~' :: text ∧ Pattern.compile? (String.ofList text) = some p := by
  have hp := patternOf_of_mem he
  unfold Entry.patternOf at hp
  rw [hc, if_neg (by simp)] at hp
  split at hp
  · rename_i text htext
    constructor
    · intro h
      rw [h, compile_eq_some] at hp
      exact ⟨text, htext, hp⟩
    · rintro ⟨text', htext', hcompile⟩
      obtain rfl := (List.cons.inj (htext.symm.trans htext')).2
      rw [compile_eq_some.2 hcompile] at hp
      exact (Except.ok.inj hp).symm
  · rename_i hno
    constructor
    · intro h
      rw [h] at hp
      split at hp <;> cases hp
    · rintro ⟨text, htext, -⟩
      exact absurd htext (hno text)

/-- The match of an entry that is no catch-all. -/
def matchTilde? (name : String) (e : Entry) : Option Match :=
  if !Name.isCatchAll e.name then matchPattern? name e else none

/-- The match of a catch-all. -/
def matchCatchAll? (name : String) (e : Entry) : Option Match :=
  if Name.isCatchAll e.name then matchPattern? name e else none

/-- The entries that are no catch-alls and match are those whose pattern behind a tilde matches. -/
theorem tilde_eq_some (he : e ∈ t.entries) :
    matchTilde? name e = some m ↔
      ∃ groups, e.Captures name groups ∧ m = ⟨e, some groups⟩ := by
  unfold matchTilde?
  cases hc : Name.isCatchAll e.name with
  | true =>
    simp only [Bool.not_true, Bool.false_eq_true, if_false, reduceCtorEq, false_iff]
    rintro ⟨groups, ⟨text, -, -, htext, -⟩, -⟩
    rw [not_isCatchAll_of_tilde htext] at hc
    cases hc
  | false =>
    simp only [Bool.not_false, if_true, matchPattern?_eq_some, pattern_eq_some he hc, captures_eq_some,
      Entry.Captures]
    constructor
    · rintro ⟨p, groups, ⟨text, htext, hp⟩, ⟨slots, hs, rfl⟩, rfl⟩
      exact ⟨_, ⟨text, p, slots, htext, hp, hs, rfl⟩, rfl⟩
    · rintro ⟨groups, ⟨text, p, slots, htext, hp, hs, rfl⟩, rfl⟩
      exact ⟨p, _, ⟨text, htext, hp⟩, ⟨slots, hs, rfl⟩, rfl⟩

theorem tilde_eq_none (he : e ∈ t.entries) :
    matchTilde? name e = none ↔
      ∀ groups, ¬ e.Captures name groups := by
  rw [Option.eq_none_iff_forall_not_mem]
  constructor
  · intro h groups hcaptures
    exact h _ ((tilde_eq_some he).2 ⟨groups, hcaptures, rfl⟩)
  · intro h m hm
    obtain ⟨groups, hcaptures, -⟩ := (tilde_eq_some he).1 hm
    exact h groups hcaptures

theorem ne_newline_of_isAllowed {c : Char} (h : Name.isAllowed c = true) : c ≠ '\n' := by
  rintro rfl
  exact absurd h (by decide)

/-- A catch-all matches every path name. -/
theorem matchPattern?_catchAll (he : e ∈ t.entries) (hc : Name.isCatchAll e.name = true)
    (h : Name.IsPathName name) : matchPattern? name e = some ⟨e, some [name]⟩ := by
  have hp := patternOf_of_mem he
  unfold Entry.patternOf at hp
  rw [if_pos hc] at hp
  unfold Entry.compile at hp
  split at hp
  · rename_i p hcompile
    have hcaptures := Pattern.captures_anything (Pattern.compile?_eq_some.1 hcompile)
      fun c hmem => ne_newline_of_isAllowed (h.2.2.2 c hmem)
    exact matchPattern?_eq_some.2 ⟨p, _, (Except.ok.inj hp).symm, hcaptures, rfl⟩
  · cases hp

theorem catchAll_eq_some (he : e ∈ t.entries) (h : Name.IsPathName name) :
    matchCatchAll? name e = some m ↔
      Name.isCatchAll e.name = true ∧ m = ⟨e, some [name]⟩ := by
  unfold matchCatchAll?
  cases hc : Name.isCatchAll e.name with
  | true => simp [matchPattern?_catchAll he hc h, eq_comm (a := m)]
  | false => simp

theorem catchAll_eq_none (he : e ∈ t.entries) (h : Name.IsPathName name) :
    matchCatchAll? name e = none ↔ Name.isCatchAll e.name = false := by
  unfold matchCatchAll?
  cases hc : Name.isCatchAll e.name with
  | true => simp [matchPattern?_catchAll he hc h]
  | false => simp

/-! ## Lookups -/

theorem findSome?_filter {α β : Type} {q : α → Bool} {f : α → Option β} {as : List α} :
    (as.filter q).findSome? f = as.findSome? fun a => if q a then f a else none := by
  induction as with
  | nil => rfl
  | cons a as ih =>
    cases hq : q a with
    | false => simp [hq, ih]
    | true => simp [hq, ih, List.findSome?_cons]

theorem findSome?_tildes : (t.entries.filter fun e => !Name.isCatchAll e.name).findSome? (matchPattern? name) =
    t.entries.findSome? (matchTilde? name) := findSome?_filter

theorem findSome?_catchAlls : (t.entries.filter fun e => Name.isCatchAll e.name).findSome? (matchPattern? name) =
    t.entries.findSome? (matchCatchAll? name) := findSome?_filter

theorem mem_of_split {es before after : List Entry} (h : es = before ++ e :: after) :
    (∀ f ∈ before, f ∈ es) ∧ e ∈ es := by
  subst h
  exact ⟨fun f hf => List.mem_append_left _ hf, List.mem_append_right _ (List.mem_cons_self ..)⟩

theorem find_of_pattern (h : Name.IsPathName name) (hname : name ∉ t.names)
    (hm : t.entries.findSome? (matchTilde? name) = some m) :
    t.find name = .ok m := by
  simp only [find, Name.fault?_eq_none.2 h, t.sound.get?_eq_none.2 hname, List.partition_eq_filter_filter,
    Function.comp_def, findSome?_tildes, hm]

theorem find_of_noPattern (h : Name.IsPathName name) (hname : name ∉ t.names)
    (hnone : t.entries.findSome? (matchTilde? name) = none)
    (hm : t.entries.findSome? (matchCatchAll? name) = some m) :
    t.find name = .ok m := by
  simp only [find, Name.fault?_eq_none.2 h, t.sound.get?_eq_none.2 hname, List.partition_eq_filter_filter,
    Function.comp_def, findSome?_tildes, findSome?_catchAlls, hnone, hm]

theorem find_of_nothing (h : Name.IsPathName name) (hname : name ∉ t.names)
    (hnone : t.entries.findSome? (matchTilde? name) = none)
    (hm : t.entries.findSome? (matchCatchAll? name) = none) :
    t.find name = .error (.notConfigured name) := by
  simp only [find, Name.fault?_eq_none.2 h, t.sound.get?_eq_none.2 hname, List.partition_eq_filter_filter,
    Function.comp_def, findSome?_tildes, findSome?_catchAlls, hnone, hm]

/-- A lookup gives the answer that a request has. -/
theorem find_of_answers {r : Except LookupError Match} (h : t.Answers name r) : t.find name = r := by
  cases h with
  | invalid h he => simp [find, he]
  | exact h he hname =>
    subst hname
    simp [find, Name.fault?_eq_none.2 h, get?_of_mem he]
  | @pattern before after e groups h hname ht hbefore he =>
    obtain ⟨hmem, hin⟩ := mem_of_split ht
    have hfirst : t.entries.findSome? (matchTilde? name) =
        some ⟨e, some groups⟩ :=
      List.findSome?_eq_some_iff.2 ⟨before, e, after, ht, (tilde_eq_some hin).2 ⟨groups, he, rfl⟩,
        fun f hf => (tilde_eq_none (hmem f hf)).2 (hbefore f hf)⟩
    exact find_of_pattern h hname hfirst
  | @catchAll before after e h hname hnone ht hbefore he =>
    obtain ⟨hmem, hin⟩ := mem_of_split ht
    have hpatterns : t.entries.findSome? (matchTilde? name) = none :=
      List.findSome?_eq_none_iff.2 fun f hf => (tilde_eq_none hf).2 (hnone f hf)
    have hfirst : t.entries.findSome? (matchCatchAll? name) =
        some ⟨e, some [name]⟩ :=
      List.findSome?_eq_some_iff.2 ⟨before, e, after, ht, (catchAll_eq_some hin h).2 ⟨he, rfl⟩,
        fun f hf => (catchAll_eq_none (hmem f hf) h).2 (hbefore f hf)⟩
    exact find_of_noPattern h hname hpatterns hfirst
  | notConfigured h hname hnone hcatchAll =>
    have hpatterns : t.entries.findSome? (matchTilde? name) = none :=
      List.findSome?_eq_none_iff.2 fun f hf => (tilde_eq_none hf).2 (hnone f hf)
    have hcatchAlls : t.entries.findSome? (matchCatchAll? name) = none :=
      List.findSome?_eq_none_iff.2 fun f hf => (catchAll_eq_none hf h).2 (hcatchAll f hf)
    exact find_of_nothing h hname hpatterns hcatchAlls

/-- Every request has an answer. -/
theorem exists_answers (t : Table) (name : String) : ∃ r, t.Answers name r := by
  by_cases h : Name.IsPathName name
  · by_cases hname : name ∈ t.names
    · obtain ⟨e, he, rfl⟩ := List.mem_map.1 hname
      exact ⟨_, .exact h he rfl⟩
    · cases hp : t.entries.findSome? (matchTilde? name) with
      | some m =>
        obtain ⟨before, e, after, ht, he, hbefore⟩ := List.findSome?_eq_some_iff.1 hp
        obtain ⟨hmem, hin⟩ := mem_of_split ht
        obtain ⟨groups, hcaptures, rfl⟩ := (tilde_eq_some hin).1 he
        exact ⟨_, .pattern h hname ht (fun f hf => (tilde_eq_none (hmem f hf)).1 (hbefore f hf)) hcaptures⟩
      | none =>
        have hnone : ∀ f ∈ t.entries, ∀ groups, ¬ f.Captures name groups := fun f hf =>
          (tilde_eq_none hf).1 (List.findSome?_eq_none_iff.1 hp f hf)
        cases hc : t.entries.findSome? (matchCatchAll? name) with
        | some m =>
          obtain ⟨before, e, after, ht, he, hbefore⟩ := List.findSome?_eq_some_iff.1 hc
          obtain ⟨hmem, hin⟩ := mem_of_split ht
          obtain ⟨hcatchAll, rfl⟩ := (catchAll_eq_some hin h).1 he
          exact ⟨_, .catchAll h hname hnone ht (fun f hf => (catchAll_eq_none (hmem f hf) h).1 (hbefore f hf))
            hcatchAll⟩
        | none =>
          exact ⟨_, .notConfigured h hname hnone fun f hf =>
            (catchAll_eq_none hf h).1 (List.findSome?_eq_none_iff.1 hc f hf)⟩
  · cases hf : Name.fault? name with
    | none => exact absurd (Name.fault?_eq_none.1 hf) h
    | some e => exact ⟨_, .invalid h hf⟩

theorem find_eq_iff {r : Except LookupError Match} : t.find name = r ↔ t.Answers name r := by
  constructor
  · rintro rfl
    obtain ⟨r, hr⟩ := t.exists_answers name
    rwa [find_of_answers hr]
  · exact find_of_answers

theorem find_invalidName_iff : (∃ e, t.find name = .error (.invalidName name e)) ↔ ¬ Name.IsPathName name := by
  simp only [find_eq_iff]
  constructor
  · rintro ⟨e, h, -⟩
    exact h
  · intro h
    cases hf : Name.fault? name with
    | none => exact absurd (Name.fault?_eq_none.1 hf) h
    | some e => exact ⟨e, .invalid h hf⟩

/-- With a catch-all there is an entry for every path. -/
theorem find_of_catchAll (h : Name.IsPathName name) (hc : ∃ k ∈ t.names, Name.isCatchAll k = true) :
    ∃ m, t.find name = .ok m := by
  obtain ⟨r, hr⟩ := t.exists_answers name
  obtain ⟨_, hk, hc⟩ := hc
  obtain ⟨e, he, rfl⟩ := List.mem_map.1 hk
  cases hr with
  | invalid h' => exact absurd h h'
  | exact h he hname => exact ⟨_, find_of_answers (.exact h he hname)⟩
  | pattern h hname ht hbefore he => exact ⟨_, find_of_answers (.pattern h hname ht hbefore he)⟩
  | catchAll h hname hnone ht hbefore he => exact ⟨_, find_of_answers (.catchAll h hname hnone ht hbefore he)⟩
  | notConfigured _ _ _ hcatchAll =>
    rw [hcatchAll e he] at hc
    cases hc

end Table

namespace Configuration

/-- A lookup goes by the document that the configuration was read from. The entries are the members of `paths`,
each once and in their order. A request under no path name is refused, and no other is; the others have the answer
that `Table.Answers` says, and with a catch-all there is an entry for each of them. A pattern matches just if its
expression does somewhere in the name, and then from the first such position on. -/
theorem find_of_document {text : String} {c : Configuration} (h : Configuration.ofString text = .ok c) :
    (∃ t, Structure text t ∧ (∀ t', Structure text t' → t' = t) ∧
      ∀ names, Document.Lists t names ↔ names = c.table.names) ∧
    c.table.names.Nodup ∧
    (∀ name r, c.find name = r ↔ c.table.Answers name r) ∧
    (∀ e ∈ c.table.entries, ∀ name,
      ((∃ groups, e.Captures name groups) ↔ ∃ i groups, e.MatchesAt name i groups) ∧
      ∀ groups, e.Captures name groups →
        ∃ i, e.MatchesAt name i groups ∧ ∀ k < i, ∀ groups', ¬ e.MatchesAt name k groups') ∧
    (∀ name, (∃ e, c.find name = .error (.invalidName name e)) ↔ ¬ Name.IsPathName name) ∧
    ∀ name, Name.IsPathName name → (∃ k ∈ c.table.names, Name.isCatchAll k = true) → ∃ m, c.find name = .ok m := by
  obtain ⟨t, hstructure, hlists⟩ := Configuration.ofString_lists h
  refine ⟨⟨t, hstructure, fun t' h' => h'.unique hstructure, fun names => ⟨fun h' => h'.unique hlists, ?_⟩⟩,
    c.table.distinct, fun _ _ => Table.find_eq_iff,
    fun _ _ _ => ⟨Table.exists_captures_iff, fun _ => Table.matchesAt_of_captures⟩,
    fun _ => Table.find_invalidName_iff, fun _ => Table.find_of_catchAll⟩
  rintro rfl
  exact hlists

/-- A document with a catch-all before a pattern. The pattern goes first; a group that took no part is empty. -/
theorem find_of_document_catchAllFirst :
    ∃ c, Configuration.ofString
        "\x7b\"paths\":\x7b\"all\":null,\"~^cam(.)(x)?$\":null,\"cam1\":null\x7d\x7d" = .ok c ∧
      c.table.names = ["all", "~^cam(.)(x)?$", "cam1"] ∧
      (c.find "cam7").toOption.map (·.groups) = some (some ["cam7", "7", ""]) ∧
      c.table.Answers "cam7" (c.find "cam7") ∧ ∃ m, c.find "lobby" = .ok m := by
  have hread : (Configuration.ofString
      "\x7b\"paths\":\x7b\"all\":null,\"~^cam(.)(x)?$\":null,\"cam1\":null\x7d\x7d").toOption.map
        (fun c => (c.table.names, (c.find "cam7").toOption.map (·.groups))) =
      some (["all", "~^cam(.)(x)?$", "cam1"], some (some ["cam7", "7", ""])) := by decide +kernel
  cases hc : Configuration.ofString
      "\x7b\"paths\":\x7b\"all\":null,\"~^cam(.)(x)?$\":null,\"cam1\":null\x7d\x7d" with
  | error e =>
    rw [hc] at hread
    cases hread
  | ok c =>
    rw [hc] at hread
    obtain ⟨hnames, hgroups⟩ := Prod.mk.inj (Option.some.inj hread)
    obtain ⟨-, -, hanswers, -, -, hcatchAll⟩ := find_of_document hc
    exact ⟨c, rfl, hnames, hgroups, (hanswers _ _).1 rfl,
      hcatchAll "lobby" (Name.fault?_eq_none.1 (by decide)) ⟨"all", by rw [hnames]; decide, by decide⟩⟩

end Configuration

end MediaPaths
