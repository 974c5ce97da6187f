import Mathlib.Data.List.Forall2
import MediaPaths.Configuration.Document
import MediaPaths.Proofs.Configuration.Lookup
import MediaPaths.Proofs.Json.Skipping

/-!
# The entries of a document

The names of the entries of a configuration are the names of the members of `paths` in the text it was read
from, in the same order. The member `paths` of a document is the one of that name, however the name is written;
in a document that is an array it is the sixth element.
-/

namespace MediaPaths

open Json

namespace Document

/-! ## The names that a document lists -/

/-- The value of `paths` has members of these names, in this order, or is `null`. -/
inductive Entries : Tree → List String → Prop where
  | null : Entries .leaf []
  | object {ms : List (List Char × Tree)} {names : List String}
      (h : List.Forall₂ (fun m name => Denotes m.1 name.toList) ms names) : Entries (.object ms) names

/-- The name of a member is `paths`. -/
def IsPaths (raw : List Char) : Prop := Denotes raw "paths".toList

/-- The document has entries of these names, in this order. -/
inductive Lists : Tree → List String → Prop where
  | object {before after : List (List Char × Tree)} {raw : List Char} {t : Tree} {names : List String}
      (hraw : IsPaths raw) (hother : ∀ m ∈ before ++ after, ¬ IsPaths m.1) (h : Entries t names) :
      Lists (.object (before ++ (raw, t) :: after)) names
  | objectWithout {ms : List (List Char × Tree)} (h : ∀ m ∈ ms, ¬ IsPaths m.1) : Lists (.object ms) []
  | array {ts : List Tree} {t : Tree} {names : List String} (hts : ts.length = 5) (h : Entries t names) :
      Lists (.array (ts ++ [t])) names
  | arrayWithout {ts : List Tree} (hts : ts.length = 5) : Lists (.array ts) []

/-- The names of the entries. -/
def names (d : Document) : List String := d.paths.map (·.1)

variable {d d' : Document} {levels : Nat} {cs rest : List Char} {t : Tree} {name : String}
  {seen seen' : List String} {ms : List (List Char × Tree)}

/-! ## A document lists one sequence of names -/

theorem isPaths_iff {raw : List Char} (h : Denotes raw name.toList) : IsPaths raw ↔ name = "paths" := by
  constructor
  · intro hp
    exact String.toList_injective (h.unique hp)
  · rintro rfl
    exact h

theorem Entries.unique {ns ns' : List String} (h : Entries t ns) (h' : Entries t ns') : ns = ns' := by
  cases h with
  | null =>
    cases h'
    rfl
  | @object ms _ h =>
    cases h' with
    | object h' =>
      induction h generalizing ns' with
      | nil =>
        cases h'
        rfl
      | cons hname _ ih =>
        cases h' with
        | cons hname' hrest' => rw [String.toList_injective (hname.unique hname'), ih hrest']

/-- Where one member only has a property, it has one place. -/
theorem member_unique {P : List Char → Prop} {before after before' after' : List (List Char × Tree)}
    {m m' : List Char × Tree} (hm : P m.1)
    (hother' : ∀ m ∈ before' ++ after', ¬ P m.1)
    (heq : before ++ m :: after = before' ++ m' :: after') : m = m' := by
  have hmem : m ∈ before' ++ m' :: after' := by
    rw [← heq]
    simp
  rcases List.mem_append.1 hmem with h | h
  · exact absurd hm (hother' m (List.mem_append_left _ h))
  · rcases List.mem_cons.1 h with rfl | h
    · rfl
    · exact absurd hm (hother' m (List.mem_append_right _ h))

theorem Lists.unique {ns ns' : List String} (h : Lists t ns) (h' : Lists t ns') : ns = ns' := by
  cases h with
  | @object before after raw t _ hraw _ h =>
    generalize heq : Tree.object (before ++ (raw, t) :: after) = tree at h'
    cases h' with
    | object hraw' hother' h' =>
      have hm := member_unique hraw hother' (Tree.object.inj heq)
      obtain ⟨rfl, rfl⟩ := Prod.mk.inj hm
      exact h.unique h'
    | objectWithout hnone =>
      have hms := Tree.object.inj heq
      exact absurd hraw (hnone (raw, t) (by simp [← hms]))
    | array | arrayWithout => cases heq
  | @objectWithout ms hnone =>
    generalize heq : Tree.object ms = tree at h'
    cases h' with
    | @object before after raw t _ hraw =>
      have hms := Tree.object.inj heq
      exact absurd hraw (hnone (raw, t) (by simp [hms]))
    | objectWithout => rfl
    | array | arrayWithout => cases heq
  | @array ts t _ hts h =>
    generalize heq : Tree.array (ts ++ [t]) = tree at h'
    cases h' with
    | object | objectWithout => cases heq
    | array hts' h' =>
      obtain ⟨-, hlast⟩ := List.append_inj (Tree.array.inj heq) (hts.trans hts'.symm)
      obtain rfl := (List.cons.inj hlast).1
      exact h.unique h'
    | arrayWithout hts' =>
      have hlen := congrArg List.length (Tree.array.inj heq)
      simp [hts, hts'] at hlen
  | @arrayWithout ts hts =>
    generalize heq : Tree.array ts = tree at h'
    cases h' with
    | object | objectWithout => cases heq
    | array hts' =>
      have hlen := congrArg List.length (Tree.array.inj heq)
      simp [hts, hts'] at hlen
    | arrayWithout => rfl

/-! ## Entries -/

theorem readEntry_sound ⦃name : String⦄ ⦃es : List (String × Value)⦄ ⦃cs : List Char⦄
    ⦃es' : List (String × Value)⦄ ⦃rest : List Char⦄ (h : readEntry levels name es cs = .ok (es', rest)) :
    Behind (fun v => ∃ t, Spells t v ∧ es'.map (·.1) = es.map (·.1) ++ [name]) cs rest := by
  unfold readEntry at h
  split at h
  · cases h
  · rename_i r hcolon
    obtain ⟨b, hcs, hb⟩ := readColon_sound hcolon
    split at h
    · cases h
    · rename_i v r' hv
      split at h
      · cases h
      · cases h
        exact ⟨b, r, hcs, hb, (readValue_sound hv).imp fun v ⟨t, ht⟩ => ⟨t, ht, by simp⟩⟩

theorem forall₂_of_steps {es es' : List (String × Value)}
    (h : Steps (fun es name _ es' => es'.map (·.1) = es.map (·.1) ++ [name]) es ms es') :
    ∃ names, List.Forall₂ (fun m name => Denotes m.1 name.toList) ms names ∧
      es'.map (·.1) = es.map (·.1) ++ names := by
  induction h with
  | nil => exact ⟨[], .nil, by simp⟩
  | @cons es es₁ es₂ raw name t ms hname hstep hrest ih =>
    obtain ⟨names, hnames, heq⟩ := ih
    exact ⟨name :: names, .cons hname hnames, by rw [heq, hstep]; simp⟩

theorem readPaths_sound {es : List (String × Value)} (h : readPaths levels cs = .ok (es, rest)) :
    Front (fun v => ∃ t, Spells t v ∧ Entries t (es.map (·.1))) cs rest := by
  unfold readPaths at h
  split at h
  · cases h
  · cases h
  · rename_i hskip
    obtain ⟨ms, v, hv, hspells, hsteps⟩ := readMembers_sound readEntry_sound h
    obtain ⟨names, hnames, heq⟩ := forall₂_of_steps hsteps
    refine .of_skipBlank (hskip.trans hv) ⟨_, hspells, ?_⟩
    rw [heq]
    exact .object hnames
  · rename_i hskip
    obtain ⟨r, hr, hrest⟩ := map_eq_ok h
    cases hrest
    obtain ⟨v, hv, hspells⟩ := (readWord_sound (by decide) hr).spells (by decide : isPlain 'n' = true)
    exact .of_skipBlank (hskip.trans hv) ⟨_, hspells, .null⟩
  · cases h
  · cases h

/-! ## Members -/

/-- What reading a member into a document makes of its entries. -/
def Fills (name : String) (d : Document) (t : Tree) (d' : Document) : Prop :=
  if name = "paths" then Entries t d'.names else d'.paths = d.paths

/-- A member takes one value from the text. -/
def Member.Fits (m : Member) : Prop :=
  ∀ ⦃levels d cs d' rest⦄, m.read levels d cs = .ok (d', rest) →
    Front (fun v => ∃ t, Spells t v ∧ Fills m.name d t d') cs rest

theorem readDuration_sound ⦃cs : List Char⦄ ⦃a : Duration⦄ ⦃rest : List Char⦄
    (h : readDuration cs = .ok (a, rest)) : Front IsValue cs rest := by
  unfold readDuration at h
  split at h
  · rename_i s r hs
    obtain ⟨_, -, hrest⟩ := map_eq_ok h
    cases hrest
    obtain ⟨raw, hfront, hraw⟩ := readText_sound hs
    refine hfront.imp ?_
    rintro _ rfl
    exact ⟨_, .string hraw.quoted⟩
  · cases h

theorem Member.fits_of {α : Type} {reader : Nat → List Char → Json.Result α} {set : Document → α → Document}
    (hname : name ≠ "paths") (hset : ∀ d a, (set d a).paths = d.paths)
    (hreader : ∀ levels ⦃cs a rest⦄, reader levels cs = .ok (a, rest) → Front IsValue cs rest) :
    (Member.of name reader set).Fits := by
  intro levels d cs d' rest h
  obtain ⟨⟨a, r⟩, ha, hrest⟩ := map_eq_ok h
  cases hrest
  refine (hreader levels ha).imp ?_
  rintro v ⟨t, ht⟩
  exact ⟨t, ht, by simp [Fills, Member.of, hname, hset]⟩

theorem Member.fits_paths : (Member.of "paths" readPaths fun d a => { d with paths := a }).Fits := by
  intro levels d cs d' rest h
  obtain ⟨⟨es, r⟩, hes, hrest⟩ := map_eq_ok h
  cases hrest
  refine (readPaths_sound hes).imp ?_
  rintro v ⟨t, ht, hentries⟩
  exact ⟨t, ht, by simpa [Fills, Member.of, names] using hentries⟩

theorem fits_of_mem {m : Member} (h : m ∈ members) : m.Fits := by
  simp only [members, List.mem_cons, List.not_mem_nil, or_false] at h
  rcases h with rfl | rfl | rfl | rfl | rfl | rfl
  · exact Member.fits_of (by decide) (fun _ _ => rfl) fun _ _ _ _ h =>
      readOptional_sound (fun _ _ _ h => readVariant_sound h) h
  · exact Member.fits_of (by decide) (fun _ _ => rfl) fun _ _ _ _ h => readOptional_sound readDuration_sound h
  · exact Member.fits_of (by decide) (fun _ _ => rfl) fun _ _ _ _ h => readOptional_sound readDuration_sound h
  · exact Member.fits_of (by decide) (fun _ _ => rfl) fun _ _ _ _ h =>
      readOptional_sound (fun _ _ _ h => readSize_sound h) h
  · exact Member.fits_of (by decide) (fun _ _ => rfl) fun _ _ _ _ h =>
      readOptional_sound (fun _ _ _ h => readValue_sound h) h
  · exact Member.fits_paths

/-! ## Documents that are objects -/

/-- What reading a member of an object makes of the entries, and of what is known to have been read. -/
def Notes (s : Document × List String) (name : String) (t : Tree) (s' : Document × List String) : Prop :=
  if name = "paths" then "paths" ∉ s.2 ∧ "paths" ∈ s'.2 ∧ Entries t s'.1.names
  else s'.1.paths = s.1.paths ∧ ("paths" ∈ s'.2 ↔ "paths" ∈ s.2)

theorem readMember_sound ⦃name : String⦄ ⦃s : Document × List String⦄ ⦃cs : List Char⦄
    ⦃s' : Document × List String⦄ ⦃rest : List Char⦄ (h : readMember levels name s cs = .ok (s', rest)) :
    Behind (fun v => ∃ t, Spells t v ∧ Notes s name t s') cs rest := by
  unfold readMember at h
  dsimp only at h
  split at h
  · rename_i hunknown
    obtain ⟨r, hr, hrest⟩ := map_eq_ok h
    cases hrest
    obtain ⟨r', hcolon, hskip⟩ := bind_eq_ok hr
    obtain ⟨b, hcs, hb⟩ := readColon_sound hcolon
    have hname : name ≠ "paths" := by
      rintro rfl
      exact absurd hunknown (by decide)
    refine ⟨b, r', hcs, hb, (skipValue_sound hskip).imp ?_⟩
    rintro v ⟨t, ht⟩
    exact ⟨t, ht, by simp [Notes, hname]⟩
  · rename_i m hknown
    have hm : m.name = name := by simpa using List.find?_some hknown
    split at h
    · cases h
    · rename_i hseen
      split at h
      · cases h
      · rename_i r hcolon
        obtain ⟨b, hcs, hb⟩ := readColon_sound hcolon
        obtain ⟨⟨d', r'⟩, hd', hrest⟩ := map_eq_ok h
        cases hrest
        refine ⟨b, r, hcs, hb, (fits_of_mem (List.mem_of_find?_eq_some hknown) hd').imp ?_⟩
        rintro v ⟨t, ht, hfills⟩
        refine ⟨t, ht, ?_⟩
        rw [hm] at hfills
        by_cases hname : name = "paths"
        · subst hname
          simp only [Notes, Fills, if_pos] at hfills ⊢
          exact ⟨by simpa using hseen, List.mem_cons_self .., hfills⟩
        · simpa [Notes, Fills, hname, Ne.symm hname] using hfills

/-- Where `paths` has been read there is no other. -/
theorem steps_of_seen {s s' : Document × List String} (h : Steps Notes s ms s') (hs : "paths" ∈ s.2) :
    s'.1.paths = s.1.paths ∧ ∀ m ∈ ms, ¬ IsPaths m.1 := by
  induction h with
  | nil => exact ⟨rfl, by simp⟩
  | @cons s s₁ s₂ raw name t ms hname hstep hrest ih =>
    have hne : name ≠ "paths" := by
      rintro rfl
      simp only [Notes, if_pos] at hstep
      exact hstep.1 hs
    simp only [Notes, if_neg hne] at hstep
    obtain ⟨hpaths, hall⟩ := ih (hstep.2.2 hs)
    refine ⟨hpaths.trans hstep.1, ?_⟩
    intro m hm
    rcases List.mem_cons.1 hm with rfl | hm
    · rwa [isPaths_iff hname]
    · exact hall m hm

theorem steps_of_unseen {s s' : Document × List String} (h : Steps Notes s ms s') (hs : "paths" ∉ s.2) :
    (s'.1.paths = s.1.paths ∧ ∀ m ∈ ms, ¬ IsPaths m.1) ∨
      ∃ before raw t after, ms = before ++ (raw, t) :: after ∧ IsPaths raw ∧
        (∀ m ∈ before ++ after, ¬ IsPaths m.1) ∧ Entries t s'.1.names := by
  induction h with
  | nil => exact .inl ⟨rfl, by simp⟩
  | @cons s s₁ s₂ raw name t ms hname hstep hrest ih =>
    by_cases hne : name = "paths"
    · subst hne
      simp only [Notes, if_pos] at hstep
      obtain ⟨hpaths, hall⟩ := steps_of_seen hrest hstep.2.1
      refine .inr ⟨[], raw, t, ms, rfl, hname, hall, ?_⟩
      rw [names, hpaths]
      exact hstep.2.2
    · simp only [Notes, if_neg hne] at hstep
      have hraw : ¬ IsPaths raw := by rwa [isPaths_iff hname]
      rcases ih (by rwa [hstep.2]) with ⟨hpaths, hall⟩ | ⟨before, raw', t', after, rfl, hraw', hall, hentries⟩
      · refine .inl ⟨hpaths.trans hstep.1, ?_⟩
        intro m hm
        rcases List.mem_cons.1 hm with rfl | hm
        · exact hraw
        · exact hall m hm
      · refine .inr ⟨(raw, t) :: before, raw', t', after, rfl, hraw', ?_, hentries⟩
        intro m hm
        rcases List.mem_cons.1 hm with rfl | hm
        · exact hraw
        · exact hall m hm

theorem lists_of_steps {s' : Document × List String} (h : Steps Notes ({}, []) ms s') :
    Lists (.object ms) s'.1.names := by
  rcases steps_of_unseen h (by simp) with ⟨hpaths, hall⟩ | ⟨before, raw, t, after, rfl, hraw, hall, hentries⟩
  · rw [names, hpaths]
    exact .objectWithout hall
  · exact .object hraw hall hentries

/-! ## Documents that are arrays -/

/-- What the elements of an array make of a document. The last element may be missing if it is `paths`. -/
inductive Fed : List Member → List Tree → Document → Document → Prop where
  | done {d : Document} : Fed [] [] d d
  | missing {m : Member} {ms : List Member} {d : Document} (h : m.name = "paths") : Fed (m :: ms) [] d d
  | cons {m : Member} {ms : List Member} {t : Tree} {ts : List Tree} {d d₁ d' : Document}
      (h : Fills m.name d t d₁) (hr : Fed ms ts d₁ d') : Fed (m :: ms) (t :: ts) d d'

/-- What stands between an element and the closing bracket. -/
def Tail (ts : List Tree) (v : List Char) : Prop :=
  Blank v ∧ ts = [] ∨ ∃ c w, v = c ++ ',' :: w ∧ Blank c ∧ Series Spells ts w

theorem series_of_tail {b u v : List Char} {ts : List Tree} (hb : Blank b) (hu : Spells t u) (h : Tail ts v) :
    Series Spells (t :: ts) (b ++ u ++ v) := by
  rcases h with ⟨hv, rfl⟩ | ⟨c, w, rfl, hc, hw⟩
  · exact .one hb hu hv
  · rw [← List.append_assoc]
    exact .cons hb hu hc hw

theorem readArrayEnd_sound (h : readArrayEnd cs = .ok rest) : ∃ b, cs = b ++ ']' :: rest ∧ Blank b := by
  obtain ⟨b, hb, heq⟩ := exists_blank cs
  unfold readArrayEnd at h
  split at h
  · cases h
  · rename_i hend
    cases h
    exact ⟨b, by rw [heq, hend], hb⟩
  · split at h <;> cases h
  · cases h

/-- An element, and the elements behind it. -/
theorem element_sound {m : Member} {ms : List Member} {count : Nat} {r : List Char} (hm : m.Fits)
    (htail : ∀ {d cs}, readElementsInto levels count ms d cs = .ok (d', r) →
      ∃ ts v, cs = v ++ ']' :: rest ∧ Tail ts v ∧ Fed ms ts d d')
    (h : (match m.read levels d cs with
      | .ok (d, rest) => readElementsInto levels count ms d rest
      | .error e => .error e) = .ok (d', r)) :
    ∃ ts v, cs = v ++ ']' :: rest ∧ Series Spells ts v ∧ Fed (m :: ms) ts d d' := by
  split at h
  · rename_i d₁ r₁ hread
    obtain ⟨b, u, rfl, hb, t, ht, hfills⟩ := hm hread
    obtain ⟨ts, v, rfl, htail, hfed⟩ := htail h
    exact ⟨t :: ts, b ++ u ++ v, by simp, series_of_tail hb ht htail, .cons hfills hfed⟩
  · cases h

/-- After an element there are others or the closing bracket. -/
theorem readElementsInto_sound {ms : List Member} {count : Nat} {r : List Char} (hms : ∀ m ∈ ms, m.Fits)
    (hend : readArrayEnd r = .ok rest) (h : readElementsInto levels (count + 1) ms d cs = .ok (d', r)) :
    ∃ ts v, cs = v ++ ']' :: rest ∧ Tail ts v ∧ Fed ms ts d d' := by
  induction ms generalizing count d cs with
  | nil =>
    cases h
    obtain ⟨b, rfl, hb⟩ := readArrayEnd_sound hend
    exact ⟨[], b, rfl, .inl ⟨hb, rfl⟩, .done⟩
  | cons m ms ih =>
    obtain ⟨b, hb, heq⟩ := exists_blank cs
    unfold readElementsInto at h
    dsimp only at h
    split at h
    · cases h
    · rename_i r' hskip
      split at h
      · rename_i hname
        cases h
        cases hend
        exact ⟨[], b, by rw [heq, hskip], .inl ⟨hb, rfl⟩, .missing (by simpa using hname)⟩
      · cases h
    · rename_i c r' hnotEnd hskip
      rw [if_neg (by simp)] at h
      split at h
      · rename_i hcomma
        obtain rfl : c = ',' := by simpa using hcomma
        obtain ⟨b', hb', heq'⟩ := exists_blank r'
        split at h
        · cases h
        · cases h
        · obtain ⟨ts, v, hv, hts, hfed⟩ := element_sound (hms m (List.mem_cons_self ..))
            (ih fun m hm => hms m (List.mem_cons_of_mem _ hm)) h
          rw [hskip, heq', hv] at heq
          exact ⟨ts, b ++ ',' :: (b' ++ v), by simp [heq], .inr ⟨b, _, rfl, hb, hts.blank_append hb'⟩, hfed⟩
      · cases h

/-- From the opening bracket on. -/
theorem readArray_sound {r : List Char} (hend : readArrayEnd r = .ok rest)
    (h : readElementsInto levels 0 members d cs = .ok (d', r)) :
    ∃ ts v, '[' :: cs = v ++ rest ∧ Spells (.array ts) v ∧ Fed members ts d d' := by
  obtain ⟨b, hb, heq⟩ := exists_blank cs
  unfold members readElementsInto at h
  dsimp only at h
  split at h
  · cases h
  · cases h
  · rename_i c r' hnotEnd hskip
    obtain ⟨ts, v, hv, hts, hfed⟩ := element_sound (fits_of_mem (List.mem_cons_self ..))
      (readElementsInto_sound (fun m hm => fits_of_mem (List.mem_cons_of_mem _ hm)) hend) h
    rw [hskip, hv] at heq
    exact ⟨ts, '[' :: (b ++ v) ++ [']'], by simp [heq], .array (hts.blank_append hb), hfed⟩

/-- Only the last member has entries. -/
theorem names_of_fed {before : List Member} {m : Member} {ts : List Tree} (hm : m.name = "paths")
    (hbefore : ∀ m ∈ before, m.name ≠ "paths") (h : Fed (before ++ [m]) ts d d') :
    (ts.length = before.length ∧ d'.paths = d.paths) ∨
      ∃ ts₀ t, ts = ts₀ ++ [t] ∧ ts₀.length = before.length ∧ Entries t d'.names := by
  induction before generalizing ts d with
  | nil =>
    cases h with
    | missing => exact .inl ⟨rfl, rfl⟩
    | @cons _ _ t _ _ d₁ _ h hr =>
      cases hr
      exact .inr ⟨[], t, rfl, rfl, by simpa [Fills, hm] using h⟩
  | cons m' before ih =>
    have hm' : m'.name ≠ "paths" := hbefore m' (List.mem_cons_self ..)
    cases h with
    | missing h => exact absurd h hm'
    | @cons _ _ t ts _ d₁ _ h hr =>
      simp only [Fills, if_neg hm'] at h
      rcases ih (fun m hm => hbefore m (List.mem_cons_of_mem _ hm)) hr with
        ⟨hlen, hpaths⟩ | ⟨ts₀, t', rfl, hlen, hentries⟩
      · exact .inl ⟨by simp [hlen], hpaths.trans h⟩
      · exact .inr ⟨t :: ts₀, t', rfl, by simp [hlen], hentries⟩

theorem lists_of_fed {ts : List Tree} (h : Fed members ts {} d) : Lists (.array ts) d.names := by
  have hmembers : members = members.dropLast ++ [.of "paths" readPaths fun d a => { d with paths := a }] := rfl
  rw [hmembers] at h
  have hbefore : ∀ m ∈ members.dropLast, m.name ≠ "paths" := by
    intro m hm
    have hname : m.name ∈ members.dropLast.map Member.name := List.mem_map_of_mem hm
    revert hname
    generalize m.name = name
    rintro hname rfl
    exact absurd hname (by decide)
  rcases names_of_fed rfl hbefore h with ⟨hlen, hpaths⟩ | ⟨ts₀, t, rfl, hlen, hentries⟩
  · rw [names, hpaths]
    exact .arrayWithout hlen
  · exact .array hlen hentries

/-! ## The whole document -/

theorem read_sound (h : read cs = .ok (d, rest)) :
    Front (fun v => ∃ t, Spells t v ∧ Lists t d.names) cs rest := by
  unfold read at h
  dsimp only at h
  split at h
  · cases h
  · rename_i hskip
    obtain ⟨⟨s', r⟩, hs', hrest⟩ := map_eq_ok h
    cases hrest
    obtain ⟨ms, v, hv, hspells, hsteps⟩ := readMembers_sound readMember_sound hs'
    exact .of_skipBlank (hskip.trans hv) ⟨_, hspells, lists_of_steps hsteps⟩
  · rename_i hskip
    split at h
    · rename_i d' r hd'
      obtain ⟨r', hend, hrest⟩ := map_eq_ok h
      cases hrest
      obtain ⟨ts, v, hv, hspells, hfed⟩ := readArray_sound hend hd'
      exact .of_skipBlank (hskip.trans hv) ⟨_, hspells, lists_of_fed hfed⟩
    · cases h
  · cases h

theorem readAll_sound {text : String} (h : readAll read text = .ok d) :
    ∃ t, Structure text t ∧ Lists t d.names := by
  unfold readAll at h
  split at h
  · cases h
  · rename_i d' r hd'
    split at h
    · rename_i hend
      cases h
      obtain ⟨b, v, hcs, hb, t, ht, hlists⟩ := read_sound hd'
      obtain ⟨c, hc, heq⟩ := exists_blank r
      rw [List.isEmpty_iff.1 hend, List.append_nil] at heq
      exact ⟨t, ⟨b, v, r, hcs, hb, ht, heq ▸ hc⟩, hlists⟩
    · cases h

/-! ## The entries of the configuration -/

/-- The members of an entry: those of an object, or none. -/
def entryMembers? : Value → Option Members
  | .object ms => some ms
  | .null => some []
  | _ => none

/-- An entry of the table is made of the members of the document's entry on top of those of the defaults. -/
def Made (base : Members) (p : String × Value) (e : Entry) : Prop :=
  ∃ top s, entryMembers? p.2 = some top ∧ Settings.ofMembers (base.overlay top) = .ok s ∧
    Entry.validate s p.1 = .ok e

variable {base : Members} {c c' : Configuration} {p : String × Value}

theorem insert_eq_ok {s : Settings} {name : String} (h : c.insert name s = .ok c') :
    ∃ e, Entry.validate s name = .ok e ∧ c'.table.entries = c.table.entries ++ [e] ∧ c'.defaults = c.defaults := by
  obtain ⟨t, ht, rfl⟩ := map_eq_ok h
  obtain ⟨e, he, hentries⟩ := Table.insert_eq_ok ht
  exact ⟨e, he, hentries, rfl⟩

theorem settings_eq_ok {ms : Members} {s : Settings} (h : settings ms = .ok s) : Settings.ofMembers ms = .ok s := by
  unfold settings at h
  split at h
  · cases h
    assumption
  · cases h

theorem declare_eq_ok (h : declare base c p = .ok c') :
    ∃ e, Made base p e ∧ c'.table.entries = c.table.entries ++ [e] ∧ c'.defaults = c.defaults := by
  have hmade : ∀ top, entryMembers? p.2 = some top → (settings (base.overlay top) >>= c.insert p.1) = .ok c' →
      ∃ e, Made base p e ∧ c'.table.entries = c.table.entries ++ [e] ∧ c'.defaults = c.defaults := by
    intro top htop h
    obtain ⟨s, hs, h⟩ := bind_eq_ok h
    obtain ⟨e, he, hentries, hdefaults⟩ := insert_eq_ok h
    exact ⟨e, ⟨top, s, htop, settings_eq_ok hs, he⟩, hentries, hdefaults⟩
  unfold declare at h
  split at h
  · rename_i ms hp
    exact hmade ms (by rw [hp]; rfl) h
  · rename_i hp
    exact hmade [] (by rw [hp]; rfl) h
  · cases h

theorem declareAll_eq_ok {ps : List (String × Value)} (h : ps.foldlM (declare base) c = .ok c') :
    ∃ es, List.Forall₂ (Made base) ps es ∧ c'.table.entries = c.table.entries ++ es ∧ c'.defaults = c.defaults := by
  induction ps generalizing c with
  | nil =>
    cases h
    exact ⟨[], .nil, by simp, rfl⟩
  | cons p ps ih =>
    obtain ⟨c₁, hdeclare, h⟩ := bind_eq_ok h
    obtain ⟨e, he, hentries, hdefaults⟩ := declare_eq_ok hdeclare
    obtain ⟨es, hes, hrest, hsame⟩ := ih h
    exact ⟨e :: es, .cons he hes, by simp [hrest, hentries], hsame.trans hdefaults⟩

/-- What the configuration that a document describes is made of. -/
theorem toConfiguration_eq_ok (h : d.toConfiguration = .ok c) :
    ∃ base, d.defaultMembers = .ok base ∧ Settings.ofMembers base = .ok c.defaults ∧
      List.Forall₂ (Made base) d.paths c.table.entries := by
  unfold toConfiguration at h
  obtain ⟨base, hbase, h⟩ := bind_eq_ok h
  dsimp only at h
  obtain ⟨s, hs, h⟩ := bind_eq_ok h
  obtain ⟨c', hentries, hcheck⟩ := bind_eq_ok h
  unfold Configuration.check at hcheck
  split at hcheck
  · cases hcheck
    obtain ⟨es, hes, hrest, hdefaults⟩ := declareAll_eq_ok hentries
    exact ⟨base, hbase, hdefaults ▸ settings_eq_ok hs, hrest ▸ hes⟩
  · cases hcheck

theorem names_of_made {ps : List (String × Value)} {es : List Entry} (h : List.Forall₂ (Made base) ps es) :
    es.map (·.name) = ps.map (·.1) := by
  induction h with
  | nil => rfl
  | cons he _ ih =>
    obtain ⟨_, _, -, -, he⟩ := he
    rw [List.map_cons, List.map_cons, Entry.validate_name he, ih]

theorem names_of_toConfiguration (h : d.toConfiguration = .ok c) : c.table.names = d.names := by
  obtain ⟨_, -, -, hmade⟩ := toConfiguration_eq_ok h
  exact names_of_made hmade

end Document

/-- The entries of a configuration are listed by the text it was read from. -/
theorem Configuration.ofString_lists {text : String} {c : Configuration} (h : Configuration.ofString text = .ok c) :
    ∃ t, Structure text t ∧ Document.Lists t c.table.names := by
  unfold ofString at h
  split at h
  · rename_i d hd
    rw [Document.names_of_toConfiguration h]
    exact Document.readAll_sound hd
  · cases h

end MediaPaths
