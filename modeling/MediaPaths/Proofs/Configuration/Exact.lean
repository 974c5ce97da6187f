import MediaPaths.Proofs.Entry.Rules
import MediaPaths.Proofs.Regex.Plain

/-!
# Entries for many paths under their own names

A request may be spelled like the name of an entry that is about many paths. It is then answered with that entry but
without any groups, since nothing was matched. No text is lost by that: a name that can be requested has no character
that opens a group, so the pattern in it has no group that a source could have a placeholder for.
-/

namespace MediaPaths

open Regex

variable {name : String} {p : Pattern} {m : Match}

/-! ## Patterns in path names -/

/-- No operator of patterns may stand in a path name. -/
theorem Name.isPlain_of_isAllowed {c : Char} (h : Name.isAllowed c = true) : IsPlain c := by
  have hall : operators.all (!Name.isAllowed ·) = true := by decide
  intro hmem
  simpa [h] using List.all_eq_true.1 hall c hmem

/-- The pattern that a path name stands for has no groups but that of the whole match. -/
theorem Name.IsPathName.groups_eq_one (h : Name.IsPathName name) (hnames : Entry.Names name (some p)) :
    p.groups = 1 := by
  cases hnames with
  | catchAll hname hp => exact Pattern.groups_of_anything (Pattern.compile?_eq_some.1 hp)
  | @pattern text _ hname hp =>
    refine Pattern.groups_of_isPlain fun c hc => Name.isPlain_of_isAllowed (h.2.2.2 c ?_)
    rw [Pattern.compile?_eq_some.1 hp, String.toList_ofList] at hc
    rw [hname]
    exact List.mem_cons_of_mem _ hc

/-! ## Sources -/

/-- The text of the whole match has no placeholder. -/
theorem Template.resolve_singleton (source whole query username password : String) :
    resolve source [whole] query username password = resolve source [] query username password := rfl

/-! ## Lookups -/

namespace Table

/-- An entry for many paths that is found under its very name comes without groups. Its pattern has none but that of the
whole match, so every source has the same address, or the same error, as with the groups of any text that it matches. -/
theorem resolve_of_exact {t : Table} (h : t.find name = .ok m) (hexact : m.entry.name = name)
    (hmany : Entry.IsMany m.entry.name) :
    m.groups = none ∧ ∃ p, m.entry.pattern = some p ∧ Entry.Names name (some p) ∧ p.groups = 1 ∧
      ∀ other groups, p.captures other = some groups → groups.length = 1 ∧
        ∀ source query username password,
          Template.resolve source (m.groups.getD []) query username password =
            Template.resolve source groups query username password := by
  obtain ⟨hmem, hfound⟩ := find_cases h
  have hgroups : m.groups = none := by
    rcases hfound with ⟨-, hnone⟩ | ⟨hother, -⟩
    · exact hnone
    · exact absurd hexact hother
  have hname : Name.IsPathName name := by
    by_contra hinvalid
    obtain ⟨e, he⟩ := find_invalidName_iff.2 hinvalid
    rw [h] at he
    cases he
  have hnames := Entry.patternOf_eq_ok.1 (patternOf_of_mem hmem)
  obtain ⟨p, hp⟩ := Option.isSome_iff_exists.1 ((Entry.isMany_iff hnames).2 hmany)
  rw [hexact, hp] at hnames
  have hone := hname.groups_eq_one hnames
  refine ⟨hgroups, p, hp, hnames, hone, fun other groups hcaptures => ?_⟩
  have hlength := (Pattern.length_captures hcaptures).trans hone
  obtain ⟨whole, rfl⟩ := List.length_eq_one_iff.1 hlength
  rw [hgroups]
  exact ⟨hlength, fun source query username password => (Template.resolve_singleton ..).symm⟩

/-- The name of the entry is a path name, and stands for a pattern that other path names match. -/
theorem resolve_of_exact_tilde :
    ∃ (t : Table) (m : Match) (p : Pattern), t.find "~cam.1" = .ok m ∧ m.entry.name = "~cam.1" ∧
      Entry.IsMany m.entry.name ∧ m.entry.pattern = some p ∧ p.captures "x/cam-1" = some ["cam-1"] ∧
      m.groups = none ∧ Template.resolve "rtsp://10.0.0.1/$G1?$MTX_QUERY" (m.groups.getD []) "q" "" "" =
        Template.resolve "rtsp://10.0.0.1/$G1?$MTX_QUERY" ["cam-1"] "q" "" "" := by
  let s : Settings := { source := "rtsp://10.0.0.1/$G1?$MTX_QUERY", sourceOnDemand := true }
  have hread : (Table.insert {} "~cam.1" s).toOption.map (fun t => (t.find "~cam.1").toOption.map fun m =>
      (m.entry.name, m.entry.pattern.bind (·.captures "x/cam-1"))) = some (some ("~cam.1", some ["cam-1"])) := by
    decide +kernel
  obtain ⟨t, -, ht⟩ := Option.map_eq_some_iff.1 hread
  obtain ⟨m, hm, hfound⟩ := Option.map_eq_some_iff.1 ht
  obtain ⟨hname, hcaptures⟩ := Prod.mk.inj hfound
  have hfind : t.find "~cam.1" = .ok m := by
    cases hf : t.find "~cam.1" <;> rw [hf] at hm <;> cases hm
    rfl
  have hmany : Entry.IsMany m.entry.name := by
    rw [hname]
    exact .inr (.inr (by decide))
  obtain ⟨hgroups, p, hp, -, -, hresolve⟩ := resolve_of_exact hfind hname hmany
  rw [hp] at hcaptures
  exact ⟨t, m, p, hfind, hname, hmany, hp, hcaptures, hgroups, (hresolve _ _ hcaptures).2 _ _ _ _⟩

end Table

end MediaPaths
