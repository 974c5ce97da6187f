import MediaPaths.Regex.Parser
import MediaPaths.Regex.Search
import MediaPaths.Regex.Size

/-!
# Patterns

A pattern is a text that denotes a regular expression. `Pattern.compile?` reads it, and
`Pattern.captures` finds the first match in a text with the texts of its groups.

Two patterns are the same if their texts are: all else follows from the text.
-/

namespace MediaPaths.Regex

/-- The expression of a pattern, unless the pattern is malformed or too large. -/
def exprOf? (text : String) : Option Expr :=
  match parse? text.toList with
  | some e => if fits e then some e else none
  | none => none

/-- A pattern together with what its text denotes. -/
structure Pattern where
  /-- The text of the pattern. -/
  text : String
  /-- The expression it denotes. -/
  expr : Expr
  /-- The text denotes this expression. -/
  denotes : exprOf? text = some expr

namespace Pattern

/-- The pattern of a text, if it denotes one. -/
def compile? (text : String) : Option Pattern :=
  match h : exprOf? text with
  | some e => some ⟨text, e, h⟩
  | none => none

theorem ext_text {p q : Pattern} (h : p.text = q.text) : p = q := by
  obtain ⟨s, e, hp⟩ := p
  obtain ⟨t, f, hq⟩ := q
  subst h
  cases Option.some.inj (hp.symm.trans hq)
  rfl

instance : DecidableEq Pattern := fun p q =>
  if h : p.text = q.text then isTrue (ext_text h)
  else isFalse fun e => h (congrArg text e)

theorem compile?_eq_some {text : String} {p : Pattern} :
    compile? text = some p ↔ p.text = text := by
  constructor
  · intro h
    unfold compile? at h
    split at h
    · cases h; rfl
    · cases h
  · rintro rfl
    unfold compile?
    split
    · rename_i e h
      exact congrArg some (ext_text rfl)
    · rename_i h
      rw [p.denotes] at h
      cases h

/-- The number of groups, the whole match included. -/
def groups (p : Pattern) : Nat := p.expr.maxGroup + 1

/-- The part of a text between the positions in the two slots of a group; empty if the group did not
take part in the match. -/
def groupText (text : List Char) (slots : Slots) (i : Nat) : String :=
  match slots.getD (2 * i) none, slots.getD (2 * i + 1) none with
  | some a, some b => String.ofList ((text.drop a).take (b - a))
  | _, _ => ""

/-- The texts of all groups in the first match, the whole match first. -/
def captures (p : Pattern) (text : String) : Option (List String) :=
  let cs := text.toList
  (search (program p.expr) (2 * p.groups) cs).map fun slots =>
    (List.range p.groups).map (groupText cs slots)

theorem length_captures {p : Pattern} {text : String} {groups : List String}
    (h : p.captures text = some groups) : groups.length = p.groups := by
  simp only [captures, Option.map_eq_some_iff] at h
  obtain ⟨slots, -, rfl⟩ := h
  simp

end Pattern

end MediaPaths.Regex
