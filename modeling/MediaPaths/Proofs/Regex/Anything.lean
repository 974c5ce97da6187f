import MediaPaths.Entry.Basic
import MediaPaths.Proofs.Regex.Finding

/-!
# The pattern of the catch-alls

The pattern `^.*$` matches every text without a line feed, from its beginning to its end.
-/

namespace MediaPaths.Regex

open Unicode

/-- All characters but the line feed. -/
def notNewline : CodeSet := ⟨[(0, 9), (11, 55295), (57344, 1114111)]⟩

/-- The expression of the catch-alls. -/
def anythingExpr : Expr :=
  .cat (.look .textStart) (.cat (.rep (.chars notNewline) 0 none true) (.look .textEnd))

theorem exprOf_anything : exprOf? Entry.anything = some anythingExpr := by decide +kernel

variable {text : List Char} {cs : CodeSet} {a b : Mark} {slots : Slots} {c : Char}
  {i j n : Nat}

theorem contains_notNewline (h : c ≠ '\n') : notNewline.contains c = true := by
  have hne : c.toNat ≠ 10 := fun hc => h (Char.toNat_inj.1 hc)
  have hvalid : c.toNat < 0xD800 ∨ 0xDFFF < c.toNat ∧ c.toNat < 0x110000 := c.valid
  simp only [CodeSet.contains, notNewline, CodeSet.inRanges]
  grind

/-! ## Rounds of characters -/

/-- Characters remember nothing. -/
theorem slots_of_rounds_chars (h : Rounds ((Expr.chars cs).Matches text) n a b) : b.2 = a.2 := by
  induction n generalizing a with
  | zero => rw [show b = a from h]
  | succ n ih =>
    obtain ⟨_, ⟨-, rfl⟩, h⟩ := h
    exact (ih h).trans rfl

/-- Characters that all belong to a set are taken in rounds to the end. -/
theorem rounds_chars (h : ∀ c ∈ text, cs.contains c = true) (hi : i + n ≤ text.length) :
    Rounds ((Expr.chars cs).Matches text) n (i, slots) (i + n, slots) := by
  induction n generalizing i with
  | zero => rfl
  | succ n ih =>
    have hlt : i < text.length := by omega
    refine ⟨(i + 1, slots), ⟨⟨text[i], List.getElem?_eq_getElem hlt, h _ (List.getElem_mem hlt)⟩, rfl⟩, ?_⟩
    rw [show i + (n + 1) = i + 1 + n by omega]
    exact ih (by omega)

/-! ## Matches -/

/-- There is nothing before the beginning of a text, and nothing behind its end. -/
theorem slots_of_matches_anything (hi : i ≤ text.length)
    (h : (Expr.group 0 anythingExpr).Matches text (i, [none, none]) (j, slots)) :
    text.length ≤ j ∧ slots = [some 0, some j] := by
  obtain ⟨m, ⟨_, ⟨hstart, rfl⟩, _, ⟨n, -, -, hrounds⟩, hend, rfl⟩, hb⟩ := h
  obtain ⟨rfl, rfl⟩ := Prod.mk.inj hb
  obtain rfl : i = 0 := by
    cases i with
    | zero => rfl
    | succ i =>
      rw [Mark.save, charBefore, List.getElem?_eq_getElem hi] at hstart
      cases hstart
  refine ⟨List.getElem?_eq_none_iff.1 (Option.isNone_iff_eq_none.1 hend), ?_⟩
  rw [slots_of_rounds_chars hrounds]
  rfl

theorem matches_anything (h : ∀ c ∈ text, c ≠ '\n') : (Expr.group 0 anythingExpr).Matches text (0, [none, none])
    (text.length, [some 0, some text.length]) := by
  have hrounds : Rounds ((Expr.chars notNewline).Matches text) text.length (0, [some 0, none])
      (0 + text.length, [some 0, none]) :=
    rounds_chars (fun c hc => contains_notNewline (h c hc)) (by omega)
  rw [Nat.zero_add] at hrounds
  have hend : Look.textEnd.holds (charBefore text text.length) text[text.length]? = true := by simp [Look.holds]
  exact ⟨(text.length, [some 0, none]), ⟨(0, [some 0, none]), ⟨rfl, rfl⟩, (text.length, [some 0, none]),
    ⟨text.length, Nat.zero_le _, by simp, hrounds⟩, hend, rfl⟩, rfl⟩

namespace Pattern

variable {p : Pattern} {name : String}

theorem expr_of_anything (hp : p.text = Entry.anything) : p.expr = anythingExpr := by
  have hdenotes := p.denotes
  rw [hp, exprOf_anything] at hdenotes
  exact (Option.some.inj hdenotes).symm

/-- The pattern of the catch-alls has no groups but that of the whole match. -/
theorem groups_of_anything (hp : p.text = Entry.anything) : p.groups = 1 := by
  rw [groups, expr_of_anything hp]
  rfl

/-- The pattern of the catch-alls matches a text without line feeds from its beginning to its end. -/
theorem captures_anything (hp : p.text = Entry.anything) (h : ∀ c ∈ name.toList, c ≠ '\n') :
    p.captures name = some [name] := by
  have hexpr := expr_of_anything hp
  have hgroups := groups_of_anything hp
  obtain ⟨slots, hs⟩ : ∃ slots, search (program anythingExpr) 2 name.toList = some slots := by
    cases hs : search (program anythingExpr) 2 name.toList with
    | none => exact absurd (matches_anything h) (search_eq_none hs (Nat.zero_le _) _)
    | some slots => exact ⟨slots, rfl⟩
  obtain ⟨i, hi, ⟨j, hj⟩, -⟩ := search_eq_some hs
  obtain ⟨hlength, rfl⟩ := slots_of_matches_anything hi hj
  simp [captures, hgroups, hexpr, hs, groupText, List.take_of_length_le hlength]

end Pattern

end MediaPaths.Regex
