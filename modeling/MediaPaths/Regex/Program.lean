import MediaPaths.Regex.Expr

/-!
# Programs of the matching machine

An expression is laid out as a list of instructions. An instruction goes on to the next one unless it
says otherwise, and a `split` names the way it prefers first. `size` says how long the layout of an
expression is, and `length_emit` that `emit` keeps to it.
-/

namespace MediaPaths.Regex

open Unicode

/-- Instructions of the matching machine. -/
inductive Inst where
  /-- Takes one character of a set. -/
  | char (s : CodeSet)
  /-- Goes on only where an assertion holds. -/
  | look (l : Look)
  /-- Remembers the position in a slot. -/
  | save (slot : Nat)
  /-- Goes on elsewhere. -/
  | jump (goal : Nat)
  /-- Goes on in two ways, by preference the first. -/
  | split (first second : Nat)
  /-- The text matches. -/
  | accept
  deriving Repr, Inhabited

/-- A choice whose first way is preferred if `greedy`. -/
def Inst.choice (greedy : Bool) (first second : Nat) : Inst :=
  if greedy then .split first second else .split second first

/-- `n` copies of a layout of `size` instructions, one after the other. -/
def copies (layout : Nat → List Inst) (size : Nat) : (n : Nat) → (start : Nat) → List Inst
  | 0, _ => []
  | n + 1, start => layout start ++ copies layout size n (start + size)

namespace Expr

/-- How many instructions an expression takes. -/
def size : Expr → Nat
  | empty => 0
  | chars _ => 1
  | look _ => 1
  | cat a b => a.size + b.size
  | alt a b => a.size + b.size + 2
  | group _ e => e.size + 2
  | rep e min none _ =>
    match min with
    | 0 => e.size + 2
    | n + 1 => e.size * n + (e.size + 1)
  | rep e min (some max) _ => e.size * min + (e.size + 1) * (max - min)

/-- The layout of an expression from the address `start` on. A loop around an expression that may be
empty is entered once and left after any round, so that an empty round ends it. -/
def emit : Expr → (start : Nat) → List Inst
  | empty, _ => []
  | chars s, _ => [.char s]
  | look l, _ => [.look l]
  | cat a b, start => a.emit start ++ b.emit (start + a.size)
  | alt a b, start =>
    let second := start + 1 + a.size + 1
    .split (start + 1) second :: a.emit (start + 1) ++ .jump (second + b.size) :: b.emit second
  | group i e, start => .save (2 * i) :: e.emit (start + 1) ++ [.save (2 * i + 1)]
  | rep e min none greedy, start =>
    match min with
    | 0 =>
      let stop := start + 1 + e.size + 1
      let back := if e.nullable then .choice greedy (start + 1) stop else .jump start
      .choice greedy (start + 1) stop :: e.emit (start + 1) ++ [back]
    | n + 1 =>
      let last := start + e.size * n
      copies (fun pc => e.emit pc) e.size n start ++ e.emit last ++
        [.choice greedy last (last + e.size + 1)]
  | rep e min (some max) greedy, start =>
    let optional := start + e.size * min
    let stop := optional + (e.size + 1) * (max - min)
    copies (fun pc => e.emit pc) e.size min start ++
      copies (fun pc => .choice greedy (pc + 1) stop :: e.emit (pc + 1)) (e.size + 1)
        (max - min) optional

theorem length_copies {layout : Nat → List Inst} {size : Nat}
    (h : ∀ start, (layout start).length = size) (n start : Nat) :
    (copies layout size n start).length = size * n := by
  induction n generalizing start with
  | zero => rfl
  | succ n ih => simp [copies, h, ih, Nat.mul_succ, Nat.add_comm]

/-- A layout has the length that was reckoned for it. -/
theorem length_emit (e : Expr) (start : Nat) : (e.emit start).length = e.size := by
  induction e generalizing start with
  | empty | chars _ | look _ => rfl
  | cat a b iha ihb => simp [emit, size, iha, ihb]
  | alt a b iha ihb => simp [emit, size, iha, ihb]; omega
  | group i e ih => simp [emit, size, ih]
  | rep e min max greedy ih =>
    cases max with
    | none =>
      cases min with
      | zero => simp [emit, size, ih]
      | succ n => simp [emit, size, ih, length_copies]
    | some max =>
      simp only [emit, size, List.length_append]
      rw [length_copies ih, length_copies]
      simp [ih]

end Expr

/-- The program of a whole pattern: group 0 is what the pattern matches. -/
def program (e : Expr) : Array Inst :=
  ((Expr.group 0 e).emit 0 ++ [Inst.accept]).toArray

end MediaPaths.Regex
