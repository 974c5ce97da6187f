import Mathlib.Data.List.Basic
import Mathlib.Logic.Relation
import MediaPaths.Regex.Program
import MediaPaths.Regex.Search

/-!
# What the layout of an expression does

`Expr.Matches` says what an expression matches and which positions its groups remember, without regard to
preference. The layout of an expression realizes this: the machine can run from its beginning to its end just
over what the expression matches, and it cannot leave the layout in any other way.
-/

namespace MediaPaths.Regex

open Unicode

/-! ## Meaning -/

/-- A position of a text, and the positions remembered so far. -/
abbrev Mark := Nat × Slots

/-- Remembers the position in a slot. -/
def Mark.save (a : Mark) (slot : Nat) : Mark := (a.1, a.2.set slot (some a.1))

/-- The character before a position. -/
def charBefore (text : List Char) : Nat → Option Char
  | 0 => none
  | i + 1 => text[i]?

/-- The place of a position in a text. -/
def placeAt (text : List Char) (i : Nat) : Place := ⟨i, charBefore text i, text[i]?⟩

/-- Some rounds, one after the other. -/
def Rounds (R : Mark → Mark → Prop) : Nat → Mark → Mark → Prop
  | 0, a, b => b = a
  | n + 1, a, b => ∃ m, R a m ∧ Rounds R n m b

/-- An expression matches a text from one mark to another. -/
def Expr.Matches (text : List Char) : Expr → Mark → Mark → Prop
  | empty, a, b => b = a
  | chars s, a, b => (∃ c, text[a.1]? = some c ∧ s.contains c = true) ∧ b = (a.1 + 1, a.2)
  | look l, a, b => l.holds (charBefore text a.1) text[a.1]? = true ∧ b = a
  | cat e f, a, b => ∃ m, e.Matches text a m ∧ f.Matches text m b
  | alt e f, a, b => e.Matches text a b ∨ f.Matches text a b
  | rep e min max _, a, b => ∃ n, min ≤ n ∧ (∀ m ∈ max, n ≤ min + (m - min)) ∧ Rounds (e.Matches text) n a b
  | group i e, a, b => ∃ m, e.Matches text (a.save (2 * i)) m ∧ b = m.save (2 * i + 1)

variable {R S : Mark → Mark → Prop} {a b : Mark} {m n : Nat}

theorem rounds_add : Rounds R (m + n) a b ↔ ∃ c, Rounds R m a c ∧ Rounds R n c b := by
  induction m generalizing a with
  | zero => simp [Rounds]
  | succ m ih =>
    rw [Nat.succ_add]
    simp only [Rounds, ih]
    constructor
    · rintro ⟨c, hc, d, hd, h⟩
      exact ⟨d, ⟨c, hc, hd⟩, h⟩
    · rintro ⟨d, ⟨c, hc, hd⟩, h⟩
      exact ⟨c, hc, d, hd, h⟩

/-! ## Runs of the machine -/

/-- Where a thread goes on without taking a character, by preference. -/
def Thread.onwards (prog : Array Inst) (p : Place) (t : Thread) : List Thread :=
  match prog[t.pc]? with
  | some (.look l) => if l.holds p.before p.after then [⟨t.pc + 1, t.slots⟩] else []
  | some (.save slot) => [⟨t.pc + 1, t.slots.set slot (some p.position)⟩]
  | some (.jump goal) => [⟨goal, t.slots⟩]
  | some (.split first second) => [⟨first, t.slots⟩, ⟨second, t.slots⟩]
  | _ => []

/-- The machine takes a step. Its state is an address and a mark. -/
inductive Step (prog : Array Inst) (text : List Char) : Nat × Mark → Nat × Mark → Prop where
  /-- It goes on at its place. -/
  | stay {pc goal i : Nat} {s s' : Slots} (h : ⟨goal, s'⟩ ∈ Thread.onwards prog (placeAt text i) ⟨pc, s⟩) :
      Step prog text (pc, i, s) (goal, i, s')
  /-- It takes a character. -/
  | take {pc i : Nat} {s : Slots} {cs : CodeSet} {c : Char} (hp : prog[pc]? = some (.char cs))
      (hc : text[i]? = some c) (hs : cs.contains c = true) : Step prog text (pc, i, s) (pc + 1, i + 1, s)

/-- The machine takes so many steps. -/
inductive Run (prog : Array Inst) (text : List Char) : Nat → Nat × Mark → Nat × Mark → Prop where
  | refl (x : Nat × Mark) : Run prog text 0 x x
  | step {n : Nat} {x y z : Nat × Mark} (h : Step prog text x y) (hr : Run prog text n y z) :
      Run prog text (n + 1) x z

variable {prog : Array Inst} {text : List Char} {x y z : Nat × Mark} {start mid stop pc : Nat}

theorem Run.trans (h : Run prog text m x y) (h' : Run prog text n y z) : Run prog text (m + n) x z := by
  induction h with
  | refl => rwa [Nat.zero_add]
  | step h _ ih =>
    rw [Nat.succ_add]
    exact .step h (ih h')

/-- The machine can get from one state to another. -/
abbrev Reaches (prog : Array Inst) (text : List Char) : Nat × Mark → Nat × Mark → Prop :=
  Relation.ReflTransGen (Step prog text)

theorem reaches_iff : Reaches prog text x y ↔ ∃ n, Run prog text n x y := by
  constructor
  · intro h
    induction h using Relation.ReflTransGen.head_induction_on with
    | refl => exact ⟨0, .refl _⟩
    | head h _ ih =>
      obtain ⟨n, hr⟩ := ih
      exact ⟨n + 1, .step h hr⟩
  · rintro ⟨n, hr⟩
    induction hr with
    | refl => exact .refl
    | step h _ ih => exact .head h ih

theorem step_iff : Step prog text (pc, a) x ↔
    (∃ t ∈ Thread.onwards prog (placeAt text a.1) ⟨pc, a.2⟩, x = (t.pc, a.1, t.slots)) ∨
      (∃ cs, prog[pc]? = some (.char cs) ∧ ∃ c, text[a.1]? = some c ∧ cs.contains c = true) ∧
        x = (pc + 1, a.1 + 1, a.2) := by
  constructor
  · rintro (h | ⟨hp, hc, hs⟩)
    · exact .inl ⟨_, h, rfl⟩
    · exact .inr ⟨⟨_, hp, _, hc, hs⟩, rfl⟩
  · rintro (⟨t, ht, rfl⟩ | ⟨⟨cs, hp, c, hc, hs⟩, rfl⟩)
    · exact .stay ht
    · exact .take hp hc hs

/-- From an address the machine can run to another one over what matches, and it cannot run to an address
outside except by this way. -/
structure Realizes (prog : Array Inst) (text : List Char) (Out : Nat → Prop) (start stop : Nat)
    (R : Mark → Mark → Prop) : Prop where
  runs : ∀ {a b}, R a b → ∃ n, Run prog text n (start, a) (stop, b)
  exits : ∀ {n a x}, Out x.1 → Run prog text n (start, a) x →
    ∃ b, ∃ m ≤ n, R a b ∧ Run prog text m (stop, b) x

namespace Realizes

variable {Out : Nat → Prop}

theorem congr (h : Realizes prog text Out start stop R) (hR : ∀ a b, R a b ↔ S a b) :
    Realizes prog text Out start stop S := by
  obtain rfl : R = S := funext₂ fun a b => propext (hR a b)
  exact h

theorem refl : Realizes prog text Out start start fun a b => b = a := by
  refine ⟨?_, fun _ hr => ⟨_, _, Nat.le_refl _, rfl, hr⟩⟩
  rintro a _ rfl
  exact ⟨0, .refl _⟩

theorem comp (h : Realizes prog text Out start mid R) (h' : Realizes prog text Out mid stop S) :
    Realizes prog text Out start stop fun a b => ∃ m, R a m ∧ S m b := by
  constructor
  · rintro a b ⟨c, hc, hb⟩
    obtain ⟨m, hm⟩ := h.runs hc
    obtain ⟨n, hn⟩ := h'.runs hb
    exact ⟨m + n, hm.trans hn⟩
  · intro n a x hx hr
    obtain ⟨c, m, hm, hc, hr⟩ := h.exits hx hr
    obtain ⟨b, m', hm', hb, hr⟩ := h'.exits hx hr
    exact ⟨b, m', Nat.le_trans hm' hm, ⟨c, hc, hb⟩, hr⟩

/-- An address from which the machine can only take steps of one sort. -/
theorem of_step (hstep : ∀ a x, Step prog text (start, a) x ↔ ∃ b, R a b ∧ x = (stop, b))
    (hout : ∀ pc, Out pc → pc ≠ start) : Realizes prog text Out start stop R := by
  constructor
  · intro a b h
    exact ⟨1, .step ((hstep a _).2 ⟨b, h, rfl⟩) (.refl _)⟩
  · intro n a x hx hr
    cases hr with
    | refl => exact absurd rfl (hout _ hx)
    | @step m _ y _ h hr =>
      obtain ⟨b, hb, rfl⟩ := (hstep a y).1 h
      exact ⟨b, m, Nat.le_succ m, hb, hr⟩

end Realizes

section

variable {Out : Nat → Prop}

theorem realizes_char (text : List Char) {cs : CodeSet} (hp : prog[start]? = some (.char cs))
    (hout : ∀ pc, Out pc → pc ≠ start) :
    Realizes prog text Out start (start + 1) ((Expr.chars cs).Matches text) :=
  .of_step (fun a x => by simp [step_iff, Thread.onwards, hp, Expr.Matches]) hout

theorem realizes_look (text : List Char) {l : Look} (hp : prog[start]? = some (.look l))
    (hout : ∀ pc, Out pc → pc ≠ start) :
    Realizes prog text Out start (start + 1) ((Expr.look l).Matches text) := by
  refine .of_step (fun a x => ?_) hout
  by_cases hl : l.holds (charBefore text a.1) text[a.1]? = true
  · simp [step_iff, Thread.onwards, hp, Expr.Matches, placeAt, hl]
  · simp [step_iff, Thread.onwards, hp, Expr.Matches, placeAt, hl]

theorem realizes_save (text : List Char) {slot : Nat} (hp : prog[start]? = some (.save slot))
    (hout : ∀ pc, Out pc → pc ≠ start) :
    Realizes prog text Out start (start + 1) fun a b => b = a.save slot :=
  .of_step (fun a x => by simp [step_iff, Thread.onwards, hp, Mark.save, placeAt]) hout

theorem realizes_jump (text : List Char) (hp : prog[start]? = some (.jump stop))
    (hout : ∀ pc, Out pc → pc ≠ start) :
    Realizes prog text Out start stop fun a b => b = a :=
  .of_step (fun a x => by simp [step_iff, Thread.onwards, hp]) hout

/-! ## Ways that part -/

/-- From an address the machine can go on to one of two others only. -/
structure Forks (prog : Array Inst) (text : List Char) (Out : Nat → Prop) (start left right : Nat) :
    Prop where
  goesLeft : ∀ a, ∃ n, Run prog text n (start, a) (left, a)
  goesRight : ∀ a, ∃ n, Run prog text n (start, a) (right, a)
  exits : ∀ {n a x}, Out x.1 → Run prog text n (start, a) x →
    ∃ m < n, Run prog text m (left, a) x ∨ Run prog text m (right, a) x

variable {left right body back : Nat} {greedy : Bool}

theorem step_choice (hp : prog[start]? = some (.choice greedy left right)) :
    Step prog text (start, a) x ↔ x = (left, a) ∨ x = (right, a) := by
  cases greedy
  · simp [step_iff, Thread.onwards, hp, Inst.choice, or_comm]
  · simp [step_iff, Thread.onwards, hp, Inst.choice]

theorem forks_choice (text : List Char) (hp : prog[start]? = some (.choice greedy left right))
    (hout : ∀ pc, Out pc → pc ≠ start) : Forks prog text Out start left right := by
  refine ⟨fun a => ⟨1, .step ((step_choice hp).2 (.inl rfl)) (.refl _)⟩,
    fun a => ⟨1, .step ((step_choice hp).2 (.inr rfl)) (.refl _)⟩, fun hx hr => ?_⟩
  cases hr with
  | refl => exact absurd rfl (hout _ hx)
  | @step m _ y _ h hr =>
    rcases (step_choice hp).1 h with rfl | rfl
    · exact ⟨m, Nat.lt_succ_self m, .inl hr⟩
    · exact ⟨m, Nat.lt_succ_self m, .inr hr⟩

namespace Forks

/-- Whoever jumps to where the ways part, may go either way. -/
theorem before (h : Forks prog text Out mid left right)
    (h' : Realizes prog text Out start mid fun a b => b = a) : Forks prog text Out start left right := by
  refine ⟨fun a => ?_, fun a => ?_, fun hx hr => ?_⟩
  · obtain ⟨m, hm⟩ := h'.runs (a := a) rfl
    obtain ⟨n, hn⟩ := h.goesLeft a
    exact ⟨m + n, hm.trans hn⟩
  · obtain ⟨m, hm⟩ := h'.runs (a := a) rfl
    obtain ⟨n, hn⟩ := h.goesRight a
    exact ⟨m + n, hm.trans hn⟩
  · obtain ⟨_, m, hm, rfl, hrun⟩ := h'.exits hx hr
    obtain ⟨m', hm', hrun⟩ := h.exits hx hrun
    exact ⟨m', Nat.lt_of_lt_of_le hm' hm, hrun⟩

theorem alt (h : Forks prog text Out start left right)
    (hl : Realizes prog text Out left stop R) (hr : Realizes prog text Out right stop S) :
    Realizes prog text Out start stop fun a b => R a b ∨ S a b := by
  constructor
  · rintro a b (hb | hb)
    · obtain ⟨m, hm⟩ := h.goesLeft a
      obtain ⟨n, hn⟩ := hl.runs hb
      exact ⟨m + n, hm.trans hn⟩
    · obtain ⟨m, hm⟩ := h.goesRight a
      obtain ⟨n, hn⟩ := hr.runs hb
      exact ⟨m + n, hm.trans hn⟩
  · intro n a x hx hrun
    obtain ⟨m, hm, hrun | hrun⟩ := h.exits hx hrun
    · obtain ⟨b, m', hm', hb, hrun⟩ := hl.exits hx hrun
      exact ⟨b, m', by omega, .inl hb, hrun⟩
    · obtain ⟨b, m', hm', hb, hrun⟩ := hr.exits hx hrun
      exact ⟨b, m', by omega, .inr hb, hrun⟩

/-- A loop: at its head and after each round one can go on with a round or stop. -/
theorem loop (hback : Forks prog text Out back body stop)
    (hbody : Realizes prog text Out body back R) (h : Forks prog text Out start body stop) :
    Realizes prog text Out start stop fun a b => ∃ n, Rounds R n a b := by
  constructor
  · rintro a b ⟨n, hn⟩
    induction n generalizing start a with
    | zero =>
      obtain rfl := hn
      exact h.goesRight _
    | succ n ih =>
      obtain ⟨c, hc, hn⟩ := hn
      obtain ⟨m₁, hrun₁⟩ := h.goesLeft a
      obtain ⟨m₂, hrun₂⟩ := hbody.runs hc
      obtain ⟨m₃, hrun₃⟩ := ih hback hn
      exact ⟨m₁ + (m₂ + m₃), hrun₁.trans (hrun₂.trans hrun₃)⟩
  · intro n a x hx hrun
    -- the number of steps that are left goes down with each round
    induction n using Nat.strongRecOn generalizing start a with
    | ind n ih =>
      obtain ⟨m, hm, hrun | hrun⟩ := h.exits hx hrun
      · obtain ⟨c, m₁, hm₁, hc, hrun⟩ := hbody.exits hx hrun
        obtain ⟨b, m₂, hm₂, ⟨r, hr⟩, hrun⟩ := ih m₁ (by omega) hback hrun
        exact ⟨b, m₂, by omega, ⟨r + 1, c, hc, hr⟩, hrun⟩
      · exact ⟨a, m, by omega, ⟨0, rfl⟩, hrun⟩

end Forks

end

/-! ## Layouts -/

/-- A list of instructions stands in a program from an address on. -/
def Laid (prog : Array Inst) (start : Nat) (code : List Inst) : Prop :=
  ∀ k inst, code[k]? = some inst → prog[start + k]? = some inst

/-- The addresses outside of a layout. -/
def Outside (start stop pc : Nat) : Prop := pc < start ∨ stop ≤ pc

variable {code code' : List Inst} {inst : Inst} {e : Expr} {first last low high : Nat} {greedy : Bool}

theorem Laid.left (h : Laid prog start (code ++ code')) : Laid prog start code := by
  intro k inst hk
  have hlt : k < code.length := (List.getElem?_eq_some_iff.1 hk).1
  exact h k inst (by rw [List.getElem?_append_left hlt, hk])

theorem Laid.right (h : Laid prog start (code ++ code')) : Laid prog (start + code.length) code' := by
  intro k inst hk
  rw [Nat.add_assoc]
  exact h _ inst (by rw [List.getElem?_append_right (Nat.le_add_right ..), Nat.add_sub_cancel_left, hk])

theorem Laid.head (h : Laid prog start (inst :: code)) : prog[start]? = some inst := h 0 inst rfl

theorem Laid.tail (h : Laid prog start (inst :: code)) : Laid prog (start + 1) code := by
  intro k inst hk
  rw [Nat.add_assoc, Nat.add_comm 1]
  exact h (k + 1) inst hk

theorem ne_of_outside (h : start ≤ mid) (h' : mid < stop) (pc : Nat) (hpc : Outside start stop pc) : pc ≠ mid := by
  unfold Outside at hpc
  omega

/-- What a layout realizes, it realizes as a part of a longer one. -/
theorem Realizes.widen (h : Realizes prog text (Outside first last) start stop R) (hfirst : low ≤ first)
    (hlast : last ≤ high) : Realizes prog text (Outside low high) start stop R :=
  ⟨h.runs, fun hx hr => h.exits (by unfold Outside at hx ⊢; omega) hr⟩

/-- The layout of an expression realizes a relation, wherever it stands. -/
def Expr.Lays (prog : Array Inst) (text : List Char) (e : Expr) (R : Mark → Mark → Prop) : Prop :=
  ∀ start, Laid prog start (e.emit start) →
    Realizes prog text (Outside start (start + e.size)) start (start + e.size) R

/-- Copies of a layout, one after the other, make rounds. -/
theorem realizes_copies (he : e.Lays prog text R) (h : Laid prog start (copies (fun pc => e.emit pc) e.size n start)) :
    Realizes prog text (Outside start (start + e.size * n)) start (start + e.size * n) (Rounds R n) := by
  induction n generalizing start with
  | zero => exact .refl
  | succ n ih =>
    have hfirst := he start h.left
    have hrest := ih (e.length_emit start ▸ h.right)
    rw [show start + e.size * (n + 1) = start + e.size + e.size * n by rw [Nat.mul_succ]; omega]
    exact (hfirst.widen (by omega) (by omega)).comp (hrest.widen (by omega) (by omega))

/-- Copies of a layout that each can be passed over make any number of rounds up to their own. -/
theorem realizes_options (he : e.Lays prog text R)
    (h : Laid prog start
      (copies (fun pc => .choice greedy (pc + 1) stop :: e.emit (pc + 1)) (e.size + 1) n start))
    (hstop : start + (e.size + 1) * n = stop) :
    Realizes prog text (Outside start stop) start stop fun a b => ∃ m ≤ n, Rounds R m a b := by
  induction n generalizing start with
  | zero =>
    obtain rfl : start = stop := by simpa using hstop
    refine Realizes.refl.congr fun a b => ⟨fun hb => ⟨0, Nat.le_refl 0, hb⟩, ?_⟩
    rintro ⟨m, hm, hb⟩
    obtain rfl := Nat.le_zero.1 hm
    exact hb
  | succ n ih =>
    rw [Nat.mul_succ] at hstop
    have hlaid := h.right
    rw [List.length_cons, Expr.length_emit] at hlaid
    have hfork : Forks prog text (Outside start stop) start (start + 1) stop :=
      forks_choice text h.left.head (ne_of_outside (Nat.le_refl _) (by omega))
    have hround := (he _ h.left.tail).widen (show start ≤ _ by omega) (show _ ≤ stop by omega)
    have hrest := (ih hlaid (by omega)).widen (show start ≤ _ by omega) (Nat.le_refl stop)
    rw [Nat.add_assoc, Nat.add_comm 1] at hround
    refine (hfork.alt (hround.comp hrest) .refl).congr fun a b => ?_
    constructor
    · rintro (⟨c, hc, m, hm, hb⟩ | rfl)
      · exact ⟨m + 1, Nat.succ_le_succ hm, c, hc, hb⟩
      · exact ⟨0, Nat.zero_le _, rfl⟩
    · rintro ⟨m, hm, hb⟩
      cases m with
      | zero => exact .inr hb
      | succ m =>
        obtain ⟨c, hc, hb⟩ := hb
        exact .inl ⟨c, hc, m, Nat.le_of_succ_le_succ hm, hb⟩

/-- A loop that can be passed over makes any number of rounds. -/
theorem realizes_star (he : e.Lays prog text R) (h : Laid prog start ((Expr.rep e 0 none greedy).emit start)) :
    Realizes prog text (Outside start (start + (e.size + 2))) start (start + (e.size + 2))
      fun a b => ∃ m, Rounds R m a b := by
  simp only [Expr.emit] at h
  have hback := h.right.head
  rw [List.length_cons, Expr.length_emit, Nat.add_comm e.size, ← Nat.add_assoc] at hback
  rw [show start + (e.size + 2) = start + 1 + e.size + 1 by omega]
  have hhead : Forks prog text (Outside start (start + 1 + e.size + 1)) start (start + 1) (start + 1 + e.size + 1) :=
    forks_choice text h.left.head (ne_of_outside (Nat.le_refl _) (by omega))
  have hround := (he _ h.left.tail).widen (Nat.le_add_right start 1) (Nat.le_succ _)
  have hne := ne_of_outside (show start ≤ start + 1 + e.size by omega) (Nat.lt_succ_self _)
  cases hnull : e.nullable with
  | true =>
    rw [hnull, if_pos rfl] at hback
    exact (forks_choice text hback hne).loop hround hhead
  | false =>
    rw [hnull, if_neg Bool.false_ne_true] at hback
    exact (hhead.before (realizes_jump text hback hne)).loop hround hhead

/-- A loop whose first rounds cannot be passed over. -/
theorem realizes_plus (he : e.Lays prog text R)
    (h : Laid prog start ((Expr.rep e (n + 1) none greedy).emit start)) :
    Realizes prog text (Outside start (start + (e.size * n + (e.size + 1)))) start
      (start + (e.size * n + (e.size + 1))) fun a b => ∃ m, n + 1 ≤ m ∧ Rounds R m a b := by
  simp only [Expr.emit] at h
  have hlast := h.left.right
  rw [Expr.length_copies e.length_emit] at hlast
  have hback := h.right.head
  rw [List.length_append, Expr.length_copies e.length_emit, Expr.length_emit, ← Nat.add_assoc] at hback
  rw [show start + (e.size * n + (e.size + 1)) = start + e.size * n + e.size + 1 by omega]
  have hcopies := (realizes_copies he h.left.left).widen (Nat.le_refl start)
    (show _ ≤ start + e.size * n + e.size + 1 by omega)
  have hround := (he _ hlast).widen (show start ≤ _ by omega) (Nat.le_succ _)
  have hfork := forks_choice text hback
    (ne_of_outside (show start ≤ start + e.size * n + e.size by omega) (Nat.lt_succ_self _))
  refine (hcopies.comp (hround.comp (hfork.loop hround hfork))).congr fun a b => ?_
  constructor
  · rintro ⟨c, hc, d, hd, m, hb⟩
    exact ⟨n + (m + 1), by omega, rounds_add.2 ⟨c, hc, d, hd, hb⟩⟩
  · rintro ⟨m, hm, hb⟩
    obtain ⟨k, rfl⟩ : ∃ k, m = n + (k + 1) := ⟨m - n - 1, by omega⟩
    obtain ⟨c, hc, d, hd, hb⟩ := rounds_add.1 hb
    exact ⟨c, hc, d, hd, k, hb⟩

theorem realizes_bounded {max : Nat} (he : e.Lays prog text R)
    (h : Laid prog start ((Expr.rep e m (some max) greedy).emit start)) :
    Realizes prog text (Outside start (start + (e.size * m + (e.size + 1) * (max - m)))) start
      (start + (e.size * m + (e.size + 1) * (max - m)))
      fun a b => ∃ n, m ≤ n ∧ n ≤ m + (max - m) ∧ Rounds R n a b := by
  simp only [Expr.emit] at h
  have hoptions := h.right
  rw [Expr.length_copies e.length_emit] at hoptions
  rw [← Nat.add_assoc]
  have hfirst := (realizes_copies he h.left).widen (Nat.le_refl start) (Nat.le_add_right _ ((e.size + 1) * (max - m)))
  have hrest := (realizes_options he hoptions rfl).widen (Nat.le_add_right start _) (Nat.le_refl _)
  refine (hfirst.comp hrest).congr fun a b => ?_
  constructor
  · rintro ⟨c, hc, n, hn, hb⟩
    exact ⟨m + n, Nat.le_add_right _ _, by omega, rounds_add.2 ⟨c, hc, hb⟩⟩
  · rintro ⟨n, hmn, hn, hb⟩
    obtain ⟨k, rfl⟩ := Nat.exists_eq_add_of_le hmn
    obtain ⟨c, hc, hb⟩ := rounds_add.1 hb
    exact ⟨c, hc, k, by omega, hb⟩

/-- The layout of an expression realizes what the expression matches. -/
theorem Expr.realizes (e : Expr) (text : List Char) : e.Lays prog text (e.Matches text) := by
  induction e with
  | empty => exact fun _ _ => .refl
  | chars s => exact fun _ h => realizes_char text h.head (ne_of_outside (Nat.le_refl _) (Nat.lt_succ_self _))
  | look l => exact fun _ h => realizes_look text h.head (ne_of_outside (Nat.le_refl _) (Nat.lt_succ_self _))
  | cat e f ihe ihf =>
    intro start h
    have hf := ihf _ (e.length_emit start ▸ h.right)
    rw [Nat.add_assoc] at hf
    exact ((ihe _ h.left).widen (Nat.le_refl _) (by simp only [size]; omega)).comp
      (hf.widen (by omega) (Nat.le_refl _))
  | alt e f ihe ihf =>
    intro start h
    simp only [emit] at h
    have hsecond := h.right
    rw [List.length_cons, length_emit, Nat.add_comm e.size, ← Nat.add_assoc] at hsecond
    rw [show start + (e.alt f).size = start + 1 + e.size + 1 + f.size by simp only [size]; omega]
    have hsplit : prog[start]? = some (.choice true (start + 1) (start + 1 + e.size + 1)) := h.left.head
    have hfork := forks_choice text hsplit
      (ne_of_outside (Nat.le_refl _) (show start < start + 1 + e.size + 1 + f.size by omega))
    have hjump := realizes_jump text hsecond.head
      (ne_of_outside (show start ≤ start + 1 + e.size by omega) (show _ < start + 1 + e.size + 1 + f.size by omega))
    have he := (ihe _ h.left.tail).widen (show start ≤ _ by omega) (show _ ≤ start + 1 + e.size + 1 + f.size by omega)
    have hf := (ihf _ hsecond.tail).widen (show start ≤ _ by omega) (Nat.le_refl _)
    exact (hfork.alt (he.comp hjump) hf).congr fun a b => by simp [Matches]
  | rep e min max greedy ih =>
    intro start h
    cases max with
    | none =>
      cases min with
      | zero => exact (realizes_star ih h).congr fun a b => by simp [Matches]
      | succ n => exact (realizes_plus ih h).congr fun a b => by simp [Matches]
    | some max => exact (realizes_bounded ih h).congr fun a b => by simp [Matches]
  | group i e ih =>
    intro start h
    simp only [emit] at h
    have hclose := h.right.head
    rw [List.length_cons, length_emit, Nat.add_comm e.size, ← Nat.add_assoc] at hclose
    rw [show start + (group i e).size = start + 1 + e.size + 1 by simp only [size]; omega]
    have hopen := realizes_save text h.left.head
      (ne_of_outside (Nat.le_refl _) (show start < start + 1 + e.size + 1 by omega))
    have hlast := realizes_save text hclose
      (ne_of_outside (show start ≤ start + 1 + e.size by omega) (Nat.lt_succ_self _))
    have he := (ih _ h.left.tail).widen (show start ≤ _ by omega) (Nat.le_succ _)
    exact (hopen.comp (he.comp hlast)).congr fun a b => by simp [Matches]

/-! ## Programs -/

theorem mem_copies {layout : Nat → List Inst} {size : Nat} (h : inst ∈ copies layout size n start) :
    ∃ pc, inst ∈ layout pc := by
  induction n generalizing start with
  | zero => cases h
  | succ n ih =>
    rcases List.mem_append.1 h with h | h
    · exact ⟨start, h⟩
    · exact ih h

theorem accept_ne_choice : Inst.accept ≠ .choice greedy low high := by
  cases greedy <;> exact Inst.noConfusion

/-- Nothing is accepted within the layout of an expression. -/
theorem Expr.accept_notMem_emit (e : Expr) (start : Nat) : Inst.accept ∉ e.emit start := by
  induction e generalizing start with
  | empty | chars _ | look _ => simp [emit]
  | cat e f ihe ihf => simp [emit, ihe, ihf]
  | alt e f ihe ihf => simp [emit, ihe, ihf]
  | group i e ih => simp [emit, ih]
  | rep e min max greedy ih =>
    have hcopies : ∀ n start, Inst.accept ∉ copies (fun pc => e.emit pc) e.size n start := by
      intro n start h
      obtain ⟨pc, h⟩ := mem_copies h
      exact ih pc h
    cases max with
    | none =>
      cases min with
      | zero => cases hnull : e.nullable <;> simp [emit, ih, accept_ne_choice, hnull]
      | succ n => simp [emit, ih, hcopies, accept_ne_choice]
    | some max =>
      simp only [emit, List.mem_append, hcopies, false_or]
      intro h
      obtain ⟨pc, h⟩ := mem_copies h
      rcases List.mem_cons.1 h with h | h
      · exact accept_ne_choice h
      · exact ih _ h

/-- A program accepts just what its expression matches as the group `0`. -/
theorem program_accepts {b : Mark} : (∃ pc, (program e)[pc]? = some .accept ∧ Reaches (program e) text (0, a) (pc, b)) ↔
    (Expr.group 0 e).Matches text a b := by
  have hlaid : Laid (program e) 0 ((Expr.group 0 e).emit 0 ++ [.accept]) := by
    intro k inst hk
    simpa [program] using hk
  have haccept := hlaid.right.head
  rw [Nat.zero_add, Expr.length_emit] at haccept
  have hrealizes := (Expr.group 0 e).realizes text 0 hlaid.left
  rw [Nat.zero_add] at hrealizes
  constructor
  · rintro ⟨pc, hpc, h⟩
    obtain ⟨n, hrun⟩ := reaches_iff.1 h
    -- the only address with this instruction is the one behind the layout
    have hout : Outside 0 (Expr.group 0 e).size pc := by
      refine .inr (Nat.le_of_not_lt fun hlt => ?_)
      rw [program, List.getElem?_toArray, List.getElem?_append_left (by rwa [Expr.length_emit])] at hpc
      exact Expr.accept_notMem_emit _ _ (List.mem_of_getElem? hpc)
    obtain ⟨c, m, -, hc, hrun⟩ := hrealizes.exits hout hrun
    cases hrun with
    | refl => exact hc
    | step h _ => simp [step_iff, Thread.onwards, haccept] at h
  · intro h
    exact ⟨_, haccept, reaches_iff.2 (hrealizes.runs h)⟩

end MediaPaths.Regex
