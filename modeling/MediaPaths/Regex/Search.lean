import MediaPaths.Regex.Program

/-!
# Searching a text

All ways through a program are followed at once, one character after the other. At a position every
instruction is reached at most once, by the way that is preferred most; so a search takes time
proportional to the length of the text. Threads are kept in order of preference, and a match takes
all later threads away. New threads start at every position until something has matched, so the
leftmost match is found, and of those the preferred one.
-/

namespace MediaPaths.Regex

/-- The positions remembered so far. -/
abbrev Slots := List (Option Nat)

/-- A way through the program up to a position. -/
structure Thread where
  /-- The next instruction. -/
  pc : Nat
  /-- The positions remembered on the way. -/
  slots : Slots

/-- The threads at a position. -/
structure Threads where
  /-- Whether an instruction has been reached. -/
  seen : Array Bool
  /-- The threads that wait for a character or have matched, the most preferred last. -/
  waiting : List Thread

/-- No threads yet. -/
def Threads.none (size : Nat) : Threads := ⟨Array.replicate size false, []⟩

/-- Where a search stands in its text. -/
structure Place where
  /-- How many characters come before. -/
  position : Nat
  /-- The character before. -/
  before : Option Char
  /-- The character after. -/
  after : Option Char

/-- Follows threads as far as they go without taking a character. Each instruction is passed once and
puts two threads on the stack at most, so twice the size of the program is fuel enough. -/
def follow (prog : Array Inst) (p : Place) : (fuel : Nat) → List Thread → Threads → Threads
  | 0, _, ts => ts
  | _, [], ts => ts
  | fuel + 1, t :: stack, ts =>
    if ts.seen.getD t.pc true then follow prog p fuel stack ts
    else
      let ts := { ts with seen := ts.seen.setIfInBounds t.pc true }
      match prog[t.pc]? with
      | none => follow prog p fuel stack ts
      | some (.char _) | some .accept =>
        follow prog p fuel stack { ts with waiting := t :: ts.waiting }
      | some (.look l) =>
        if l.holds p.before p.after then
          follow prog p fuel ({ t with pc := t.pc + 1 } :: stack) ts
        else follow prog p fuel stack ts
      | some (.save slot) =>
        follow prog p fuel (⟨t.pc + 1, t.slots.set slot (some p.position)⟩ :: stack) ts
      | some (.jump goal) => follow prog p fuel ({ t with pc := goal } :: stack) ts
      | some (.split a b) =>
        follow prog p fuel ({ t with pc := a } :: { t with pc := b } :: stack) ts

/-- Adds a thread and all it leads to. -/
def Threads.add (prog : Array Inst) (p : Place) (ts : Threads) (t : Thread) : Threads :=
  follow prog p (2 * prog.size + 2) [t] ts

/-- Moves the threads over a character, in order of preference, to the place after it. A thread that
has matched is the result unless one before it goes on to match. -/
def advance (prog : Array Inst) (c : Option Char) (p : Place) :
    List Thread → Threads → Option Slots → Threads × Option Slots
  | [], next, found => (next, found)
  | t :: ts, next, found =>
    match prog[t.pc]? with
    | some .accept => (next, some t.slots)
    | some (.char s) =>
      if c.any s.contains then advance prog c p ts (next.add prog p ⟨t.pc + 1, t.slots⟩) found
      else advance prog c p ts next found
    | _ => advance prog c p ts next found

/-- Searches the rest of a text with the threads that have come here. -/
def searchFrom (prog : Array Inst) (start : Slots) :
    Place → List Char → Threads → Option Slots → Option Slots
  | p, rest, ts, found =>
    let ts := if found.isNone then ts.add prog p ⟨0, start⟩ else ts
    match rest with
    | [] =>
      (advance prog none p ts.waiting.reverse (.none prog.size) found).2
    | c :: cs =>
      let q : Place := ⟨p.position + 1, some c, cs.head?⟩
      let (next, found) := advance prog (some c) q ts.waiting.reverse (.none prog.size) found
      if next.waiting.isEmpty && found.isSome then found
      else searchFrom prog start q cs next found

/-- The slots of the first match in a text. -/
def search (prog : Array Inst) (slots : Nat) (text : List Char) : Option Slots :=
  searchFrom prog (List.replicate slots none) ⟨0, none, text.head?⟩ text (.none prog.size) none

end MediaPaths.Regex
