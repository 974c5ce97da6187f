import Mathlib.Data.Nat.Find
import MediaPaths.Proofs.Regex.Threads

/-!
# What a search finds

A search finds a match if there is one, and none that begins later than another one does. The threads are in the
order in which they began. When one is dropped, because another one has come to its address before, the other began
no later; when it is taken away by a match, so did the match.
-/

namespace MediaPaths.Regex

variable {prog : Array Inst} {text : List Char} {start slots : Slots} {i j k s pc : Nat} {c : Option Char}
  {p : Place} {t u : Thread} {l us : List Thread} {ts next : Threads} {found : Option Slots}

/-! ## Moving over a character -/

/-- A thread has matched. -/
def accepts (prog : Array Inst) (t : Thread) : Bool :=
  match prog[t.pc]? with
  | some .accept => true
  | _ => false

/-- A thread behind a character, if it takes it. -/
def Thread.taken (prog : Array Inst) (c : Option Char) (t : Thread) : Option Thread :=
  match prog[t.pc]? with
  | some (.char cs) => if c.any cs.contains then some ⟨t.pc + 1, t.slots⟩ else none
  | _ => none

/-- Adds threads one after the other. -/
def addAll (prog : Array Inst) (p : Place) (ts : Threads) (us : List Thread) : Threads :=
  us.foldl (Threads.add prog p) ts

/-- The threads that a match takes away play no part; the others go on if they take the character. -/
theorem advance_eq : advance prog c p l next found =
    (addAll prog p next ((l.takeWhile fun t => !accepts prog t).filterMap (Thread.taken prog c)),
      ((l.find? (accepts prog)).map (·.slots)).or found) := by
  induction l generalizing next with
  | nil => rfl
  | cons t l ih =>
    rw [advance]
    split
    · rename_i hp
      simp [accepts, hp, addAll]
    · rename_i cs hp
      by_cases hc : c.any cs.contains = true
      · simp [accepts, Thread.taken, hp, hc, ih, addAll]
      · simp [accepts, Thread.taken, hp, hc, ih]
    · rename_i haccept hchar
      have haccepts : accepts prog t = false := by
        unfold accepts
        split
        · exact absurd ‹_› haccept
        · rfl
      have htaken : t.taken prog c = none := by
        unfold Thread.taken
        split
        · exact absurd ‹_› (hchar _)
        · rfl
      simp [haccepts, htaken, ih]

/-- After threads were added everything that they lead to was explored. -/
theorem Explored.addAll (h : Explored prog p [] ts) : Explored prog p [] (addAll prog p ts us) := by
  induction us generalizing ts with
  | nil => exact h
  | cons u us ih => exact ih h.add

/-- Threads that wait keep their places: what is added comes after them. -/
theorem waiting_addAll (h : Explored prog p [] ts) : ts.waiting <:+ (addAll prog p ts us).waiting := by
  induction us generalizing ts with
  | nil => exact List.suffix_rfl
  | cons u us ih => exact (waiting_add h.size).trans (ih h.add)

/-- What holds of the threads that are added and is passed on holds of all that wait. -/
theorem forall_waiting_addAll {G : Thread → Prop} (hG : ∀ t, G t → ∀ u ∈ t.onwards prog p, G u)
    (h : Explored prog p [] ts) (hts : ∀ u ∈ ts.waiting, G u) (hus : ∀ u ∈ us, G u) :
    ∀ u ∈ (addAll prog p ts us).waiting, G u := by
  induction us generalizing ts with
  | nil => exact hts
  | cons u us ih =>
    exact ih h.add (forall_waiting_add hG h.size hts (hus u (List.mem_cons_self ..)))
      fun v hv => hus v (List.mem_cons_of_mem _ hv)

/-- Threads are added from the left. -/
theorem addAll_append {us' : List Thread} :
    addAll prog p ts (us ++ us') = addAll prog p (addAll prog p ts us) us' := List.foldl_append

/-! ## Threads and runs -/

/-- A thread began at `s` or before. -/
def Comes (prog : Array Inst) (text : List Char) (start : Slots) (s i : Nat) (t : Thread) : Prop :=
  ∃ k ≤ s, Reaches prog text (0, k, start) (t.pc, i, t.slots)

/-- There is a match that begins at a position, with these slots. -/
def Accepts (prog : Array Inst) (text : List Char) (start : Slots) (k : Nat) (slots : Slots) : Prop :=
  ∃ pc j, prog[pc]? = some .accept ∧ Reaches prog text (0, k, start) (pc, j, slots)

/-- There is a match that begins at `s` or before, with these slots. -/
def Finds (prog : Array Inst) (text : List Char) (start : Slots) (s : Nat) (slots : Slots) : Prop :=
  ∃ k ≤ s, Accepts prog text start k slots

/-- What began at a position or before began at a later one or before. -/
theorem Comes.mono (h : Comes prog text start s i t) (hs : s ≤ j) : Comes prog text start j i t := by
  obtain ⟨k, hk, h⟩ := h
  exact ⟨k, Nat.le_trans hk hs, h⟩

/-- What is found from there is found from a later position or before. -/
theorem Finds.mono (h : Finds prog text start s slots) (hs : s ≤ j) : Finds prog text start j slots := by
  obtain ⟨k, hk, h⟩ := h
  exact ⟨k, Nat.le_trans hk hs, h⟩

/-- A thread goes on without reading. -/
theorem Comes.onwards (h : Comes prog text start s i t) (hu : u ∈ t.onwards prog (placeAt text i)) :
    Comes prog text start s i u := by
  obtain ⟨k, hk, h⟩ := h
  exact ⟨k, hk, h.tail (.stay hu)⟩

/-- A thread goes on by reading a character. -/
theorem Comes.taken (h : Comes prog text start s i t) (hu : t.taken prog text[i]? = some u) :
    Comes prog text start s (i + 1) u := by
  obtain ⟨k, hk, h⟩ := h
  unfold Thread.taken at hu
  split at hu
  · rename_i cs hp
    split at hu
    · rename_i hc
      obtain ⟨c, hc, hcs⟩ := (Option.any_eq_true ..).1 hc
      cases hu
      exact ⟨k, hk, h.tail (.take hp hc hcs)⟩
    · cases hu
  · cases hu

/-- A thread that accepts has found a match. -/
theorem Comes.finds (h : Comes prog text start s i t) (ht : accepts prog t = true) :
    Finds prog text start s t.slots := by
  obtain ⟨k, hk, h⟩ := h
  unfold accepts at ht
  split at ht
  · exact ⟨k, hk, t.pc, i, ‹_›, h⟩
  · cases ht

/-! ## Soundness -/

/-- The threads and the match that was found began at `s` or before. -/
structure Sound (prog : Array Inst) (text : List Char) (start : Slots) (s i : Nat) (ts : Threads)
    (found : Option Slots) : Prop where
  waiting : ∀ t ∈ ts.waiting, Comes prog text start s i t
  found : ∀ slots ∈ found, Finds prog text start s slots

/-- The threads are moved over the character at a position. -/
def moved (prog : Array Inst) (text : List Char) (i : Nat) (ts : Threads) (found : Option Slots) :
    Threads × Option Slots :=
  advance prog text[i]? (placeAt text (i + 1)) ts.waiting.reverse (.none prog.size) found

/-- Sound up to a bound is sound up to a later one. -/
theorem Sound.mono (h : Sound prog text start s i ts found) (hs : s ≤ j) : Sound prog text start j i ts found :=
  ⟨fun t ht => (h.waiting t ht).mono hs, fun slots hslots => (h.found slots hslots).mono hs⟩

/-- All threads that read the next character come from where they came from. -/
theorem comes_taken (h : ∀ t ∈ l, Comes prog text start s i t) :
    ∀ u ∈ l.filterMap (Thread.taken prog text[i]?), Comes prog text start s (i + 1) u := by
  intro u hu
  obtain ⟨t, ht, hu⟩ := List.mem_filterMap.1 hu
  exact (h t ht).taken hu

/-- Threads that began at `s` or before lead only to threads that did. -/
theorem comes_addAll (h : ∀ u ∈ us, Comes prog text start s i u) :
    ∀ u ∈ (addAll prog (placeAt text i) (.none prog.size) us).waiting, Comes prog text start s i u :=
  forall_waiting_addAll (fun _ ht _ hu => ht.onwards hu) .none (fun _ hu => absurd hu List.not_mem_nil) h

/-- Moving on keeps the threads and what was found sound. -/
theorem Sound.moved (h : Sound prog text start s i ts found) :
    Sound prog text start s (i + 1) (moved prog text i ts found).1 (moved prog text i ts found).2 := by
  have hall : ∀ t ∈ ts.waiting.reverse, Comes prog text start s i t := fun t ht =>
    h.waiting t (List.mem_reverse.1 ht)
  rw [Regex.moved, advance_eq]
  refine ⟨comes_addAll (comes_taken fun t ht => hall t (List.takeWhile_subset _ ht)), fun slots hslots => ?_⟩
  dsimp only at hslots
  cases hfind : ts.waiting.reverse.find? (accepts prog) with
  | none =>
    rw [hfind] at hslots
    exact h.found slots hslots
  | some t =>
    rw [hfind] at hslots
    obtain rfl : t.slots = slots := by simpa using hslots
    exact (hall t (List.mem_of_find?_eq_some hfind)).finds (List.find?_some hfind)

/-! ## Completeness -/

/-- Where the machine can be at a position: where it begins, behind a character that it takes, and further on. -/
theorem forall_of_reaches {Q : Nat → Prop} (hstart : s = i → Q 0)
    (htake : ∀ k pc slots cs c, k + 1 = i → Reaches prog text (0, s, start) (pc, k, slots) →
      prog[pc]? = some (.char cs) → text[k]? = some c → cs.contains c = true → Q (pc + 1))
    (honwards : ∀ t : Thread, Q t.pc → ∀ u ∈ t.onwards prog (placeAt text i), Q u.pc)
    (h : Reaches prog text (0, s, start) (pc, i, slots)) : Q pc := by
  generalize hx : (pc, i, slots) = x at h
  induction h generalizing pc slots with
  | refl =>
    cases hx
    exact hstart rfl
  | tail h hstep ih =>
    subst hx
    cases hstep with
    | stay hu => exact honwards _ (ih rfl) _ hu
    | take hp hc hs => exact htake _ _ _ _ _ rfl h hp hc hs

/-- Matching never goes back in the text. -/
theorem le_of_reaches {x y : Nat × Mark} (h : Reaches prog text x y) : x.2.1 ≤ y.2.1 := by
  induction h with
  | refl => exact Nat.le_refl _
  | tail _ hstep ih =>
    cases hstep with
    | stay => exact ih
    | take => exact Nat.le_succ_of_le ih

/-- The machine stays within the text. -/
theorem le_length_of_reaches {x y : Nat × Mark} (h : Reaches prog text x y) (hx : x.2.1 ≤ text.length) :
    y.2.1 ≤ text.length := by
  induction h with
  | refl => exact hx
  | tail _ hstep ih =>
    cases hstep with
    | stay => exact ih
    | take _ hc => exact (List.getElem?_eq_some_iff.1 hc).1

/-- On its way to a later position the machine waits at each one. -/
theorem waits_between {x y : Nat × Mark} (h : Reaches prog text x y) (hi : x.2.1 ≤ i) (hy : i ≤ y.2.1) :
    i = y.2.1 ∨ ∃ pc slots, Reaches prog text x (pc, i, slots) ∧ waits prog pc = true := by
  induction h with
  | refl => exact .inl (Nat.le_antisymm hy hi)
  | tail h hstep ih =>
    cases hstep with
    | stay => exact ih hy
    | take hp =>
      rcases Nat.lt_or_eq_of_le hy with hlt | heq
      · rcases ih (Nat.le_of_lt_succ hlt) with rfl | hwait
        · exact .inr ⟨_, _, h, waits_of_char hp⟩
        · exact .inr hwait
      · exact .inl heq

/-- The threads of a stage at which an address had been passed: all of them began at `s` or before. -/
def Staged (prog : Array Inst) (text : List Char) (start : Slots) (s i : Nat) (ts : Threads) (pc : Nat) : Prop :=
  ∃ ts', Explored prog (placeAt text i) [] ts' ∧ ts'.waiting <:+ ts.waiting ∧
    (∀ t ∈ ts'.waiting, Comes prog text start s i t) ∧ ts'.Passed pc

/-- Nothing that begins at `s` has matched before `i`, and all that it can reach there has been passed. -/
structure Covered (prog : Array Inst) (text : List Char) (start : Slots) (s i : Nat) (ts : Threads) : Prop where
  fresh : ∀ pc j slots, prog[pc]? = some .accept → Reaches prog text (0, s, start) (pc, j, slots) → i ≤ j
  staged : ∀ pc slots, Reaches prog text (0, s, start) (pc, i, slots) → Staged prog text start s i ts pc

/-- What began at `s` goes on, unless a match that began no later has taken it away. -/
def Settled (prog : Array Inst) (text : List Char) (start : Slots) (s i : Nat) (ts : Threads)
    (found : Option Slots) : Prop :=
  (found.isSome = true ∧ Sound prog text start s i ts found) ∨ Covered prog text start s i ts

/-- A stage passes on without reading. -/
theorem Staged.onwards (h : Staged prog text start s i ts t.pc) (hu : u ∈ t.onwards prog (placeAt text i)) :
    Staged prog text start s i ts u.pc := by
  obtain ⟨ts', hexplored, hsuffix, hcomes, ht⟩ := h
  exact ⟨ts', hexplored, hsuffix, hcomes, (hexplored.onwards t ht u hu).resolve_right (by simp)⟩

/-- A stage remains when threads are added after it. -/
theorem Staged.suffix (h : Staged prog text start s i ts pc) (hts : ts.waiting <:+ next.waiting) :
    Staged prog text start s i next pc := by
  obtain ⟨ts', hexplored, hsuffix, hcomes, hpc⟩ := h
  exact ⟨ts', hexplored, hsuffix.trans hts, hcomes, hpc⟩

/-- A stage goes on behind a character, if no thread of it has matched. -/
theorem staged_moved {ts' : Threads} (hsuffix : ts'.waiting <:+ ts.waiting)
    (hcomes : ∀ t ∈ ts'.waiting, Comes prog text start s i t) (hnone : ∀ t ∈ ts'.waiting, accepts prog t = false)
    (ht : t ∈ ts'.waiting) (hu : t.taken prog text[i]? = some u) :
    Staged prog text start s (i + 1) (moved prog text i ts found).1 u.pc := by
  obtain ⟨rest, hrest⟩ := hsuffix
  have hmem : u ∈ ts'.waiting.reverse.filterMap (Thread.taken prog text[i]?) :=
    List.mem_filterMap.2 ⟨t, List.mem_reverse.2 ht, hu⟩
  obtain ⟨us₁, us₂, hsplit⟩ := List.append_of_mem hmem
  obtain ⟨us₃, htaken⟩ : ∃ us₃, (ts.waiting.reverse.takeWhile fun t => !accepts prog t).filterMap
      (Thread.taken prog text[i]?) = (us₁ ++ [u]) ++ (us₂ ++ us₃) := by
    refine ⟨(rest.reverse.takeWhile fun t => !accepts prog t).filterMap (Thread.taken prog text[i]?), ?_⟩
    rw [← hrest, List.reverse_append, List.takeWhile_append_of_pos, List.filterMap_append, hsplit]
    · simp
    · intro v hv
      rw [hnone v (List.mem_reverse.1 hv)]
      rfl
  have hbegan : ∀ v ∈ us₁ ++ [u], Comes prog text start s (i + 1) v := by
    intro v hv
    refine comes_taken (l := ts'.waiting.reverse) (fun t ht => hcomes t (List.mem_reverse.1 ht)) v ?_
    rw [hsplit, List.append_cons]
    exact List.mem_append_left _ hv
  rw [moved, advance_eq, htaken, addAll_append]
  refine ⟨addAll prog _ (.none prog.size) (us₁ ++ [u]), Explored.none.addAll,
    waiting_addAll Explored.none.addAll, comes_addAll hbegan, ?_⟩
  rw [addAll_append]
  exact passed_add Explored.none.addAll.size

/-- A match takes away all threads but those of a stage in which it is. -/
theorem moved_of_accepts {ts' : Threads} (hsuffix : ts'.waiting <:+ ts.waiting) (ht : t ∈ ts'.waiting)
    (haccepts : accepts prog t = true) : moved prog text i ts found = moved prog text i ts' none := by
  obtain ⟨rest, hrest⟩ := hsuffix
  have hmem : t ∈ ts'.waiting.reverse := List.mem_reverse.2 ht
  have htake : (ts'.waiting.reverse ++ rest.reverse).takeWhile (fun t => !accepts prog t) =
      ts'.waiting.reverse.takeWhile fun t => !accepts prog t := by
    rw [List.takeWhile_append, if_neg]
    intro hlength
    rw [← (List.takeWhile_prefix _).eq_of_length hlength] at hmem
    simpa [haccepts] using List.all_eq_true.1 List.all_takeWhile t hmem
  obtain ⟨v, hv⟩ : ∃ v, ts'.waiting.reverse.find? (accepts prog) = some v :=
    Option.isSome_iff_exists.1 (List.find?_isSome.2 ⟨t, hmem, haccepts⟩)
  rw [moved, moved, advance_eq, advance_eq, ← hrest, List.reverse_append, htake, List.find?_append, hv]
  rfl

/-- What was found stays found, and an accepting thread finds something. -/
theorem isSome_moved (h : found.isSome = true ∨ ∃ t ∈ ts.waiting, accepts prog t = true) :
    (moved prog text i ts found).2.isSome = true := by
  rw [moved, advance_eq]
  dsimp only
  rw [Option.isSome_or, Bool.or_eq_true, Option.isSome_map, List.find?_isSome]
  rcases h with h | ⟨t, ht, haccepts⟩
  · exact .inr h
  · exact .inl ⟨t, List.mem_reverse.2 ht, haccepts⟩

/-- After moving on, what was covered is settled: either it was found, or it is covered at the next place. -/
theorem Covered.moved (hs : s ≤ i) (h : Covered prog text start s i ts) :
    Settled prog text start s (i + 1) (moved prog text i ts found).1 (moved prog text i ts found).2 := by
  by_cases hmatch : ∃ ts' : Threads, ts'.waiting <:+ ts.waiting ∧ (∀ t ∈ ts'.waiting, Comes prog text start s i t) ∧
      ∃ t ∈ ts'.waiting, accepts prog t = true
  · obtain ⟨ts', hsuffix, hcomes, t, ht, haccepts⟩ := hmatch
    rw [moved_of_accepts hsuffix ht haccepts]
    have hsound : Sound prog text start s i ts' none := ⟨hcomes, fun _ h => by cases h⟩
    exact .inl ⟨isSome_moved (.inr ⟨t, ht, haccepts⟩), hsound.moved⟩
  · have hnone : ∀ {ts' : Threads}, ts'.waiting <:+ ts.waiting →
        (∀ t ∈ ts'.waiting, Comes prog text start s i t) → ∀ t ∈ ts'.waiting, accepts prog t = false :=
      fun hsuffix hcomes t ht => Bool.eq_false_iff.2 fun haccepts => hmatch ⟨_, hsuffix, hcomes, t, ht, haccepts⟩
    refine .inr ⟨fun pc j slots hp hreaches => ?_, fun pc slots hreaches => ?_⟩
    · refine Nat.lt_of_le_of_ne (h.fresh pc j slots hp hreaches) ?_
      rintro rfl
      obtain ⟨ts', hexplored, hsuffix, hcomes, hpc⟩ := h.staged pc slots hreaches
      obtain ⟨t, ht, rfl⟩ := hexplored.waiting pc hpc (waits_of_accept hp)
      have hfalse := hnone hsuffix hcomes t ht
      simp [accepts, hp] at hfalse
    · refine forall_of_reaches (fun hsi => absurd hsi (by omega)) ?_ (fun t ht u hu => ht.onwards hu) hreaches
      rintro k pc slots cs c hk hbefore hp hc hcs
      obtain rfl := Nat.succ.inj hk
      obtain ⟨ts', hexplored, hsuffix, hcomes, hpc⟩ := h.staged pc slots hbefore
      obtain ⟨t, ht, rfl⟩ := hexplored.waiting pc hpc (waits_of_char hp)
      exact staged_moved (u := ⟨t.pc + 1, t.slots⟩) hsuffix hcomes (hnone hsuffix hcomes) ht
        (by simp [Thread.taken, hp, hc, hcs])

/-- What is settled stays settled. -/
theorem Settled.moved (hs : s ≤ i) (h : Settled prog text start s i ts found) :
    Settled prog text start s (i + 1) (moved prog text i ts found).1 (moved prog text i ts found).2 := by
  rcases h with ⟨hsome, hsound⟩ | hcovered
  · exact .inl ⟨isSome_moved (.inl hsome), hsound.moved⟩
  · exact hcovered.moved hs

/-! ## The search -/

/-- A search comes to a position: what began before is settled. -/
structure Arrives (prog : Array Inst) (text : List Char) (start : Slots) (i : Nat) (ts : Threads)
    (found : Option Slots) : Prop where
  explored : Explored prog (placeAt text i) [] ts
  sound : Sound prog text start i i ts found
  settled : ∀ s < i, Settled prog text start s i ts found

/-- The threads when one more has started, unless something has matched. -/
def started (prog : Array Inst) (p : Place) (start : Slots) (ts : Threads) (found : Option Slots) : Threads :=
  if found.isNone then ts.add prog p ⟨0, start⟩ else ts

/-- Starting a thread at the place that was arrived at is sound. -/
theorem Arrives.sound_started (h : Arrives prog text start i ts found) :
    Sound prog text start i i (started prog (placeAt text i) start ts found) found := by
  unfold started
  split
  · refine ⟨forall_waiting_add (fun t ht u hu => ht.onwards hu) h.explored.size h.sound.waiting ?_, h.sound.found⟩
    exact ⟨i, Nat.le_refl i, .refl⟩
  · exact h.sound

/-- After it was started, the matches that begin there are covered as well. -/
theorem Arrives.settled_started (h : Arrives prog text start i ts found) (hs : s ≤ i) :
    Settled prog text start s i (started prog (placeAt text i) start ts found) found := by
  have hsound := h.sound_started
  cases found with
  | some slots =>
    rcases Nat.lt_or_eq_of_le hs with hlt | rfl
    · exact h.settled s hlt
    · exact .inl ⟨rfl, hsound⟩
  | none =>
    simp only [started, Option.isNone_none, if_true] at hsound ⊢
    refine .inr ?_
    rcases Nat.lt_or_eq_of_le hs with hlt | rfl
    · obtain ⟨hsome, -⟩ | hcovered := h.settled s hlt
      · cases hsome
      · exact ⟨hcovered.fresh, fun pc slots hr => (hcovered.staged pc slots hr).suffix (waiting_add h.explored.size)⟩
    · refine ⟨fun pc j slots _ hr => le_of_reaches hr, fun pc slots hr => ?_⟩
      refine forall_of_reaches (fun _ => ?_) ?_ (fun t ht u hu => ht.onwards hu) hr
      · exact ⟨_, h.explored.add, List.suffix_rfl, hsound.waiting, passed_add h.explored.size⟩
      · rintro k pc slots cs c rfl hr
        exact absurd (le_of_reaches hr) (by simp)

/-- A result of a search: a match that begins no later than any other, if there is one. -/
structure Leftmost (prog : Array Inst) (text : List Char) (start : Slots) (found : Option Slots) : Prop where
  sound : ∀ slots ∈ found, Finds prog text start text.length slots
  complete : ∀ s ≤ text.length, ∀ slots, Accepts prog text start s slots →
    ∃ slots' ∈ found, Finds prog text start s slots'

/-- The next place is one character further. -/
theorem placeAt_succ {c : Char} {rest : List Char} (h : text.drop i = c :: rest) :
    text[i]? = some c ∧ text.drop (i + 1) = rest ∧ placeAt text (i + 1) = ⟨i + 1, some c, rest.head?⟩ := by
  have hc : text[i]? = some c := by rw [← List.head?_drop, h, List.head?_cons]
  have hrest : text.drop (i + 1) = rest := by rw [← List.tail_drop, h, List.tail_cons]
  exact ⟨hc, hrest, by rw [placeAt, charBefore, hc, ← List.head?_drop, hrest]⟩

/-- At the end of the text the search moves once more. -/
theorem searchFrom_nil (h : text.drop i = []) : searchFrom prog start (placeAt text i) [] ts found =
    (moved prog text i (started prog (placeAt text i) start ts found) found).2 := by
  rw [moved, List.getElem?_eq_none (List.drop_eq_nil_iff.1 h), advance_eq, searchFrom]
  dsimp only
  rw [advance_eq]
  rfl

/-- Before a character the search starts a thread, moves and goes on. -/
theorem searchFrom_cons {c : Char} {rest : List Char} (h : text.drop i = c :: rest)
    {r : Threads × Option Slots} (hr : moved prog text i (started prog (placeAt text i) start ts found) found = r) :
    searchFrom prog start (placeAt text i) (c :: rest) ts found =
      if r.1.waiting.isEmpty && r.2.isSome then r.2 else searchFrom prog start (placeAt text (i + 1)) rest r.1 r.2 := by
  obtain ⟨hc, -, hplace⟩ := placeAt_succ h
  rw [← hr, moved, hc, hplace]
  rfl

/-- What began before has been found if no thread is left. -/
theorem Settled.finds (h : Settled prog text start s i ts found) (hs : s ≤ i) (hend : i ≤ text.length → ts.waiting = [])
    (hlength : s ≤ text.length) (haccepts : Accepts prog text start s slots) :
    ∃ slots' ∈ found, Finds prog text start s slots' := by
  rcases h with ⟨hsome, hsound⟩ | hcovered
  · obtain ⟨slots', rfl⟩ := Option.isSome_iff_exists.1 hsome
    exact ⟨slots', rfl, hsound.found slots' rfl⟩
  · obtain ⟨pc, j, hp, hreaches⟩ := haccepts
    have hi : i ≤ j := hcovered.fresh pc j slots hp hreaches
    have hj : j ≤ text.length := le_length_of_reaches hreaches hlength
    have hempty := hend (Nat.le_trans hi hj)
    obtain ⟨pc', slots', hreaches', hwaits⟩ : ∃ pc' slots', Reaches prog text (0, s, start) (pc', i, slots') ∧
        waits prog pc' = true := by
      rcases waits_between hreaches hs hi with rfl | hbetween
      · exact ⟨pc, slots, hreaches, waits_of_accept hp⟩
      · exact hbetween
    obtain ⟨ts', hexplored, hsuffix, -, hpc⟩ := hcovered.staged pc' slots' hreaches'
    obtain ⟨t, ht, -⟩ := hexplored.waiting pc' hpc hwaits
    rw [hempty, List.suffix_nil] at hsuffix
    rw [hsuffix] at ht
    cases ht

/-- Having moved it arrives at the next place. -/
theorem Arrives.moved (h : Arrives prog text start i ts found) {r : Threads × Option Slots}
    (hr : moved prog text i (started prog (placeAt text i) start ts found) found = r) :
    Arrives prog text start (i + 1) r.1 r.2 := by
  subst hr
  refine ⟨?_, h.sound_started.moved.mono (Nat.le_succ i), fun s hs => ?_⟩
  · rw [Regex.moved, advance_eq]
    exact Explored.none.addAll
  · have hsi : s ≤ i := Nat.le_of_lt_succ hs
    exact (h.settled_started hsi).moved hsi

/-- From each place at which it arrives the search goes on to the leftmost match. -/
theorem Arrives.leftmost {rest : List Char} (h : Arrives prog text start i ts found) (hrest : text.drop i = rest)
    (hi : i ≤ text.length) : Leftmost prog text start (searchFrom prog start (placeAt text i) rest ts found) := by
  induction rest generalizing i ts found with
  | nil =>
    have hlength : text.length ≤ i := List.drop_eq_nil_iff.1 hrest
    have hnext := h.moved rfl
    rw [searchFrom_nil hrest]
    constructor
    · intro slots hslots
      exact (h.sound_started.moved.found slots hslots).mono hi
    · intro s hs slots haccepts
      have hsi : s ≤ i := Nat.le_trans hs hlength
      exact (hnext.settled s (Nat.lt_succ_of_le hsi)).finds (Nat.le_succ_of_le hsi) (by omega) hs haccepts
  | cons c rest ih =>
    obtain ⟨hc, hdrop, -⟩ := placeAt_succ hrest
    have hlt : i < text.length := (List.getElem?_eq_some_iff.1 hc).1
    have hsound := h.sound_started.moved
    obtain ⟨r, hr⟩ : ∃ r, Regex.moved prog text i (started prog (placeAt text i) start ts found) found = r := ⟨_, rfl⟩
    have hnext := h.moved hr
    rw [searchFrom_cons hrest hr]
    rw [hr] at hsound
    split
    · rename_i hdone
      obtain ⟨hempty, hsome⟩ := Bool.and_eq_true_iff.1 hdone
      constructor
      · intro slots hslots
        exact (hsound.found slots hslots).mono hi
      · intro s hs slots haccepts
        rcases Nat.lt_or_ge i s with hlater | hsi
        · obtain ⟨slots', hslots'⟩ := Option.isSome_iff_exists.1 hsome
          exact ⟨slots', hslots', (hsound.found slots' hslots').mono (Nat.le_of_lt hlater)⟩
        · exact (hnext.settled s (Nat.lt_succ_of_le hsi)).finds (Nat.le_succ_of_le hsi)
            (fun _ => List.isEmpty_iff.1 hempty) hs haccepts
    · exact ih hnext hdrop hlt

/-- A search finds the leftmost match, and the one that is preferred among those. -/
theorem leftmost_search (prog : Array Inst) (text : List Char) (n : Nat) :
    Leftmost prog text (List.replicate n none) (search prog n text) := by
  have hplace : placeAt text 0 = ⟨0, none, text.head?⟩ := by
    rw [placeAt, charBefore, List.head?_eq_getElem?]
  rw [search, ← hplace]
  have harrives : Arrives prog text (List.replicate n none) 0 (.none prog.size) none :=
    ⟨.none, ⟨fun t ht => absurd ht List.not_mem_nil, fun slots h => by cases h⟩,
      fun s hs => absurd hs (Nat.not_lt_zero s)⟩
  exact harrives.leftmost List.drop_zero (Nat.zero_le _)

/-! ## What a pattern matches -/

/-- The program of an expression accepts what the expression matches. -/
theorem accepts_program {e : Expr} : Accepts (program e) text start k slots ↔
    ∃ j, (Expr.group 0 e).Matches text (k, start) (j, slots) := by
  simp only [← program_accepts]
  constructor
  · rintro ⟨pc, j, h⟩
    exact ⟨j, pc, h⟩
  · rintro ⟨j, pc, h⟩
    exact ⟨pc, j, h⟩

/-- A search finds a match at the first position where the expression matches. -/
theorem search_eq_some {e : Expr} {n : Nat} (h : search (program e) n text = some slots) :
    ∃ i ≤ text.length, (∃ j, (Expr.group 0 e).Matches text (i, .replicate n none) (j, slots)) ∧
      ∀ k < i, ∀ b, ¬ (Expr.group 0 e).Matches text (k, .replicate n none) b := by
  classical
  have hleftmost := leftmost_search (program e) text n
  rw [h] at hleftmost
  have hexists : ∃ k, ∃ slots, k ≤ text.length ∧ Accepts (program e) text (.replicate n none) k slots := by
    obtain ⟨k, hk, haccepts⟩ := hleftmost.sound slots rfl
    exact ⟨k, slots, hk, haccepts⟩
  obtain ⟨slots₁, hlength, hfirst⟩ := Nat.find_spec hexists
  obtain ⟨_, hslots, i, hi, haccepts⟩ := hleftmost.complete _ hlength slots₁ hfirst
  obtain rfl := Option.some.inj hslots
  refine ⟨i, Nat.le_trans hi hlength, accepts_program.1 haccepts, fun k hk b hb => ?_⟩
  have hlt : k < Nat.find hexists := Nat.lt_of_lt_of_le hk hi
  exact Nat.find_min hexists hlt ⟨b.2, Nat.le_trans (Nat.le_of_lt hlt) hlength, accepts_program.2 ⟨b.1, hb⟩⟩

/-- A search finds nothing only if the expression matches nowhere. -/
theorem search_eq_none {e : Expr} {n : Nat} (h : search (program e) n text = none) (hi : i ≤ text.length)
    (b : Mark) : ¬ (Expr.group 0 e).Matches text (i, .replicate n none) b := by
  intro hb
  have hleftmost := leftmost_search (program e) text n
  rw [h] at hleftmost
  obtain ⟨_, hslots, -⟩ := hleftmost.complete i hi b.2 (accepts_program.2 ⟨b.1, hb⟩)
  cases hslots

end MediaPaths.Regex
