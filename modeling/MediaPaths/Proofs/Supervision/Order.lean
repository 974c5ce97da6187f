import MediaPaths.Proofs.Supervision.Traffic

/-!
# The order in which the owner is called

Announcements of media and of losses lie in mailboxes of their own, each with room for one, and the
worker looks into the mailbox for media first. So a loss is overtaken by media that are announced while
the loss waits there, and this is the only way in which the owner is called in another order than that
in which the requests were put in the mailboxes.

The invariant is `Ledger`: it compares the chronicle with the requests that lie in the mailboxes.
-/

namespace MediaPaths

namespace Supervisor

/-- One thing is told before another. -/
def Before (h : List Happening) (p q : Happening) : Prop := List.Sublist [p, q] h

instance (h : List Happening) (p q : Happening) : Decidable (Before h p q) :=
  inferInstanceAs (Decidable (List.Sublist [p, q] h))

/-- A loss `a` still waits to be passed on when the media `b` are put in their mailbox. -/
def Overtaken (h : List Happening) (a : Request) (n : Nat) (b : Request) : Prop :=
  a.announcement.isReady = false ∧ b.announcement.isReady = true ∧
    Before h (.queued n b) (.begun a)

variable {s t : Supervisor} {h : List Happening} {p q x : Happening} {r a b : Request} {n n' : Nat}

theorem before_concat : Before (h ++ [x]) p q ↔ Before h p q ∨ p ∈ h ∧ q = x := by
  constructor
  · intro hb
    obtain ⟨l, l', hl, h₁, h₂⟩ := List.sublist_append_iff.1 hb
    cases l' with
    | nil =>
      rw [List.append_nil] at hl
      subst hl
      exact .inl h₁
    | cons y l' =>
      have hl' : l' = [] := by simpa using h₂.length_le
      subst hl'
      obtain ⟨rfl, hy⟩ : l = [p] ∧ q = y := by
        have hl : [p] ++ [q] = l ++ [y] := hl
        obtain ⟨hp, hq⟩ := List.append_inj' hl rfl
        exact ⟨hp.symm, List.singleton_inj.1 hq⟩
      exact .inr ⟨List.singleton_sublist.1 h₁, hy.trans (by simpa using h₂)⟩
  · rintro (hb | ⟨hp, rfl⟩)
    · exact hb.trans (List.sublist_append_left h [x])
    · exact (List.singleton_sublist.2 hp).append (List.Sublist.refl [q])

theorem before_concat_of_ne (hq : q ≠ x) : Before (h ++ [x]) p q ↔ Before h p q := by
  simp [before_concat, hq]

theorem Before.left (hb : Before h p q) : p ∈ h := hb.subset (by simp)

theorem Before.right (hb : Before h p q) : q ∈ h := hb.subset (by simp)

/-! ## The invariant -/

/-- How the chronicle and the mailboxes agree. -/
structure Ledger (h : List Happening) (s : Supervisor) : Prop where
  /-- Requests lie in the mailboxes for their kinds. -/
  sorted : s.Sorted
  /-- The number of the next request is new. -/
  next : ∀ n r, .queued n r ∈ h → r.number < s.nextRequest
  /-- So is that of a request for which there is no room yet. -/
  pending : ∀ r, s.pending = some r →
    r.number < s.nextRequest ∧ ∀ n q, .queued n q ∈ h → q.number ≠ r.number
  /-- Requests put in a mailbox one after the other have different numbers. -/
  distinct : ∀ n a n' b, Before h (.queued n a) (.queued n' b) → a.number ≠ b.number
  /-- What lies in a mailbox was put there, and the owner was not called with it. -/
  lying : ∀ a r, s.letter a = some r → (∃ n, .queued n r ∈ h) ∧ .begun r ∉ h
  /-- The owner is only called with what was put in a mailbox. -/
  begun : ∀ r, .begun r ∈ h → ∃ n, .queued n r ∈ h
  /-- Only media are passed on before something that was put in a mailbox earlier and lies there. -/
  behind : ∀ n a n' b, Before h (.queued n a) (.queued n' b) → .begun b ∈ h → a ∈ s.letters →
    a.announcement.isReady = false ∧ b.announcement.isReady = true
  /-- Media that were put in a mailbox before a loss was passed on do not lie there any longer. -/
  clear : ∀ a n b, b ∈ s.letters → ¬ Overtaken h a n b
  /-- The owner was called in the order in which the requests were put in the mailboxes, except for
  overtaken losses. -/
  order : ∀ n a n' b, Before h (.queued n a) (.queued n' b) → .begun a ∈ h → .begun b ∈ h →
    (Before h (.begun b) (.begun a) ↔ Overtaken h a n' b) ∧
      (Before h (.begun a) (.begun b) ↔ ¬ Overtaken h a n' b)

theorem Quiet.mem_letters (hq : Quiet s t) : r ∈ t.letters ↔ r ∈ s.letters := by
  simp only [Supervisor.mem_letters, hq.letter]

theorem Clears.not_mem_letters (hc : Clears s t) (r : Request) : r ∉ t.letters := by
  simp [Supervisor.mem_letters, hc.letter]

theorem Ledger.quiet (hl : Ledger h s) (hq : Quiet s t) : Ledger h t := by
  have hsort : t.Sorted := hl.sorted.of_traffic (.quiet hq (List.forall_mem_nil _))
  refine ⟨hsort, fun n r hr => ?_, fun r hr => ?_, hl.distinct, fun a r ha => ?_, hl.begun,
    fun n a n' b hb hb' ha => ?_, fun a n b hb => ?_, hl.order⟩
  · exact Nat.lt_of_lt_of_le (hl.next n r hr) hq.next
  · rcases hq.pending r hr with hp | ⟨h₁, h₂⟩
    · obtain ⟨hp, hd⟩ := hl.pending r hp
      exact ⟨Nat.lt_of_lt_of_le hp hq.next, hd⟩
    · refine ⟨h₂, fun n q hqd => Nat.ne_of_lt ?_⟩
      exact Nat.lt_of_lt_of_le (hl.next n q hqd) h₁
  · exact hl.lying a r (hq.letter a ▸ ha)
  · exact hl.behind n a n' b hb hb' (hq.mem_letters.1 ha)
  · exact hl.clear a n b (hq.mem_letters.1 hb)

theorem Ledger.clears (hl : Ledger h s) (hc : Clears s t) : Ledger h t := by
  refine ⟨hl.sorted.of_traffic (.clears hc), by rw [hc.next]; exact hl.next, fun r hr => ?_,
    hl.distinct, fun a r ha => ?_, hl.begun, fun n a n' b _ _ ha => ?_, fun a n b hb => ?_, hl.order⟩
  · simp [Supervisor.pending, hc.execution] at hr
  · simp [hc.letter] at ha
  · exact absurd ha (hc.not_mem_letters a)
  · exact absurd hb (hc.not_mem_letters b)

/-- What is told besides changes nothing. -/
theorem Ledger.aside (hl : Ledger h s) (hx : x.isPassage = false) : Ledger (h ++ [x]) s := by
  have hq : ∀ n r, .queued n r ≠ x := fun n r heq => by simp [← heq, Happening.isPassage] at hx
  have hg : ∀ r, .begun r ≠ x := fun r heq => by simp [← heq, Happening.isPassage] at hx
  have hb : ∀ p q, q ≠ x → (Before (h ++ [x]) p q ↔ Before h p q) := fun _ _ => before_concat_of_ne
  have ho : ∀ a n' b, Overtaken (h ++ [x]) a n' b ↔ Overtaken h a n' b := fun a n' b => by
    simp [Overtaken, hb, hg]
  constructor
  · exact hl.sorted
  · simpa [hq] using hl.next
  · simpa [hq] using hl.pending
  · simpa [hb, hq] using hl.distinct
  · simpa [hq, hg] using hl.lying
  · simpa [hq, hg] using hl.begun
  · simpa [hb, hq, hg] using hl.behind
  · simpa [ho] using hl.clear
  · simpa [hb, ho, hq, hg] using hl.order

/-- The number of a request that is put in its mailbox is new. -/
theorem Ledger.fresh (hl : Ledger h s) (hp : Posts r s t) :
    ∀ n q, .queued n q ∈ h → q.number ≠ r.number := by
  rcases hp.fresh with ⟨hp, -, -⟩ | ⟨hp, -, -⟩
  · exact (hl.pending r hp).2
  · intro n q hq
    have := hl.next n q hq
    omega

theorem Posts.mem_letters (hp : Posts r s t) (ha : a ∈ t.letters) : a = r ∨ a ∈ s.letters := by
  obtain ⟨k, hk⟩ := Supervisor.mem_letters.1 ha
  rw [hp.letter] at hk
  split at hk
  · exact .inl (Option.some.inj hk).symm
  · exact .inr (Supervisor.mem_letters.2 ⟨k, hk⟩)

theorem Ledger.posts (hl : Ledger h s) (hp : Posts r s t) (m : Nat) :
    Ledger (h ++ [.queued m r]) t := by
  have hnew := hl.fresh hp
  have hunqueued : ∀ n, .queued n r ∉ h := fun n hr => hnew n r hr rfl
  have hunbegun : .begun r ∉ h := fun hr =>
    let ⟨n, hq⟩ := hl.begun r hr
    hunqueued n hq
  have hb : ∀ p q, q ≠ .queued m r → (Before (h ++ [.queued m r]) p q ↔ Before h p q) :=
    fun _ _ hq => before_concat_of_ne hq
  have ho : ∀ a n' b, Overtaken (h ++ [.queued m r]) a n' b ↔ Overtaken h a n' b :=
    fun a n' b => by simp [Overtaken, hb]
  have hnext : s.nextRequest ≤ t.nextRequest ∧ r.number < t.nextRequest := by
    rcases hp.fresh with ⟨hp, -, hq⟩ | ⟨hp, hq, -⟩
    · exact ⟨Nat.le_of_eq hq.symm, hq ▸ (hl.pending r hp).1⟩
    · omega
  -- what is known of two requests of which the owner was called with the later one
  have hearlier : ∀ n a n' b, Before (h ++ [.queued m r]) (.queued n a) (.queued n' b) →
      .begun b ∈ h → Before h (.queued n a) (.queued n' b) := by
    intro n a n' b hab hbegun
    refine (hb _ _ fun heq => ?_).1 hab
    cases heq
    exact hunbegun hbegun
  have hsort : t.Sorted := hl.sorted.of_traffic (.posts (n := m) hp (List.forall_mem_nil _))
  refine ⟨hsort, fun n q hq => ?_, fun q hq => ?_, fun n a n' b hab => ?_, fun k q hq => ?_,
    fun q hq => ?_, fun n a n' b hab hbegun ha => ?_, fun a n b hbl => ?_,
    fun n a n' b hab ha hbegun => ?_⟩
  · rw [List.mem_append, List.mem_singleton] at hq
    rcases hq with hq | hq
    · exact Nat.lt_of_lt_of_le (hl.next n q hq) hnext.1
    · cases hq
      exact hnext.2
  · rcases hp.fresh with ⟨-, hnone, -⟩ | ⟨hr, hn, hpend⟩
    · rw [hnone] at hq
      cases hq
    · obtain ⟨hlt, hd⟩ := hl.pending q (hpend q hq)
      refine ⟨by omega, fun n q' hq' => ?_⟩
      rw [List.mem_append, List.mem_singleton] at hq'
      rcases hq' with hq' | hq'
      · exact hd n q' hq'
      · cases hq'
        omega
  · rw [before_concat] at hab
    rcases hab with hab | ⟨ha, heq⟩
    · exact hl.distinct n a n' b hab
    · cases heq
      exact hnew n a ha
  · rw [hp.letter] at hq
    split at hq
    · cases hq
      exact ⟨⟨m, by simp⟩, by simpa using hunbegun⟩
    · obtain ⟨⟨n, hn⟩, hnb⟩ := hl.lying k q hq
      exact ⟨⟨n, List.mem_append_left _ hn⟩, by simpa using hnb⟩
  · obtain ⟨n, hn⟩ := hl.begun q (by simpa using hq)
    exact ⟨n, List.mem_append_left _ hn⟩
  · have hbegun : .begun b ∈ h := by simpa using hbegun
    replace hab := hearlier n a n' b hab hbegun
    rcases hp.mem_letters ha with rfl | ha
    · exact absurd hab.left (hunqueued n)
    · exact hl.behind n a n' b hab hbegun ha
  · rw [ho]
    rcases hp.mem_letters hbl with rfl | hbl
    · exact fun hov => hunqueued n hov.2.2.left
    · exact hl.clear a n b hbl
  · have ha : .begun a ∈ h := by simpa using ha
    have hbegun : .begun b ∈ h := by simpa using hbegun
    rw [ho, hb _ _ (by simp), hb _ _ (by simp)]
    exact hl.order n a n' b (hearlier n a n' b hab hbegun) ha hbegun

theorem Begins.mem_letters (hb : Begins r s t) (ha : a ∈ t.letters) :
    a ∈ s.letters ∧ (s.Sorted → a.announcement.isReady ≠ r.announcement.isReady) := by
  obtain ⟨k, hk⟩ := Supervisor.mem_letters.1 ha
  rw [hb.letter] at hk
  split at hk
  · cases hk
  · rename_i hne
    exact ⟨Supervisor.mem_letters.2 ⟨k, hk⟩, fun hs => (hs k a hk).symm ▸ hne⟩

/-- While a loss is passed on, no media lie in their mailbox. -/
theorem Begins.isReady_of_mem (hb : Begins r s t) (hs : s.Sorted) (ha : a ∈ s.letters)
    (hr : r.announcement.isReady = false) : a.announcement.isReady = false := by
  obtain ⟨k, hk⟩ := Supervisor.mem_letters.1 ha
  rw [hs k a hk]
  cases hk' : k.isReady with
  | false => rfl
  | true => simp [hb.first hr k hk'] at hk

theorem Ledger.begins (hl : Ledger h s) (hg : Begins r s t) : Ledger (h ++ [.begun r]) t := by
  have hr : r ∈ s.letters := mem_letters.2 ⟨_, hg.lay⟩
  obtain ⟨⟨m, hm⟩, hunbegun⟩ := hl.lying _ r hg.lay
  have hb : ∀ p q, q ≠ .begun r → (Before (h ++ [.begun r]) p q ↔ Before h p q) := fun _ _ hq =>
    before_concat_of_ne hq
  have ho : ∀ a n' b, a ≠ r → (Overtaken (h ++ [.begun r]) a n' b ↔ Overtaken h a n' b) :=
    fun a n' b ha => by simp [Overtaken, hb, ha]
  refine ⟨hl.sorted.of_traffic (.begins hg), fun n q hq => ?_, fun q hq => ?_,
    fun n a n' b hab => ?_, fun k q hq => ?_, fun q hq => ?_, fun n a n' b hab hbegun ha => ?_,
    fun a n b hbl => ?_, fun n a n' b hab ha hbegun => ?_⟩
  · exact hg.rest.1 ▸ hl.next n q (by simpa using hq)
  · rw [hg.rest.1]
    simpa using hl.pending q (hg.rest.2 ▸ hq)
  · exact hl.distinct n a n' b ((hb _ _ (by simp)).1 hab)
  · have hmem := hg.mem_letters (mem_letters.2 ⟨k, hq⟩)
    rw [hg.letter] at hq
    split at hq
    · cases hq
    · obtain ⟨⟨n, hn⟩, hnb⟩ := hl.lying k q hq
      have hne : q ≠ r := fun heq => hmem.2 hl.sorted (by rw [heq])
      exact ⟨⟨n, List.mem_append_left _ hn⟩, by simp [hnb, hne]⟩
  · rw [List.mem_append, List.mem_singleton] at hq
    rcases hq with hq | hq
    · obtain ⟨n, hn⟩ := hl.begun q hq
      exact ⟨n, List.mem_append_left _ hn⟩
    · cases hq
      exact ⟨m, List.mem_append_left _ hm⟩
  · have hab := (hb _ _ (by simp)).1 hab
    obtain ⟨has, hak⟩ := hg.mem_letters ha
    rw [List.mem_append, List.mem_singleton] at hbegun
    rcases hbegun with hbegun | hbegun
    · exact hl.behind n a n' b hab hbegun has
    · -- the later one is passed on just now, so the two are of different kinds
      cases hbegun
      have hak := hak hl.sorted
      cases hk : r.announcement.isReady with
      | true => exact ⟨by simpa [hk] using hak, rfl⟩
      | false =>
        have := hg.isReady_of_mem hl.sorted has hk
        exact absurd (this.trans hk.symm) hak
  · obtain ⟨hbs, -⟩ := hg.mem_letters hbl
    by_cases ha : a = r
    · -- a loss is only passed on while no media lie in their mailbox
      subst ha
      intro hov
      have := hg.isReady_of_mem hl.sorted hbs hov.1
      simp [hov.2.1] at this
    · rw [ho a n b ha]
      exact hl.clear a n b hbs
  · replace hab := (hb _ _ (by simp)).1 hab
    have hne : a ≠ b := fun heq => hl.distinct n a n' b hab (by rw [heq])
    by_cases har : a = r
    · -- the earlier one is passed on after the later one
      subst har
      have hbegun : .begun b ∈ h := by simpa [Ne.symm hne] using hbegun
      obtain ⟨hka, hkb⟩ := hl.behind n a n' b hab hbegun hr
      have hov : Overtaken (h ++ [.begun a]) a n' b :=
        ⟨hka, hkb, before_concat.2 (.inr ⟨hab.right, rfl⟩)⟩
      have hba : Before (h ++ [.begun a]) (.begun b) (.begun a) :=
        before_concat.2 (.inr ⟨hbegun, rfl⟩)
      have hnab : ¬ Before (h ++ [.begun a]) (.begun a) (.begun b) := by
        rw [hb _ _ (by simpa using Ne.symm hne)]
        exact fun hx => hunbegun hx.left
      exact ⟨iff_of_true hba hov, iff_of_false hnab (not_not.2 hov)⟩
    · replace ha : .begun a ∈ h := by simpa [har] using ha
      rw [ho a n' b har, hb (.begun b) (.begun a) (by simpa using har)]
      by_cases hbr : b = r
      · -- the later one is passed on after the earlier one
        subst hbr
        have hov := hl.clear a n' b hr
        have hnba : ¬ Before h (.begun b) (.begun a) := fun hx => hunbegun hx.left
        have hab' : Before (h ++ [.begun b]) (.begun a) (.begun b) :=
          before_concat.2 (.inr ⟨ha, rfl⟩)
        exact ⟨iff_of_false hnba hov, iff_of_true hab' hov⟩
      · have hbegun : .begun b ∈ h := by simpa [hbr] using hbegun
        rw [hb (.begun a) (.begun b) (by simpa using hbr)]
        exact hl.order n a n' b hab ha hbegun

theorem Ledger.asides (hl : Ledger h s) {hs : List Happening}
    (he : ∀ x ∈ hs, x.isPassage = false) : Ledger (h ++ hs) s := by
  induction hs generalizing h with
  | nil => simpa using hl
  | cons x hs ih =>
    rw [List.forall_mem_cons] at he
    have := ih (hl.aside he.1) he.2
    rwa [List.append_assoc] at this

theorem Ledger.of_traffic (hl : Ledger h s) {hs : List Happening} (ht : Traffic s t hs) :
    Ledger (h ++ hs) t := by
  cases ht with
  | quiet hq he => exact (hl.quiet hq).asides he
  | clears hc =>
    rw [List.append_nil]
    exact hl.clears hc
  | posts hp he =>
    rename_i n r hs
    have := (hl.posts hp n).asides he
    rwa [List.append_assoc] at this
  | begins hb => exact hl.begins hb

/-- At first nothing was told and nothing lies in the mailboxes. -/
theorem ledger_create {now pause : Nat} {entry : Entry} {groups : Option (List String)}
    {options : SourceOptions} {factory : Factory}
    (hs : create now entry groups options factory pause = .ok s) : Ledger [] s := by
  obtain ⟨kind, source, -, rfl⟩ := create_eq hs
  have hno : ∀ p q, ¬ Before [] p q := fun p q hb => by cases hb.left
  refine ⟨?_, by simp, by simp [Supervisor.pending], fun _ _ _ _ hb => absurd hb (hno _ _), ?_,
    by simp, fun _ _ _ _ hb => absurd hb (hno _ _), fun _ _ _ hb _ => ?_,
    fun _ _ _ _ hb => absurd hb (hno _ _)⟩
  · intro a r ha
    cases a <;> cases ha
  · intro a r ha
    cases a <;> cases ha
  · cases hb

/-- The chronicle and the mailboxes agree after any moves. -/
theorem ledger_run {ms : List Move} (hl : Ledger [] s) (hs : s.run ms = some t) :
    Ledger (s.chronicle ms) t := by
  refine run_induction (P := fun ms t => Ledger (s.chronicle ms) t) hl ?_ hs
  intro ms u m v hu hlu hm
  rw [chronicle_concat hu hm]
  exact hlu.of_traffic (traffic_move hlu.sorted hm)

/-! ## The order -/

/-- Of two requests that were put in mailboxes one after the other and with which the owner was called,
the later one comes first if and only if it announces media, the earlier one announces a loss, and the
earlier one was still to be passed on when the later one was put in its mailbox. -/
theorem delivery_order {now pause : Nat} {entry : Entry} {groups : Option (List String)}
    {options : SourceOptions} {factory : Factory} {s₀ s : Supervisor} {ms : List Move}
    (hs₀ : create now entry groups options factory pause = .ok s₀) (hs : s₀.run ms = some s)
    (hab : Before (s₀.chronicle ms) (.queued n a) (.queued n' b))
    (ha : .begun a ∈ s₀.chronicle ms) (hb : .begun b ∈ s₀.chronicle ms) :
    (Before (s₀.chronicle ms) (.begun b) (.begun a) ↔ Overtaken (s₀.chronicle ms) a n' b) ∧
      (Before (s₀.chronicle ms) (.begun a) (.begun b) ↔ ¬ Overtaken (s₀.chronicle ms) a n' b) :=
  (ledger_run (ledger_create hs₀) hs).order n a n' b hab ha hb

/-- A loss and media announced at once, without waiting, reach the owner the other way round. -/
theorem delivery_order_hasty :
    let hasty : Factory := fun _ _ _ =>
      .ok { behaviour := fun _ => [.abandon .notReady, .abandon (.ready [])] }
    let ms : List Move := [.start false "", .task 0 .worker, .task 0 (.execution 0),
      .task 0 (.execution 0), .task 0 (.execution 0), .task 0 .worker, .resume, .task 0 .worker]
    ∃ s₀ s, create 0 { settings := { source := "rtsp://h/x" } } none {} hasty 5000 = .ok s₀ ∧
      s₀.run ms = some s ∧
      Before (s₀.chronicle ms) (.queued 0 ⟨0, .notReady⟩) (.queued 0 ⟨1, .ready []⟩) ∧
      Before (s₀.chronicle ms) (.begun ⟨1, .ready []⟩) (.begun ⟨0, .notReady⟩) := by
  intro hasty ms
  obtain ⟨s₀, hs₀, hrun⟩ : ∃ s₀,
      create 0 { settings := { source := "rtsp://h/x" } } none {} hasty 5000 = .ok s₀ ∧
        (s₀.run ms).isSome ∧ s₀.chronicle ms = [.queued 0 ⟨0, .notReady⟩, .queued 0 ⟨1, .ready []⟩,
          .begun ⟨1, .ready []⟩, .begun ⟨0, .notReady⟩] :=
    ⟨_, rfl, by decide +kernel, by decide +kernel⟩
  obtain ⟨s, hs⟩ := Option.isSome_iff_exists.1 hrun.1
  have hab : Before (s₀.chronicle ms) (.queued 0 ⟨0, .notReady⟩) (.queued 0 ⟨1, .ready []⟩) := by
    rw [hrun.2]
    decide
  refine ⟨s₀, s, hs₀, hs, hab, ?_⟩
  refine (delivery_order hs₀ hs hab (by simp [hrun.2]) (by simp [hrun.2])).1.2 ?_
  rw [hrun.2]
  exact ⟨rfl, rfl, by decide⟩

end Supervisor

end MediaPaths
