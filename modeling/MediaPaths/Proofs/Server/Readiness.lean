import MediaPaths.Proofs.Server.Reached
import MediaPaths.Proofs.Supervision.Acceptance

/-!
# Where the media of a ready path come from

A path is ready while its owner has accepted media from an execution of its source and nothing since.
That execution is still going, unless it has ended: the end of an execution by itself does not make the
path lose its media, only another announcement does.

The invariant is `Upright`. It holds along every trace, and every history of a server has a trace.
-/

namespace MediaPaths

namespace Server

open Supervisor (Move Streams Yields known knownAfter)

/-! ## Moves of one supervisor -/

/-- The moves of one supervisor among those of all. -/
def movesOf (h : List (Nat × Move)) (i : Nat) : List Move := (h.filter (·.1 == i)).map (·.2)

variable {w w' : Server} {i j : Nat} {h l : List (Nat × Move)} {ms : List Move}
  {name : String} {id : Nat} {p q : ActivePath} {x : Host} {s : Supervisor}

theorem movesOf_append (h l : List (Nat × Move)) (i : Nat) :
    movesOf (h ++ l) i = movesOf h i ++ movesOf l i := by
  simp [movesOf]

theorem movesOf_same (ms : List Move) (i : Nat) : movesOf (ms.map (i, ·)) i = ms := by
  simp [movesOf, List.filter_map, Function.comp_def]

theorem movesOf_other (ms : List Move) (hij : i ≠ j) : movesOf (ms.map (i, ·)) j = [] := by
  simp [movesOf, List.filter_map, Function.comp_def, hij]

theorem supervisor?_of_set (hi : w.hosts[i]? = some x) (hh : w'.hosts = w.hosts.set i ⟨s, x.owner⟩) :
    w'.supervisor? i = some s := by
  have hlt := (List.getElem?_eq_some_iff.1 hi).1
  simp [supervisor?, hh, hlt]

theorem supervisor?_of_set_ne (hij : i ≠ j) (hh : w'.hosts = w.hosts.set i ⟨s, x.owner⟩) :
    w'.supervisor? j = w.supervisor? j := by
  rw [supervisor?, supervisor?, hh, List.getElem?_set_ne hij]

/-! ## The invariant -/

/-- A supervisor `s` has come by some moves from one that was just made. -/
def Lives (s₀ : Supervisor) (ms : List Move) (s : Supervisor) : Prop :=
  (∃ now entry groups options factory pause,
    Supervisor.create now entry groups options factory pause = .ok s₀) ∧ s₀.run ms = some s

/-- The media of an active path are those that were accepted last from the source of its supervisor,
which keeps going; a path without a source has none. -/
def Attended (h : List (Nat × Move)) (w : Server) (p : ActivePath) : Prop :=
  match p.origin with
  | .source i => ∃ s₀ s, w.supervisor? i = some s ∧ Lives s₀ (movesOf h i) s ∧
    (∀ m ∈ movesOf h i, m.isGentle = true) ∧ Yields (s₀.chronicle (movesOf h i)) s ∧
    p.medias = known (s₀.chronicle (movesOf h i))
  | .redirect _ | .publisher => p.medias = none

/-- A trace agrees with what a server knows of its active paths. -/
structure Upright (h : List (Nat × Move)) (w : Server) : Prop where
  /-- Supervisors and active paths are assigned to each other. -/
  assigned : w.Assigned
  /-- Only supervisors that there are have made moves. -/
  recorded : ∀ x ∈ h, x.1 < w.hosts.length
  /-- The media of active paths come from their sources. -/
  attended : ∀ p ∈ w.registry.paths, Attended h w p

/-- What happens elsewhere is of no account for a path. -/
theorem Attended.elsewhere (hp : Attended h w p) (ho : q.origin = p.origin)
    (hm : q.medias = p.medias)
    (hl : ∀ i, p.origin = .source i → w'.supervisor? i = w.supervisor? i ∧ movesOf l i = []) :
    Attended (h ++ l) w' q := by
  unfold Attended at hp ⊢
  rw [ho, hm]
  cases hpo : p.origin with
  | source i =>
    rw [hpo] at hp
    obtain ⟨hs, hl⟩ := hl i hpo
    simp only [hs, movesOf_append, hl, List.append_nil]
    exact hp
  | redirect target =>
    rw [hpo] at hp
    exact hp
  | publisher =>
    rw [hpo] at hp
    exact hp

/-- The supervisor of a path makes some moves. -/
theorem Attended.moved (hp : Attended h w p) (ho : p.origin = .source i)
    (hi : w.supervisor? i = some s) {t : Supervisor} (hs : s.run ms = some t)
    (ht : w'.supervisor? i = some t) (hg : ∀ m ∈ ms, m.isGentle = true)
    (hy : ∀ h, Yields h s → Yields (h ++ s.chronicle ms) t) (hq : q.origin = p.origin)
    (hm : q.medias = (s.chronicle ms).foldl knownAfter p.medias) :
    Attended (h ++ ms.map (i, ·)) w' q := by
  unfold Attended at hp ⊢
  rw [hq]
  rw [ho] at hp ⊢
  obtain ⟨s₀, s', hs', ⟨hborn, hrun⟩, hgentle, hyields, hmedias⟩ := hp
  obtain rfl := Option.some.inj (hi.symm.trans hs')
  refine ⟨s₀, t, ht, ⟨hborn, ?_⟩, ?_, ?_, ?_⟩
  · rw [movesOf_append, movesOf_same]
    exact Supervisor.run_append.2 ⟨s, hrun, hs⟩
  · rw [movesOf_append, movesOf_same]
    exact List.forall_mem_append.2 ⟨hgentle, hg⟩
  · rw [movesOf_append, movesOf_same, Supervisor.chronicle_append hrun]
    exact hy _ hyields
  · rw [movesOf_append, movesOf_same, Supervisor.chronicle_append hrun, Supervisor.known_append, hm,
      hmedias]

/-- A supervisor that is asked to stop is not that of an active path. -/
theorem Upright.not_cancelled (hw : Upright h w) (hp : p ∈ w.registry.paths)
    (ho : p.origin = .source i) (hi : w.supervisor? i = some s) : s.cancelled = false := by
  have hat := hw.attended p hp
  rw [Attended, ho] at hat
  obtain ⟨s₀, s', hs', ⟨⟨_, _, _, _, _, _, hborn⟩, hrun⟩, hgentle, -⟩ := hat
  obtain rfl := Option.some.inj (hi.symm.trans hs')
  rw [Supervisor.cancelled_run (Supervisor.consistent_create hborn).2 hrun]
  exact Supervisor.isStopAsked_of_gentle hgentle

/-! ## Steps keep the invariant -/

/-- One supervisor makes some moves, and the media of its active path change with what it accepts. -/
theorem Upright.moved (hw : Upright h w) (hi : w.hosts[i]? = some x)
    (hs : x.supervisor.run ms = some s) (hh : w'.hosts = w.hosts.set i ⟨s, x.owner⟩)
    (ha : w'.Assigned)
    (hp : ∀ q ∈ w'.registry.paths, ∃ p ∈ w.registry.paths, q.origin = p.origin ∧
      (p.origin ≠ .source i → q.medias = p.medias) ∧
      (p.origin = .source i → (∀ m ∈ ms, m.isGentle = true) ∧
        (∀ h, Yields h x.supervisor → Yields (h ++ x.supervisor.chronicle ms) s) ∧
        q.medias = (x.supervisor.chronicle ms).foldl knownAfter p.medias)) :
    Upright (h ++ ms.map (i, ·)) w' := by
  have hlen : w'.hosts.length = w.hosts.length := by rw [hh, List.length_set]
  have hlt := (List.getElem?_eq_some_iff.1 hi).1
  refine ⟨ha, fun y hy => ?_, fun q hq => ?_⟩
  · rw [hlen]
    rcases List.mem_append.1 hy with hy | hy
    · exact hw.recorded y hy
    · obtain ⟨m, -, rfl⟩ := List.mem_map.1 hy
      exact hlt
  · obtain ⟨p, hp, ho, hother, hsame⟩ := hp q hq
    have hat := hw.attended p hp
    by_cases hpo : p.origin = .source i
    · obtain ⟨hg, hy, hm⟩ := hsame hpo
      exact hat.moved hpo (by rw [supervisor?, hi, Option.map_some]) hs
        (supervisor?_of_set hi hh) hg hy ho hm
    · refine hat.elsewhere ho (hother hpo) fun j hj => ?_
      have hij : i ≠ j := by
        rintro rfl
        exact hpo hj
      exact ⟨supervisor?_of_set_ne hij hh, movesOf_other ms hij⟩

/-- No supervisor makes a move, and no path is added. -/
theorem Upright.recede (hw : Upright h w) (hh : w'.hosts = w.hosts)
    (hr : Recedes w.registry w'.registry) : Upright h w' := by
  refine ⟨hw.assigned.recede hh hr, by rw [hh]; exact hw.recorded, fun q hq => ?_⟩
  obtain ⟨p, hp, heq⟩ := hr.paths q hq
  have hat : Attended (h ++ []) w' q := (hw.attended p hp).elsewhere (by rw [heq]) (by rw [heq])
    fun i _ => ⟨by rw [supervisor?, supervisor?, hh], rfl⟩
  rwa [List.append_nil] at hat

/-- The moves of a supervisor in which nothing is answered change no media. -/
theorem Upright.quietly (hw : Upright h w) (hi : w.hosts[i]? = some x)
    (hs : x.supervisor.run ms = some s) (hh : w'.hosts = w.hosts.set i ⟨s, x.owner⟩)
    (hr : w'.registry.paths = w.registry.paths) (ha : w'.Assigned)
    (hg : ∀ m ∈ ms, m.isGentle = true)
    (hy : ∀ h, Yields h x.supervisor → Yields (h ++ x.supervisor.chronicle ms) s)
    (hc : ∀ r a, .answered r a ∉ x.supervisor.chronicle ms) : Upright (h ++ ms.map (i, ·)) w' := by
  refine hw.moved hi hs hh ha fun q hq => ⟨q, hr ▸ hq, rfl, fun _ => rfl, fun _ => ⟨hg, hy, ?_⟩⟩
  rw [Supervisor.foldl_knownAfter_of_unanswered hc]

/-- Nothing is known to the owner of a supervisor that no active path has. -/
theorem Upright.dismiss (hw : Upright h w) (hi : w.hosts[i]? = some x)
    (hp : ∀ p ∈ w.registry.paths, p.origin ≠ .source i) (hs : x.supervisor.run ms = some s)
    (hh : w'.hosts = w.hosts.set i ⟨s, x.owner⟩) (hr : w'.registry.paths = w.registry.paths)
    (ha : w'.Assigned) : Upright (h ++ ms.map (i, ·)) w' :=
  hw.moved hi hs hh ha fun q hq =>
    ⟨q, hr ▸ hq, rfl, fun _ => rfl, fun ho => absurd ho (hp q (hr ▸ hq))⟩

theorem Upright.forsake (hw : Upright h w)
    (hp : ∀ p ∈ w.registry.paths, p.origin ≠ .source i)
    (hh : w'.hosts = w.hosts.set i ⟨s, x.owner⟩) (hr : w'.registry.paths = w.registry.paths)
    (ha : w'.Assigned) : Upright h w' := by
  refine ⟨ha, by rw [hh, List.length_set]; exact hw.recorded, fun q hq => ?_⟩
  rw [hr] at hq
  have hat : Attended (h ++ []) w' q := by
    refine (hw.attended q hq).elsewhere rfl rfl fun j hj => ⟨supervisor?_of_set_ne ?_ hh, rfl⟩
    rintro rfl
    exact hp q hq hj
  rwa [List.append_nil] at hat

/-- The activation that a supervisor answers to is the active path that has it, if there is one. -/
theorem activation?_eq_some (hw : w.Assigned) (hi : w.owner? i = some (.path name id)) :
    w.registry.activation? name id = some p ↔ p ∈ w.registry.paths ∧ p.origin = .source i := by
  simp only [Registry.activation?, Option.filter_eq_some_iff, beq_iff_eq]
  constructor
  · rintro ⟨hget, rfl⟩
    have hmem := mem_of_get? hget
    obtain rfl := name_of_get? hget
    exact ⟨hmem, (hw.claims p hmem i).1 hi⟩
  · rintro ⟨hmem, ho⟩
    have hown := (hw.claims p hmem i).2 ho
    rw [hi] at hown
    obtain ⟨rfl, rfl⟩ := Owner.path.inj (Option.some.inj hown)
    exact ⟨get?_of_mem hw.tidy.distinct hmem, rfl⟩

/-- Changing the media of a path changes those of no other. -/
theorem mem_set_medias (hw : w.Assigned) (hp : p ∈ w.registry.paths)
    (ho : p.origin = .source i) {medias : Option (List Media)}
    (hq : q ∈ (w.registry.set { p with medias := medias }).paths) :
    ∃ r ∈ w.registry.paths, q.origin = r.origin ∧ (r.origin ≠ .source i → q.medias = r.medias) ∧
      (r.origin = .source i → q.medias = medias) := by
  obtain ⟨r, hr, rfl⟩ := List.mem_map.1 hq
  dsimp only
  split
  · exact ⟨p, hp, rfl, fun hne => absurd ho hne, fun _ => rfl⟩
  · rename_i hn
    refine ⟨r, hr, rfl, fun _ => rfl, fun hro => absurd ?_ hn⟩
    rw [hw.eq_of_origin hr hp hro ho]

/-- What the owner makes of a request changes the media of its path as the answer says. -/
theorem medias_consider (hw : w.Assigned) (hi : w.owner? i = some (.path name id)) (r : Request) :
    ∀ q ∈ (w.consider name id r.announcement).1.registry.paths, ∃ p ∈ w.registry.paths,
      q.origin = p.origin ∧ (p.origin ≠ .source i → q.medias = p.medias) ∧
      (p.origin = .source i → q.medias =
        knownAfter p.medias (.answered r (some (w.consider name id r.announcement).2))) := by
  intro q hq
  have hsome : ∀ {p}, w.registry.activation? name id = some p →
      p ∈ w.registry.paths ∧ p.origin = .source i := fun hp => (activation?_eq_some hw hi).1 hp
  unfold consider at hq ⊢
  split at hq
  · rename_i medias p ha hp
    obtain ⟨hmem, ho⟩ := hsome hp
    obtain ⟨o, hom, horigin, hother, hsame⟩ := mem_set_medias hw hmem ho hq
    refine ⟨o, hom, horigin, hother, fun hoo => ?_⟩
    simp only [hsame hoo, knownAfter, ha, Announcement.medias?]
  · exact ⟨q, hq, rfl, fun _ => rfl, fun _ => rfl⟩
  · rename_i p ha hp
    obtain ⟨hmem, ho⟩ := hsome hp
    split at hq
    · obtain ⟨o, hom, horigin, hother, hsame⟩ := mem_set_medias hw hmem ho hq
      refine ⟨o, hom, horigin, hother, fun hoo => ?_⟩
      rename_i hready
      simp only [hsame hoo, hready, if_true, knownAfter, ha, Announcement.medias?]
    · rename_i hready
      refine ⟨q, hq, rfl, fun _ => rfl, fun hqo => ?_⟩
      obtain rfl := hw.eq_of_origin hq hmem hqo ho
      have hnone : q.medias = none := by simpa [ActivePath.isReady] using hready
      simp [hnone, hready, knownAfter, ha, Announcement.medias?]
  · rename_i hp
    refine ⟨q, hq, rfl, fun _ => rfl, fun hqo => ?_⟩
    rw [(activation?_eq_some hw hi).2 ⟨hq, hqo⟩] at hp
    cases hp

/-- A loss is always accepted. -/
theorem answer_notReady (w : Server) (name : String) (id : Nat) :
    (w.consider name id .notReady).2 = .accepted := by
  unfold consider
  split
  · rename_i ha _
    cases ha
  · rename_i ha _
    cases ha
  · split <;> rfl
  · rfl

theorem Upright.turn (hw : Upright h w) (ht : Turn w i w' ms) :
    Upright (h ++ ms.map (i, ·)) w' := by
  have ha := hw.assigned.congr (outline_of_turn hw.assigned.tidy ht)
  have hsup : ∀ {x : Host}, w.hosts[i]? = some x → w.supervisor? i = some x.supervisor :=
    fun hx => by rw [supervisor?, hx, Option.map_some]
  cases ht with
  | own hi hs hh hr =>
    obtain ⟨hrun, hchron⟩ := Supervisor.run_task hs
    refine hw.quietly hi hrun hh (by rw [hr]) ha (by simp [Supervisor.Move.isGentle])
      (fun h hy => ?_) fun r a => ?_
    · rw [hchron]
      exact hy.task hs
    · rw [hchron]
      exact Supervisor.unanswered_task _ _ _ _ r a
  | line hh hr =>
    rw [List.map_nil, List.append_nil]
    refine hw.recede hh ?_
    rw [hr]
    exact ⟨rfl, Nat.le_refl _, List.Sublist.refl _, fun q hq => ⟨q, hq, rfl⟩⟩
  | decline hi hserv hc hh hr =>
    refine hw.dismiss hi (fun p hp ho => ?_) (Supervisor.run_answer hserv _).1 hh (by rw [hr]) ha
    rcases hc with hc | hc
    · simp [hw.not_cancelled hp ho (hsup hi)] at hc
    · simp [Registry.isReachable, hw.assigned.isOpen] at hc
  | @answer x r name id hi ho hserv hh hr =>
    obtain ⟨hrun, hchron⟩ := Supervisor.run_answer hserv (some (w.consider name id r.announcement).2)
    refine hw.moved hi hrun hh ha fun q hq => ?_
    rw [hr] at hq
    obtain ⟨p, hp, horigin, hother, hsame⟩ :=
      medias_consider hw.assigned (by rw [owner?_eq hi, ho]) r q hq
    refine ⟨p, hp, horigin, hother, fun hpo =>
      ⟨by simp [Supervisor.Move.isGentle], fun h hy => ?_, ?_⟩⟩
    · rw [hchron]
      exact hy.answered hserv fun hloss => congrArg some (by rw [hloss, answer_notReady])
    · rw [hchron]
      exact hsame hpo

/-- A path without a source is added. -/
theorem Upright.insert (hw : Upright h w) (ha : w'.Assigned) (hh : w'.hosts = w.hosts)
    (ho : p.origin.host? = none) (hm : p.medias = none)
    (hp : w'.registry.paths = w.registry.paths ++ [p]) : Upright h w' := by
  refine ⟨ha, by rw [hh]; exact hw.recorded, fun q hq => ?_⟩
  rw [hp, List.mem_append, List.mem_singleton] at hq
  rcases hq with hq | rfl
  · have hat : Attended (h ++ []) w' q := (hw.attended q hq).elsewhere rfl rfl fun i _ =>
      ⟨by rw [supervisor?, supervisor?, hh], rfl⟩
    rwa [List.append_nil] at hat
  · unfold Attended
    split
    · rename_i i hi
      rw [hi] at ho
      cases ho
    · exact hm
    · exact hm

/-- A path is added with a supervisor that was just started. -/
theorem Upright.hire {m : Match} {query : String} {s : Supervisor} (hw : Upright h w)
    (ha : w'.Assigned)
    (hs : Supervisor.create w.now m.entry m.groups w.registry.store.current.options
      (w.registry.factory.factory w.registry.nextId) w.registry.pause = .ok s)
    (hh : w'.hosts = w.hosts ++ [hired s name w.registry.nextId m query])
    (hp : w'.registry.paths =
      w.registry.paths ++ [w.activation name m query (.source w.hosts.length)]) :
    Upright (h ++ [Move.start m.entry.settings.sourceOnDemand query, .flush].map
      (w.hosts.length, ·)) w' := by
  refine ⟨ha, fun x hx => ?_, fun q hq => ?_⟩
  · rw [hh, List.length_append, List.length_singleton]
    rw [List.mem_append] at hx
    rcases hx with hx | hx
    · exact Nat.lt_succ_of_lt (hw.recorded x hx)
    · obtain ⟨y, -, rfl⟩ := List.mem_map.1 hx
      exact Nat.lt_succ_self _
  · rw [hp, List.mem_append, List.mem_singleton] at hq
    rcases hq with hq | rfl
    · refine (hw.attended q hq).elsewhere rfl rfl fun j hj => ?_
      have hlt : j < w.hosts.length := by
        have hown := (hw.assigned.claims q hq j).2 hj
        obtain ⟨y, hy, -⟩ := Option.map_eq_some_iff.1 hown
        have := (List.getElem?_eq_some_iff.1 hy).1
        rwa [marks, List.length_map] at this
      refine ⟨by rw [supervisor?, supervisor?, hh, List.getElem?_append_left hlt], ?_⟩
      exact movesOf_other _ (Nat.ne_of_gt hlt)
    · have hnone : movesOf h w.hosts.length = [] := by
        simp only [movesOf, List.map_eq_nil_iff, List.filter_eq_nil_iff, beq_iff_eq]
        exact fun x hx heq => Nat.ne_of_lt (hw.recorded x hx) heq
      obtain ⟨hrun, hchron⟩ := Supervisor.run_start (Supervisor.isIdle_create hs)
        m.entry.settings.sourceOnDemand query
      refine ⟨s, (hired s name w.registry.nextId m query).supervisor, ?_, ⟨?_, ?_⟩, ?_, ?_, ?_⟩
      · simp [supervisor?, hh]
      · exact ⟨_, _, _, _, _, _, hs⟩
      · rw [movesOf_append, hnone, movesOf_same]
        exact hrun
      · rw [movesOf_append, hnone, movesOf_same]
        simp [Supervisor.Move.isGentle]
      · rw [movesOf_append, hnone, movesOf_same, List.nil_append, hchron]
        exact fun r hr => by cases hr
      · rw [movesOf_append, hnone, movesOf_same, List.nil_append, hchron]
        rfl

theorem Upright.build {query : String} {m : Match} {result : Except SourceError ActivePath}
    (hw : Upright h w) (hn : w.registry.get? name = none)
    (hb : Built w name m query w' result ms) :
    Upright (h ++ ms.map (w.hosts.length, ·)) w' := by
  have ha := hw.assigned.build hn hb
  cases hb with
  | failed hh hr =>
    rw [List.map_nil, List.append_nil]
    refine hw.recede hh ?_
    rw [hr]
    exact ⟨rfl, Nat.le_succ _, List.Sublist.refl _, fun q hq => ⟨q, hq, rfl⟩⟩
  | pulled hs hh hr => exact hw.hire ha hs hh (paths_insert hr)
  | redirected _ _ hh hr =>
    rw [List.map_nil, List.append_nil]
    exact hw.insert ha hh rfl rfl (paths_insert hr)
  | published _ _ hh hr =>
    rw [List.map_nil, List.append_nil]
    exact hw.insert ha hh rfl rfl (paths_insert hr)

/-- Every step keeps the invariant. -/
theorem Upright.advance (hw : Upright h w) (hs : Advance w w' l) : Upright (h ++ l) w' := by
  have ha := hw.assigned.advance hs
  cases hs with
  | turn ht => exact hw.turn ht
  | recede hh hr =>
    rw [List.append_nil]
    exact hw.recede hh hr
  | inform _ hi hm hs hh hr =>
    obtain ⟨hg, hchron, hworker⟩ := Supervisor.run_inform hm hs
    refine hw.quietly hi hs hh (by rw [hr]) ha hg (fun h hy => ?_) fun r a => by simp [hchron]
    rw [hchron, List.append_nil]
    exact fun r hb hloss => hworker ▸ hy r hb hloss
  | dismiss hi hp hs hh hr => exact hw.dismiss hi hp hs hh (by rw [hr]) ha
  | forsake hi hp hh hr =>
    rw [List.append_nil]
    exact hw.forsake hp hh (by rw [hr]) ha
  | build hn hb => exact hw.build hn hb

/-! ## Every history -/

theorem upright_of_trace {store : Store} {factory : Workshop} {pause : Nat}
    (ht : Trace (fresh store factory pause) h w) : Upright h w := by
  induction ht with
  | nil =>
    exact ⟨assigned_fresh store factory pause, List.forall_mem_nil _, fun p hp => by cases hp⟩
  | concat _ ha ih => exact ih.advance ha

/-- The media of a ready path are those of an execution of its source. -/
theorem Attended.streams (hp : Attended h w p) {medias : List Media} (hm : p.medias = some medias) :
    ∃ i s₀ s, p.origin = .source i ∧ w.supervisor? i = some s ∧ Lives s₀ (movesOf h i) s ∧
      ∃ n r, Streams (s₀.chronicle (movesOf h i)) s medias n r := by
  unfold Attended at hp
  cases ho : p.origin with
  | source i =>
    rw [ho] at hp
    obtain ⟨s₀, s, hs, hlives, hgentle, hyields, hknown⟩ := hp
    obtain ⟨_, _, _, _, _, _, hborn⟩ := hlives.1
    refine ⟨i, s₀, s, rfl, hs, hlives, ?_⟩
    exact Supervisor.streams_of_known hborn (Supervisor.crash_notMem_of_gentle hgentle) hlives.2
      hyields (hknown.symm.trans hm)
  | redirect target | publisher =>
    rw [ho] at hp
    rw [hp] at hm
    cases hm

/-- Every history has a trace, and whatever the trace, the media of a ready path are those that were
accepted last from an execution of its source. That execution is held by the supervisor of the path,
which is running, if and only if it has not ended. -/
theorem ready_source (store : Store) (factory : Workshop) (pause : Nat) (es : List Event) :
    (∃ h, Trace (fresh store factory pause) h ((fresh store factory pause).history es)) ∧
      ∀ h, Trace (fresh store factory pause) h ((fresh store factory pause).history es) →
        ∀ p ∈ ((fresh store factory pause).history es).registry.paths,
          ∀ medias, p.medias = some medias →
            ∃ i s₀ s, p.origin = .source i ∧
              ((fresh store factory pause).history es).supervisor? i = some s ∧
              Lives s₀ (movesOf h i) s ∧
              ∃ n r, Streams (s₀.chronicle (movesOf h i)) s medias n r :=
  ⟨(reached_history store factory pause es).course.trace
      (assigned_fresh store factory pause),
    fun _ ht p hp _ hm =>
    ((upright_of_trace ht).attended p hp).streams hm⟩

/-- A path stays ready while the next launch of its source, which has failed, is still to come. -/
theorem ready_source_failed :
    let failing : Workshop := ⟨fun _ _ _ _ => .ok { behaviour := fun _ =>
      [.announce (.ready [⟨.video, ["H264"]⟩]) false, .finish (.failed "connection lost")] }⟩
    let c := (({} : Configuration).insert "cam" { source := "rtsp://10.0.0.1:554/live" }).toOption
    let es : List Event := .operation .start :: List.replicate 14 .step
    let w := (fresh ⟨c.getD {}⟩ failing 5000).history es
    ∃ h, Trace (fresh ⟨c.getD {}⟩ failing 5000) h w ∧ ∃ p ∈ w.registry.paths, ∃ i s₀ s,
      p.medias = some [⟨.video, ["H264"]⟩] ∧ p.origin = .source i ∧ w.supervisor? i = some s ∧
      s.phase = .retryPending ∧ Lives s₀ (movesOf h i) s ∧
      ∃ n, .ended n ∈ s₀.chronicle (movesOf h i) := by
  intro failing c es w
  have hready : ∃ p ∈ w.registry.paths, p.medias = some [⟨.video, ["H264"]⟩] := by decide +kernel
  have hphase : ∀ x ∈ w.hosts, x.supervisor.phase = .retryPending := by decide +kernel
  have htraced := ready_source ⟨c.getD {}⟩ failing 5000 es
  -- from here on it does not matter how the server came about
  generalize hw : (fresh ⟨c.getD {}⟩ failing 5000).history es = v at htraced
  replace hw : w = v := hw
  clear_value w
  subst hw
  obtain ⟨⟨h, ht⟩, htraced⟩ := htraced
  obtain ⟨p, hp, hm⟩ := hready
  obtain ⟨i, s₀, s, ho, hs, hlives, n, r, hstreams⟩ := htraced h ht p hp _ hm
  obtain ⟨x, hx, rfl⟩ := Option.map_eq_some_iff.1 hs
  replace hphase := hphase x (List.mem_of_getElem? hx)
  refine ⟨h, ht, p, hp, i, s₀, x.supervisor, hm, ho, hs, hphase, hlives, n, ?_⟩
  by_contra hend
  have := (hstreams.live.2 hend).2
  rw [hphase] at this
  cases this

end Server

end MediaPaths
