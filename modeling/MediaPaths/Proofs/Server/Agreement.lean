import MediaPaths.Proofs.Server.Tenure
import MediaPaths.Proofs.Supervision.Handshake

/-!
# Sources and the server agree on announcements

A call that announces media has a request, which the owner of the supervisor answers. The call returns
that it was accepted just if, for this very request, the path was made ready with these media and
subscribers were told. If it returns anything else, nothing that the owner has done or will do for the
request changes a path or tells subscribers of anything.

Executions are only asked to stop once the path that has their supervisor is no longer active. So a call
that is given up because of that may leave its request behind, but whenever the owner comes to it, there
is no path that it could change. The invariant is `Agrees`; what happens is told moment by moment.
-/

namespace MediaPaths

namespace Server

open Supervisor (Goes Spent Tracked)

variable {w v u : Server} {i j k : Nat} {s t : Supervisor} {e : Execution} {a : Announcement}
  {x : Answer} {medias : List Media} {l m : List (Server × Server)} {h : Host} {name : String} {id : Nat}
  {ms : List Supervisor.Move}

/-! ## Passages -/

/-- What can happen at one moment. -/
inductive Moment (w : Server) : Server → Prop where
  /-- A stride is made. -/
  | stride {v : Server} (hs : Stride w v) : Moment w v
  /-- The active paths are listed anew. -/
  | relist {ps : List ActivePath} (hp : ps.Perm w.registry.paths) : Moment w (w.relisted ps)

/-- Moments that follow each other, each with the server before and after it. -/
inductive Passage : Server → List (Server × Server) → Server → Prop where
  | nil {w : Server} : Passage w [] w
  | cons {w v u : Server} {l : List (Server × Server)} (hm : Moment w v) (hp : Passage v l u) :
      Passage w ((w, v) :: l) u

theorem Passage.append (hl : Passage w l v) (hm : Passage v m u) : Passage w (l ++ m) u := by
  induction hl with
  | nil => exact hm
  | cons hmoment _ ih => exact .cons hmoment (ih hm)

theorem Passage.split (h : Passage w (l ++ m) u) : ∃ v, Passage w l v ∧ Passage v m u := by
  induction l generalizing w with
  | nil => exact ⟨w, .nil, h⟩
  | cons y l ih =>
    cases h with
    | cons hm hp =>
      obtain ⟨v, hl, hrest⟩ := ih hp
      exact ⟨v, .cons hm hl, hrest⟩

theorem Moment.assigned (hm : Moment w v) (hw : w.Assigned) : v.Assigned := by
  cases hm with
  | stride hs => exact hw.stride hs
  | relist hp => exact hw.relist hp

/-- Whatever happens to a server happens moment by moment. -/
theorem passage_life (store : Store) (factory : Workshop) (pause : Nat) (is : List Incident) :
    ∃ l, Passage (fresh store factory pause) l ((fresh store factory pause).life is) := by
  have hfresh := inOrder_fresh store factory pause
  refine (hfresh.life is).induction
    (P := fun x => ∃ l, Passage (fresh store factory pause) l x.server) hfresh ⟨[], .nil⟩ ?_
  rintro x y hx hs ⟨l, hl⟩
  have hmoment : Moment x.server y.server := by
    rcases hs.stride hx with hs | ⟨ps, hp, rfl⟩
    · exact .stride hs
    · exact .relist hp
  exact ⟨l ++ [(x.server, y.server)], hl.append (.cons hmoment .nil)⟩

/-! ## What an owner does for a request -/

/-- The owner of a supervisor goes on with the request of a number. -/
def Serves (i k : Nat) (w v : Server) : Prop :=
  ∃ s r u, w.supervisor? i = some s ∧ s.worker = .serving r ∧ r.number = k ∧
    w.stepTask i .worker = some u ∧ v = u.hosts[i]?.elim u (u.setAlarms i)

/-- The active paths stay as they are, and subscribers are not told of anything. -/
def Undisturbed (w v : Server) : Prop :=
  v.registry.paths = w.registry.paths ∧ v.registry.sent = w.registry.sent

/-- For the request of a number, the path that has the supervisor is made ready, and subscribers are told. -/
def Accepts (i k : Nat) (medias : List Media) (w v : Server) : Prop :=
  Serves i k w v ∧ ∃ p ∈ w.registry.paths, p.origin = .source i ∧
    v.registry.paths = (w.registry.set { p with medias := some medias }).paths ∧
    v.registry.sent = .ready p.name medias :: w.registry.sent

/-- At some moment, a request was accepted. -/
def Accepted (i k : Nat) (medias : List Media) (l : List (Server × Server)) : Prop :=
  ∃ y ∈ l, Accepts i k medias y.1 y.2

/-- Whatever the owner does for a request is of no effect. -/
def Ineffective (i k : Nat) (l : List (Server × Server)) : Prop :=
  ∀ y ∈ l, Serves i k y.1 y.2 → Undisturbed y.1 y.2

/-- An answer by which media are turned down: the supervisor is being stopped, or the activation for which
it was made is over. -/
def TurnsDown (x : Answer) : Prop := x = .terminated ∨ ∃ name, x = .refused (stale name)

/-- The call in which an execution announces something returns with an answer, of which it takes note. -/
def Returns (i : Nat) (e : Execution) (a : Announcement) (x : Answer) (w v : Server) : Prop :=
  ∃ s t, w.supervisor? i = some s ∧ e ∈ s.execution ∧ v.supervisor? i = some t ∧
    t.events = ⟨w.now, .answered a x⟩ :: s.events

theorem Accepts.not_undisturbed (ha : Accepts i k medias w v) : ¬ Undisturbed w v := by
  obtain ⟨-, p, -, -, -, hsent⟩ := ha
  rintro ⟨-, hsame⟩
  rw [hsent] at hsame
  exact List.cons_ne_self _ _ hsame

theorem Ineffective.not_accepted (hl : Ineffective i k l) : ¬ Accepted i k medias l := by
  rintro ⟨y, hy, ha⟩
  exact ha.not_undisturbed (hl y hy ha.1)

theorem Ineffective.append (hl : Ineffective i k l) (hm : Ineffective i k m) :
    Ineffective i k (l ++ m) := fun y hy =>
  (List.mem_append.1 hy).elim (hl y) (hm y)

theorem ineffective_singleton (h : Serves i k w v → Undisturbed w v) : Ineffective i k [(w, v)] :=
  fun _ hy => List.mem_singleton.1 hy ▸ h

theorem Accepted.append_right (ha : Accepted i k medias l) (m : List (Server × Server)) :
    Accepted i k medias (l ++ m) := by
  obtain ⟨y, hy, ha⟩ := ha
  exact ⟨y, List.mem_append_left _ hy, ha⟩

/-- An owner is at no more than one request. -/
theorem Serves.serving (hv : Serves i k w v) (hs : w.supervisor? i = some s) :
    ∃ r, s.worker = .serving r ∧ r.number = k := by
  obtain ⟨s', r, u, hs', hw, hk, -⟩ := hv
  obtain rfl := Option.some.inj (hs.symm.trans hs')
  exact ⟨r, hw, hk⟩

theorem Serves.turn (hv : Serves i k w v) (hw : w.Owned) : ∃ ms, Turn w i v ms := by
  obtain ⟨s, r, u, -, -, -, ht, rfl⟩ := hv
  obtain ⟨ms, hturn⟩ := turn_of_stepTask hw ht
  exact ⟨ms, hturn.congr (hosts_elim_setAlarms u i) (registry_elim_setAlarms u i)⟩

/-- Only an owner that answers a request changes paths, or tells subscribers of something. -/
theorem Turn.undisturbed (ht : Turn w i v ms) :
    Undisturbed w v ∨ ∃ h name id r, w.hosts[i]? = some h ∧ h.owner = .path name id ∧
      v.hosts = w.hosts.set i (h.settled r (some (w.consider name id r.announcement).2)) ∧
      v.registry.paths = (w.consider name id r.announcement).1.registry.paths ∧
      v.registry.sent = (w.consider name id r.announcement).1.registry.sent := by
  cases ht with
  | own _ _ _ hr => exact .inl ⟨by rw [hr], by rw [hr]⟩
  | line _ hr | decline _ _ _ _ hr => exact .inl ⟨by rw [hr], by rw [hr]⟩
  | answer hi ho _ hh hr => exact .inr ⟨_, _, _, _, hi, ho, hh, by rw [hr], by rw [hr]⟩

/-- Where no active path has the supervisor, nothing that is announced changes anything. -/
theorem consider_of_unclaimed (hw : w.Assigned) (hi : w.Unclaimed i)
    (ho : w.owner? i = some (.path name id)) (a : Announcement) : (w.consider name id a).1 = w := by
  have hnone : w.registry.activation? name id = none := by
    refine Option.eq_none_iff_forall_ne_some.2 fun p hp => ?_
    obtain ⟨hmem, horigin⟩ := (activation?_eq_some hw ho).1 hp
    exact hi p hmem horigin
  cases a <;> simp [consider, hnone]

theorem Serves.undisturbed_of_unclaimed (hv : Serves i k w v) (hw : w.Assigned) (hi : w.Unclaimed i) :
    Undisturbed w v := by
  obtain ⟨ms, ht⟩ := hv.turn hw.tidy.owned
  rcases ht.undisturbed with hu | ⟨h, name, id, r, hh, ho, -, hp, hs⟩
  · exact hu
  · have hc := consider_of_unclaimed hw hi (by rw [owner?_eq hh, ho]) r.announcement
    rw [hc] at hp hs
    exact ⟨hp, hs⟩

/-- While the owner does not answer the request, nothing changes. -/
theorem Serves.undisturbed_of_goes (hv : Serves i k w v) (hw : w.Assigned)
    (hs : w.supervisor? i = some s) (ht : v.supervisor? i = some t) (hg : Goes s t) :
    Undisturbed w v := by
  obtain ⟨ms, hturn⟩ := hv.turn hw.tidy.owned
  rcases hturn.undisturbed with hu | ⟨h, name, id, r, hi, -, hh, -⟩
  · exact hu
  · obtain ⟨q, hserving, -⟩ := hv.serving hs
    have hset := supervisor?_of_set (x := h) hi hh
    rw [ht] at hset
    have hworker : t.worker = .selecting := by
      rw [Option.some.inj hset]
      rfl
    exact absurd hworker (hg.serving q hserving)

/-- Media are accepted for the path that has the supervisor, or they are turned down. -/
theorem verdict_consider (hw : w.Assigned) (ho : w.owner? i = some (.path name id))
    (hp : v.registry.paths = (w.consider name id (.ready medias)).1.registry.paths)
    (hs : v.registry.sent = (w.consider name id (.ready medias)).1.registry.sent) :
    (w.consider name id (.ready medias)).2 = .accepted ∧ (∃ p ∈ w.registry.paths,
        p.origin = .source i ∧
        v.registry.paths = (w.registry.set { p with medias := some medias }).paths ∧
        v.registry.sent = .ready p.name medias :: w.registry.sent) ∨
      TurnsDown (w.consider name id (.ready medias)).2 ∧ Undisturbed w v := by
  cases hact : w.registry.activation? name id with
  | none =>
    have hc : w.consider name id (.ready medias) = (w, .refused (stale name)) := by
      simp [consider, hact]
    rw [hc] at hp hs ⊢
    exact .inr ⟨.inr ⟨name, rfl⟩, hp, hs⟩
  | some p =>
    obtain ⟨hmem, horigin⟩ := (activation?_eq_some hw ho).1 hact
    have hc : w.consider name id (.ready medias) =
        ((w.record (.ready name medias)).setRegistry (w.registry.markReady p medias), .accepted) := by
      simp [consider, hact]
    rw [hc] at hp hs ⊢
    exact .inl ⟨rfl, p, hmem, horigin, hp, hs⟩

/-! ## What becomes of a supervisor -/

/-- What becomes of a supervisor at one moment: it goes on, or its owner answers the request that it is
at. -/
inductive Progress (i : Nat) (w v : Server) (s t : Supervisor) : Prop where
  /-- It goes on. -/
  | goes (hg : Goes s t)
  /-- Its owner answers. -/
  | settled {r : Request} {x : Answer} (hw : s.worker = .serving r)
      (ht : t = { (s.reply r.number (some x)).resume with effects := [] })
      (hx : ∀ medias, r.announcement = .ready medias →
        x = .accepted ∧ Accepts i r.number medias w v ∨ TurnsDown x ∧ Undisturbed w v)

/-- What is known of a supervisor at one moment and at the next. -/
structure Fate (i : Nat) (w v : Server) (s t : Supervisor) : Prop where
  /-- It goes on, or its owner answers. -/
  progress : Progress i w v s t
  /-- It is only asked to stop if no active path has it. -/
  cancelled : t.cancelled = true → s.cancelled = true ∨ w.Unclaimed i
  /-- A call returns as it can. -/
  returns : ∀ n a x, t.events = ⟨n, .answered a x⟩ :: s.events →
    ∃ e, s.execution = some e ∧ e.announcing? = some a ∧ e.Concludes x

/-- Whatever becomes of it, it takes no note of a call. -/
theorem Fate.of_events (hp : Progress i w v s t)
    (hc : t.cancelled = true → s.cancelled = true ∨ w.Unclaimed i) (he : t.events = s.events) :
    Fate i w v s t :=
  ⟨hp, hc, fun _ _ _ h => absurd (he.symm.trans h).symm (List.cons_ne_self _ _)⟩

theorem Fate.still (hs : s.Tracked) : Fate i w v s s := .of_events (.goes (.refl hs)) .inl rfl

theorem fate_step {c : Task} (hs : s.Tracked) (h : s.step w.now c = some t) :
    Fate i w v s { t with effects := [] } := by
  have hcancelled : t.cancelled = s.cancelled :=
    Supervisor.cancelled_move (m := .task w.now c) h
  exact ⟨.goes (Supervisor.goes_step hs h).flush, fun hc => .inl (hcancelled ▸ hc),
    fun n a x he => by
      obtain ⟨e, hx, -, ha, hc⟩ := Supervisor.concludes_of_step hs h he
      exact ⟨e, hx, ha, hc⟩⟩

theorem fate_settled {r : Request} (hw : s.worker = .serving r)
    (hx : ∀ medias, r.announcement = .ready medias →
      x = .accepted ∧ Accepts i r.number medias w v ∨ TurnsDown x ∧ Undisturbed w v) :
    Fate i w v s { (s.reply r.number (some x)).resume with effects := [] } := by
  have hcancelled := Supervisor.cancelled_reply s r.number (some x)
  refine .of_events (.settled hw rfl hx) (fun hc => .inl (hcancelled ▸ hc)) ?_
  simp only [Supervisor.reply, Supervisor.wakeAll_eq]
  rfl

/-- Unless its worker is at a request, the task of a supervisor takes a step of its own. -/
theorem stepTask_cases {c : Task} (hi : w.hosts[i]? = some h) (ht : w.stepTask i c = some v) :
    (c = .worker ∧ ∃ r, h.supervisor.worker = .serving r) ∨
      ∃ s, h.supervisor.step w.now c = some s ∧ v = w.put i ⟨s, h.owner⟩ := by
  simp only [stepTask, hi] at ht
  split at ht
  · exact .inl ⟨rfl, _, ‹_›⟩
  · obtain ⟨s, hs, rfl⟩ := Option.map_eq_some_iff.1 ht
    exact .inr ⟨s, hs, rfl⟩

/-- What happens to supervisors at one moment. -/
inductive Shifts (w v : Server) : Prop where
  /-- Nothing. -/
  | none (hh : v.hosts = w.hosts)
  /-- Something becomes of one of them. -/
  | one {i : Nat} {h : Host} {t : Supervisor} (hi : w.hosts[i]? = some h)
      (hh : v.hosts = w.hosts.set i ⟨t, h.owner⟩)
      (ht : h.supervisor.Tracked → Fate i w v h.supervisor t)
  /-- One is added. -/
  | hire {t : Supervisor} {o : Owner} (hh : v.hosts = w.hosts ++ [⟨t, o⟩]) (ht : t.Tracked)
      (hx : t.execution = Option.none) (hc : t.cancelled = false)

theorem shifts_task {c : Task} (hw : w.Assigned) (ht : w.stepTask i c = some v) :
    Shifts w (v.hosts[i]?.elim v (v.setAlarms i)) := by
  obtain ⟨ms, hturn⟩ := turn_of_stepTask hw.tidy.owned ht
  replace hturn := hturn.congr (hosts_elim_setAlarms v i) (registry_elim_setAlarms v i)
  obtain ⟨h, hi⟩ : ∃ h, w.hosts[i]? = some h := by
    cases hi : w.hosts[i]? with
    | none => simp [stepTask, hi] at ht
    | some h => exact ⟨h, rfl⟩
  rcases stepTask_cases hi ht with ⟨rfl, r, hserving⟩ | ⟨s, hs, rfl⟩
  · have hsup : w.supervisor? i = some h.supervisor := by rw [supervisor?, hi, Option.map_some]
    have hv : Serves i r.number w (v.hosts[i]?.elim v (v.setAlarms i)) :=
      ⟨h.supervisor, r, v, hsup, hserving, rfl, ht, rfl⟩
    generalize v.hosts[i]?.elim v (v.setAlarms i) = v' at hturn hv
    cases hturn with
    | own hi' hs hh =>
      exact .one hi' hh fun htracked => fate_step htracked hs
    | line hh => exact .none hh
    | decline hi' hw' _ hh hr =>
      obtain rfl := Option.some.inj (hi.symm.trans hi')
      obtain rfl := WorkerState.serving.inj (hserving.symm.trans hw')
      refine .one hi hh fun _ => fate_settled hserving fun medias ha => .inr ⟨.inl ?_, ?_⟩
      · rw [ha]
        rfl
      · exact ⟨by rw [hr], by rw [hr]⟩
    | @answer h' r' name id hi' ho hw' hh hr =>
      obtain rfl := Option.some.inj (hi.symm.trans hi')
      obtain rfl := WorkerState.serving.inj (hserving.symm.trans hw')
      refine .one hi hh fun _ => fate_settled hserving fun medias ha => ?_
      rw [ha] at hr ⊢
      have hverdict := verdict_consider (v := v') hw (by rw [owner?_eq hi, ho]) (by rw [hr]) (by rw [hr])
      exact hverdict.imp_left fun haccepted => ⟨haccepted.1, hv, haccepted.2⟩
  · have hput := hosts_put hw.tidy.owned hi s
    rw [← hosts_elim_setAlarms _ i] at hput
    exact .one hi hput fun htracked => fate_step htracked hs

/-- One supervisor is operated. -/
theorem shifts_modify {f : Supervisor → Supervisor} (hw : w.Assigned)
    (hf : ∀ s : Supervisor, s.Tracked → Goes s (f s))
    (hc : ∀ s : Supervisor, (f s).cancelled = true → s.cancelled = true ∨ w.Unclaimed i)
    (he : ∀ s : Supervisor, (f s).events = s.events) : Shifts w (w.modify i f) := by
  rcases hosts_modify hw.tidy.owned i f with ⟨h, hi, hh⟩ | ⟨-, hh⟩
  · exact .one hi hh fun hs => .of_events (.goes (hf _ hs).flush) (hc _) (he _)
  · exact .none hh

theorem shifts_build {m : Match} {query : String} (hw : w.Assigned) :
    Shifts w (w.build name m query).1 := by
  obtain ⟨ms, hb⟩ := built_of_build hw.tidy.owned name m query
  generalize (w.build name m query).1 = v at hb ⊢
  generalize (w.build name m query).2 = result at hb
  cases hb with
  | failed hh | redirected _ _ hh | published _ _ hh => exact .none hh
  | pulled hs hh =>
    obtain ⟨htracked, hx, hc⟩ := Supervisor.tracked_start hs
    exact .hire hh htracked.flush hx hc

theorem Moment.shifts (hm : Moment w v) (hw : w.Assigned) : Shifts w v := by
  cases hm with
  | relist => exact .none rfl
  | stride hs =>
    cases hs with
    | task ht => exact shifts_task hw ht
    | park | record | request | send | replace | remove | clear | amend => exact .none rfl
    | pass t => exact .none (hosts_passTo w t)
    | release => exact .none (hosts_release w)
    | inform i entry =>
      refine shifts_modify hw (fun s hs => Supervisor.goes_reload hs entry) (fun s hc => .inl ?_)
        fun s => ?_
      · unfold Supervisor.reload at hc
        split at hc <;> exact hc
      · unfold Supervisor.reload
        split <;> rfl
    | cancel hi reason =>
      refine shifts_modify hw (fun s hs => Supervisor.goes_cancel hs reason) (fun s _ => .inr hi)
        fun s => ?_
      unfold Supervisor.cancel
      split
      · rfl
      · rw [Supervisor.wakeAll_eq]
        rfl
    | rest =>
      exact shifts_modify hw (fun s hs => Supervisor.goes_rest hs) (fun s hc => .inl hc) fun s => rfl
    | build => exact shifts_build hw

/-- What becomes of a supervisor. -/
theorem Shifts.fate (hv : Shifts w v) (hi : w.supervisor? i = some s) (hs : s.Tracked) :
    ∃ t, v.supervisor? i = some t ∧ Fate i w v s t := by
  cases hv with
  | none hh => exact ⟨s, by rw [supervisor?, hh, ← supervisor?, hi], .still hs⟩
  | @one j h t hj hh ht =>
    by_cases hij : j = i
    · subst hij
      obtain rfl : h.supervisor = s := by
        rw [supervisor?, hj] at hi
        exact Option.some.inj hi
      exact ⟨t, supervisor?_of_set hj hh, ht hs⟩
    · exact ⟨s, (supervisor?_of_set_ne hij hh).trans hi, .still hs⟩
  | hire hh =>
    have hlt := lt_of_supervisor? hi
    exact ⟨s, by rw [supervisor?, hh, List.getElem?_append_left hlt, ← supervisor?, hi], .still hs⟩

/-- A supervisor is added with nothing in its mailboxes and nothing launched. -/
theorem Shifts.hired (hv : Shifts w v) (hi : v.supervisor? i = some t)
    (hn : w.supervisor? i = Option.none) :
    t.Tracked ∧ t.execution = Option.none ∧ t.cancelled = false := by
  have hge : w.hosts.length ≤ i := by
    rw [supervisor?, Option.map_eq_none_iff] at hn
    exact List.getElem?_eq_none_iff.1 hn
  have hlt := lt_of_supervisor? hi
  cases hv with
  | none hh =>
    rw [hh] at hlt
    omega
  | one _ hh =>
    rw [hh, List.length_set] at hlt
    omega
  | hire hh ht hx hc =>
    rw [hh, List.length_append, List.length_singleton] at hlt
    obtain rfl : i = w.hosts.length := by omega
    rw [supervisor?, hh, List.getElem?_concat_length] at hi
    cases hi
    exact ⟨ht, hx, hc⟩

/-- No active path gets the supervisor of another one. -/
theorem Moment.unclaimed (hm : Moment w v) (hw : w.Assigned) (hs : w.supervisor? i = some s)
    (hi : w.Unclaimed i) : v.Unclaimed i := by
  cases hm with
  | relist hp => exact fun q hq => hi q (hp.mem_iff.1 hq)
  | stride hstride =>
    obtain ⟨l, ha⟩ := advance_of_stride hw.tidy.owned hstride
    intro q hq hqo
    cases ha with
    | turn ht =>
      obtain ⟨p, hp, hrep⟩ := replaces_of_outline (outline_of_turn hw.tidy ht) q hq
      exact hi p hp (hrep.origin.symm.trans hqo)
    | recede _ hr =>
      obtain ⟨p, hp, heq⟩ := hr.paths q hq
      refine hi p hp ?_
      rw [← hqo, heq]
    | inform _ _ _ _ _ hr | dismiss _ _ _ _ hr | forsake _ _ _ hr =>
      rw [hr] at hq
      exact hi q hq hqo
    | build _ hb =>
      have hlt := lt_of_supervisor? hs
      cases hb with
      | failed _ hr =>
        rw [hr] at hq
        exact hi q hq hqo
      | pulled _ _ hr =>
        rw [paths_insert hr, List.mem_append, List.mem_singleton] at hq
        rcases hq with hq | rfl
        · exact hi q hq hqo
        · exact Nat.lt_irrefl _ (Origin.source.inj hqo ▸ hlt)
      | redirected _ _ _ hr | published _ _ _ hr =>
        rw [paths_insert hr, List.mem_append, List.mem_singleton] at hq
        rcases hq with hq | rfl
        · exact hi q hq hqo
        · cases hqo

/-! ## The invariant -/

/-- What has happened agrees with what the executions of a supervisor wait for and have heard. -/
structure Agrees (l : List (Server × Server)) (w : Server) (i : Nat) (s : Supervisor) : Prop where
  /-- Requests and calls belong to each other. -/
  tracked : s.Tracked
  /-- Once it is being stopped, no active path has it. -/
  stopped : s.cancelled = true → w.Unclaimed i
  /-- Only a request that is no longer on its way has had an effect. -/
  spent : ∀ k, Ineffective i k l ∨ Spent k s
  /-- A call that has heard nothing has had no effect. -/
  unheard : ∀ e ∈ s.execution, ∀ k, e.activity = .listening k none → Ineffective i k l
  /-- A call has had the effect of which it has heard. -/
  heard : ∀ e ∈ s.execution, ∀ k y medias, e.activity = .listening k (some y) →
    e.announcing? = some (.ready medias) → y = some .accepted ∧ Accepted i k medias l ∨
      (∃ x, y = some x ∧ TurnsDown x) ∧ Ineffective i k l

/-- What has happened agrees with all supervisors. -/
structure Agreed (l : List (Server × Server)) (w : Server) : Prop where
  /-- Supervisors and active paths are assigned to each other. -/
  assigned : w.Assigned
  /-- Owners only go on with requests of supervisors that there are. -/
  recorded : ∀ i k, w.supervisor? i = none → Ineffective i k l
  /-- What has happened agrees with each of them. -/
  agrees : ∀ i s, w.supervisor? i = some s → Agrees l w i s

theorem announcing?_eq {e e' : Execution} (h : e'.script = e.script)
    (ha : e'.announcing? = some a) : e.announcing? = some a := by
  rw [← ha, Supervisor.announcing?_of_script h]

/-- A supervisor goes on. -/
theorem Agrees.goes (hs : Agrees l w i s) (hg : Goes s t)
    (hu : ∀ k, Ineffective i k [(w, v)]) (hc : t.cancelled = true → v.Unclaimed i) :
    Agrees (l ++ [(w, v)]) v i t := by
  refine ⟨hs.tracked.goes hg, hc, fun k => ?_, fun e' he k ha => ?_, fun e' he k y medias ha hr => ?_⟩
  · rcases hs.spent k with hk | hk
    · exact .inl (hk.append (hu k))
    · exact .inr (hk.carries hg.carries)
  · cases hg.calls e' he with
    | free h => simp [Execution.request?, ha] at h
    | same he _ hact => exact (hs.unheard _ he k (hact ▸ ha)).append (hu k)
    | @asks r _ hact _ hf =>
      have hk : r.number = k := by
        rcases hact with hact | hact <;> cases hact.symm.trans ha
        rfl
      -- the request was not passed on before
      refine Ineffective.append ((hs.spent k).resolve_right fun hspent => ?_) (hu k)
      rcases hf with hf | hf
      · exact hspent.2 r (Supervisor.mem_burden_of_pending hf) hk
      · have := hspent.1
        omega
  · cases hg.calls e' he with
    | free h => simp [Execution.request?, ha] at h
    | same he hscript hact =>
      rcases hs.heard _ he k y medias (hact ▸ ha) (announcing?_eq hscript hr) with ⟨hy, hk⟩ | ⟨hy, hk⟩
      · exact .inl ⟨hy, hk.append_right _⟩
      · exact .inr ⟨hy, hk.append (hu k)⟩
    | asks _ hact => rcases hact with hact | hact <;> cases hact.symm.trans ha

/-- The owner of a supervisor answers a request. -/
theorem Agrees.settled {r : Request} (hs : Agrees l w i s) (hi : w.supervisor? i = some s)
    (hw : s.worker = .serving r)
    (hx : ∀ medias, r.announcement = .ready medias →
      x = .accepted ∧ Accepts i r.number medias w v ∨ TurnsDown x ∧ Undisturbed w v)
    (hc : s.cancelled = true → v.Unclaimed i) :
    Agrees (l ++ [(w, v)]) v i { (s.reply r.number (some x)).resume with effects := [] } := by
  have htracked := hs.tracked.settled hw (some x)
  have hspent := hs.tracked.spent hw (some x)
  have hcarries := (Supervisor.carries_settled s r (some x)).flush
  have hcancelled := Supervisor.cancelled_reply s r.number (some x)
  have hmem := Supervisor.mem_burden_of_serving hw
  -- other requests are none of the owner's concern at this moment
  have hother : ∀ k, k ≠ r.number → Ineffective i k [(w, v)] := fun k hk =>
    ineffective_singleton fun hserves => by
      obtain ⟨q, hq, hqk⟩ := hserves.serving hi
      obtain rfl := WorkerState.serving.inj (hw.symm.trans hq)
      exact absurd hqk.symm hk
  refine ⟨htracked.flush, fun h => hc (hcancelled ▸ h), fun k => ?_, fun e' he k ha => ?_,
    fun e' he k y medias ha hr => ?_⟩
  · by_cases hk : k = r.number
    · exact .inr (hk ▸ hspent)
    · rcases hs.spent k with hold | hold
      · exact .inl (hold.append (hother k hk))
      · exact .inr (hold.carries hcarries)
  · obtain ⟨e, he, -, -, hact⟩ := Supervisor.heard_of_settled he
    rcases hact with ⟨-, hact⟩ | ⟨hne, hact⟩
    · cases hact.symm.trans ha
    · have hk : k ≠ r.number := fun hk => hne (by rw [← hact, ha, hk])
      exact (hs.unheard e he k (hact ▸ ha)).append (hother k hk)
  · obtain ⟨e, he, hscript, -, hact⟩ := Supervisor.heard_of_settled he
    have hr := announcing?_eq hscript hr
    rcases hact with ⟨hwait, hact⟩ | ⟨-, hact⟩
    · cases hact.symm.trans ha
      -- it is the request of this call that the owner has answered
      have hcall := (hs.tracked.listening e he _ _ hwait).2 r hmem rfl
      rw [hr] at hcall
      rcases hx medias (Option.some.inj hcall).symm with ⟨rfl, haccepts⟩ | ⟨hdown, hu⟩
      · exact .inl ⟨rfl, (w, v), by simp, haccepts⟩
      · exact .inr ⟨⟨x, rfl, hdown⟩,
          (hs.unheard e he _ hwait).append (ineffective_singleton fun _ => hu)⟩
    · have hk : k ≠ r.number := fun hk =>
        (hs.tracked.heard e he k y (hact ▸ ha)).2 r hmem hk.symm
      rcases hs.heard e he k y medias (hact ▸ ha) hr with ⟨hy, hold⟩ | ⟨hy, hold⟩
      · exact .inl ⟨hy, hold.append_right _⟩
      · exact .inr ⟨hy, hold.append (hother k hk)⟩

theorem Agreed.moment (hl : Agreed l w) (hm : Moment w v) : Agreed (l ++ [(w, v)]) v := by
  have hshifts := hm.shifts hl.assigned
  -- a supervisor that there is not yet is at no request
  have hnone : ∀ i k, w.supervisor? i = none → Ineffective i k (l ++ [(w, v)]) := fun i k hi =>
    (hl.recorded i k hi).append (ineffective_singleton fun ⟨s, _, _, hs, _⟩ => by
      rw [hi] at hs
      cases hs)
  refine ⟨hm.assigned hl.assigned, fun i k hi => ?_, fun i t ht => ?_⟩
  · cases hs : w.supervisor? i with
    | none => exact hnone i k hs
    | some s =>
      obtain ⟨t, ht, -⟩ := hshifts.fate hs (hl.agrees i s hs).tracked
      rw [hi] at ht
      cases ht
  · cases hs : w.supervisor? i with
    | none =>
      obtain ⟨htracked, hx, hc⟩ := hshifts.hired ht hs
      refine ⟨htracked, fun h => ?_, fun k => .inl (hnone i k hs), fun e he => ?_, fun e he => ?_⟩
      · rw [hc] at h
        cases h
      · rw [hx] at he
        cases he
      · rw [hx] at he
        cases he
    | some s =>
      have hagrees := hl.agrees i s hs
      obtain ⟨t', ht', hfate⟩ := hshifts.fate hs hagrees.tracked
      obtain rfl := Option.some.inj (ht.symm.trans ht')
      have hc : t.cancelled = true → v.Unclaimed i := fun h =>
        hm.unclaimed hl.assigned hs ((hfate.cancelled h).elim hagrees.stopped id)
      cases hfate.progress with
      | goes hg =>
        exact hagrees.goes hg (fun k => ineffective_singleton fun hv =>
          hv.undisturbed_of_goes hl.assigned hs ht hg) hc
      | settled hw heq hx =>
        subst heq
        exact hagrees.settled hs hw hx fun h => hm.unclaimed hl.assigned hs (hagrees.stopped h)

theorem Agreed.passage (hl : Agreed l w) (hp : Passage w m u) : Agreed (l ++ m) u := by
  induction hp generalizing l with
  | nil => rwa [List.append_nil]
  | @cons w v u m hm _ ih =>
    have hv := ih (hl.moment hm)
    rwa [List.append_assoc] at hv

theorem agreed_fresh (store : Store) (factory : Workshop) (pause : Nat) :
    Agreed [] (fresh store factory pause) :=
  ⟨assigned_fresh store factory pause, (fun _ _ _ _ hy => nomatch hy), fun _ _ hs => nomatch hs⟩

/-- Once a request is no longer on its way, or no active path has the supervisor, nothing that the owner
does for it has an effect. -/
theorem Agreed.ineffective (hl : Agreed l w) (hp : Passage w m u) (hi : w.supervisor? i = some s)
    (hk : Spent k s ∨ w.Unclaimed i) : Ineffective i k m := by
  induction hp generalizing l s with
  | nil => exact fun _ hy => nomatch hy
  | @cons w v u m hm _ ih =>
    have hagrees := hl.agrees i s hi
    obtain ⟨t, ht, hfate⟩ := (hm.shifts hl.assigned).fate hi hagrees.tracked
    have hnow : Ineffective i k [(w, v)] := ineffective_singleton fun hv => by
      rcases hk with hspent | hun
      · obtain ⟨r, hr, hrk⟩ := hv.serving hi
        exact absurd hrk (hspent.2 r (Supervisor.mem_burden_of_serving hr))
      · exact hv.undisturbed_of_unclaimed hl.assigned hun
    have hlater : Spent k t ∨ v.Unclaimed i := by
      refine hk.imp (fun hspent => ?_) fun hun => hm.unclaimed hl.assigned hi hun
      cases hfate.progress with
      | goes hg => exact hspent.carries hg.carries
      | @settled r x _ heq =>
        subst heq
        exact hspent.carries (Supervisor.carries_settled s r (some x)).flush
    exact hnow.append (ih (hl.moment hm) ht hlater)

/-! ## Calls that return -/

/-- A call that has heard nothing has had no effect. -/
theorem Agrees.ineffective (hs : Agrees l w i s) (he : e ∈ s.execution) (hk : e.request? = some k)
    (hn : ∀ k y, e.activity ≠ .listening k (some y)) : Ineffective i k l := by
  unfold Execution.request? at hk
  split at hk
  · rename_i r hact
    cases hk
    have hpending : s.pending = some r := by
      rw [Supervisor.pending, Option.mem_def.1 he, Option.bind_some, Execution.pending?, hact]
    exact (hs.spent r.number).resolve_right fun hspent =>
      hspent.2 r (Supervisor.mem_burden_of_pending hpending) rfl
  · rename_i k' y hact
    cases hk
    cases y with
    | none => exact hs.unheard e he k hact
    | some y => exact absurd hact (hn k y)
  · cases hk

/-- With what a call returns, and what the owner has done for its request. -/
theorem Agreed.returns (hl : Agreed l w) (hm : Moment w v) (hp : Passage v m u)
    (hr : Returns i e (.ready medias) x w v) :
    x = .accepted ∧ (∃ k ∈ e.request?, Accepted i k medias l) ∨
      TurnsDown x ∧ ∀ k ∈ e.request?, Ineffective i k (l ++ (w, v) :: m) := by
  obtain ⟨s, t, hs, he, ht, hevents⟩ := hr
  have hagrees := hl.agrees i s hs
  obtain ⟨t', ht', hfate⟩ := (hm.shifts hl.assigned).fate hs hagrees.tracked
  obtain rfl := Option.some.inj (ht.symm.trans ht')
  obtain ⟨e', he', ha, hc⟩ := hfate.returns _ _ _ hevents
  obtain rfl := Option.some.inj (he'.symm.trans he)
  have hafter : ∀ k, Ineffective i k l → Spent k s ∨ w.Unclaimed i →
      Ineffective i k (l ++ (w, v) :: m) := fun k hk hlater =>
    hk.append (hl.ineffective (.cons hm hp) hs hlater)
  cases hc with
  | @heard k y hact =>
    have hreq : e'.request? = some k := by simp [Execution.request?, hact]
    rcases hagrees.heard e' he k y medias hact ha with ⟨rfl, hacc⟩ | ⟨⟨x, rfl, hdown⟩, hk⟩
    · exact .inl ⟨rfl, k, hreq, hacc⟩
    · refine .inr ⟨hdown, fun k' hk' => ?_⟩
      obtain rfl := Option.some.inj (hreq.symm.trans hk')
      exact hafter k hk (.inl (hagrees.tracked.heard e' he k _ hact))
  | stopped hcan hact =>
    have hun := hagrees.stopped (hagrees.tracked.told e' he hcan)
    exact .inr ⟨.inl rfl, fun k hk => hafter k (hagrees.ineffective he hk hact) (.inr hun)⟩

/-- A call that has heard an answer can return with it. -/
theorem returns_of_heard {y : Option Answer} (hw : w.Owned) (hs : w.supervisor? i = some s)
    (he : e ∈ s.execution) (ha : e.announcing? = some a) (hact : e.activity = .listening k (some y)) :
    ∃ u, w.stepTask i (.execution e.number) = some u ∧ Returns i e a (.ofReply y) w u := by
  obtain ⟨h, hi, rfl⟩ := Option.map_eq_some_iff.1 hs
  obtain ⟨t, ht, hevents⟩ := Supervisor.step_of_heard (Supervisor.execution?_watched he) ha hact w.now
  have hput : (w.put i ⟨t, h.owner⟩).supervisor? i = some { t with effects := [] } :=
    supervisor?_of_set hi (hosts_put hw hi t)
  refine ⟨w.put i ⟨t, h.owner⟩, ?_, h.supervisor, _, hs, he, hput, hevents⟩
  simp only [stepTask, hi, ht, Option.map_some]

/-- Nothing keeps a call that was accepted from returning that it was. -/
theorem Agreed.can_return (hl : Agreed l w) (hs : w.supervisor? i = some s) (he : e ∈ s.execution)
    (ha : e.announcing? = some (.ready medias)) (hk : e.request? = some k)
    (hacc : Accepted i k medias l) :
    ∃ u, w.stepTask i (.execution e.number) = some u ∧ Returns i e (.ready medias) .accepted w u := by
  have hagrees := hl.agrees i s hs
  obtain ⟨k', y, hact⟩ : ∃ k y, e.activity = .listening k (some y) := by
    by_contra hn
    simp only [not_exists] at hn
    exact (hagrees.ineffective he hk hn).not_accepted hacc
  obtain rfl : k' = k := by simpa [Execution.request?, hact] using hk
  rcases hagrees.heard e he k' y medias hact ha with ⟨rfl, -⟩ | ⟨-, hnone⟩
  · exact returns_of_heard hl.assigned.tidy.owned hs he ha hact
  · exact absurd hacc hnone.not_accepted

/-- Sources and the server agree on announcements. Whatever happens to a server happens moment by moment.
Whenever a call returns with which a source announces media, it returns that they were accepted just if at
some moment before, for the request of this call, the path was made ready with these media and subscribers
were told. If it returns anything else, that is because the supervisor is being stopped or the activation
is over, and nothing that the owner does for the request, before or after, changes an active path or tells
subscribers of anything. A call whose request was accepted, and in which the source still waits, can return
at once, and then it returns that the media were accepted. -/
theorem announcements_agree (store : Store) (factory : Workshop) (pause : Nat) :
    (∀ is, ∃ l, Passage (fresh store factory pause) l ((fresh store factory pause).life is)) ∧
    ∀ l w, Passage (fresh store factory pause) l w →
      (∀ l₁ l₂ v v' i e medias x, l = l₁ ++ (v, v') :: l₂ → Returns i e (.ready medias) x v v' →
        (x = .accepted ↔ ∃ k ∈ e.request?, Accepted i k medias l₁) ∧
        (x ≠ .accepted → TurnsDown x ∧ ∀ k ∈ e.request?, Ineffective i k l)) ∧
      ∀ i s e k medias, w.supervisor? i = some s → e ∈ s.execution →
        e.announcing? = some (.ready medias) → e.request? = some k → Accepted i k medias l →
        ∃ u, w.stepTask i (.execution e.number) = some u ∧
          Returns i e (.ready medias) .accepted w u := by
  refine ⟨passage_life store factory pause, fun l w hl => ⟨?_, ?_⟩⟩
  · rintro l₁ l₂ v v' i e medias x rfl hr
    obtain ⟨v₁, h₁, hrest⟩ := hl.split
    obtain ⟨hm, h₂⟩ : Moment v v' ∧ Passage v' l₂ w ∧ v₁ = v := by
      cases hrest with
      | cons hm h₂ => exact ⟨hm, h₂, rfl⟩
    obtain ⟨h₂, rfl⟩ := h₂
    have hagreed := (agreed_fresh store factory pause).passage h₁
    rw [List.nil_append] at hagreed
    rcases hagreed.returns hm h₂ hr with ⟨rfl, hacc⟩ | ⟨hdown, hnone⟩
    · exact ⟨⟨fun _ => hacc, fun _ => rfl⟩, fun h => absurd rfl h⟩
    · have hne : x ≠ .accepted := by
        rcases hdown with rfl | ⟨name, rfl⟩ <;> simp [Answer.terminated]
      refine ⟨⟨fun h => absurd h hne, ?_⟩, fun _ => ⟨hdown, hnone⟩⟩
      rintro ⟨k, hk, hacc⟩
      exact absurd (hacc.append_right _) (hnone k hk).not_accepted
  · intro i s e k medias hs he ha hk hacc
    have hagreed := (agreed_fresh store factory pause).passage hl
    rw [List.nil_append] at hagreed
    exact hagreed.can_return hs he ha hk hacc

/-- A camera announces a track, and its path is made ready for that. The call has not returned yet, and can
return at once that the track was accepted. -/
theorem announcements_agree_camera :
    let tracks : List Media := [⟨.video, ["H264"]⟩]
    let camera : Workshop := ⟨fun _ _ _ _ => .ok { behaviour := fun _ =>
      [.announce (.ready tracks) true, .awaitStop] }⟩
    let c := (({} : Configuration).insert "cam" { source := "rtsp://10.0.0.1:554/live" }).toOption
    let w₀ := fresh ⟨c.getD {}⟩ camera 5000
    let w := w₀.life (.event (.operation .start) :: List.replicate 8 (.event .step))
    ∃ l s e u, Passage w₀ l w ∧ w.supervisor? 0 = some s ∧ e ∈ s.execution ∧ e.request? = some 0 ∧
      Accepted 0 0 tracks l ∧ w.stepTask 0 (.execution e.number) = some u ∧
      Returns 0 e (.ready tracks) .accepted w u := by
  intro tracks camera c w₀ w
  have hheard : (w.supervisor? 0).any (fun s => s.execution.any fun e =>
      e.activity == .listening 0 (some (some .accepted)) &&
        e.announcing? == some (.ready tracks)) = true := by decide +kernel
  have hagree := announcements_agree ⟨c.getD {}⟩ camera 5000
  obtain ⟨l, hl⟩ : ∃ l, Passage w₀ l w := hagree.1 _
  have howned : w.Owned := ((agreed_fresh _ _ _).passage hl).assigned.tidy.owned
  -- from here on it does not matter how the server came about
  replace hagree := hagree.2
  change ∀ l w, Passage w₀ l w → _ at hagree
  clear_value w
  obtain ⟨s, hs, hheard⟩ := (Option.any_eq_true _ _).1 hheard
  obtain ⟨e, he, hheard⟩ := (Option.any_eq_true _ _).1 hheard
  simp only [Bool.and_eq_true, beq_iff_eq] at hheard
  obtain ⟨hact, ha⟩ := hheard
  have hk : e.request? = some 0 := by rw [Execution.request?, hact]
  obtain ⟨u, hu, hr⟩ := returns_of_heard howned hs he ha hact
  have hstride : Stride w (u.hosts[0]?.elim u (u.setAlarms 0)) := .task hu
  have hpassage : Passage w₀ (l ++ [(w, u.hosts[0]?.elim u (u.setAlarms 0))]) _ :=
    hl.append (.cons (.stride hstride) .nil)
  have hreturns : Returns 0 e (.ready tracks) .accepted w (u.hosts[0]?.elim u (u.setAlarms 0)) := by
    obtain ⟨s', t, hs', he', ht, hevents⟩ := hr
    refine ⟨s', t, hs', he', ?_, hevents⟩
    rw [supervisor?, hosts_elim_setAlarms, ← supervisor?, ht]
  obtain ⟨k, hk', hacc⟩ := (((hagree _ _ hpassage).1 l [] _ _ 0 e tracks _ rfl hreturns).1).1 rfl
  obtain rfl := Option.some.inj (hk.symm.trans hk')
  obtain ⟨u', hu', hr'⟩ := (hagree l w hl).2 0 s e 0 tracks hs he ha hk hacc
  exact ⟨l, s, e, u', hl, hs, he, hk, hacc, hu', hr'⟩

end Server

end MediaPaths
