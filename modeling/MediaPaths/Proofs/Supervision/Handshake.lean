import Mathlib.Data.List.Nodup
import Mathlib.Data.List.Perm.Subperm
import MediaPaths.Proofs.Supervision.Hush
import MediaPaths.Proofs.Supervision.Launches
import MediaPaths.Proofs.Supervision.Roster

/-!
# Calls that wait for an answer

A call that announces something has a request of its own, which waits for room, lies in a mailbox, or is
with the owner. No two of these requests have the same number, and once the owner has answered one, its
number does not come up again. So the execution hears the answer to its own request or none at all.

The invariant is `Tracked`. `Goes` tells what a supervisor does while the owner answers nothing, and
`Tracked.settled` what an answer does. `Notes` tells when it is noted that a call returns.
-/

namespace MediaPaths

namespace Supervisor

variable {s t u : Supervisor} {r q : Request} {now number k : Nat} {e e' : Execution}
  {a : Announcement} {x : Option Answer}

/-! ## Requests on their way -/

/-- The request that the owner is at. -/
def served (s : Supervisor) : Option Request :=
  match s.worker with
  | .serving r => some r
  | _ => none

/-- The requests that are on their way: the one that waits for room, those that lie in the mailboxes, and
the one that the owner is at. -/
def burden (s : Supervisor) : List Request := s.pending.toList ++ s.letters ++ s.served.toList

/-- The requests that are on their way were so before, or have new numbers. -/
structure Carries (s t : Supervisor) : Prop where
  /-- Numbers are only used up. -/
  next : s.nextRequest ≤ t.nextRequest
  /-- Requests with new numbers are added to those that were on their way. -/
  burden : ∃ new : List Request, t.burden.Subperm (new ++ s.burden) ∧ (new.map (·.number)).Nodup ∧
    ∀ r ∈ new, s.nextRequest ≤ r.number ∧ r.number < t.nextRequest

/-- A step carries the burden over if it adds no request to it. -/
theorem Carries.of_subperm (hn : s.nextRequest ≤ t.nextRequest) (hb : t.burden.Subperm s.burden) :
    Carries s t :=
  ⟨hn, [], hb, List.nodup_nil, List.forall_mem_nil _⟩

theorem Carries.flush (hc : Carries s t) : Carries s { t with effects := [] } := ⟨hc.next, hc.burden⟩

/-- A request that is borne after a step was borne before, or is new. -/
theorem Carries.mem (hc : Carries s t) (hr : r ∈ t.burden) :
    r ∈ s.burden ∨ s.nextRequest ≤ r.number := by
  obtain ⟨new, hsub, -, hnew⟩ := hc.burden
  rcases List.mem_append.1 (hsub.subset hr) with hr | hr
  · exact .inr (hnew r hr).1
  · exact .inl hr

/-- A number that was given to a request which is no longer on its way. -/
def Spent (k : Nat) (s : Supervisor) : Prop := k < s.nextRequest ∧ ∀ r ∈ s.burden, r.number ≠ k

/-- A number that is spent is never used again. -/
theorem Spent.carries (hk : Spent k s) (hc : Carries s t) : Spent k t := by
  refine ⟨Nat.lt_of_lt_of_le hk.1 hc.next, fun r hr => ?_⟩
  rcases hc.mem hr with hr | hr
  · exact hk.2 r hr
  · exact Nat.ne_of_gt (Nat.lt_of_lt_of_le hk.1 hr)

theorem served_of_worker (h : t.worker = s.worker) : t.served = s.served := by
  rw [served, served, h]

/-- A quiet step adds no request to the burden but with a new number. -/
theorem Quiet.carries (hq : Quiet s t) (hs : t.served = s.served ∨ t.served = none) :
    Carries s t := by
  have hserved : t.served.toList.Subperm s.served.toList := by
    rcases hs with hs | hs
    · rw [hs]
    · rw [hs]
      exact List.nil_subperm
  have hletters := letters_congr hq.letter
  cases hp : t.pending with
  | none =>
    refine .of_subperm hq.next ?_
    rw [burden, burden, hp, hletters]
    exact (List.nil_subperm.append (.refl _)).append hserved
  | some r =>
    rcases hq.pending r hp with hold | ⟨hge, hlt⟩
    · refine .of_subperm hq.next ?_
      rw [burden, burden, hp, hold, hletters]
      exact (List.Subperm.refl _).append hserved
    · refine ⟨hq.next, [r], ?_, by simp, by simpa using ⟨hge, hlt⟩⟩
      rw [burden, burden, hp, hletters, List.append_assoc, List.append_assoc]
      exact (List.Subperm.refl [r]).append
        ((List.nil_subperm (l := s.pending.toList)).append ((List.Subperm.refl _).append hserved))

/-- A request that is put in its mailbox is added to those that lie there. -/
theorem Posts.letters_perm (hp : Posts r s t) : t.letters.Perm (r :: s.letters) := by
  have hroom := hp.room
  rw [letters_eq, letters_eq, hp.letter, hp.letter]
  cases ha : r.announcement with
  | ready medias =>
    have hnone : s.letter (.ready []) = none := by rwa [ha] at hroom
    simp only [Announcement.isReady, hnone, if_true, Bool.false_eq_true, if_false]
    exact .refl _
  | notReady =>
    have hnone : s.letter .notReady = none := by rwa [ha] at hroom
    simp only [Announcement.isReady, hnone, if_true, Bool.true_eq_false, if_false, Option.toList_none,
      List.append_nil]
    exact List.perm_append_singleton r _

/-- A request that is posted is new. -/
theorem Posts.carries (hp : Posts r s t) (hs : t.served = s.served) : Carries s t := by
  have hletters := hp.letters_perm
  have hperm : (t.letters ++ t.served.toList).Perm (r :: (s.letters ++ s.served.toList)) := by
    rw [hs]
    exact hletters.append_right _
  rcases hp.fresh with ⟨hold, hnone, hnext⟩ | ⟨hnew, hnext, hpending⟩
  · refine .of_subperm (Nat.le_of_eq hnext.symm) ?_
    rw [burden, burden, hold, hnone, List.append_assoc, List.append_assoc]
    exact hperm.subperm
  · refine ⟨by omega, [r], ?_, by simp, by simp; omega⟩
    have hsub : t.pending.toList.Subperm s.pending.toList := by
      cases hq : t.pending with
      | none => exact List.nil_subperm
      | some q => rw [hpending q hq]
    rw [burden, burden, List.append_assoc, List.append_assoc]
    refine (hsub.append hperm.subperm).trans ?_
    exact List.perm_middle.subperm

/-- A request that is passed on lies in its mailbox no longer. -/
theorem Begins.letters_perm (hb : Begins r s t) : s.letters.Perm (r :: t.letters) := by
  have hlay := hb.lay
  rw [letters_eq, letters_eq, hb.letter, hb.letter]
  cases ha : r.announcement with
  | ready medias =>
    have hsome : s.letter (.ready []) = some r := by rwa [ha] at hlay
    simp only [Announcement.isReady, hsome, if_true, Bool.false_eq_true, if_false]
    exact .refl _
  | notReady =>
    have hsome : s.letter .notReady = some r := by rwa [ha] at hlay
    simp only [Announcement.isReady, hsome, if_true, Bool.true_eq_false, if_false, Option.toList_none,
      List.append_nil]
    exact List.perm_append_singleton r _

/-- The request that the worker begins to serve comes out of a box, so it was borne before. -/
theorem Begins.carries (hb : Begins r s t) (hs : s.served = none) (ht : t.served = some r) :
    Carries s t := by
  refine .of_subperm (Nat.le_of_eq hb.rest.1.symm) ?_
  rw [burden, burden, hs, ht, hb.rest.2, List.append_assoc, List.append_assoc]
  refine (List.Subperm.refl _).append ?_
  rw [Option.toList_none, List.append_nil]
  exact ((List.perm_append_singleton r t.letters).trans hb.letters_perm.symm).subperm

/-- Clearing the boxes only takes requests away. -/
theorem Clears.carries (hc : Clears s t) (hs : t.served = s.served ∨ t.served = none) :
    Carries s t := by
  have hpending : t.pending = none := by rw [pending, hc.execution]; rfl
  refine .of_subperm (Nat.le_of_eq hc.next.symm) ?_
  rw [burden, hpending, hc.letters]
  rcases hs with hs | hs
  · rw [hs]
    exact (List.sublist_append_right _ _).subperm
  · rw [hs]
    exact List.nil_subperm

/-! ## Calls -/

/-- How the execution that is held has come to be in a call, if it is in one. -/
inductive Calls (s t : Supervisor) (e' : Execution) : Prop where
  /-- It waits in no call. -/
  | free (h : e'.request? = none)
  /-- It is where it was. -/
  | same {e : Execution} (he : e ∈ s.execution) (hs : e'.script = e.script)
      (ha : e'.activity = e.activity)
  /-- It has asked, or waits for room. -/
  | asks {r : Request} (hs : e'.announcing? = some r.announcement)
      (ha : e'.activity = .posting r ∨ e'.activity = .listening r.number none) (hr : r ∈ t.burden)
      (hf : s.pending = some r ∨ s.nextRequest ≤ r.number)

/-- What holds of the calls of a supervisor. -/
structure Tracked (s : Supervisor) : Prop where
  /-- No execution was left to itself. -/
  orphans : s.orphans = []
  /-- Requests lie in the mailboxes for their kinds. -/
  sorted : s.Sorted
  /-- Requests that are on their way have different numbers. -/
  distinct : (s.burden.map (·.number)).Nodup
  /-- The number of the next request is new. -/
  below : ∀ r ∈ s.burden, r.number < s.nextRequest
  /-- An execution waits for room in the call of the request. -/
  posting : ∀ e ∈ s.execution, ∀ r, e.activity = .posting r → e.announcing? = some r.announcement
  /-- If the request for whose answer an execution waits is on its way, it is that of the call. -/
  listening : ∀ e ∈ s.execution, ∀ k y, e.activity = .listening k y →
    k < s.nextRequest ∧ ∀ r ∈ s.burden, r.number = k → e.announcing? = some r.announcement
  /-- A request whose answer an execution has heard is no longer on its way. -/
  heard : ∀ e ∈ s.execution, ∀ k y, e.activity = .listening k (some y) → Spent k s
  /-- Only a supervisor that is asked to stop stops its execution. -/
  told : ∀ e ∈ s.execution, e.cancelled = true → s.cancelled = true

/-- A supervisor goes on without an answer from the owner. -/
structure Goes (s t : Supervisor) : Prop where
  /-- No execution is left to itself. -/
  orphans : t.orphans = []
  /-- Requests lie in the mailboxes for their kinds. -/
  sorted : t.Sorted
  /-- Requests are only added with new numbers. -/
  carries : Carries s t
  /-- What the execution waits for. -/
  calls : ∀ e ∈ t.execution, Calls s t e
  /-- Only a supervisor that is asked to stop stops its execution. -/
  told : ∀ e ∈ t.execution, e.cancelled = true → t.cancelled = true
  /-- The owner goes on with the request that it is at. -/
  serving : ∀ r, s.worker = .serving r → t.worker ≠ .selecting

/-- A request that waits for room is borne. -/
theorem mem_burden_of_pending (h : s.pending = some r) : r ∈ s.burden := by
  simp [burden, h]

/-- A request that is being served is borne. -/
theorem mem_burden_of_serving (h : s.worker = .serving r) : r ∈ s.burden := by
  simp [burden, served, h]

/-- Since a step adds only new requests, those that are borne keep distinct numbers. -/
theorem Tracked.carries (hs : s.Tracked) (hc : Carries s t) :
    (t.burden.map (·.number)).Nodup ∧ ∀ r ∈ t.burden, r.number < t.nextRequest := by
  obtain ⟨new, ⟨l, hl, hsub⟩, hnodup, hnew⟩ := hc.burden
  have hall : ((new ++ s.burden).map (·.number)).Nodup := by
    rw [List.map_append, List.nodup_append]
    refine ⟨hnodup, hs.distinct, fun a ha b hb hab => ?_⟩
    obtain ⟨q, hq, rfl⟩ := List.mem_map.1 ha
    obtain ⟨r, hr, rfl⟩ := List.mem_map.1 hb
    have hge := (hnew q hq).1
    have hlt := hs.below r hr
    omega
  refine ⟨(hl.map _).nodup_iff.1 ((hsub.map _).nodup hall), fun r hr => ?_⟩
  rcases List.mem_append.1 (hsub.subset (hl.mem_iff.2 hr)) with hr | hr
  · exact (hnew r hr).2
  · exact Nat.lt_of_lt_of_le (hs.below r hr) hc.next

/-- A step of this kind keeps the requests on their tracks. -/
theorem Tracked.goes (hs : s.Tracked) (hg : Goes s t) : t.Tracked := by
  obtain ⟨hdistinct, hbelow⟩ := hs.carries hg.carries
  refine ⟨hg.orphans, hg.sorted, hdistinct, hbelow, fun e he r ha => ?_, fun e he k y ha => ?_,
    fun e he k y ha => ?_, hg.told⟩
  · cases hg.calls e he with
    | free h => simp [Execution.request?, ha] at h
    | same he' hscript hact =>
      rw [announcing?_of_script hscript]
      exact hs.posting _ he' r (hact ▸ ha)
    | asks hscript hact =>
      rcases hact with hact | hact
      · cases hact.symm.trans ha
        exact hscript
      · cases hact.symm.trans ha
  · cases hg.calls e he with
    | free h => simp [Execution.request?, ha] at h
    | same he' hscript hact =>
      obtain ⟨hlt, hreq⟩ := hs.listening _ he' k y (hact ▸ ha)
      refine ⟨Nat.lt_of_lt_of_le hlt hg.carries.next, fun r hr hk => ?_⟩
      rw [announcing?_of_script hscript]
      rcases hg.carries.mem hr with hr | hr
      · exact hreq r hr hk
      · omega
    | asks hscript hact hr =>
      rcases hact with hact | hact
      · cases hact.symm.trans ha
      · cases hact.symm.trans ha
        refine ⟨hbelow _ hr, fun q hq hk => ?_⟩
        rwa [List.inj_on_of_nodup_map hdistinct hq hr hk]
  · cases hg.calls e he with
    | free h => simp [Execution.request?, ha] at h
    | same he' _ hact => exact (hs.heard _ he' k y (hact ▸ ha)).carries hg.carries
    | asks _ hact =>
      rcases hact with hact | hact <;> cases hact.symm.trans ha

/-! ## Steps of executions -/

theorem calls_of_execution (hu : u.execution = s.execution) : ∀ f ∈ u.execution, Calls s t f :=
  fun f hf => .same (e := f) (hu ▸ hf) rfl rfl

/-- An execution that waits for room did so before, or its request has a new number. -/
theorem fresh_of_pending (h : s.stepExecution now number = some t) (hr : t.pending = some r) :
    s.pending = some r ∨ s.nextRequest ≤ r.number := by
  rcases traffic_stepExecution h with hq | ⟨-, q, hp⟩
  · exact (hq.pending r hr).imp_right And.left
  · rcases hp.fresh with ⟨-, hnone, -⟩ | ⟨-, -, hpending⟩
    · rw [hnone] at hr
      cases hr
    · exact .inl (hpending r hr)

/-- Where an execution proceeds, it keeps its call or begins one with a new number. -/
theorem calls_of_proceeds {f : Execution} (hx : s.execution = some e) (ht : t.execution = some f)
    (h : s.stepExecution now number = some t) (hp : Proceeds e f) : Calls s t f := by
  cases hp with
  | stays _ hf | advances _ _ hf => exact .free hf
  | adjusts hs ha => exact .same hx hs ha
  | ends _ ha =>
    refine .free ?_
    cases hact : f.activity with
    | ended => simp [Execution.request?, hact]
    | _ => simp [Execution.isAlive, Execution.result?, hact] at ha
  | @waits r hs ha hr =>
    have hpending : t.pending = some r := by simp [pending, ht, Execution.pending?, ha]
    exact .asks ((announcing?_of_script hs).trans hr) (.inl ha) (mem_burden_of_pending hpending)
      (fresh_of_pending h hpending)

/-- An execution that waits for room is at the step of its script that announces. -/
theorem Tracked.posting_executions (hs : s.Tracked) : ∀ e ∈ s.executions, ∀ r, e.activity = .posting r →
    e.announcing? = some r.announcement := by
  intro e he r hact
  rw [executions, hs.orphans, List.append_nil, Option.mem_toList] at he
  exact hs.posting e he r hact

/-- A step of an execution keeps every call or begins one with a new number. -/
theorem calls_stepExecution (hs : s.Tracked) (h : s.stepExecution now number = some t) :
    ∀ f ∈ t.execution, Calls s t f := by
  intro f hf
  obtain ⟨e, he, -, hu⟩ := utters_stepExecution hs.posting_executions h
  have hx := execution_of_execution? hs.orphans he
  have hmem : f ∈ t.executions := List.mem_append_left _ (Option.mem_toList.2 hf)
  have hn : f.number = e.number := by
    have hwatched : t.execution.map (·.number) = s.execution.map (·.number) :=
      congrArg Prod.snd (frame_stepExecution h)
    rw [hx, Option.mem_def.1 hf] at hwatched
    exact Option.some.inj hwatched
  cases hu with
  | other _ hc | writes _ hc | returns _ _ _ hc =>
    exact calls_of_proceeds hx hf h (hc f hmem hn)
  | @asks r ha _ hnone hsome hc =>
    obtain ⟨hscript, hact⟩ := hc f hmem hn
    have hletter : r ∈ t.letters := mem_letters.2 ⟨r.announcement, hsome⟩
    refine .asks ((announcing?_of_script hscript).trans ha) (.inr hact) (by simp [burden, hletter]) ?_
    rcases (posts_of_asked (traffic_stepExecution h) hnone hsome).fresh with ⟨hp, -, -⟩ | ⟨hp, -, -⟩
    · exact .inl hp
    · exact .inr (Nat.le_of_eq hp.symm)

/-! ## Going on -/

/-- A quiet step goes on if it keeps the calls of the execution and lets the owner go on with its request. -/
theorem Quiet.goes (hs : s.Tracked) (hq : Quiet s t) (ho : t.orphans = [])
    (hx : ∀ e ∈ t.execution, Calls s t e)
    (ht : ∀ e ∈ t.execution, e.cancelled = true → t.cancelled = true)
    (hw : t.worker = s.worker ∨
      t.served = none ∧ ∀ r, s.worker = .serving r → t.worker ≠ .selecting) : Goes s t := by
  refine ⟨ho, fun a r ha => hs.sorted a r (hq.letter a ▸ ha), hq.carries ?_, hx, ht, fun r hr => ?_⟩
  · exact hw.imp served_of_worker And.left
  · rcases hw with hw | ⟨-, hw⟩
    · simp [hw, hr]
    · exact hw r hr

/-- What leaves the executions, the worker and the boxes alone keeps the tracks. -/
theorem Goes.of_same (hs : s.Tracked) (ho : t.orphans = s.orphans) (hx : t.execution = s.execution)
    (hc : t.cancelled = s.cancelled) (hw : t.worker = s.worker) (hq : Quiet s t) : Goes s t :=
  hq.goes hs (ho.trans hs.orphans) (calls_of_execution hx)
    (fun e he hce => hc.trans (hs.told e (hx ▸ he) hce)) (.inl hw)

/-- An execution is told to stop only if it was before or its supervisor is. -/
theorem told_of_deed (hs : s.Tracked) (hd : t.deed = s.deed) (hc : t.cancelled = s.cancelled) :
    ∀ e ∈ t.execution, e.cancelled = true → t.cancelled = true := by
  intro e he hce
  have hmem : e.fixed ∈ s.deed := hd ▸ Option.mem_map_of_mem Execution.fixed he
  obtain ⟨f, hf, hfixed⟩ := Option.map_eq_some_iff.1 hmem
  rw [hc]
  exact hs.told f hf ((Execution.cancelled_of_fixed hfixed).trans hce)

/-- Steps of executions keep the tracks. -/
theorem goes_stepExecution (hs : s.Tracked) (h : s.stepExecution now number = some t) :
    Goes s t := by
  have ho := orphans_stepExecution hs.orphans h
  have hx := calls_stepExecution hs h
  have hcontrol := control_of_frame (frame_stepExecution h)
  have hworker : t.worker = s.worker := congrArg Control.worker hcontrol
  have ht := told_of_deed hs (deed_stepExecution h) (congrArg Control.cancelled hcontrol)
  have hsorted := hs.sorted.of_traffic
    (traffic_posted hs.sorted (traffic_stepExecution h) (List.forall_mem_nil _))
  rcases traffic_stepExecution h with hq | ⟨-, r, hp⟩
  · exact hq.goes hs ho hx ht (.inl hworker)
  · exact ⟨ho, hsorted, hp.carries (served_of_worker hworker), hx, ht, fun r hr => by
      simp [hworker, hr]⟩

/-- Couriers keep the tracks. -/
theorem goes_stepCourier (hs : s.Tracked) (h : s.stepCourier number = some t) : Goes s t := by
  have hf := courierFrame_stepCourier h
  have hcontrol := control_of_courierFrame hf
  refine (quiet_stepCourier h).goes hs (orphans_stepCourier hs.orphans h) (fun e he => ?_)
    (told_of_deed hs (deed_of_courierFrame hf) (congrArg Control.cancelled hcontrol))
    (.inl (congrArg Control.worker hcontrol))
  -- a courier changes nothing of an execution but its inbox
  have hmem : emptied e ∈ t.courierFrame.execution := Option.mem_map_of_mem emptied he
  rw [hf] at hmem
  obtain ⟨f, hfmem, hemptied⟩ := Option.map_eq_some_iff.1 hmem
  have hscript : (emptied f).script = (emptied e).script := by rw [hemptied]
  have hact : (emptied f).activity = (emptied e).activity := by rw [hemptied]
  exact .same hfmem hscript.symm hact.symm

/-- A launch begins with an execution that is in no call. -/
theorem goes_launch (hs : s.Tracked) (hx : u.execution = s.execution) (hq : Quiet s u)
    (ho : u.orphans = s.orphans) (hc : u.cancelled = s.cancelled) (hu : u.worker = .selecting)
    (hw : ∀ r, s.worker ≠ .serving r) : Goes s (u.launch now) := by
  refine (hq.trans (quiet_launch u now)).goes hs ?_ ?_ ?_ (.inr ⟨?_, fun r hr => absurd hr (hw r)⟩)
  · rcases launch_cases u now with ⟨address, h⟩ | ⟨statistics, effects, h⟩ <;> rw [h] <;>
      exact ho.trans hs.orphans
  · rcases launch_cases u now with ⟨address, h⟩ | ⟨statistics, effects, h⟩ <;> rw [h]
    · exact fun e he => .free (Option.mem_some_iff.1 he ▸ rfl)
    · exact calls_of_execution hx
  · rcases launch_cases u now with ⟨address, h⟩ | ⟨statistics, effects, h⟩ <;> rw [h]
    · rintro e he hce
      cases he
      exact hce
    · exact fun e he hce => hc.trans (hs.told e (hx ▸ he) hce)
  · rw [served, worker_launch, hu]

/-- New settings that the worker takes from its box keep the tracks. -/
theorem goes_handleReload (hs : s.Tracked) {entry : Entry} {b : Mailbox Entry} {next : Option Nat} :
    Goes s (({ s with reloadBox := b }.wakeAny (next.map Task.courier)).handleReload entry) := by
  unfold handleReload
  simp only [wakeAny_eq]
  split <;> exact .of_same hs rfl rfl rfl rfl (.of_same rfl rfl rfl rfl)

/-- A worker that is not at a request goes on. -/
theorem goes_of_works (hs : s.Tracked) (hw : Works now s t) : Goes s t := by
  have ho := orphans_of_works hs.orphans hw
  cases hw with
  | begin hw => exact goes_launch hs rfl (.of_same rfl rfl rfl rfl) rfl rfl rfl (by simp [hw])
  | retry hw => exact goes_launch hs rfl (.of_same rfl rfl rfl rfl) rfl rfl hw (by simp [hw])
  | join hw =>
    exact Quiet.goes hs (.of_same rfl rfl rfl rfl) ho (calls_of_execution rfl) hs.told
      (.inr ⟨rfl, by simp [hw]⟩)
  | halt hw =>
    have hc : Clears s s.halt := .of_eq rfl rfl rfl rfl
    exact ⟨ho, hs.sorted.of_traffic (.clears hc), hc.carries (.inr rfl), (fun _ he => nomatch he),
      (fun _ he => nomatch he), fun r _ => by simp [Supervisor.halt]⟩
  | @handleEnd e r hw =>
    have hc := clears_handleEnd s now r
    have hserved := served_of_worker (worker_handleEnd s now r)
    refine ⟨ho, hs.sorted.of_traffic (.clears hc), hc.carries (.inl hserved), fun e he => ?_,
      fun e he => ?_, fun q hq => by simp [hw] at hq⟩ <;>
    · rw [execution_handleEnd] at he
      cases he
  | @serve u r hw _ _ ht =>
    have hb : Begins r s (u.serve r) := by
      have hu := begins_of_takeRequest? hs.sorted ht
      exact ⟨hu.lay, hu.letter, hu.first, hu.rest⟩
    have hx : u.execution = s.execution ∧ u.cancelled = s.cancelled := by
      rcases takeRequest?_cases ht with ⟨b, next, -, rfl⟩ | ⟨-, b, next, -, rfl⟩ <;>
        rw [wakeAny_eq] <;> exact ⟨rfl, rfl⟩
    refine ⟨ho, hs.sorted.of_traffic (.begins hb), hb.carries (by rw [served, hw]) rfl,
      calls_of_execution hx.1, fun e he hce => ?_, fun q hq => by simp [hw] at hq⟩
    exact hx.2.trans (hs.told e (hx.1 ▸ he) hce)
  | reload => exact goes_handleReload hs

/-- Whatever a task does, the supervisor goes on without an answer. -/
theorem goes_step {k : Task} (hs : s.Tracked) (h : s.step now k = some t) : Goes s t := by
  cases k with
  | worker => exact goes_of_works hs (works_of_stepWorker h)
  | execution n => exact goes_stepExecution hs h
  | courier n => exact goes_stepCourier hs h

/-! ## Being operated -/

theorem Goes.refl (hs : s.Tracked) : Goes s s := .of_same hs rfl rfl rfl rfl (.refl s)

theorem Goes.flush (hg : Goes s t) : Goes s { t with effects := [] } := by
  refine ⟨hg.orphans, hg.sorted, hg.carries.flush, fun e he => ?_, hg.told, hg.serving⟩
  cases hg.calls e he with
  | free h => exact .free h
  | same he' hs ha => exact .same he' hs ha
  | asks hs ha hr hf => exact .asks hs ha hr hf

theorem Tracked.flush (hs : s.Tracked) : Tracked { s with effects := [] } := hs.goes (Goes.refl hs).flush

/-- A cancellation keeps the tracks: the requests that are under way stay under way. -/
theorem goes_cancel (hs : s.Tracked) (reason : String) : Goes s (s.cancel reason) := by
  have hq := quiet_cancel s reason
  cases hidle : s.isIdle with
  | true =>
    have heq : s.cancel reason = s := by rw [cancel, if_pos hidle]
    rw [heq]
    exact .refl hs
  | false =>
    have hcontrol : (s.cancel reason).control = { s.control with cancelled := true } :=
      control_cancel hidle
    have hc : (s.cancel reason).cancelled = true := congrArg Control.cancelled hcontrol
    refine hq.goes hs ?_ (fun e he => ?_) (fun _ _ _ => hc) (.inl (congrArg Control.worker hcontrol))
    · rw [cancel, if_neg (by simp [hidle]), wakeAll_eq]
      exact List.map_eq_nil_iff.2 hs.orphans
    · rw [cancel, if_neg (by simp [hidle]), wakeAll_eq] at he
      obtain ⟨f, hf, rfl⟩ := Option.map_eq_some_iff.1 he
      exact .same hf rfl rfl

theorem goes_rest (hs : s.Tracked) : Goes s s.rest :=
  Quiet.goes hs (.of_same rfl rfl rfl rfl) hs.orphans (calls_of_execution rfl) hs.told
    (.inr ⟨rfl, fun _ _ h => nomatch h⟩)

theorem goes_reload (hs : s.Tracked) (entry : Entry) : Goes s (s.reload entry) := by
  unfold reload
  split <;> exact .of_same hs rfl rfl rfl rfl (.of_same rfl rfl rfl rfl)

/-- A supervisor starts on its tracks, with no execution and nothing under way. -/
theorem tracked_start {pause : Nat} {entry : Entry} {groups : Option (List String)}
    {options : SourceOptions} {factory : Factory} {onDemand : Bool} {query : String}
    (h : create now entry groups options factory pause = .ok s) :
    (s.start onDemand query).Tracked ∧ (s.start onDemand query).execution = none ∧
      (s.start onDemand query).cancelled = false := by
  obtain ⟨kind, source, -, rfl⟩ := create_eq h
  refine ⟨⟨rfl, fun a r ha => ?_, List.nodup_nil, List.forall_mem_nil _, ?_, ?_, ?_, ?_⟩, rfl, rfl⟩
  · cases a <;> cases ha
  all_goals exact fun _ he => nomatch he

/-! ## Answers -/

/-- Of the execution that is held, an answer changes nothing but what it has heard. -/
theorem heard_of_settled (he : e' ∈ (s.reply r.number x).resume.execution) :
    ∃ e ∈ s.execution, e'.script = e.script ∧ e'.cancelled = e.cancelled ∧
      (e.activity = .listening r.number none ∧ e'.activity = .listening r.number (some x) ∨
        e.activity ≠ .listening r.number none ∧ e'.activity = e.activity) := by
  simp only [resume, reply, wakeAll_eq] at he
  obtain ⟨e, hmem, rfl⟩ := Option.map_eq_some_iff.1 he
  refine ⟨e, hmem, ?_⟩
  unfold hear Execution.awaits
  split
  · rename_i hact
    exact ⟨rfl, rfl, .inl ⟨by simpa using hact, rfl⟩⟩
  · rename_i hact
    exact ⟨rfl, rfl, .inr ⟨by simpa using hact, rfl⟩⟩

theorem cancelled_reply (s : Supervisor) (number : Nat) (x : Option Answer) :
    (s.reply number x).cancelled = s.cancelled :=
  congrArg Control.cancelled (control_reply s number x)

/-- Settling a request leaves the boxes alone. -/
theorem quiet_settled (s : Supervisor) (r : Request) (x : Option Answer) :
    Quiet s (s.reply r.number x).resume :=
  (quiet_reply s r.number x).trans (.of_same rfl rfl rfl rfl)

theorem carries_settled (s : Supervisor) (r : Request) (x : Option Answer) :
    Carries s (s.reply r.number x).resume := (quiet_settled s r x).carries (.inr rfl)

/-- A request that was answered is no longer on its way. -/
theorem Tracked.spent (hs : s.Tracked) (hw : s.worker = .serving r) (x : Option Answer) :
    Spent r.number (s.reply r.number x).resume := by
  have hq := quiet_settled s r x
  have hserved : s.served = some r := by rw [served, hw]
  have hbelow := hs.below r (mem_burden_of_serving hw)
  have hdistinct := hs.distinct
  rw [burden, hserved, Option.toList_some, List.map_append, List.nodup_append] at hdistinct
  refine ⟨Nat.lt_of_lt_of_le hbelow hq.next, fun q hq' => ?_⟩
  have hold : q ∈ s.pending.toList ++ s.letters := by
    rw [burden, letters_congr hq.letter, List.append_assoc] at hq'
    rcases List.mem_append.1 hq' with hp | hl
    · have hnext : (s.reply r.number x).resume.nextRequest = s.nextRequest :=
        congrArg (·.2.2) (mail_reply s r.number x)
      rcases hq.pending q (Option.mem_toList.1 hp) with hp | ⟨hge, hlt⟩
      · exact List.mem_append_left _ (Option.mem_toList.2 hp)
      · omega
    · exact List.mem_append_right _ (by simpa [served, resume] using hl)
  exact hdistinct.2.2 _ (List.mem_map_of_mem hold) _ (by simp)

/-- Settling the request that is served keeps the tracks. -/
theorem Tracked.settled (hs : s.Tracked) (hw : s.worker = .serving r) (x : Option Answer) :
    (s.reply r.number x).resume.Tracked := by
  have hq := quiet_settled s r x
  have hcarries := carries_settled s r x
  obtain ⟨hdistinct, hbelow⟩ := hs.carries hcarries
  have hspent := hs.spent hw x
  refine ⟨orphans_reply hs.orphans _ _, fun a q ha => hs.sorted a q (hq.letter a ▸ ha), hdistinct,
    hbelow, fun e' he q ha => ?_, fun e' he k y ha => ?_, fun e' he k y ha => ?_, fun e' he hc => ?_⟩ <;>
    obtain ⟨e, hmem, hscript, hcancelled, hact⟩ := heard_of_settled he
  · rcases hact with ⟨-, hact⟩ | ⟨-, hact⟩
    · cases hact.symm.trans ha
    · rw [announcing?_of_script hscript]
      exact hs.posting e hmem q (hact ▸ ha)
  · rcases hact with ⟨-, hact⟩ | ⟨-, hact⟩
    · cases hact.symm.trans ha
      exact ⟨hspent.1, fun q hq' hn => absurd hn (hspent.2 q hq')⟩
    · rw [announcing?_of_script hscript]
      obtain ⟨hlt, hreq⟩ := hs.listening e hmem k y (hact ▸ ha)
      refine ⟨Nat.lt_of_lt_of_le hlt hq.next, fun q hq' hk => ?_⟩
      rcases hcarries.mem hq' with hold | hge
      · exact hreq q hold hk
      · omega
  · rcases hact with ⟨-, hact⟩ | ⟨-, hact⟩
    · cases hact.symm.trans ha
      exact hspent
    · exact (hs.heard e hmem k y (hact ▸ ha)).carries hcarries
  · exact (cancelled_reply s r.number x).trans (hs.told e hmem (hcancelled ▸ hc))

end Supervisor

/-! ## Calls that return -/

/-- With what a call that announces something is about to return: with what it has heard, or without an
answer because the execution is being stopped. -/
inductive Execution.Concludes (e : Execution) : Answer → Prop where
  /-- It has heard a reply. -/
  | heard {k : Nat} {y : Option Answer} (ha : e.activity = .listening k (some y)) :
      Concludes e (.ofReply y)
  /-- It is being stopped and has heard none. -/
  | stopped (hc : e.cancelled = true) (ha : ∀ k y, e.activity ≠ .listening k (some y)) :
      Concludes e .terminated

namespace Supervisor

variable {s t u : Supervisor} {now number n : Nat} {e : Execution} {a : Announcement} {x : Answer}

/-- The worker watches the present execution. -/
theorem watches_of_execution (hx : s.execution = some e) : s.watches e.number = true := by
  simp [watches, hx]

/-- That a call returns is noted only in a step of its own execution. -/
theorem concludes_of_step {k : Task} (hs : s.Tracked) (h : s.step now k = some t)
    (ht : t.events = ⟨n, .answered a x⟩ :: s.events) :
    ∃ e, s.execution = some e ∧ k = .execution e.number ∧ e.announcing? = some a ∧ e.Concludes x := by
  obtain ⟨e, he, hk, -, ha, hx⟩ := resolves_of_move (m := .task now k) hs.posting_executions h ht
  cases hk
  have hwatched := execution_of_execution? hs.orphans he
  refine ⟨e, hwatched, rfl, ha, ?_⟩
  cases hx with
  | heard hy => exact .heard (Execution.hearing?_eq_some.1 hy)
  | deaf hd hnone =>
    have hcancelled := hd.resolve_right (by simp [watches_of_execution hwatched])
    exact .stopped hcancelled fun k y hact => hnone k y (Execution.hearing?_eq_some.2 hact)

/-- A call that has heard an answer can return with it. -/
theorem step_of_heard {k : Nat} {y : Option Answer} (he : s.execution? e.number = some e)
    (ha : e.announcing? = some a) (hact : e.activity = .listening k (some y)) (now : Nat) :
    ∃ t, s.step now (.execution e.number) = some t ∧
      t.events = ⟨now, .answered a (.ofReply y)⟩ :: s.events := by
  unfold Execution.announcing? at ha
  split at ha
  · rename_i a' must rest hscript
    cases ha
    have hspeech := speech_conclude s now e a must (.ofReply y)
    refine ⟨s.conclude now e a must (.ofReply y), ?_, congrArg Speech.events hspeech⟩
    simp only [step, stepExecution, he, hact, stepScript, hscript, stepAnnounce]
  · cases ha

end Supervisor

end MediaPaths
