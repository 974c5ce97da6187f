import MediaPaths.Proofs.Server.Attendance

/-!
# Owners get the lock in turn

An owner that has asked for the lock is not overtaken. Each time the lock is given back, it moves on by one
place, and it leaves the line only as it answers the request that it is at. So it answers after no more than as
many have given the lock back as were in front of it.
-/

namespace MediaPaths

namespace Server

variable {w v u : Server} {i j : Nat} {s : Supervisor} {r : Request} {t : Task} {m : List (Server × Server)}

/-- The owner of a supervisor is at a request. -/
def IsAt (i : Nat) (r : Request) (w : Server) : Prop :=
  ∃ s, w.supervisor? i = some s ∧ s.worker = .serving r

/-- The owner of a supervisor is at a request, and it holds the lock or waits for it. -/
structure InLine (i : Nat) (r : Request) (w : Server) : Prop where
  isAt : w.IsAt i r
  mem : .owner i ∈ w.registry.lock.parties

/-- The owner of a supervisor goes on with the request that it is at, and answers it. -/
def Responds (i : Nat) (r : Request) (w v : Server) : Prop :=
  ∃ h u x, w.hosts[i]? = some h ∧ h.supervisor.worker = .serving r ∧ w.stepTask i .worker = some u ∧
    u.hosts = w.hosts.set i (h.settled r (some x)) ∧ v = u.hosts[i]?.elim u (u.setAlarms i)

/-- How often the lock is given back. -/
def handovers (m : List (Server × Server)) : Nat :=
  m.countP fun y => y.1.registry.lock.passes y.2.registry.lock

/-! ## What one moment does -/

/-- An owner stays at its request while others take steps. -/
theorem IsAt.stepTask (hi : w.IsAt i r) (hw : w.Owned) (ht : w.stepTask j t = some u)
    (hne : (j, t) ≠ (i, .worker)) : u.IsAt i r := by
  cases acts_of_stepTask hw ht with
  | @own h s' hj hstep hu =>
    refine known_set hi hj (hu ▸ hosts_put hw hj s') fun hij hr => ?_
    have hworker := (worker_of_step hstep).resolve_left fun ht => hne (by rw [hij, ht])
    exact hworker.1.trans hr
  | serve hj _ _ ht ha =>
    have hij : j ≠ i := fun hij => hne (by rw [hij, ht])
    rcases ha.hosts hw hj with ⟨x, hh⟩ | ⟨-, hh, -⟩
    · exact known_set hi hj hh fun h => absurd h hij
    · exact known_same hi hh

/-- An owner in line answers its request when it goes on. -/
theorem InLine.stepTask (hi : w.InLine i r) (hw : w.Owned) (ht : w.stepTask i .worker = some u) :
    Responds i r w (u.hosts[i]?.elim u (u.setAlarms i)) := by
  obtain ⟨s, hs, hr⟩ := hi.isAt
  obtain ⟨h, hh, rfl⟩ := Option.map_eq_some_iff.1 hs
  obtain ⟨name, id, ho⟩ := hw.of_getElem? hh
  have hstep := ht
  rw [stepTask_serving hh ho hr] at ht
  rcases (attends_of_servePath ht).hosts hw hh with ⟨x, hset⟩ | ⟨hnot, -⟩
  · exact ⟨h, u, x, hh, hr, hstep, hset, rfl⟩
  · exact absurd hi.mem hnot

/-- An owner in line is not overtaken by another party. -/
theorem InLine.stay {q : Party} (hi : w.InLine i r) (hw : w.Diligent) (hv : v.IsAt i r) (hq : q ≠ .owner i)
    (hs : Lock.Steps q w.registry.lock v.registry.lock) : v.InLine i r ∧
      v.registry.lock.place (.owner i) + (w.registry.lock.passes v.registry.lock).toNat ≤
        w.registry.lock.place (.owner i) :=
  have hplace := hs.place hq hw.fair hw.orderly hi.mem
  ⟨⟨hv, hplace.1⟩, hplace.2⟩

/-- An owner in line stays where it is as long as the lock does. -/
theorem InLine.keep (hi : w.InLine i r) (hw : w.Diligent) (hv : v.IsAt i r)
    (hl : v.registry.lock = w.registry.lock) : v.InLine i r ∧
      v.registry.lock.place (.owner i) + (w.registry.lock.passes v.registry.lock).toNat ≤
        w.registry.lock.place (.owner i) :=
  hi.stay (q := .operator) hw hv (by simp) (hl ▸ .keep)

/-- An owner in line answers its request, or it stays in line and is not overtaken. -/
theorem Bustle.inLine (hb : Bustle w v) (hord : w.Assigned) (hw : w.Diligent) (hi : w.InLine i r) :
    Responds i r w v ∨ v.InLine i r ∧
      v.registry.lock.place (.owner i) + (w.registry.lock.passes v.registry.lock).toNat ≤
        w.registry.lock.place (.owner i) := by
  have howned := hord.tidy.owned
  cases hb with
  | stir hs =>
    cases hs with
    | @task j t u hq ht =>
      by_cases hself : (j, t) = (i, .worker)
      · cases hself
        exact .inl (hi.stepTask howned ht)
      · refine .inr ?_
        have hat : IsAt i r (u.hosts[j]?.elim u (u.setAlarms j)) :=
          known_same (hi.isAt.stepTask howned ht hself) (hosts_elim_setAlarms u j)
        cases acts_of_stepTask howned ht with
        | own _ _ hu => exact hi.keep hw hat (by rw [registry_elim_setAlarms, hu, registry_put])
        | serve _ _ _ hworker ha =>
          have hij : Party.owner j ≠ .owner i := fun h => hself (by rw [Party.owner.inj h, hworker])
          refine hi.stay hw hat hij ?_
          rw [registry_elim_setAlarms]
          exact ha.lock
    | park | relist => exact .inr (hi.keep hw (known_same hi.isAt rfl) rfl)
    | pass => exact .inr (hi.keep hw (known_same hi.isAt (hosts_passTo _ _)) (by rw [registry_passTo]))
  | record | send | replace | remove | clear | amend => exact .inr (hi.keep hw (known_same hi.isAt rfl) rfl)
  | request =>
    have hmem := List.mem_cons_of_mem .operator hi.mem
    refine .inr ⟨⟨known_same hi.isAt rfl, (Lock.parties_request _ _).mem_iff.2 hmem⟩, ?_⟩
    refine Lock.place_add_passes hw.orderly hi.mem (fun hheld => ?_) fun _ => ?_
    · rw [Lock.isHeldBy_iff] at hheld ⊢
      show (w.registry.lock.request .operator).holder = _
      rw [Lock.request, if_neg (by simp [Lock.isFree, hheld])]
      exact hheld
    · exact Nat.le_of_eq (Lock.place_request hw.fair hi.mem .operator)
  | release hl =>
    refine .inr (hi.stay (q := .operator) hw (known_same hi.isAt (hosts_release w)) (by simp) ?_)
    rw [registry_release]
    exact .release hl
  | inform j entry =>
    refine .inr (hi.keep hw (known_modify hi.isAt howned fun s _ hr => ?_) (by rw [registry_reload]))
    exact (worker_reload s entry).1.trans hr
  | cancel _ reason =>
    refine .inr (hi.keep hw (known_modify hi.isAt howned fun s _ hr => ?_) (by rw [registry_modify]))
    exact (worker_cancel s reason).trans hr
  | rest _ hd =>
    refine .inr (hi.keep hw (known_modify hi.isAt howned fun s hs hr => ?_) (by rw [registry_modify]))
    rw [isDone, hs] at hd
    simp [Supervisor.isDone, hr, WorkerState.isAlive] at hd
  | build hn m query => exact .inr (hi.keep hw (known_build hi.isAt howned _ m query) (lock_build howned _ m query))

/-! ## What a while does -/

/-- An owner in line answers its request, or it has moved on as often as the lock was given back. -/
theorem Passage.inLine (hm : Passage w m v) (hb : ∀ y ∈ m, Bustle y.1 y.2) (hord : w.Assigned) (hw : w.Diligent)
    (hi : w.InLine i r) :
    (∃ y ∈ m, Responds i r y.1 y.2) ∨ v.InLine i r ∧
      v.registry.lock.place (.owner i) + handovers m ≤ w.registry.lock.place (.owner i) := by
  induction hm with
  | nil => exact .inr ⟨hi, Nat.le_refl _⟩
  | @cons w x v m hmoment hm ih =>
    obtain ⟨hfirst, hrest⟩ := List.forall_mem_cons.1 hb
    rcases hfirst.inLine hord hw hi with hresponds | ⟨hi', hplace⟩
    · exact .inl ⟨_, List.mem_cons_self .., hresponds⟩
    · refine (ih hrest (hmoment.assigned hord) (hw.bustle hord hfirst) hi').imp ?_ ?_
      · rintro ⟨y, hy, hresponds⟩
        exact ⟨y, List.mem_cons_of_mem _ hy, hresponds⟩
      · rintro ⟨hv, hlater⟩
        refine ⟨hv, ?_⟩
        have hcount : handovers ((w, x) :: m) =
            handovers m + (w.registry.lock.passes x.registry.lock).toNat := by
          rw [handovers, List.countP_cons, handovers]
          cases w.registry.lock.passes x.registry.lock <;> rfl
        rw [hcount, ← Nat.add_assoc]
        exact Nat.le_trans (Nat.add_le_add_right hlater _) hplace

end Server

end MediaPaths
