import MediaPaths.Proofs.Server.Trace

/-!
# The course of a server

Whatever happens to a server happens in strides: a task takes a step or leaves the line, time passes, or
whoever operates the server does one of the things of which operations are made up. What is to be shown of
every history need only be shown of each stride. `advance_of_stride` sorts strides by what the supervisors
and the registry make of them.
-/

namespace MediaPaths

namespace Server

open Supervisor (Move)

/-- No active path has its source from a supervisor. -/
def Unclaimed (i : Nat) (w : Server) : Prop := ∀ p ∈ w.registry.paths, p.origin ≠ .source i

/-- What can happen to a server at one moment. -/
inductive Stride (w : Server) : Server → Prop where
  /-- A task takes a step, whether it stands in line or not. -/
  | task {i : Nat} {t : Task} {v : Server} (ht : w.stepTask i t = some v) :
      Stride w (v.hosts[i]?.elim v (v.setAlarms i))
  /-- A task in line has to wait and leaves the line. -/
  | park {i : Nat} {t : Task} (hq : (i, t) ∈ w.queue) (ht : w.stepTask i t = none) :
      Stride w { w with queue := w.queue.erase (i, t) }
  /-- Time passes. -/
  | pass (t : Nat) : Stride w (w.passTo t)
  /-- Something is logged. -/
  | record (r : LogRecord) : Stride w (w.record r)
  /-- The operator asks for the lock. -/
  | request : Stride w
      (w.setRegistry { w.registry with lock := w.registry.lock.request .operator })
  /-- The lock is given to the next who waits for it. -/
  | release : Stride w w.release
  /-- An event is sent. -/
  | send (e : PathEvent) : Stride w (w.setRegistry (w.registry.send e))
  /-- Another configuration is in force. -/
  | replace (s : Store) : Stride w (w.setRegistry { w.registry with store := s })
  /-- A path is no longer active. -/
  | remove (name : String) : Stride w (w.setRegistry (w.registry.remove name))
  /-- No path is active any longer. -/
  | clear : Stride w (w.setRegistry { w.registry with paths := [] })
  /-- A path comes under another entry for which its source need not be made anew. -/
  | amend {p : ActivePath} (hp : p ∈ w.registry.paths) (entry : Entry)
      (hn : needsRestart p entry false = false) :
      Stride w (w.setRegistry (w.registry.set { p with entry := entry }))
  /-- A supervisor is handed the entry of the path that has it. -/
  | inform (i : Nat) (entry : Entry)
      (hp : ∀ p ∈ w.registry.paths, p.origin = .source i → p.entry = entry) :
      Stride w (w.reload i entry)
  /-- A supervisor that no active path has is asked to stop. -/
  | cancel {i : Nat} (hi : w.Unclaimed i) (reason : String) :
      Stride w (w.modify i (·.cancel reason))
  /-- One waits no longer for a supervisor that no active path has. -/
  | rest {i : Nat} (hi : w.Unclaimed i) : Stride w (w.modify i (·.rest))
  /-- A path that is not active is made active, or cannot be. -/
  | build {name : String} (hn : w.registry.get? name = none) (m : Match) (query : String) :
      Stride w (w.build name m query).1

/-- What happens to a server from some moment on. -/
inductive Course (w₀ : Server) : Server → Prop where
  | nil : Course w₀ w₀
  | concat {w w' : Server} (hw : Course w₀ w) (hs : Stride w w') : Course w₀ w'

variable {w w' v : Server} {i : Nat} {p : ActivePath} {ms : List Move}

/-! ## Strides as steps of a trace -/

/-- A registry that has the same paths. -/
theorem Recedes.of_paths {r r' : Registry} (ho : r'.isOpen = r.isOpen) (hn : r.nextId ≤ r'.nextId)
    (hp : r'.paths = r.paths) : Recedes r r' :=
  ⟨ho, hn, by rw [hp], fun q hq => ⟨q, hp ▸ hq, rfl⟩⟩

theorem Recedes.refl (r : Registry) : Recedes r r := .of_paths rfl (Nat.le_refl _) rfl

theorem recedes_remove (r : Registry) (name : String) : Recedes r (r.remove name) :=
  ⟨rfl, Nat.le_refl _, List.filter_sublist.map _, fun q hq => ⟨q, (List.mem_filter.1 hq).1, rfl⟩⟩

theorem recedes_set {r : Registry} (hp : p ∈ r.paths) (entry : Entry) :
    Recedes r (r.set { p with entry := entry }) := by
  refine ⟨rfl, Nat.le_refl _, ?_, fun q hq => ?_⟩
  · rw [names_set]
  · obtain ⟨x, hx, rfl⟩ := List.mem_map.1 hq
    dsimp only
    split
    · exact ⟨p, hp, rfl⟩
    · exact ⟨x, hx, rfl⟩

/-- What a task does depends on nothing but supervisors and the registry. -/
theorem Turn.congr (ht : Turn w i w' ms) (hh : v.hosts = w'.hosts) (hr : v.registry = w'.registry) :
    Turn w i v ms := by
  cases ht with
  | own hi hs hh' hr' => exact .own hi hs (hh.trans hh') (hr.trans hr')
  | line hh' hr' => exact .line (hh.trans hh') (hr ▸ hr')
  | decline hi hw hc hh' hr' => exact .decline hi hw hc (hh.trans hh') (hr ▸ hr')
  | answer hi ho hw hh' hr' => exact .answer hi ho hw (hh.trans hh') (hr ▸ hr')

theorem advance_cancel (hw : w.Owned) (hi : w.Unclaimed i) (reason : String) :
    ∃ l, Advance w (w.modify i (·.cancel reason)) l := by
  rcases hosts_modify hw i (·.cancel reason) with ⟨h, hh, hset⟩ | ⟨-, hset⟩
  · cases hidle : h.supervisor.isIdle with
    | true =>
      have hrun : h.supervisor.run [.flush] = some { h.supervisor with effects := [] } := rfl
      refine ⟨_, .dismiss hh hi hrun ?_ (registry_modify _ _ _)⟩
      rw [hset, Supervisor.cancel, if_pos hidle]
      rfl
    | false =>
      have hrun : h.supervisor.run [.cancel reason, .flush] =
          some { h.supervisor.cancel reason with effects := [] } := by
        simp [Supervisor.run_cons, Supervisor.move, hidle]
      exact ⟨_, .dismiss hh hi hrun hset (registry_modify _ _ _)⟩
  · exact ⟨_, .recede hset (registry_modify w i _ ▸ .refl _)⟩

/-- Once its worker has ended, it may be started again; or one has waited for that in vain. -/
theorem advance_rest (hw : w.Owned) (hi : w.Unclaimed i) : ∃ l, Advance w (w.modify i (·.rest)) l := by
  rcases hosts_modify hw i (·.rest) with ⟨h, hh, hset⟩ | ⟨-, hset⟩
  · cases hdone : h.supervisor.isDone with
    | false => exact ⟨_, .forsake hh hi hset (registry_modify _ _ _)⟩
    | true =>
      cases hidle : h.supervisor.isIdle with
      | true =>
        have hrun : h.supervisor.run [.flush] = some { h.supervisor with effects := [] } := rfl
        refine ⟨_, .dismiss hh hi hrun ?_ (registry_modify _ _ _)⟩
        have hworker : h.supervisor.worker = .idle := by simpa [Supervisor.isIdle] using hidle
        rw [hset, Supervisor.rest, ← hworker]
        rfl
      | false =>
        have hrun : h.supervisor.run [.rest, .flush] =
            some { h.supervisor.rest with effects := [] } := by
          simp [Supervisor.run_cons, Supervisor.move, hdone, hidle]
        exact ⟨_, .dismiss hh hi hrun hset (registry_modify _ _ _)⟩
  · exact ⟨_, .recede hset (registry_modify w i _ ▸ .refl _)⟩

/-- A supervisor that is handed settings takes note of them if it is started. -/
theorem inform_cases (hw : w.Owned) (i : Nat) (entry : Entry) :
    (∃ h s ms, w.hosts[i]? = some h ∧ (ms = [.flush] ∨ ms = [.reload entry, .flush]) ∧
      h.supervisor.run ms = some s ∧ (w.reload i entry).hosts = w.hosts.set i ⟨s, h.owner⟩) ∨
    (w.reload i entry).hosts = w.hosts := by
  rcases hosts_modify hw i (·.reload entry) with ⟨h, hh, hset⟩ | ⟨-, hset⟩
  · cases hidle : h.supervisor.isIdle with
    | true =>
      refine .inl ⟨h, _, [.flush], hh, .inl rfl, rfl, ?_⟩
      rw [Server.reload, hset, Supervisor.reload, if_pos hidle]
      rfl
    | false =>
      refine .inl ⟨h, _, [.reload entry, .flush], hh, .inr rfl, ?_, hset⟩
      simp [Supervisor.run_cons, Supervisor.move, hidle]
  · exact .inr hset

theorem registry_reload (w : Server) (i : Nat) (entry : Entry) :
    (w.reload i entry).registry = w.registry := registry_modify _ _ _

/-- Every stride is a step of a trace. -/
theorem advance_of_stride (hw : w.Owned) (hs : Stride w w') : ∃ l, Advance w w' l := by
  have recede : ∀ v : Server, v.hosts = w.hosts → Recedes w.registry v.registry →
      ∃ l, Advance w v l := fun v hh hr => ⟨_, .recede hh hr⟩
  cases hs with
  | @task i t v ht =>
    obtain ⟨ms, hturn⟩ := turn_of_stepTask hw ht
    exact ⟨_, .turn (hturn.congr (hosts_elim_setAlarms v i) (registry_elim_setAlarms v i))⟩
  | park => exact recede _ rfl (.refl _)
  | pass t => exact recede _ (hosts_passTo w t) (registry_passTo w t ▸ .refl _)
  | record r => exact recede _ rfl (.refl _)
  | request => exact recede _ rfl (.of_paths rfl (Nat.le_refl _) rfl)
  | release =>
    refine recede _ (hosts_release w) ?_
    rw [registry_release]
    exact .of_paths rfl (Nat.le_refl _) rfl
  | send e => exact recede _ rfl (.of_paths rfl (Nat.le_refl _) rfl)
  | replace s => exact recede _ rfl (.of_paths rfl (Nat.le_refl _) rfl)
  | remove name => exact recede _ rfl (recedes_remove _ name)
  | clear =>
    refine recede _ rfl ⟨rfl, Nat.le_refl _, List.nil_sublist _, fun q hq => ?_⟩
    exact absurd hq List.not_mem_nil
  | amend hp entry => exact recede _ rfl (recedes_set hp entry)
  | inform i entry =>
    rcases inform_cases hw i entry with ⟨h, s, ms, hi, hms, hrun, hset⟩ | hh
    · exact ⟨_, .inform entry hi hms hrun hset (registry_reload w i entry)⟩
    · exact recede _ hh (registry_reload w i entry ▸ .refl _)
  | cancel hi reason => exact advance_cancel hw hi reason
  | rest hi => exact advance_rest hw hi
  | build hn m query =>
    obtain ⟨ms, hb⟩ := built_of_build hw _ m query
    exact ⟨_, .build hn hb⟩

theorem Assigned.stride (hw : w.Assigned) (hs : Stride w w') : w'.Assigned := by
  obtain ⟨l, ha⟩ := advance_of_stride hw.tidy.owned hs
  exact hw.advance ha

end Server

end MediaPaths
