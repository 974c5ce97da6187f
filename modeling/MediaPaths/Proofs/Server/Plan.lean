import MediaPaths.Proofs.Server.History

/-!
# Operations, one wait after the other

Whoever operates a server waits in the middle of what it does: for the lock of the active paths, and for the
end of workers that it stops. A plan tells what is done up to the next wait, and with which plan one goes on
from the server that one finds then. Carrying a plan out in one go is the operation itself.
-/

namespace MediaPaths

namespace Server

/-- What one waits for. -/
inductive Wait where
  /-- The lock of the active paths. -/
  | lock
  /-- The end of the worker of a supervisor. -/
  | worker (i : Nat)

/-- Whether one waits no longer. -/
def Wait.isOver (w : Server) : Wait → Bool
  | lock => w.registry.lock.isHeldBy .operator
  | worker i => isDone i w

/-- What is left of an operation. -/
inductive Plan (α : Type) where
  /-- Nothing: the server, and what has come of the operation. -/
  | done (w : Server) (a : α)
  /-- One waits, and then goes on. -/
  | wait (w : Server) (u : Wait) (next : Server → Plan α)

namespace Plan

variable {α β σ : Type} {w : Server}

/-- The server as it is now. -/
def server : Plan α → Server
  | done w _ => w
  | wait w _ _ => w

/-- What is left, with another server. -/
def atServer (v : Server) : Plan α → Plan α
  | done _ a => done v a
  | wait _ u next => wait v u next

/-- One goes on with what has come of a plan. -/
def bind : Plan α → (Server → α → Plan β) → Plan β
  | done w a, f => f w a
  | wait w u next, f => wait w u fun v => (next v).bind f

/-- The plan is carried out in one go. -/
def run : Plan α → Server × α
  | done w a => (w, a)
  | wait w u next => (next (w.waitFor fun v => u.isOver v)).run

theorem run_bind (p : Plan α) (f : Server → α → Plan β) :
    (p.bind f).run = (f p.run.1 p.run.2).run := by
  induction p with
  | done w a => rfl
  | wait w u next ih => exact ih _

/-- Something is done for each of some things. -/
def each (f : Server → σ → β → Plan σ) (w : Server) (s : σ) : List β → Plan σ
  | [] => done w s
  | b :: bs => (f w s b).bind fun w s => each f w s bs

theorem run_each {f : Server → σ → β → Plan σ} {g : Server × σ → β → Server × σ}
    (h : ∀ w s b, (f w s b).run = g (w, s) b) (w : Server) (s : σ) (bs : List β) :
    (each f w s bs).run = bs.foldl g (w, s) := by
  induction bs generalizing w s with
  | nil => rfl
  | cons b bs ih => rw [each, run_bind, ih, h, List.foldl_cons]

/-! ## Waiting -/

/-- One asks for the lock and waits for it. -/
def acquire (w : Server) : Plan Unit :=
  wait (w.setRegistry { w.registry with lock := w.registry.lock.request .operator }) .lock (done · ())

theorem run_acquire (w : Server) : (acquire w).run = (w.acquire, ()) := rfl

/-- A supervisor is asked to stop, and one waits until its worker has ended. -/
def stop (w : Server) (i : Nat) (reason : String) : Plan Unit :=
  wait (w.modify i (·.cancel reason)) (.worker i) fun w => done ((w.recordCrash i).modify i (·.rest)) ()

theorem run_stop (w : Server) (i : Nat) (reason : String) :
    (stop w i reason).run = (w.stop i reason, ()) := rfl

/-- The supervisor of a path is stopped, if it has one. -/
def stopSource (w : Server) (p : ActivePath) (reason : String) : Plan Unit :=
  match p.origin.host? with
  | some i => stop w i reason
  | none => done w ()

theorem run_stopSource (w : Server) (p : ActivePath) (reason : String) :
    (stopSource w p reason).run = (w.stopSource p reason, ()) := by
  unfold stopSource Server.stopSource
  cases p.origin.host? <;> rfl

/-! ## Activating -/

/-- A path is activated, or is active. -/
def activate (w : Server) (name query : String) : Plan (Except ServerError ActivePath) :=
  match w.registry.store.find name with
  | .error e => done w (.error (.lookup e))
  | .ok m =>
    (acquire w).bind fun w _ =>
      match w.registry.get? name with
      | some p => done w.release (.ok p)
      | none => done (w.build name m query).1.release ((w.build name m query).2.mapError .source)

theorem run_activate (w : Server) (name query : String) :
    (activate w name query).run = w.activate name query := by
  unfold activate Server.activate
  cases w.registry.store.find name with
  | error e => rfl
  | ok m =>
    simp only [run_bind, run_acquire]
    cases w.acquire.registry.get? name <;> rfl

/-- Some paths are activated, until one cannot be. -/
def activateAll (w : Server) : List Entry → Plan (Except ServerError Unit)
  | [] => done w (.ok ())
  | e :: es =>
    (activate w e.name "").bind fun w result =>
      match result with
      | .ok _ => activateAll w es
      | .error err => done w (.error err)

theorem run_activateAll (w : Server) (es : List Entry) :
    (activateAll w es).run = w.activateAll es := by
  induction es generalizing w with
  | nil => rfl
  | cons e es ih =>
    rw [activateAll, Server.activateAll, run_bind, run_activate]
    generalize w.activate e.name "" = x
    obtain ⟨v, result⟩ := x
    cases result with
    | ok p => exact ih v
    | error err => rfl

/-- All paths are activated whose sources are to be pulled all the time. -/
def activateAlwaysOn (w : Server) : Plan (Except ServerError Unit) :=
  (activateAll w (alwaysOn w.registry.store.current)).bind fun v result =>
    match result with
    | .ok _ => done (v.record (.started w.registry.store.current.table.entries.length)) (.ok ())
    | .error e => done v (.error e)

theorem run_activateAlwaysOn (w : Server) : (activateAlwaysOn w).run = w.activateAlwaysOn := by
  unfold activateAlwaysOn Server.activateAlwaysOn
  rw [run_bind, run_activateAll]
  simp only
  generalize w.activateAll (alwaysOn w.registry.store.current) = x
  obtain ⟨v, result⟩ := x
  cases result <;> rfl

/-! ## Deactivating -/

/-- What is left to be done for a path that is no longer active is done. -/
def close (w : Server) (p : ActivePath) (reason : String) : Plan Unit :=
  (stopSource w p reason).bind fun w _ =>
    let w := w.record (.deactivated p.name reason)
    done (w.setRegistry (w.registry.send (.removed p.name reason))) ()

theorem run_close (w : Server) (p : ActivePath) (reason : String) :
    (close w p reason).run = (w.close p reason, ()) := by
  unfold close
  rw [run_bind, run_stopSource]
  rfl

/-- A path is deactivated, if it is active. -/
def deactivate (w : Server) (name reason : String) : Plan Bool :=
  (acquire w).bind fun w _ =>
    let v := (w.setRegistry (w.registry.remove name)).release
    match w.registry.get? name with
    | some p => (close v p reason).bind fun v _ => done v true
    | none => done v false

theorem run_deactivate (w : Server) (name reason : String) :
    (deactivate w name reason).run = w.deactivate name reason := by
  unfold deactivate Server.deactivate
  rw [run_bind, run_acquire]
  simp only
  cases w.acquire.registry.get? name with
  | none => rfl
  | some p =>
    simp only [run_bind, run_close]
    rfl

/-- All paths are deactivated. -/
def shutdown (w : Server) : Plan Unit :=
  (acquire w).bind fun w _ =>
    let v := (w.setRegistry { w.registry with paths := [] }).release
    (each (fun w _ p => close w p "shutting down") v () w.registry.paths).bind fun v _ =>
      done (v.record .stopped) ()

theorem run_shutdown (w : Server) : (shutdown w).run = (w.shutdown, ()) := by
  have hclose : ∀ (ps : List ActivePath) (v : Server),
      (each (fun w _ p => close w p "shutting down") v () ps).run =
        (ps.foldl (fun w p => w.close p "shutting down") v, ()) := by
    intro ps
    induction ps with
    | nil => exact fun v => rfl
    | cons p ps ih =>
      intro v
      rw [each, run_bind, run_close, ih, List.foldl_cons]
  unfold shutdown
  rw [run_bind, run_acquire, run_bind, hclose]
  rfl

/-! ## Reloads -/

/-- A path whose source was stopped is made active anew, or it is told that it cannot be. -/
def rebuild (w : Server) (p : ActivePath) (m : Match) : Server × Option SourceError :=
  let w := if p.isReady then w.setRegistry (w.registry.send (.notReady p.name)) else w
  match w.build p.name m p.query with
  | (w, .ok _) => (w, none)
  | (w, .error e) =>
    let w := w.record (.restartFailed p.name e.message)
    (w.setRegistry (w.registry.send (.removed p.name e.message)), some e)

/-- A path is restarted for an entry. -/
def restart (w : Server) (p : ActivePath) (m : Match) : Plan (Option SourceError) :=
  (stopSource (w.setRegistry (w.registry.remove p.name)) p "configuration changed").bind fun w _ =>
    done (rebuild w p m).1 (rebuild w p m).2

theorem run_restart (w : Server) (p : ActivePath) (m : Match) :
    (restart w p m).run = w.restart p m := by
  unfold restart
  rw [run_bind, run_stopSource]
  rfl

/-- An active path is brought in line with a configuration. -/
def align (c : Configuration) (optionsChanged : Bool) (w : Server) (p : ActivePath) :
    Plan (Option SourceError) :=
  match c.find p.name with
  | .error _ =>
    (close (w.setRegistry (w.registry.remove p.name)) p "removed from configuration").bind fun w _ =>
      done w none
  | .ok m =>
    let rebuild := optionsChanged && p.origin.host?.isSome
    if p.entry == m.entry && !rebuild then done w none
    else if needsRestart p m.entry rebuild then restart w p m
    else done (w.amend p m.entry) none

theorem run_align (c : Configuration) (optionsChanged : Bool) (w : Server) (p : ActivePath) :
    (align c optionsChanged w p).run = Server.align c optionsChanged w p := by
  unfold align Server.align
  cases c.find p.name with
  | error e =>
    simp only [run_bind, run_close]
    rfl
  | ok m =>
    simp only
    split
    · rfl
    · split
      · exact run_restart w p m
      · rfl

/-- The active path of a name is brought in line with a configuration. -/
def alignName (c : Configuration) (optionsChanged : Bool) (w : Server) (e : Option ServerError)
    (name : String) : Plan (Option ServerError) :=
  match w.registry.get? name with
  | none => done w e
  | some p => (align c optionsChanged w p).bind fun w err => done w (firstError e err)

theorem run_alignName (c : Configuration) (optionsChanged : Bool) (w : Server)
    (e : Option ServerError) (name : String) :
    (alignName c optionsChanged w e name).run = Server.alignName c optionsChanged (w, e) name := by
  unfold alignName Server.alignName
  simp only
  cases w.registry.get? name with
  | none => rfl
  | some p =>
    simp only [run_bind, run_align]
    rfl

/-- The rest of a reload, once the paths that were active are in line. -/
def settle (c : Configuration) (w : Server) (e : Option ServerError) : Server × Except ServerError Unit :=
  let (w, e) := (alwaysOn c).foldl ensure (w, e)
  (w.release, match e with
    | some e => .error e
    | none => .ok ())

/-- The active paths are brought in line with a configuration, and those are activated whose sources are to
be pulled all the time. -/
def realign (c : Configuration) (optionsChanged : Bool) (w : Server) : Plan (Except ServerError Unit) :=
  (each (alignName c optionsChanged) w none (w.registry.paths.map (·.name))).bind fun w e =>
    done (settle c w e).1 (settle c w e).2

/-- A configuration is put in force. -/
def apply (w : Server) (c : Configuration) : Plan (Except ServerError Unit) :=
  match c.check with
  | .error e => done w (.error (.configuration e))
  | .ok c =>
    let (store, previous) := w.registry.store.replace c
    let v := (w.setRegistry { w.registry with store := store }).record (.replaced c.table.entries.length)
    (acquire v).bind fun w _ => realign c (previous.options != c.options) w

theorem run_apply (w : Server) (c : Configuration) : (apply w c).run = w.apply c := by
  unfold apply Server.apply
  cases c.check with
  | error e => rfl
  | ok c =>
    simp only [run_bind, run_acquire, realign, run_each (run_alignName _ _)]
    rfl

/-! ## Operations -/

/-- What has come of a plan is of no account. -/
def ignore (p : Plan α) : Plan Unit := p.bind fun w _ => done w ()

/-- The plan of an operation. -/
def ofOperation (w : Server) : Operation → Plan Unit
  | .start => (activateAlwaysOn w).ignore
  | .activate name query => (activate w name query).ignore
  | .deactivate name reason => (deactivate w name reason).ignore
  | .reload c => (apply w c).ignore
  | .shutdown => shutdown w
  | .look => (acquire w).bind fun w _ => done w.release ()

/-- Carrying out the plan of an operation in one go is the operation. -/
theorem run_ofOperation (w : Server) (o : Operation) : (ofOperation w o).run = (w.operate o, ()) := by
  have hignore : ∀ {α : Type} (p : Plan α), p.ignore.run = (p.run.1, ()) := fun p => run_bind p _
  cases o with
  | start => rw [ofOperation, hignore, run_activateAlwaysOn, operate]
  | activate name query => rw [ofOperation, hignore, run_activate, operate]
  | deactivate name reason => rw [ofOperation, hignore, run_deactivate, operate]
  | reload c => rw [ofOperation, hignore, run_apply, operate]
  | shutdown => rw [ofOperation, run_shutdown, operate]
  | look => rfl

end Plan

end Server

end MediaPaths
