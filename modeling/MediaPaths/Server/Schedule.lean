import MediaPaths.Server.Answering

/-!
# The order of things

The first task in line goes on until it has to wait, then the next one does. When no task can go on,
time passes until a task can that waits for a time; of alarms for the same time, the one that was set
first goes off first. Whoever operates the server waits with the tasks, and goes on only when none of
them can.
-/

namespace MediaPaths.Server

/-- The alarms of a host: the times to come at which its tasks go on by themselves. -/
def alarmsOf (w : Server) (i : Nat) (h : Host) : List Alarm :=
  let owner := match h.owner with
    | .judge j => j.deadline?.toList.map fun t => (t, Task.worker)
    | .path _ _ => []
  ((h.supervisor.timers ++ owner).filter (w.now < ·.1)).map fun (t, task) => ⟨t, i, task⟩

/-- Alarms of other hosts and those still set stay where they are, new ones come last. -/
def setAlarms (w : Server) (i : Nat) (h : Host) : Server :=
  let news := w.alarmsOf i h
  let kept := w.alarms.filter fun a => a.host != i || news.contains a
  { w with alarms := kept ++ news.filter (!kept.contains ·) }

/-- The first task in line takes a step, or leaves the line if it has to wait. -/
def step (w : Server) : Server :=
  match w.queue with
  | [] => w
  | (i, t) :: rest =>
    match w.stepTask i t with
    | some w => w.hosts[i]?.elim w (w.setAlarms i)
    | none => { w with queue := rest }

/-- The next time at which a task goes on by itself. -/
def nextTime? (w : Server) : Option Nat := (w.alarms.map (·.due)).min?

/-- Time passes until `t`. Tasks that waited for that can go on, in the order in which their alarms were
set. -/
def passTo (w : Server) (t : Nat) : Server :=
  let (due, later) := w.alarms.partition (·.due ≤ t)
  due.foldl (fun w a => w.enqueue a.host a.task) { w with now := t, alarms := later }

/-- Tasks go on until all have to wait. -/
def settle (fuel : Nat) (w : Server) : Server :=
  match fuel with
  | 0 => w
  | fuel + 1 =>
    match w.queue with
    | [] => w
    | _ => settle fuel w.step

/-- The earlier of two times, of which there may be none. -/
def earlier (a b : Option Nat) : Option Nat := (a.toList ++ b.toList).min?

/-- Whoever operates the server waits for something, or for a time. -/
def await (fuel : Nat) (w : Server) (done : Server → Bool) (till : Option Nat) : Server :=
  match fuel with
  | 0 => w
  | fuel + 1 =>
    match w.queue with
    | _ :: _ => await fuel w.step done till
    | [] =>
      if done w then w
      else
        match earlier w.nextTime? till with
        | none => w
        | some t =>
          let w := w.passTo t
          if till.any (· ≤ t) then w else await fuel w done till

/-- Enough for all that a server is ever asked to do at a time. -/
def patience : Nat := 1000000000000

/-- Tasks go on until all have to wait. -/
def run (w : Server) : Server := w.settle patience

/-- Waits for something, unless it is there already. -/
def waitFor (w : Server) (done : Server → Bool) : Server :=
  if done w then w else w.await patience done none

/-- Waits until a time, or until something is there. -/
def waitUntil (w : Server) (t : Nat) (done : Server → Bool) : Server :=
  if done w || t ≤ w.now then w else w.await patience done (some t)

/-- Waits for some milliseconds. -/
def sleep (w : Server) (ms : Nat) : Server := w.waitUntil (w.now + ms) fun _ => false

end MediaPaths.Server
