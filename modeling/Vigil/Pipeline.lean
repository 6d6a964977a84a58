import Vigil.Check
import Vigil.Recorder.Inbox
import Vigil.Scheduler.Clock
/-!
Scheduled checks and the recorder that takes their results. Executions send results in the order
in which they end; the recorder takes its turn in the scheduler's ready line, behind everything
that could already run when the first waiting result was sent. The channel is taken to have room: an
execution that waits for some is one whose probe takes longer.
-/

namespace Vigil

/-- The task that checks a monitor, first due one interval after `now`. It is given the executor for
the check type that the monitor has then. -/
def Monitor.task (m : Monitor) (now : Int) : Task Monitor :=
  { id := m.taskId, due := now + m.period, interval := m.period, executor := m.checkType.executor
    work := m }

theorem Monitor.first?_eq_task {m : Monitor} {now : Int} (h : now + m.period ≤ Instant.latest) :
    Task.first? m.taskId m.period m now m.checkType.executor = some (m.task now) := by
  simp [Task.first?, Instant.after?, h, Monitor.task]

structure Pipeline where
  scheduler : Scheduler Monitor := {}
  inbox : Inbox
  /-- How many jobs run before the recorder does, if it has been woken. -/
  turn : Option Nat := none

namespace Pipeline

/-- How checks are made: what is too slow, and how the probe of each run of a monitor goes that the
executor for the monitor's check type makes. -/
structure Checks where
  /-- The largest latency in milliseconds that is not degraded. -/
  threshold : Nat
  probe : Monitor → Nat → Probe

inductive Event where
  | scheduling (n : Notice)
  /-- The probe of a run of a monitor's task begins. -/
  | probing (monitor : Monitor) (run : Nat)
  | checked (n : Check.Notice)
  | recorded (n : Recorder.Notice)

namespace Checks

/-- The probe of a run, which the executor of the task makes. -/
def probeOf (c : Checks) (t : Task Monitor) : Probe := c.probe (t.work.seenBy t.executor) t.run

/-- The result of a run that is left alone. -/
def result (c : Checks) (t : Task Monitor) : Option CheckResult :=
  Check.judge c.threshold t.work (c.probeOf t).answer

def plan (c : Checks) (t : Task Monitor) : Execution :=
  let probe := c.probeOf t
  { length := some probe.delay, ending := Check.ending c.threshold t.work probe.answer }

end Checks

/-- Send a result into a channel that has room for it; the recorder is woken to run after `ahead`
jobs unless it is already. -/
def send (p : Pipeline) (ahead : Nat) (result : CheckResult) : Pipeline :=
  match p.inbox.send? result with
  | none => p
  | some inbox =>
    { p with
      inbox
      turn := if inbox.listening then p.turn.orElse fun _ => some ahead else p.turn }

/-- Let what a scheduler's step did take effect on the channel. -/
def observe (c : Checks) (ahead : Nat) (p : Pipeline) : List (Vigil.Event Monitor) →
    Pipeline × List Event
  | [] => (p, [])
  | event :: rest =>
    let (p', seen) : Pipeline × List Event := match event with
      | .notice n => (p, [.scheduling n])
      | .started t => (p, [.probing t.work t.run])
      | .ended t _ =>
        match c.result t with
        | some r =>
          (p.send ahead r,
            .checked (Check.noticeOf t.work r) :: if p.inbox.isOpen then [] else [.checked .unsent])
        | none => (p, [])
      | .dropped _ | .cancelled _ => (p, [])
    let (final, later) := observe c ahead p' rest
    (final, seen ++ later)

/-- The recorder takes what waits. -/
def record (p : Pipeline) : Pipeline × List Event :=
  let (inbox, notices) := p.inbox.drain
  ({ p with inbox, turn := none }, notices.map .recorded)

/-- Do the next job that can run now, be it the scheduler's or the recorder's. -/
def step? (c : Checks) (p : Pipeline) : Option (Pipeline × List Event) :=
  match p.turn, p.scheduler.ready with
  | none, [] => none
  | some 0, _ | some _, [] => some p.record
  | turn, job :: rest =>
    let (scheduler, events) := { p.scheduler with ready := rest }.perform c.plan job
    some (observe c rest.length { p with scheduler, turn := turn.map (· - 1) } events)

/-- A measure of what is left to do at the current instant. -/
def workload (p : Pipeline) : Nat := 2 * p.scheduler.workload + if p.turn.isSome then 1 else 0

/-- Run what can run, in order, until nothing is left or a step leaves as much as before. -/
def settle (c : Checks) (p : Pipeline) : Pipeline × List Event :=
  match p.step? c with
  | none => (p, [])
  | some next =>
    if next.1.workload < p.workload then
      let final := next.1.settle c
      (final.1, next.2 ++ final.2)
    else next
termination_by p.workload

@[simp] theorem send_scheduler (p : Pipeline) (ahead : Nat) (r : CheckResult) :
    (p.send ahead r).scheduler = p.scheduler := by
  simp only [send]; split <;> rfl

@[simp] theorem observe_scheduler (c : Checks) (ahead : Nat) (p : Pipeline)
    (events : List (Vigil.Event Monitor)) :
    (observe c ahead p events).1.scheduler = p.scheduler := by
  induction events generalizing p with
  | nil => rfl
  | cons event rest ih =>
    simp only [observe, ih]
    cases event with
    | ended t _ => dsimp only; split <;> simp
    | _ => rfl

theorem step?_now {c : Checks} {p : Pipeline} {next : Pipeline × List Event}
    (h : p.step? c = some next) : next.1.scheduler.now = p.scheduler.now := by
  simp only [step?] at h
  split at h
  · cases h
  · cases h; rfl
  · cases h; rfl
  · cases h; simp

theorem settle_now (c : Checks) (p : Pipeline) :
    (p.settle c).1.scheduler.now = p.scheduler.now := by
  fun_induction settle c p with
  | case1 => rfl
  | case2 p next h _ final ih => exact ih.trans (step?_now h)
  | case3 p next h _ => exact step?_now h

/-- Move the clock to `target`, stopping at every timer on the way; events carry their time. -/
def advanceTo (c : Checks) (p : Pipeline) (target : Int) : Pipeline × List (Int × Event) :=
  let stop (t : Int) : Pipeline × List (Int × Event) :=
    let settled := ({ p with scheduler := p.scheduler.reach t } : Pipeline).settle c
    (settled.1, settled.2.map (t, ·))
  match _h : p.scheduler.nextTimer with
  | none => stop target
  | some t =>
    if t ≤ target then
      let reached := stop t
      let final := reached.1.advanceTo c target
      (final.1, reached.2 ++ final.2)
    else stop target
termination_by (target - p.scheduler.now).toNat
decreasing_by
  have hlt := Scheduler.now_lt_nextTimer ‹p.scheduler.nextTimer = some t›
  have hnow : reached.1.scheduler.now = t := by
    simp [reached, stop, settle_now, Scheduler.reach_now]
  rw [hnow]
  omega

end Pipeline

end Vigil
