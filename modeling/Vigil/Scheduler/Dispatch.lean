import Vigil.Scheduler.Basic
/-!
The atomic steps of a scheduler: dispatch loops that hand due tasks over, and the executions they
set going. An execution's end, of whatever kind, is reported and then puts the task back, due one
interval later; the queue refuses it if the task was removed or replaced meanwhile.
-/

namespace Vigil

namespace Run

variable {ω : Type}

/-- When the execution ends by itself. -/
def endsAt (r : Run ω) : Option Int := r.plan.length.map (·.overAt r.since)

/-- When the time limit cuts the execution off. -/
def expiresAt (r : Run ω) (limit : Option Nat) : Option Int :=
  limit.map fun n => Instant.ceilMilli (r.since + n)

/-- An execution that ends exactly at its limit has ended. -/
def endsInTime (r : Run ω) (limit : Option Nat) : Bool :=
  match r.endsAt, r.expiresAt limit with
  | some e, some x => e ≤ x
  | some _, none => true
  | none, _ => false

/-- When the execution is over, one way or the other. -/
def overAt (r : Run ω) (limit : Option Nat) : Option Int :=
  if r.endsInTime limit then r.endsAt else r.expiresAt limit

/-- The job that is due when the execution is over. -/
def overJob (r : Run ω) (limit : Option Nat) : Job ω :=
  if r.endsInTime limit then .finish r else .expire r

end Run

namespace Scheduler

variable {ω : Type}

/-- A dispatch loop looks at its queue: it hands over every due task and blocks, or ends. -/
def dispatch (s : Scheduler ω) (name : String) : Scheduler ω × List (Event ω) :=
  match s.line? name with
  | none => (s, [])
  | some line =>
    let opening := if line.loop = .fresh then [Event.notice (.loopStarted name)] else []
    let leave (why : SchedulingError) : Scheduler ω × List (Event ω) :=
      (s.modifyLine name fun l => { l with loop := .ended },
        opening ++ [.notice (.loopStopped name why)])
    if s.stopping then leave .cancelled
    else
      match line.queue.takeDue s.now with
      | (_, _, none) => leave .queueClosed
      | (queue, tasks, some wakeAt) =>
        ({ s.modifyLine name fun l => { l with queue, loop := .blocked wakeAt } with
            ready := s.ready ++ (tasks.zipIdx s.dispatched).map fun (t, ticket) => .start name ticket t
            dispatched := s.dispatched + tasks.length },
          opening ++ tasks.map fun t => .notice (.dispatching name t.id))

/-- The loop of a queue that is gone ends. -/
def retire (s : Scheduler ω) (name : String) (fresh : Bool) : List (Event ω) :=
  (if fresh then [.notice (.loopStarted name)] else []) ++
    [.notice (.loopStopped name (if s.stopping then .cancelled else .queueClosed))]

/-- Queue the next run of a task whose execution is over. If its due time is not representable
the task is lost without a word. -/
def reschedule (s : Scheduler ω) (name : String) (task : Task ω) : Scheduler ω × List Notice :=
  match task.nextRun? s.now with
  | none => (s, [])
  | some next =>
    match s.queue? name with
    | none => (s, [.notRescheduled name task.id (.queueNotFound name)])
    | some queue =>
      match queue.requeue next with
      | .error e => (s, [.notRescheduled name task.id e])
      | .ok e =>
        (s.putQueue name e.queue e.wakes,
          [if e.answer then .rescheduled name task.id else .revoked name task.id])

/-- An execution ends by itself. -/
def finish (s : Scheduler ω) (r : Run ω) : Scheduler ω × List (Event ω) :=
  let (s', notices) := s.reschedule r.queue r.task
  (s', .ended r.task r.plan.ending :: .notice (.ofEnding r.task.id r.plan.ending) ::
    notices.map .notice)

/-- An execution is cut off: it is dropped, its task goes back, and then its watchers are told. -/
def expire (s : Scheduler ω) (r : Run ω) : Scheduler ω × List (Event ω) :=
  let limit := s.config.executionTimeout.getD 0
  let (s', notices) := ({ s with ready := s.ready ++ [Job.release r] }).reschedule r.queue r.task
  (s', .dropped r.task :: .notice (.ofTimeout r.task.id limit) :: notices.map .notice)

/-- An execution begins; one that is over at once ends in the same step. -/
def start (plan : Task ω → Execution) (s : Scheduler ω) (name : String) (ticket : Nat)
    (task : Task ω) : Scheduler ω × List (Event ω) :=
  let r : Run ω := { queue := name, ticket, task, since := s.now, plan := plan task }
  let limit := s.config.executionTimeout
  let (s', events) :=
    if r.endsAt.any (· ≤ s.now) then s.finish r
    else if (r.expiresAt limit).any (· ≤ s.now) then s.expire r
    else ({ s with running := s.running ++ [r] }, [])
  (s', .started task :: events)

/-- Do one job. -/
def perform (plan : Task ω → Execution) (s : Scheduler ω) :
    Job ω → Scheduler ω × List (Event ω)
  | .dispatch name => s.dispatch name
  | .retire name fresh => (s, s.retire name fresh)
  | .start name ticket task => s.start plan name ticket task
  | .finish r => s.finish r
  | .expire r => s.expire r
  | .release r => (s, [.cancelled r.task])

/-! Steps leave the clock alone. -/

@[simp] theorem modifyLine_now (s : Scheduler ω) (name : String) (f : Line ω → Line ω) :
    (s.modifyLine name f).now = s.now := rfl

@[simp] theorem wake_now (s : Scheduler ω) (name : String) : (s.wake name).now = s.now := by
  simp only [wake]; split <;> simp

@[simp] theorem putQueue_now (s : Scheduler ω) (name : String) (q : Queue ω) (wakes : Bool) :
    (s.putQueue name q wakes).now = s.now := by
  simp only [putQueue]; split <;> simp

@[simp] theorem dispatch_now (s : Scheduler ω) (name : String) :
    (s.dispatch name).1.now = s.now := by
  simp only [dispatch]
  split
  · rfl
  · split
    · rfl
    · split <;> rfl

@[simp] theorem reschedule_now (s : Scheduler ω) (name : String) (task : Task ω) :
    (s.reschedule name task).1.now = s.now := by
  simp only [reschedule]
  split
  · rfl
  · split
    · rfl
    · split <;> simp

@[simp] theorem finish_now (s : Scheduler ω) (r : Run ω) : (s.finish r).1.now = s.now := by
  simp [finish]

@[simp] theorem expire_now (s : Scheduler ω) (r : Run ω) : (s.expire r).1.now = s.now := by
  simp [expire]

@[simp] theorem start_now (plan : Task ω → Execution) (s : Scheduler ω) (name : String)
    (ticket : Nat) (task : Task ω) : (s.start plan name ticket task).1.now = s.now := by
  simp only [start]
  split
  · simp
  · split <;> simp

@[simp] theorem perform_now (plan : Task ω → Execution) (s : Scheduler ω) (job : Job ω) :
    (s.perform plan job).1.now = s.now := by
  cases job <;> simp [perform]

end Scheduler

end Vigil
