import Vigil.Proofs.Scheduler.Books
import Vigil.Scheduler.Clock

/-!
# Runs of a scheduler, with their histories

A run is any sequence of client calls, movements of the clock and jobs. Jobs that are ready may be
done in any order, the clock need not wait for them, every execution may go as it likes, and a
dispatch loop may be interrupted between two tasks. Beside the scheduler a chronicle keeps the
history of every name that was given to a queue.
-/
namespace Vigil

open Queue

variable {ω : Type}

namespace Scheduler

/-! ### What is done to the queues -/

/-- What a client does to a queue by registering a task. -/
def registering (s : Scheduler ω) (name : String) (task : Task ω) : List (Deed ω) :=
  match s.queue? name with
  | none => []
  | some q =>
    match q.upsert task with
    | .error _ => []
    | .ok e => [if e.answer then .installed task else .rekeyed task.id task.due]

/-- What a client does to a queue by replacing a task's record. -/
def updating (s : Scheduler ω) (name : String) (task : Task ω) : List (Deed ω) :=
  match s.queue? name with
  | none => []
  | some q =>
    match (q.remove task.id).1.push task with
    | .error _ => [.removed task.id]
    | .ok _ => [.installed task, .removed task.id]

/-- Queue a task whose id is not queued: what `update` does after `remove`, if something else
comes between the two. -/
def push (s : Scheduler ω) (name : String) (task : Task ω) : Scheduler ω :=
  match s.queue? name with
  | none => s
  | some q =>
    match q.push task with
    | .error _ => s
    | .ok e => s.putQueue name e.queue e.wakes

def pushing (s : Scheduler ω) (name : String) (task : Task ω) : List (Deed ω) :=
  match s.queue? name with
  | none => []
  | some q =>
    match q.push task with
    | .error _ => []
    | .ok _ => [.installed task]

/-- A client's call about the queue of some name. -/
inductive Call (ω : Type) where
  | addQueue
  | removeQueue
  | closeQueue
  | register (task : Task ω)
  | update (task : Task ω)
  | remove (id : String)
  | push (task : Task ω)

def serve (s : Scheduler ω) (name : String) : Call ω → Scheduler ω
  | .addQueue => (s.addQueue name).scheduler
  | .removeQueue => (s.removeQueue name).scheduler
  | .closeQueue => (s.closeQueue name).scheduler
  | .register task => (s.register name task).scheduler
  | .update task => (s.update name task).scheduler
  | .remove id => (s.remove name id).scheduler
  | .push task => s.push name task

/-- What a call does to the queue it is about. A queue that is removed keeps its history. -/
def serving (s : Scheduler ω) (name : String) : Call ω → List (Deed ω)
  | .addQueue => if (s.addQueue name).answer then [.opened] else []
  | .removeQueue => []
  | .closeQueue => if (s.closeQueue name).answer.isSome then [.closed] else []
  | .register task => s.registering name task
  | .update task => s.updating name task
  | .remove id => if (s.queue? name).isSome then [.removed id] else []
  | .push task => s.pushing name task

/-- What an execution that is over does to the queue its task goes back to. -/
def returning (s : Scheduler ω) (name : String) (k : Nat) (task : Task ω) : List (Deed ω) :=
  match s.queue? name with
  | none => []
  | some q =>
    match task.nextRun? s.now with
    | none => [.lost k task]
    | some next =>
      match q.requeue next with
      | .error _ => []
      | .ok e => [.returned k task e.answer]

/-- What a dispatch loop does to its queue when it looks. -/
def handing (s : Scheduler ω) (name : String) : List (Deed ω) :=
  match s.line? name with
  | none => []
  | some line =>
    if s.stopping then [] else Books.takings (line.queue.takeDue s.now).2.1 s.dispatched

/-- Whether an execution that begins now is over at once. -/
def overAtOnce (s : Scheduler ω) (r : Run ω) : Bool :=
  r.endsAt.any (· ≤ s.now) || (r.expiresAt s.config.executionTimeout).any (· ≤ s.now)

/-- What a job does to a queue, and the name of the queue. -/
def doing (plan : Task ω → Execution) (s : Scheduler ω) : Job ω → String × List (Deed ω)
  | .dispatch name => (name, s.handing name)
  | .start name ticket task =>
    let r : Run ω := { queue := name, ticket, task, since := s.now, plan := plan task }
    (name, if s.overAtOnce r then s.returning name ticket task else [])
  | .finish r | .expire r => (r.queue, s.returning r.queue r.ticket r.task)
  | .retire name _ => (name, [])
  | .release r => (r.queue, [])

/-- A dispatch loop takes one task that is due and is interrupted. -/
def takeOne? (s : Scheduler ω) (name : String) : Option (Scheduler ω × Task ω) :=
  match s.line? name with
  | none => none
  | some line =>
    if s.stopping || line.loop = .ended then none
    else
      match line.queue.glance s.now with
      | .taken task rest =>
        some ({ s.modifyLine name fun l => { l with queue := rest } with
          ready := s.ready ++ [.start name s.dispatched task]
          dispatched := s.dispatched + 1 }, task)
      | _ => none

end Scheduler

/-! ### Runs -/

/-- One thing that can happen to a scheduler. -/
inductive Move (ω : Type) where
  | client (name : String) (call : Scheduler.Call ω)
  | cancel
  | shutdown
  /-- A dispatch loop takes one task. -/
  | take (name : String)
  /-- The job in this place of the ready line is done; an execution it starts goes as planned. -/
  | work (plan : Task ω → Execution) (place : Nat)
  | wait (duration : Nat)

structure Chronicle (ω : Type) where
  scheduler : Scheduler ω := {}
  /-- What was done to the queues of each name, the newest first. -/
  trail : String → List (Deed ω) := fun _ => []

namespace Chronicle

/-- Go on with a scheduler after deeds on the queue of one name. -/
def next (c : Chronicle ω) (scheduler : Scheduler ω) (name : String) (deeds : List (Deed ω)) :
    Chronicle ω :=
  { scheduler, trail := noted c.trail name deeds }

def step (c : Chronicle ω) : Move ω → Chronicle ω
  | .client name call =>
    c.next (c.scheduler.serve name call) name (c.scheduler.serving name call)
  | .cancel => { c with scheduler := c.scheduler.cancel }
  | .shutdown => { c with scheduler := c.scheduler.shutdown.scheduler }
  | .take name =>
    match c.scheduler.takeOne? name with
    | none => c
    | some (s, task) => c.next s name [.taken c.scheduler.dispatched task]
  | .work plan place =>
    match c.scheduler.ready[place]? with
    | none => c
    | some job =>
      let s := { c.scheduler with ready := c.scheduler.ready.eraseIdx place }
      c.next (s.perform plan job).1 (s.doing plan job).1 (s.doing plan job).2
  | .wait duration => { c with scheduler := c.scheduler.reach (c.scheduler.now + duration) }

def run (c : Chronicle ω) (moves : List (Move ω)) : Chronicle ω := moves.foldl step c

/-- The chronicles of all runs of a new scheduler, whatever its configuration and its clock. -/
inductive Reached : Chronicle ω → Prop where
  | fresh (config : Scheduler.Config) (now : Int) : Reached { scheduler := { config, now } }
  | step {c : Chronicle ω} (reached : Reached c) (move : Move ω) : Reached (c.step move)

theorem Reached.run {c : Chronicle ω} (reached : Reached c) (moves : List (Move ω)) :
    Reached (c.run moves) := by
  induction moves generalizing c with
  | nil => exact reached
  | cons move rest ih => exact ih (reached.step move)

theorem run_append (c : Chronicle ω) (first second : List (Move ω)) :
    c.run (first ++ second) = (c.run first).run second := List.foldl_append

end Chronicle

end Vigil
