import Vigil.Queue
import Vigil.Scheduler.Notice
/-!
A scheduler: named queues, each emptied by a dispatch loop of its own, and the executions under
way. Everything that can run at the current instant stands in one line, `ready`, and runs in
steps that are atomic for each other; clients act between steps.
-/

namespace Vigil

/-- A dispatch loop. It is in the ready line exactly if it is `fresh` or `runnable`. -/
inductive DispatchLoop where
  | fresh
  | runnable
  | blocked (wakeAt : Option Int)
  | ended
  deriving DecidableEq, Repr

/-- A registered queue and its dispatch loop. -/
structure Line (ω : Type) where
  name : String
  queue : Queue ω := {}
  loop : DispatchLoop := .fresh

/-- An execution under way, and the name of the queue its task goes back to. -/
structure Run (ω : Type) where
  queue : String
  /-- How many executions were handed over before this one. -/
  ticket : Nat
  task : Task ω
  since : Int
  plan : Execution
  deriving DecidableEq

/-- A piece of work that can be done now. -/
inductive Job (ω : Type) where
  /-- Let the dispatch loop of a registered queue look at its queue. -/
  | dispatch (queue : String)
  /-- Let the dispatch loop of a queue that is no longer registered find out. -/
  | retire (queue : String) (fresh : Bool)
  | start (queue : String) (ticket : Nat) (task : Task ω)
  | finish (run : Run ω)
  | expire (run : Run ω)
  /-- Tell the watchers of a cut-off execution. -/
  | release (run : Run ω)
  deriving DecidableEq

structure Scheduler.Config where
  /-- Pause before a dispatch loop would look again after an error that is not terminal. -/
  retryBackoff : Nat := Duration.ofMillis 500
  /-- Upper bound on one execution; none lets executions run as long as they like. -/
  executionTimeout : Option Nat := none
  deriving DecidableEq, Repr

structure Scheduler (ω : Type) where
  config : Scheduler.Config := {}
  now : Int := 0
  /-- Registered queues, the oldest first; names are unique. -/
  lines : List (Line ω) := []
  ready : List (Job ω) := []
  /-- Executions that wait for their end or their limit, the oldest first. -/
  running : List (Run ω) := []
  /-- How many executions were handed over so far. -/
  dispatched : Nat := 0
  /-- Whether the root token is cancelled. -/
  stopping : Bool := false

namespace Scheduler

variable {ω : Type}

/-- What a client's call does: the scheduler after it, its answer, and the notices in order. -/
structure Reply (ω α : Type) where
  scheduler : Scheduler ω
  answer : α
  notices : List Notice := []

def line? (s : Scheduler ω) (name : String) : Option (Line ω) :=
  s.lines.find? (·.name == name)

def queue? (s : Scheduler ω) (name : String) : Option (Queue ω) := (s.line? name).map (·.queue)

/-- Names of the registered queues, sorted. -/
def names (s : Scheduler ω) : List String :=
  (s.lines.map (·.name)).mergeSort (fun a b => !(b < a))

/-- Number of tasks waiting in a queue. -/
def pending (s : Scheduler ω) (name : String) : Option Nat := (s.queue? name).map (·.size)

/-- Change one line. -/
def modifyLine (s : Scheduler ω) (name : String) (f : Line ω → Line ω) : Scheduler ω :=
  { s with lines := s.lines.map fun l => if l.name == name then f l else l }

/-- Wake the dispatch loop of a line if it is blocked. -/
def wake (s : Scheduler ω) (name : String) : Scheduler ω :=
  match s.line? name with
  | some { loop := .blocked _, .. } =>
    { s.modifyLine name fun l => { l with loop := .runnable } with
      ready := s.ready ++ [.dispatch name] }
  | _ => s

/-- Put a line's changed queue in place, waking its loop if asked to. -/
def putQueue (s : Scheduler ω) (name : String) (queue : Queue ω) (wakes : Bool) : Scheduler ω :=
  let s' := s.modifyLine name fun l => { l with queue }
  if wakes then s'.wake name else s'

/-- Register an empty queue and start its dispatch loop. A taken name is refused. -/
def addQueue (s : Scheduler ω) (name : String) : Reply ω Bool :=
  if (s.line? name).isSome then ⟨s, false, [.queueExists name]⟩
  else
    ⟨{ s with lines := s.lines ++ [{ name }], ready := s.ready ++ [.dispatch name] }, true,
      [.queueAdded name]⟩

/-- Take a line out of the registry. A loop that has not ended yet will find its queue closed. -/
def detach (s : Scheduler ω) (line : Line ω) : Scheduler ω :=
  let lines := s.lines.filter (·.name != line.name)
  let leave (fresh : Bool) := s.ready.map fun
    | .dispatch q => if q == line.name then .retire q fresh else .dispatch q
    | job => job
  match line.loop with
  | .ended => { s with lines }
  | .fresh => { s with lines, ready := leave true }
  | .runnable => { s with lines, ready := leave false }
  | .blocked _ => { s with lines, ready := s.ready ++ [.retire line.name false] }

/-- Close and unregister a queue. Executions of its tasks go on but cannot hand them back. -/
def removeQueue (s : Scheduler ω) (name : String) : Reply ω Bool :=
  match s.line? name with
  | none => ⟨s, false, []⟩
  | some line =>
    let discarded := line.queue.close.2
    ⟨s.detach line, true, [.queueClosed discarded, .queueRemoved name discarded]⟩

/-- Close a queue that stays registered; answers how many tasks it held. -/
def closeQueue (s : Scheduler ω) (name : String) : Reply ω (Option Nat) :=
  match s.queue? name with
  | none => ⟨s, none, []⟩
  | some queue =>
    let (closed, discarded) := queue.close
    ⟨s.putQueue name closed true, some discarded, [.queueClosed discarded]⟩

/-- Register a task, or move the queued task of its id to the new due time. -/
def register (s : Scheduler ω) (name : String) (task : Task ω) :
    Reply ω (Except SchedulingError Unit) :=
  match s.queue? name with
  | none => ⟨s, .error (.queueNotFound name), []⟩
  | some queue =>
    match queue.upsert task with
    | .error e => ⟨s, .error e, []⟩
    | .ok e =>
      ⟨s.putQueue name e.queue e.wakes, .ok (),
        [if e.answer then .registered name task.id else .rekeyed name task.id]⟩

/-- Replace a task's whole record: forget its id, then add it anew. -/
def update (s : Scheduler ω) (name : String) (task : Task ω) :
    Reply ω (Except SchedulingError Unit) :=
  match s.queue? name with
  | none => ⟨s, .error (.queueNotFound name), []⟩
  | some queue =>
    let cleared := (queue.remove task.id).1
    match cleared.push task with
    | .error e => ⟨s.putQueue name cleared false, .error e, []⟩
    | .ok e => ⟨s.putQueue name e.queue e.wakes, .ok (), [.updated name task.id]⟩

/-- Forget a task. A missing queue or task is no error. -/
def remove (s : Scheduler ω) (name id : String) : Reply ω Unit :=
  match s.queue? name with
  | none => ⟨s, (), [.queueMissing name id]⟩
  | some queue =>
    let (cleared, found) := queue.remove id
    ⟨s.putQueue name cleared false, (), if found then [.removed name id] else []⟩

/-- Cancel the root token: every blocked loop wakes, the youngest first. -/
def cancel (s : Scheduler ω) : Scheduler ω :=
  (s.lines.reverse.map (·.name)).foldl wake { s with stopping := true }

/-- Cancel the root token, close every queue and unregister it. What can run afterwards lets the
loops end; the caller then reports `Notice.stopped`. -/
def shutdown (s : Scheduler ω) : Reply ω Unit :=
  let stopping := s.cancel
  let notices := stopping.lines.flatMap fun l =>
    let discarded := l.queue.close.2
    [.queueClosed discarded, .queueShut l.name discarded]
  ⟨stopping.lines.foldl detach stopping, (), notices⟩

end Scheduler

end Vigil
