import Std.Data.ExtTreeSet
import Vigil.Heap
import Vigil.SchedulingError
/-!
The task queue. Tasks wait in a heap until they are due; a consumer that takes one leaves its id
marked as in flight, and only an id that is still marked can be handed back. Adding a task under
an id, or removing it, clears the mark, so a superseded or removed copy never returns.

Operations that can move the head of the queue to an earlier instant say so: `wakes` asks for
every blocked consumer to look again.
-/

namespace Vigil

open Std

structure Queue (ω : Type) where
  heap : Heap ω := {}
  /-- Ids taken by a consumer and not handed back since. -/
  inFlight : ExtTreeSet String := ∅
  closed : Bool := false

namespace Queue

variable {ω : Type}

/-- What an accepted operation does: the queue after it, its answer, and whether blocked
consumers are woken. -/
structure Effect (ω α : Type) where
  queue : Queue ω
  answer : α
  wakes : Bool

def size (q : Queue ω) : Nat := q.heap.size

def isEmpty (q : Queue ω) : Bool := q.heap.isEmpty

def contains (q : Queue ω) (id : String) : Bool := (q.heap.position id).isSome

/-- The queued task with this id. -/
def find? (q : Queue ω) (id : String) : Option (Task ω) :=
  (q.heap.position id).bind q.heap.get?

/-- The due time of a queued task. -/
def due? (q : Queue ω) (id : String) : Option Int := (q.find? id).map (·.due)

/-- Add a task under an id that is not queued. An execution of that id loses its claim. -/
def push (q : Queue ω) (task : Task ω) : Except SchedulingError (Effect ω Unit) :=
  if q.closed then .error .queueClosed
  else if q.contains task.id then .error (.duplicateTask task.id)
  else
    let (heap, pos) := q.heap.insert task
    .ok ⟨{ q with heap, inFlight := q.inFlight.erase task.id }, (), pos == 0⟩

/-- Add a task, or move the queued task of the same id to the new due time and keep its record.
Answers whether a task was added. -/
def upsert (q : Queue ω) (task : Task ω) : Except SchedulingError (Effect ω Bool) :=
  if q.closed then .error .queueClosed
  else
    match q.heap.position task.id with
    | some pos =>
      let (heap, settled) := q.heap.updateKey pos task.due
      .ok ⟨{ q with heap }, false, pos == 0 || settled == some 0⟩
    | none =>
      let (heap, pos) := q.heap.insert task
      .ok ⟨{ q with heap, inFlight := q.inFlight.erase task.id }, true, pos == 0⟩

/-- Move a queued task to a new due time. -/
def update (q : Queue ω) (id : String) (due : Int) : Except SchedulingError (Effect ω Unit) :=
  if q.closed then .error .queueClosed
  else
    match q.heap.position id with
    | none => .error (.taskNotFound id)
    | some pos =>
      let (heap, settled) := q.heap.updateKey pos due
      .ok ⟨{ q with heap }, (), pos == 0 || settled == some 0⟩

/-- Forget an id: drop its queued task, or else revoke its execution. Answers whether there was
either. Nobody is woken. -/
def remove (q : Queue ω) (id : String) : Queue ω × Bool :=
  match q.heap.position id with
  | some pos =>
    let (heap, task) := q.heap.removeAt pos
    ({ q with heap }, task.isSome)
  | none => ({ q with inFlight := q.inFlight.erase id }, q.inFlight.contains id)

/-- Hand back the next run of an executed task. Refused, with the answer `false`, if the id was
removed or given a new task since it was taken. -/
def requeue (q : Queue ω) (task : Task ω) : Except SchedulingError (Effect ω Bool) :=
  if q.closed then .error .queueClosed
  else if !q.inFlight.contains task.id then .ok ⟨q, false, false⟩
  else
    let inFlight := q.inFlight.erase task.id
    match q.heap.position task.id with
    | some pos =>
      let (heap, settled) := q.heap.updateKey pos task.due
      .ok ⟨{ q with heap, inFlight }, true, settled.getD pos == 0⟩
    | none =>
      let (heap, pos) := q.heap.insert task
      .ok ⟨{ q with heap, inFlight }, true, pos == 0⟩

/-- Close the queue for good and discard what it holds; answers how many tasks were queued.
Everybody is woken. -/
def close (q : Queue ω) : Queue ω × Nat :=
  let (heap, discarded) := q.heap.drain
  ({ heap, inFlight := ∅, closed := true }, discarded.length)

/-- What a consumer finds when it looks at the queue. -/
inductive Glance (ω : Type) where
  | closed
  /-- The head was due and is now in flight. -/
  | taken (task : Task ω) (rest : Queue ω)
  /-- Nothing is due: sleep until the head's due time, or for ever if the queue is empty. -/
  | sleep (wakeAt : Option Int)

/-- One look of a consumer at the queue. -/
def glance (q : Queue ω) (now : Int) : Glance ω :=
  if q.closed then .closed
  else
    match q.heap.peek with
    | none => .sleep none
    | some head =>
      if now < head.due then .sleep (some head.due)
      else
        match q.heap.popMin with
        | (heap, some task) => .taken task { q with heap, inFlight := q.inFlight.insert task.id }
        | (_, none) => .sleep none

theorem size_taken {q rest : Queue ω} {now : Int} {task : Task ω}
    (h : q.glance now = .taken task rest) : rest.size < q.size := by
  simp only [glance] at h
  split at h
  · cases h
  · split at h
    · cases h
    · rename_i head hpeek
      have hpos : 0 < q.heap.size := by
        obtain ⟨e, he, _⟩ := Option.map_eq_some_iff.1 hpeek
        exact (Array.getElem?_eq_some_iff.1 he).1
      have hsize := Heap.size_removeAt hpos
      split at h
      · cases h
      · split at h
        · rename_i heap _ hpop
          cases h
          rw [Heap.popMin] at hpop
          rw [hpop] at hsize
          simp only [size] at hsize ⊢
          omega
        · cases h

/-- Take every task that is due, in order. The last component is what the consumer finds then:
nothing if the queue is closed, else how long to sleep. -/
def takeDue (q : Queue ω) (now : Int) : Queue ω × List (Task ω) × Option (Option Int) :=
  match _h : q.glance now with
  | .closed => (q, [], none)
  | .sleep wakeAt => (q, [], some wakeAt)
  | .taken task rest =>
    let (after, tasks, last) := rest.takeDue now
    (after, task :: tasks, last)
termination_by q.size
decreasing_by exact size_taken ‹_›

end Queue

end Vigil
