import Vigil.Time
/-!
Periodic work. A task is due at an instant and comes back one interval after each of its
executions has ended, so slow executions push the schedule forward and never pile up.
-/

namespace Vigil

/-- Who carries executions out. A program tells its executors apart by number. -/
structure Executor where
  number : Nat := 0
  deriving DecidableEq, Repr

/-- A unit of periodic work. `work` says what an execution is to do; neither it nor the executor is
ever looked at by the queue. `run` counts the executions of this record that were handed back
before. -/
structure Task (ω : Type) where
  id : String
  due : Int
  interval : Nat
  executor : Executor := {}
  work : ω
  run : Nat := 0
  deriving DecidableEq, Repr

namespace Task

variable {ω : Type}

/-- A new task, first due one interval after `now`, if that instant exists. -/
def first? (id : String) (interval : Nat) (work : ω) (now : Int) (executor : Executor := {}) :
    Option (Task ω) :=
  (Instant.after? now interval).map fun due => { id, due, interval, executor, work }

def dueAt (t : Task ω) (due : Int) : Task ω := { t with due }

/-- The task moved to `delay` after `now`, if that instant exists. -/
def dueIn? (t : Task ω) (now : Int) (delay : Nat) : Option (Task ω) :=
  (Instant.after? now delay).map t.dueAt

/-- The same record, due one interval after `completed`, if that instant exists. -/
def nextRun? (t : Task ω) (completed : Int) : Option (Task ω) :=
  (Instant.after? completed t.interval).map fun due => { t with due, run := t.run + 1 }

def isDue (t : Task ω) (now : Int) : Bool := t.due ≤ now

theorem nextRun?_eq_some {t u : Task ω} {completed : Int}
    (h : t.nextRun? completed = some u) :
    u.id = t.id ∧ u.due = completed + t.interval ∧ u.interval = t.interval ∧ u.work = t.work ∧
      u.run = t.run + 1 ∧ u.executor = t.executor := by
  obtain ⟨due, hdue, rfl⟩ := Option.map_eq_some_iff.1 h
  exact ⟨rfl, (Instant.after?_eq_some hdue).1, rfl, rfl, rfl, rfl⟩

end Task

end Vigil
