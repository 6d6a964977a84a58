import Vigil.Scheduler.Dispatch
/-!
A scheduler on a clock that moves only when told to. Between two movements everything that can run
does so, first come first served, and the clock stops at every timer on its way.
-/

namespace Vigil.Scheduler

variable {ω : Type}

/-- How much a job counts for: itself and the jobs it can give rise to. The end of an execution may
bring its task back at once, and counts for that too; the start of one does not. -/
def weight : Job ω → Nat
  | .finish _ | .expire _ => 7
  | .start .. => 3
  | .dispatch _ | .retire .. | .release _ => 1

/-- How many tasks of a queue are due. -/
def dueCount (now : Int) (l : Line ω) : Nat := l.queue.heap.slots.countP (·.task.isDue now)

/-- A measure of what is left to do at the current instant: the jobs, and the dispatch of each task
that is due. -/
def workload (s : Scheduler ω) : Nat :=
  s.ready.foldr (fun job n => weight job + n) 0 +
    4 * s.lines.foldr (fun l n => dueCount s.now l + n) 0

/-- Run what can run, in order, until nothing is left. A task whose interval is zero and whose
execution takes no time would come back for ever; a step that leaves as much to do as before is
the last. -/
def settle (plan : Task ω → Execution) (s : Scheduler ω) : Scheduler ω × List (Event ω) :=
  match s.ready with
  | [] => (s, [])
  | job :: rest =>
    let next := ({ s with ready := rest }).perform plan job
    if next.1.workload < s.workload then
      let final := next.1.settle plan
      (final.1, next.2 ++ final.2)
    else next
termination_by s.workload

/-- The next instant after now at which a timer of a loop or of an execution fires. -/
def nextTimer (s : Scheduler ω) : Option Int :=
  let loops := s.lines.filterMap fun l =>
    match l.loop with
    | .blocked wakeAt => wakeAt.map Instant.ceilMilli
    | _ => none
  let runs := s.running.filterMap (·.overAt s.config.executionTimeout)
  ((loops ++ runs).filter (s.now < ·)).min?

/-- Set the clock and make everything runnable whose timer has fired. -/
def reach (s : Scheduler ω) (now : Int) : Scheduler ω :=
  let limit := s.config.executionTimeout
  let ended (r : Run ω) := (r.overAt limit).any (· ≤ now)
  let woken := (s.lines.filter fun l =>
    match l.loop with
    | .blocked wakeAt => wakeAt.any (Instant.ceilMilli · ≤ now)
    | _ => false).map (·.name)
  let s' := woken.foldl wake { s with now }
  { s' with
    running := s'.running.filter (!ended ·)
    ready := s'.ready ++ (s'.running.filter ended).map (·.overJob limit) }

theorem settle_now (plan : Task ω → Execution) (s : Scheduler ω) :
    (s.settle plan).1.now = s.now := by
  fun_induction settle plan s with
  | case1 => rfl
  | case2 s job rest _ next _ final ih => simp_all [next, final]
  | case3 s job rest _ next _ => simp [next]

theorem foldl_wake_now (names : List String) (s : Scheduler ω) :
    (names.foldl wake s).now = s.now := by
  induction names generalizing s with
  | nil => rfl
  | cons n rest ih => simp [ih]

theorem reach_now (s : Scheduler ω) (now : Int) : (s.reach now).now = now := by
  simp [reach, foldl_wake_now]

theorem now_lt_nextTimer {s : Scheduler ω} {t : Int} (h : s.nextTimer = some t) : s.now < t := by
  have := List.min?_mem h
  simpa using (List.mem_filter.1 this).2

/-- Move the clock to `target`, stopping at every timer on the way; events carry their time. -/
def advanceTo (plan : Task ω → Execution) (s : Scheduler ω) (target : Int) :
    Scheduler ω × List (Int × Event ω) :=
  let stop (t : Int) : Scheduler ω × List (Int × Event ω) :=
    let settled := (s.reach t).settle plan
    (settled.1, settled.2.map (t, ·))
  match _h : s.nextTimer with
  | none => stop target
  | some t =>
    if t ≤ target then
      let reached := stop t
      let final := reached.1.advanceTo plan target
      (final.1, reached.2 ++ final.2)
    else stop target
termination_by (target - s.now).toNat
decreasing_by
  have hlt := now_lt_nextTimer ‹s.nextTimer = some t›
  have hnow : reached.1.now = t := by simp [reached, stop, settle_now, reach_now]
  rw [hnow]
  omega

end Vigil.Scheduler
