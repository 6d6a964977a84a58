import Vigil.Queue
/-!
A queue with the consumers that stand at it, on one clock. A consumer that finds nothing due
blocks until it is woken, its cancellation token is cancelled or its timer fires, and then looks
again from scratch. Cancellation wins over a due task.
-/

namespace Vigil

open Std

/-- A consumer waiting for a task. `wakeAt` is the deadline of its timer; `woken` tells that it
has to look at the queue, either for the first time or because a producer asked for it. -/
structure Consumer where
  token : String
  wakeAt : Option Int := none
  woken : Bool := true
  deriving DecidableEq, Repr

structure Station (ω : Type) where
  queue : Queue ω := {}
  now : Int := 0
  cancelled : ExtTreeSet String := ∅
  consumers : List Consumer := []

namespace Station

variable {ω : Type}

/-- What a consumer leaves with. -/
inductive Outcome (ω : Type) where
  | task (task : Task ω)
  | refused (why : SchedulingError)
  deriving DecidableEq

/-- Whether a consumer can run at the current time. -/
def runnable (s : Station ω) (c : Consumer) : Bool :=
  c.woken || s.cancelled.contains c.token || c.wakeAt.any (Instant.ceilMilli · ≤ s.now)

/-- Put an operation's effect in place. -/
def apply {α : Type} (s : Station ω) (e : Queue.Effect ω α) : Station ω :=
  { s with
    queue := e.queue
    consumers := if e.wakes then s.consumers.map fun c => { c with woken := true } else s.consumers }

/-- Close the queue; answers how many tasks it held. -/
def close (s : Station ω) : Station ω × Nat :=
  let (queue, discarded) := s.queue.close
  (s.apply ⟨queue, (), true⟩, discarded)

/-- A new consumer steps up. -/
def join (s : Station ω) (token : String) : Station ω :=
  { s with consumers := s.consumers ++ [{ token }] }

def cancel (s : Station ω) (token : String) : Station ω :=
  { s with cancelled := s.cancelled.insert token }

/-- One consumer runs: it leaves with an outcome, or blocks again on a fresh deadline. -/
def poll (s : Station ω) (c : Consumer) : Queue ω × (Consumer ⊕ Outcome ω) :=
  if s.cancelled.contains c.token then (s.queue, .inr (.refused .cancelled))
  else
    match s.queue.glance s.now with
    | .closed => (s.queue, .inr (.refused .queueClosed))
    | .taken task rest => (rest, .inr (.task task))
    | .sleep wakeAt => (s.queue, .inl { c with wakeAt, woken := false })

/-- Let the listed consumers run, each once and in order, if they can. Consumers do not wake each
other, so afterwards none of them can run. -/
def run (s : Station ω) : List Consumer → Station ω × List (Outcome ω)
  | [] => (s, [])
  | c :: rest =>
    if s.runnable c then
      match s.poll c with
      | (queue, .inl blocked) =>
        let (s', out) := run { s with queue } rest
        ({ s' with consumers := blocked :: s'.consumers }, out)
      | (queue, .inr outcome) =>
        let (s', out) := run { s with queue } rest
        (s', outcome :: out)
    else
      let (s', out) := run s rest
      ({ s' with consumers := c :: s'.consumers }, out)

/-- Let every consumer that can run do so; the outcomes carry the current time. -/
def settle (s : Station ω) : Station ω × List (Int × Outcome ω) :=
  let (s', out) := run { s with consumers := [] } s.consumers
  (s', out.map (s.now, ·))

/-- The next instant after now at which a consumer's timer fires. -/
def nextTimer (s : Station ω) : Option Int :=
  ((s.consumers.filterMap (·.wakeAt)).map Instant.ceilMilli |>.filter (s.now < ·)).min?

theorem now_lt_nextTimer {s : Station ω} {t : Int} (h : s.nextTimer = some t) : s.now < t := by
  have := List.min?_mem h
  simpa using (List.mem_filter.1 this).2

theorem run_now (s : Station ω) (cs : List Consumer) : (s.run cs).1.now = s.now := by
  induction cs generalizing s with
  | nil => rfl
  | cons c rest ih =>
    simp only [run]
    split
    · split <;> simp [ih]
    · simp [ih]

theorem settle_now (s : Station ω) : s.settle.1.now = s.now := by
  simp [settle, run_now]

/-- Move the clock to `target`, stopping at every timer on the way. -/
def advanceTo (s : Station ω) (target : Int) : Station ω × List (Int × Outcome ω) :=
  match _h : s.nextTimer with
  | none => ({ s with now := target }).settle
  | some t =>
    if t ≤ target then
      let reached := ({ s with now := t }).settle
      let final := reached.1.advanceTo target
      (final.1, reached.2 ++ final.2)
    else ({ s with now := target }).settle
termination_by (target - s.now).toNat
decreasing_by
  have hlt := now_lt_nextTimer ‹s.nextTimer = some t›
  have hnow : reached.1.now = t := settle_now { s with now := t }
  rw [hnow]
  omega

end Station

end Vigil
