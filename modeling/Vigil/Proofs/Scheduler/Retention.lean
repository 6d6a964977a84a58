import Vigil.Proofs.Scheduler.Runs

/-!
# No task is lost

A task leaves the heap while it is executed, and only an execution brings it back. At any moment of
any run an id that clients want is queued once, or the execution that took it last has its
hand-back still before it; so once all executions are over the id is queued. The one way out is a
due time that cannot be represented (`lost_late`).
-/
namespace Vigil

open Queue

variable {ω : Type}

theorem Task.nextRun?_eq_none_iff (t : Task ω) (completed : Int) :
    t.nextRun? completed = none ↔ Instant.latest < completed + t.interval := by
  rw [Task.nextRun?, Option.map_eq_none_iff, Instant.after?]
  split
  next fits => simp only [reduceCtorEq, false_iff, Int.not_lt, fits]
  next late => simpa using late

namespace Scheduler

variable {s : Scheduler ω}

theorem lost_of_mem_returning {name : String} {k n : Nat} {t u : Task ω}
    (member : .lost n u ∈ s.returning name k t) : Instant.latest < s.now + u.interval := by
  unfold returning at member
  split at member
  · cases member
  · split at member
    next late =>
      cases List.mem_singleton.mp member
      exact (Task.nextRun?_eq_none_iff _ _).mp late
    next =>
      split at member
      · cases member
      · cases List.mem_singleton.mp member

theorem lost_of_mem_doing {plan : Task ω → Execution} {job : Job ω} {n : Nat} {u : Task ω}
    (member : .lost n u ∈ (s.doing plan job).2) : Instant.latest < s.now + u.interval := by
  cases job with
  | dispatch name =>
    simp only [doing, handing] at member
    split at member
    · cases member
    · split at member
      · cases member
      · simp [Books.takings] at member
  | retire name fresh => cases member
  | release r => cases member
  | finish r => exact lost_of_mem_returning member
  | expire r => exact lost_of_mem_returning member
  | start name k t =>
    simp only [doing] at member
    split at member
    · exact lost_of_mem_returning member
    · cases member

theorem detach_now (s : Scheduler ω) (line : Line ω) : (s.detach line).now = s.now := by
  unfold detach
  split <;> rfl

theorem foldl_detach_now (lines : List (Line ω)) (s : Scheduler ω) :
    (lines.foldl detach s).now = s.now := by
  induction lines generalizing s with
  | nil => rfl
  | cons line rest ih => rw [List.foldl_cons, ih, detach_now]

theorem cancel_now (s : Scheduler ω) : s.cancel.now = s.now := foldl_wake_now _ _

theorem shutdown_now (s : Scheduler ω) : s.shutdown.scheduler.now = s.now :=
  (foldl_detach_now _ s.cancel).trans (cancel_now s)

theorem serve_now (s : Scheduler ω) (name : String) (call : Call ω) :
    (s.serve name call).now = s.now := by
  cases call with
  | addQueue =>
    simp only [serve, addQueue]
    split <;> rfl
  | removeQueue =>
    simp only [serve, removeQueue]
    split
    · rfl
    · exact detach_now _ _
  | closeQueue =>
    simp only [serve, closeQueue]
    split
    · rfl
    · exact putQueue_now _ _ _ _
  | register task =>
    simp only [serve, register]
    split
    · rfl
    · split
      · rfl
      · exact putQueue_now _ _ _ _
  | update task =>
    simp only [serve, update]
    split
    · rfl
    · split <;> exact putQueue_now _ _ _ _
  | remove id =>
    simp only [serve, remove]
    split
    · rfl
    · exact putQueue_now _ _ _ _
  | push task =>
    simp only [serve, push]
    split
    · rfl
    · split
      · rfl
      · exact putQueue_now _ _ _ _

/-- Clients lose nothing. -/
theorem lost_notMem_serving (s : Scheduler ω) (name : String) (call : Call ω) (k : Nat)
    (t : Task ω) : .lost k t ∉ s.serving name call := by
  cases call with
  | addQueue =>
    simp only [serving]
    split <;> simp
  | removeQueue => exact List.not_mem_nil
  | closeQueue =>
    simp only [serving]
    split <;> simp
  | register task =>
    simp only [serving, registering]
    split
    · simp
    · split
      · simp
      · split <;> simp
  | update task =>
    simp only [serving, updating]
    split
    · simp
    · split <;> simp
  | remove id =>
    simp only [serving]
    split <;> simp
  | push task =>
    simp only [serving, pushing]
    split
    · simp
    · split <;> simp

end Scheduler

namespace Chronicle

variable {c : Chronicle ω}

/-- The clock never goes back. -/
theorem step_now (c : Chronicle ω) (move : Move ω) :
    c.scheduler.now ≤ (c.step move).scheduler.now := by
  have still : ∀ {s : Scheduler ω}, s.now = c.scheduler.now → c.scheduler.now ≤ s.now :=
    fun same => Int.le_of_eq same.symm
  cases move with
  | client name call => exact still (Scheduler.serve_now _ _ _)
  | cancel => exact still (Scheduler.cancel_now _)
  | shutdown =>
    exact still (Scheduler.shutdown_now _)
  | take name =>
    simp only [Chronicle.step, Scheduler.takeOne?]
    split
    · exact still rfl
    next s task took =>
      split at took
      · cases took
      · split at took
        · cases took
        · split at took
          · cases took
            exact still rfl
          · cases took
  | work plan place =>
    simp only [Chronicle.step]
    split
    · exact still rfl
    · exact still (Scheduler.perform_now _ _ _)
  | wait duration =>
    simp only [Chronicle.step, Scheduler.reach_now]
    omega

theorem mem_next {s : Scheduler ω} {name other : String} {deeds : List (Deed ω)} {d : Deed ω}
    (member : d ∈ (c.next s name deeds).trail other) : d ∈ deeds ∨ d ∈ c.trail other := by
  simp only [next, noted] at member
  split at member
  · exact List.mem_append.mp member
  · exact Or.inr member

/-- Losses come from jobs only. -/
theorem lost_of_step {move : Move ω} {name : String} {k : Nat} {t : Task ω}
    (member : .lost k t ∈ (c.step move).trail name) :
    .lost k t ∈ c.trail name ∨ Instant.latest < c.scheduler.now + t.interval := by
  have client : ∀ {s : Scheduler ω} {other : String} {deeds : List (Deed ω)},
      .lost k t ∉ deeds → .lost k t ∈ (c.next s other deeds).trail name →
      .lost k t ∈ c.trail name ∨ Instant.latest < c.scheduler.now + t.interval := by
    intro s other deeds foreign inside
    rcases mem_next inside with new | old
    · exact absurd new foreign
    · exact Or.inl old
  cases move with
  | client other call => exact client (Scheduler.lost_notMem_serving _ _ _ _ _) member
  | cancel => exact Or.inl member
  | shutdown => exact Or.inl member
  | take other =>
    simp only [Chronicle.step] at member
    split at member
    · exact Or.inl member
    · exact client (by simp) member
  | work plan place =>
    simp only [Chronicle.step] at member
    split at member
    · exact Or.inl member
    · rcases mem_next member with new | old
      · exact Or.inr (Scheduler.lost_of_mem_doing new)
      · exact Or.inl old
  | wait duration => exact Or.inl member

/-- A task is lost only if its completion time and its interval exceed what a clock can show. -/
theorem lost_late (reached : c.Reached) {name : String} {k : Nat} {t : Task ω}
    (lost : .lost k t ∈ c.trail name) : Instant.latest < c.scheduler.now + t.interval := by
  induction reached with
  | fresh config now => cases lost
  | @step c _ move ih =>
    have clock := step_now c move
    rcases lost_of_step lost with before | late
    · have earlier := ih before
      omega
    · omega

/-- At an open queue, an id that was registered or replaced and not removed since is queued exactly
once and not in flight, or it is in flight and not queued, and the execution that took it last has
not handed it back. Where no execution of the id is outstanding, the id is queued. Executions are
lost only where completion time and interval exceed what a clock can show (`lost_late`); none of
this id was. -/
theorem standing_task_retained (reached : c.Reached) {name : String} {q : Queue ω}
    (here : c.scheduler.queue? name = some q) (open_ : q.closed = false) {id : String}
    (stands : standing id (c.trail name) = true)
    (unlost : ∀ k t, t.id = id → .lost k t ∉ c.trail name) :
    (q.copies id = 1 ∧ id ∉ q.inFlight ∨
      q.copies id = 0 ∧ id ∈ q.inFlight ∧
        ∃ k t, t.id = id ∧ lastTaken id (c.trail name) = some (k, t) ∧
          (name, k, t) ∈ c.scheduler.duties) ∧
      ((∀ k t, t.id = id → (name, k, t) ∉ c.scheduler.duties) → q.copies id = 1) := by
  have kept : c.Kept := reached.kept
  have retained := kept.retained here open_ stands unlost
  refine ⟨retained, ?_⟩
  intro idle
  rcases retained with ⟨once, _⟩ | ⟨_, _, k, t, named, _, owes⟩
  · exact once
  · exact absurd owes (idle k t named)

/-- While its first execution is under way, a registered task is owed by that execution. -/
theorem owed_by_first_execution :
    let task : Task Unit := { id := "a", due := 0, interval := Duration.ofSeconds 1, work := () }
    let plan : Task Unit → Execution := fun _ => { length := some (Duration.ofMillis 100) }
    let c := ({} : Chronicle Unit).run
      [.client "q" .addQueue, .client "q" (.register task), .work plan 0, .work plan 0]
    ∃ q, c.scheduler.queue? "q" = some q ∧ q.copies "a" = 0 ∧
      ∃ k t, t.id = "a" ∧ lastTaken "a" (c.trail "q") = some (k, t) ∧
        ("q", k, t) ∈ c.scheduler.duties := by
  intro task plan c
  have reached : c.Reached := Reached.run (.fresh {} 0) _
  have facts : (c.scheduler.queue? "q").map (fun q => (q.closed, q.copies "a")) =
      some (false, 0) := by
    decide +kernel
  obtain ⟨q, here, same⟩ := Option.map_eq_some_iff.mp facts
  obtain ⟨open_, absent⟩ := Prod.mk.inj same
  have unlost : ∀ k t, t.id = "a" → .lost k t ∉ c.trail "q" := by
    intro k t _ lost
    have trail : c.trail "q" = [.taken 0 task, .installed task, .opened] := by decide +kernel
    rw [trail] at lost
    simp at lost
  obtain ⟨retained, _⟩ := standing_task_retained reached here open_ (by decide +kernel) unlost
  rcases retained with ⟨once, _⟩ | ⟨_, _, owed⟩
  · rw [absent] at once
    cases once
  · exact ⟨q, here, absent, owed⟩

end Chronicle

end Vigil
