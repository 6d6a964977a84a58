import Vigil.Proofs.Scheduler.Stopping

/-!
# What begins was handed over

A loop that looks hands tasks over, and each of them is the start of an execution that stands in
line until it begins. So for every task the executions that begin, with those that still are to,
are as many as the hand-overs with those that were to begin before (`balance_run`).
-/
namespace Vigil

open Queue

variable {ω : Type}

/-- Whether the task with this id, of the queue of this name, is handed over. -/
def Event.dispatches (name id : String) : Event ω → Bool
  | .notice (.dispatching queue i) => queue == name && i == id
  | _ => false

def Occasion.begins : Occasion → Bool
  | .begun _ => true
  | _ => false

namespace Scheduler

variable {s s' : Scheduler ω} {name id : String}

/-! ### What was handed over and is to begin -/

/-- How many executions of a task were handed over and are to begin. -/
def awaiting (s : Scheduler ω) (name id : String) : Nat :=
  (s.whereabouts name id).jobs.countP (·.begins)

theorem jobs_of_engaged (s : Scheduler ω) (name id : String) :
    (s.whereabouts name id).jobs = s.engaged.1.filter (·.concerns name id) := by
  have owed : ∀ job : Job ω, (job.concerns name id && job.duty.isSome) = job.concerns name id := by
    intro job
    cases job <;> simp [Job.concerns, Job.duty]
  simp only [whereabouts, engaged, List.filter_filter, owed]

theorem awaiting_of_engaged (same : s'.engaged.1 = s.engaged.1) (name id : String) :
    s'.awaiting name id = s.awaiting name id := by
  rw [awaiting, awaiting, jobs_of_engaged, jobs_of_engaged, same]

theorem dispatches_blind (name id : String) {n : Notice} (other : n.ofLoop = false) :
    Event.dispatches (ω := ω) name id (.notice n) = false := by
  cases n <;> first | rfl | cases other

theorem awaiting_eq (s : Scheduler ω) (name id : String) :
    s.awaiting name id = s.ready.countP fun job => job.begins && job.concerns name id := by
  rw [awaiting, whereabouts, List.countP_filter]

/-- A loop that looks reports each task that it hands over. -/
theorem countP_handed (name id other : String) (tasks : List (Task ω)) (first : Nat) :
    ((tasks.zipIdx first).map fun (t, k) => Job.start other k t).countP
        (fun job => job.begins && job.concerns name id) =
      (tasks.map fun t => Event.notice (ω := ω) (.dispatching other t.id)).countP
        (Event.dispatches name id) := by
  induction tasks generalizing first with
  | nil => rfl
  | cons t rest ih =>
    rw [List.zipIdx_cons, List.map_cons, List.map_cons, List.countP_cons, List.countP_cons, ih]
    rfl

theorem awaiting_dispatch {other : String} (sound : ∀ q, s.queue? other = some q → q.Sound) :
    (s.dispatch other).1.awaiting name id =
      s.awaiting name id + (s.dispatch other).2.countP (Event.dispatches name id) := by
  cases here : s.line? other with
  | none =>
    simp only [dispatch, here]
    rfl
  | some line =>
    obtain ⟨opening, said, ⟨_, why, left⟩ | ⟨_, _, q, tasks, wakeAt, _, slept⟩⟩ :=
      dispatch_cases sound here
    · rw [left]
      rcases said with rfl | rfl <;> rfl
    · rw [slept, List.countP_append]
      have silent : opening.countP (Event.dispatches name id) = 0 := by
        rcases said with rfl | rfl <;> rfl
      simp only [awaiting_eq, List.countP_append, countP_handed, silent, Nat.zero_add]

/-- Executions hand nothing over. -/
theorem dispatches_perform (plan : Task ω → Execution) (s : Scheduler ω) {job : Job ω}
    (ofExecution : ∀ other, job ≠ .dispatch other) :
    (s.perform plan job).2.countP (Event.dispatches name id) = 0 := by
  have finished (r : Run ω) : (s.finish r).2.countP (Event.dispatches name id) = 0 := by
    have silent := countP_notices (fun _ => dispatches_blind (ω := ω) name id)
      (s.ofLoop_reschedule r.queue r.task)
    have report := dispatches_blind (ω := ω) name id
      (ofLoop_ofEnding r.task.id r.plan.ending)
    simp only [finish, List.countP_cons, silent, report]
    rfl
  have expired (r : Run ω) : (s.expire r).2.countP (Event.dispatches name id) = 0 := by
    have silent := countP_notices (fun _ => dispatches_blind (ω := ω) name id)
      (ofLoop_reschedule { s with ready := s.ready ++ [.release r] } r.queue r.task)
    simp only [expire, List.countP_cons, silent]
    rfl
  cases job with
  | dispatch other => exact absurd rfl (ofExecution other)
  | retire other fresh => cases fresh <;> rfl
  | finish r => exact finished r
  | expire r => exact expired r
  | release r => rfl
  | start other k t =>
    simp only [perform, start_eq]
    exact launch_induction s _ (finished _) (expired _) rfl

theorem engaged_perform (plan : Task ω → Execution) (s : Scheduler ω) {job : Job ω}
    (ofExecution : ∀ other, job ≠ .dispatch other) :
    (s.perform plan job).1.engaged.1 = s.engaged.1 := by
  have finished (r : Run ω) : (s.finish r).1.engaged.1 = s.engaged.1 :=
    congrArg Prod.fst (engaged_reschedule s r.queue r.task)
  have expired (r : Run ω) : (s.expire r).1.engaged.1 = s.engaged.1 :=
    congrArg Prod.fst (engaged_expire s r)
  cases job with
  | dispatch other => exact absurd rfl (ofExecution other)
  | retire | release => rfl
  | finish r => exact finished r
  | expire r => exact expired r
  | start other k t =>
    simp only [perform, start_eq]
    exact launch_induction s _ (finished _) (expired _) rfl

theorem countP_begins_perform (plan : Task ω → Execution) (s : Scheduler ω) {job : Job ω}
    (idle : job.begins = false) : (s.perform plan job).2.countP Event.begins = 0 := by
  refine List.countP_eq_zero.mpr fun e member => ?_
  rw [begins_perform plan s idle e member]
  exact Bool.false_ne_true

/-- The start of an execution says once that it begins. -/
theorem begins_start (plan : Task ω → Execution) (s : Scheduler ω) (other : String) (k : Nat)
    (t : Task ω) : (s.perform plan (.start other k t)).2.countP Event.begins = 1 := by
  let r : Run ω := { queue := other, ticket := k, task := t, since := s.now, plan := plan t }
  have finished : (s.perform plan (.finish r)).2.countP Event.begins = 0 :=
    countP_begins_perform plan s rfl
  have expired : (s.perform plan (.expire r)).2.countP Event.begins = 0 :=
    countP_begins_perform plan s rfl
  have silent : (s.launch r).2.countP Event.begins = 0 :=
    launch_induction s r finished expired rfl
  have began : (s.perform plan (.start other k t)).2 = .started t :: (s.launch r).2 := rfl
  rw [began, List.countP_cons, silent]
  rfl

end Scheduler

namespace Chronicle

open Scheduler

variable {c : Chronicle ω} {name id : String}

/-! ### Hand-overs and beginnings -/

/-- When a task is handed over in a row of moves. -/
def dispatches (c : Chronicle ω) (name id : String) (moves : List (Move ω)) : List Int :=
  ((c.happened moves).filter (·.2.dispatches name id)).map (·.1)

/-- How many executions begin. -/
def begun (course : List (Int × Occasion)) : Nat := course.countP (·.2.begins)

theorem happened_cons (c : Chronicle ω) (move : Move ω) (rest : List (Move ω)) :
    c.happened (move :: rest) =
      (c.emits move).map (c.scheduler.now, ·) ++ (c.step move).happened rest := by
  rw [← happened_singleton]
  exact c.happened_append [move] rest

theorem dispatches_cons (c : Chronicle ω) (name id : String) (move : Move ω)
    (rest : List (Move ω)) :
    c.dispatches name id (move :: rest) =
      List.replicate ((c.emits move).countP (Event.dispatches name id)) c.scheduler.now ++
        (c.step move).dispatches name id rest := by
  have now : ((c.emits move).map (c.scheduler.now, ·)).filter (·.2.dispatches name id) =
      ((c.emits move).filter (Event.dispatches name id)).map (c.scheduler.now, ·) := by
    rw [List.filter_map]
    rfl
  rw [dispatches, happened_cons, List.filter_append, List.map_append, now, List.map_map,
    List.countP_eq_length_filter]
  congr 1
  exact List.map_const'

theorem begun_occasions (plan : Task ω → Execution) {place : Nat} {job : Job ω}
    (found : c.scheduler.ready[place]? = some job) (own : job.concerns name id = true) :
    begun (c.occasions name id (.work plan place)) =
      (c.emits (.work plan place)).countP Event.begins := by
  have same : ∀ e : Event ω,
      (((e.occasion? plan).map (c.scheduler.now, ·)).map (·.2.begins)).getD false = e.begins := by
    intro e
    cases e <;> rfl
  rw [begun, occasions, found, Option.any_some, if_pos own, List.countP_filterMap]
  simp only [same]

/-- What a job adds to what is to begin, with what it begins itself. -/
theorem balance_work (reached : Reached c) (plan : Task ω → Execution) {place : Nat} {job : Job ω}
    (found : c.scheduler.ready[place]? = some job) (name id : String) :
    begun (c.occasions name id (.work plan place)) +
        (c.step (.work plan place)).scheduler.awaiting name id =
      c.scheduler.awaiting name id +
        (c.emits (.work plan place)).countP (Event.dispatches name id) := by
  let rest : Scheduler ω := { c.scheduler with ready := c.scheduler.ready.eraseIdx place }
  have taken : rest.awaiting name id + (job.begins && job.concerns name id).toNat =
      c.scheduler.awaiting name id := by
    rw [awaiting_eq, awaiting_eq]
    exact countP_eraseIdx_add found _
  have foreign (other : job.concerns name id = false) :
      begun (c.occasions name id (.work plan place)) = 0 := by
    simp [begun, occasions, found, other]
  have emitted : c.emits (.work plan place) = (rest.perform plan job).2 := by
    simp only [emits, found, rest]
  have stepped : (c.step (.work plan place)).scheduler = (rest.perform plan job).1 := by
    simp only [Chronicle.step, found, next, rest]
  rw [stepped, emitted]
  by_cases looks : ∃ other, job = .dispatch other
  · obtain ⟨other, rfl⟩ := looks
    have looked : (rest.dispatch other).1.awaiting name id = _ :=
      awaiting_dispatch (fun _ => reached.sound _)
    rw [foreign rfl]
    simp only [perform, looked]
    simp only [Job.begins, Bool.false_and, Bool.toNat_false] at taken
    omega
  · have ofExecution : ∀ other, job ≠ .dispatch other := not_exists.mp looks
    rw [awaiting_of_engaged (engaged_perform plan rest ofExecution) name id,
      dispatches_perform plan rest ofExecution]
    cases own : job.concerns name id with
    | false =>
      rw [own, Bool.and_false] at taken
      rw [foreign own]
      simp only [Bool.toNat_false] at taken
      omega
    | true =>
      rw [begun_occasions plan found own, emitted]
      rw [own, Bool.and_true] at taken
      cases begins : job.begins with
      | false =>
        have silent := countP_begins_perform plan rest begins
        rw [begins, Bool.toNat_false] at taken
        omega
      | true =>
        cases job with
        | start other k t =>
          rw [begins_start]
          simp only [begins, Bool.toNat_true] at taken
          omega
        | dispatch | retire | finish | expire | release => cases begins

/-- Whatever begins was handed over before. -/
theorem balance_step (reached : Reached c) (name id : String) (move : Move ω) :
    begun (c.occasions name id move) + (c.step move).scheduler.awaiting name id =
      c.scheduler.awaiting name id + (c.emits move).countP (Event.dispatches name id) := by
  have nothing {move : Move ω} (unseen : c.occasions name id move = [])
      (silent : (c.emits move).countP (Event.dispatches name id) = 0)
      (same : (c.step move).scheduler.engaged.1 = c.scheduler.engaged.1) :
      begun (c.occasions name id move) + (c.step move).scheduler.awaiting name id =
        c.scheduler.awaiting name id + (c.emits move).countP (Event.dispatches name id) := by
    rw [unseen, silent, awaiting_of_engaged same]
    exact Nat.zero_add _
  cases move with
  | client other call =>
    have sound : ∀ q, c.scheduler.queue? other = some q → q.Sound := reached.sound
    have served := serve_served sound call
    have silent := countP_notices (fun _ => dispatches_blind (ω := ω) name id)
      (ofLoop_reports c.scheduler other call)
    exact nothing rfl silent (congrArg Prod.fst served.engaged)
  | cancel => exact nothing rfl rfl (congrArg Prod.fst (engaged_cancel _))
  | shutdown =>
    refine nothing rfl (countP_notices (fun _ => dispatches_blind name id) fun n member => ?_)
      (congrArg Prod.fst (engaged_shutdown _))
    obtain ⟨line, _, told⟩ := List.mem_flatMap.mp member
    rcases List.mem_pair.mp told with rfl | rfl <;> rfl
  | take other =>
    cases took : c.scheduler.takeOne? other with
    | none => exact nothing rfl (by simp [emits, took]) (by simp [Chronicle.step, took])
    | some x =>
      obtain ⟨s, t⟩ := x
      obtain ⟨line, _, _, _, _, rfl⟩ := takeOne?_took (fun _ => reached.sound _) took
      have one := countP_handed name id other [t] c.scheduler.dispatched
      simp only [Chronicle.step, emits, took, next, awaiting_eq, List.countP_append]
      exact (Nat.zero_add _).trans (congrArg (_ + ·) one)
  | work plan place =>
    cases found : c.scheduler.ready[place]? with
    | none =>
      exact nothing (by simp [occasions, found]) (by simp [emits, found])
        (by simp [Chronicle.step, found])
    | some job => exact balance_work reached plan found name id
  | wait duration =>
    have same : (c.step (.wait duration)).scheduler.awaiting name id =
        c.scheduler.awaiting name id := by
      simp only [Chronicle.step, awaiting, whereabouts_reach, whereabouts_conclude,
        List.countP_append]
      refine (Nat.add_eq_left).mpr (List.countP_eq_zero.mpr fun job member => ?_)
      obtain ⟨r, _, rfl⟩ := List.mem_map.mp member
      unfold Run.overJob
      split <;> exact Bool.false_ne_true
    rw [same]
    exact Nat.zero_add _

theorem balance_run (reached : Reached c) (name id : String) (moves : List (Move ω)) :
    begun (c.course name id moves) + (c.run moves).scheduler.awaiting name id =
      c.scheduler.awaiting name id + (c.dispatches name id moves).length := by
  induction moves generalizing c with
  | nil => exact Nat.zero_add _
  | cons move rest ih =>
    have first := balance_step reached name id move
    have others := ih (reached.step move)
    have split : begun (c.course name id (move :: rest)) =
        begun (c.occasions name id move) + begun ((c.step move).course name id rest) :=
      List.countP_append
    have ran : c.run (move :: rest) = (c.step move).run rest := rfl
    rw [split, dispatches_cons, List.length_append, List.length_replicate, ran]
    omega

end Chronicle

end Vigil
