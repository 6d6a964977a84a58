import Vigil.Proofs.Scheduler.Whereabouts

/-!
# How a task stands

A task that was registered once stands in one of five ways (`Stands`): it is queued, handed over,
executed, its execution is over and waits to be concluded, or its next due time is no instant that
a clock can show. Whatever is done elsewhere leaves it standing; its own jobs and the clock take it
from one way to the next, and only at the instant that the fixed delay asks for. What makes the
clock stop there is the timer of its execution, or of a dispatch loop that pays attention.
-/
namespace Vigil

open Queue

variable {ω : Type}

namespace Scheduler

/-- How a task with this interval stands at the current instant. -/
inductive Stands (interval : Nat) (s : Scheduler ω) (name id : String) : Phase → Prop where
  | queued {t : Task ω} (place : s.whereabouts name id = { held := (some t, false) })
      (same : t.interval = interval) (on : s.now ≤ Instant.ceilMilli t.due) :
      Stands interval s name id (.waiting t.due)
  | handed {k : Nat} {t : Task ω}
      (place : s.whereabouts name id = { held := (none, true), jobs := [.start name k t] })
      (same : t.interval = interval) (due : Instant.Near t.due s.now) :
      Stands interval s name id (.waiting t.due)
  | running {r : Run ω} (place : s.whereabouts name id = { held := (none, true), runs := [r] })
      (same : r.task.interval = interval)
      (on : ∀ c, r.overAt s.config.executionTimeout = some c → s.now < c) :
      Stands interval s name id (.busy r.since r.plan)
  | past {r : Run ω}
      (place : s.whereabouts name id =
        { held := (none, true), jobs := [r.overJob s.config.executionTimeout] })
      (same : r.task.interval = interval)
      (at_ : r.overAt s.config.executionTimeout = some s.now) :
      Stands interval s name id (.busy r.since r.plan)
  /-- The next due time cannot be shown. -/
  | lost {due : Int} (place : s.whereabouts name id = { held := (none, true) })
      (late : Instant.latest < due) : Stands interval s name id (.waiting due)

variable {s s' : Scheduler ω} {name id : String} {interval : Nat} {phase : Phase}

theorem Stands.congr (stands : s.Stands interval name id phase)
    (place : s'.whereabouts name id = s.whereabouts name id) (now : s'.now = s.now)
    (config : s'.config = s.config) : s'.Stands interval name id phase := by
  cases stands with
  | queued place' same on => exact .queued (place.trans place') same (now ▸ on)
  | handed place' same due => exact .handed (place.trans place') same (now ▸ due)
  | running place' same on => exact .running (place.trans place') same (by rwa [now, config])
  | past place' same at_ =>
    exact .past (by rw [place, place', config]) same (by rwa [now, config])
  | lost place' late => exact .lost (place.trans place') late

theorem Stands.of_handed (stands : s.Stands interval name id phase)
    (handed : Handed s name id s') (now : s'.now = s.now) (config : s'.config = s.config) :
    s'.Stands interval name id phase := by
  rcases handed with same | ⟨t, k, held, due, taken⟩
  · exact stands.congr same now config
  · cases stands with
    | @queued u place same on =>
      rw [place] at held taken
      cases held
      exact .handed taken same (now ▸ ⟨due, on⟩)
    | handed place | running place | past place | lost place =>
      rw [place] at held
      cases held

/-! ### What the task's own jobs do -/

theorem eraseIdx_own {place : Nat} {job only : Job ω} (found : s.ready[place]? = some job)
    (own : job.concerns name id = true) (one : (s.whereabouts name id).jobs = [only]) :
    job = only ∧ ({ s with ready := s.ready.eraseIdx place } : Scheduler ω).whereabouts name id =
      { s.whereabouts name id with jobs := [] } := by
  obtain ⟨before, after, whole, rest⟩ := exists_filter_eraseIdx (·.concerns name id) found
  have parts : before ++ (job :: after) = [only] := by
    rw [← one, whereabouts, whole, List.filter_singleton, own, cond_true, List.append_assoc,
      List.singleton_append]
  rcases List.append_eq_singleton_iff.mp parts with ⟨rfl, single⟩ | ⟨_, none_⟩
  · obtain ⟨first, rfl⟩ := List.cons_eq_cons.mp single
    exact ⟨first, Whereabouts.ext rfl rest rfl⟩
  · cases none_

/-- A mark is left by an open queue only. -/
theorem open_of_flying (sound : ∀ q, s.queue? name = some q → q.Sound)
    (flying : (s.whereabouts name id).held.2 = true) :
    ∃ q, s.queue? name = some q ∧ q.closed = false ∧ id ∈ q.inFlight := by
  cases here : s.queue? name with
  | none =>
    simp [whereabouts, here] at flying
  | some q =>
    rw [held_of_queue? here, ← mem_inFlight_iff] at flying
    refine ⟨q, rfl, ?_, flying⟩
    rw [← Bool.not_eq_true]
    exact fun shut => ((sound q here).emptied shut).2 id flying

/-- An execution that is over gives its task back, due one interval later. -/
theorem Rescheduled.stands (sound : ∀ q, s.queue? name = some q → q.Sound)
    (place : s.whereabouts name id = { held := (none, true) }) {t : Task ω} (named : t.id = id)
    (back : Rescheduled s name t s') (now : s'.now = s.now) :
    s'.Stands t.interval name id (.waiting (s.now + t.interval)) := by
  obtain ⟨q, here, open_, flying⟩ := open_of_flying sound (by rw [place])
  cases back with
  | dropped why =>
    exact .lost place ((Task.nextRun?_eq_none_iff t s.now).mp (why q here open_))
  | @revoked r there absent =>
    cases here.symm.trans there
    exact absurd (named ▸ flying) absent
  | @returned r next there _ again _ free =>
    cases here.symm.trans there
    obtain ⟨same, due, interval, _⟩ := Task.nextRun?_eq_some again
    have queued : (s.putQueue name (q.place next) ((q.heap.insert next).2 == 0)).whereabouts
        name id = { held := (some next, false) } := by
      rw [whereabouts_putQueue here, if_pos rfl, place,
        (sound q here).holds_place open_ (same ▸ free), if_pos (same.trans named)]
    rw [← due]
    refine .queued queued interval ?_
    rw [now, due]
    have later := Instant.le_ceilMilli (s.now + t.interval)
    omega

theorem filterMap_notices (plan : Task ω → Execution) (notices : List Notice) :
    (notices.map Event.notice).filterMap (·.occasion? plan) = [] := by
  rw [List.filterMap_eq_nil_iff]
  intro event member
  obtain ⟨notice, _, rfl⟩ := List.mem_map.mp member
  rfl

/-- The task's own execution is over. -/
theorem stands_overJob (plan : Task ω → Execution) (sound : ∀ q, s.queue? name = some q → q.Sound)
    (place : s.whereabouts name id = { held := (none, true) }) {r : Run ω}
    (own : r.concerns name id = true) (past : r.overAt s.config.executionTimeout = some s.now) :
    (s.perform plan (r.overJob s.config.executionTimeout)).1.Stands r.task.interval name id
        (.waiting (s.now + r.task.interval)) ∧
      ∃ how, r.plan.outcome? s.config.executionTimeout r.since = some (s.now, how) ∧
        (s.perform plan (r.overJob s.config.executionTimeout)).2.filterMap (·.occasion? plan) =
          [how] := by
  have outcome := r.outcome?_eq s.config.executionTimeout
  rw [past, Option.map_some] at outcome
  obtain ⟨rfl, named⟩ : r.queue = name ∧ r.task.id = id := by simpa [Run.concerns] using own
  unfold Run.overJob
  split
  next ended =>
    rw [if_pos ended] at outcome
    have back := reschedule_rescheduled sound r.task
    refine ⟨back.stands sound place named (reschedule_now s r.queue r.task), _, outcome, ?_⟩
    exact congrArg (.ended r.plan.ending :: ·) (filterMap_notices plan _)
  next cut =>
    rw [if_neg cut] at outcome
    let telling : Scheduler ω := { s with ready := s.ready ++ [.release r] }
    have sound' : ∀ q, telling.queue? r.queue = some q → q.Sound := sound
    have place' : telling.whereabouts r.queue id = { held := (none, true) } := by
      rw [← place]
      refine Whereabouts.ext rfl ?_ rfl
      simp [telling, whereabouts, List.filter_append, Job.concerns]
    have back := reschedule_rescheduled sound' r.task
    refine ⟨back.stands sound' place' named (reschedule_now telling r.queue r.task), _, outcome, ?_⟩
    exact congrArg (.cut :: ·) (filterMap_notices plan _)

/-- The task's own execution begins. -/
theorem stands_start (plan : Task ω → Execution) (sound : ∀ q, s.queue? name = some q → q.Sound)
    (place : s.whereabouts name id = { held := (none, true) }) {t : Task ω} (named : t.id = id)
    (k : Nat) {due : Int} (near : Instant.Near due s.now) :
    ∃ phase, (s.start plan name k t).1.Stands t.interval name id phase ∧
      FixedDelay Instant.Near s.config.executionTimeout t.interval (.waiting due)
        (((s.start plan name k t).2.filterMap (·.occasion? plan)).map (s.now, ·)) phase := by
  let r : Run ω := { queue := name, ticket := k, task := t, since := s.now, plan := plan t }
  have own : r.concerns name id = true := by simp [r, Run.concerns, named]
  rw [start_eq]
  rcases launch_cases plan (r := r) rfl with ⟨past, launched⟩ | ⟨on, launched⟩
  · rw [launched]
    obtain ⟨stands, how, outcome, told⟩ := stands_overJob plan sound place own past
    have begun : (Event.started t).occasion? plan = some (.begun (plan t)) := rfl
    refine ⟨_, stands, ?_⟩
    simp only [List.filterMap_cons, begun, told]
    exact .begins near (.ends outcome (.nothing _))
  · rw [launched]
    have joined : ({ s with running := s.running ++ [r] } : Scheduler ω).whereabouts name id =
        { held := (none, true), runs := [r] } := by
      have held := congrArg Whereabouts.held place
      have jobs := congrArg Whereabouts.jobs place
      have alone : s.running.filter (·.concerns name id) = [] := congrArg Whereabouts.runs place
      refine Whereabouts.ext held jobs ?_
      simp only [whereabouts, List.filter_append, alone, List.filter_singleton, own, cond_true,
        List.nil_append]
    exact ⟨_, .running joined rfl on, .begins near (.nothing _)⟩

/-- One of the task's own jobs is done. -/
theorem Stands.work (stands : s.Stands interval name id phase)
    (sound : ∀ q, s.queue? name = some q → q.Sound) (plan : Task ω → Execution) {place : Nat}
    {job : Job ω} (found : s.ready[place]? = some job) (own : job.concerns name id = true) :
    let rest : Scheduler ω := { s with ready := s.ready.eraseIdx place }
    ∃ phase', (rest.perform plan job).1.Stands interval name id phase' ∧
      FixedDelay Instant.Near s.config.executionTimeout interval phase
        (((rest.perform plan job).2.filterMap (·.occasion? plan)).map (s.now, ·)) phase' := by
  intro rest
  have sound' : ∀ q, rest.queue? name = some q → q.Sound := sound
  have member : job ∈ (s.whereabouts name id).jobs :=
    List.mem_filter.mpr ⟨List.mem_of_getElem? found, own⟩
  cases stands with
  | queued there | running there | lost there =>
    rw [there] at member
    cases member
  | @handed k t there same near =>
    have one : (s.whereabouts name id).jobs = [.start name k t] := by rw [there]
    obtain ⟨rfl, left⟩ := eraseIdx_own found own one
    rw [there] at left
    have named : t.id = id := by simpa [Job.concerns] using own
    subst same
    exact stands_start plan sound' left named k near
  | @past r there same at_ =>
    have one : (s.whereabouts name id).jobs = [r.overJob s.config.executionTimeout] := by rw [there]
    obtain ⟨rfl, left⟩ := eraseIdx_own found own one
    rw [there] at left
    rw [concerns_overJob] at own
    subst same
    obtain ⟨stands, how, outcome, told⟩ := stands_overJob plan sound' left own at_
    refine ⟨_, stands, ?_⟩
    have told' : ((rest.perform plan (r.overJob s.config.executionTimeout)).2.filterMap
        (·.occasion? plan)) = [how] := told
    rw [told']
    exact .ends outcome (.nothing _)

/-! ### The clock -/

theorem ceilMilli_mono {a b : Int} (before : a ≤ b) :
    Instant.ceilMilli a ≤ Instant.ceilMilli b := by
  simp only [Instant.ceilMilli]
  omega

/-- The timer of a loop that sleeps, or of an execution. -/
def Armed (s : Scheduler ω) (timer : Int) : Prop :=
  (∃ line ∈ s.lines, ∃ wakeAt, line.loop = .blocked (some wakeAt) ∧
      timer = Instant.ceilMilli wakeAt) ∨
    ∃ r ∈ s.running, r.overAt s.config.executionTimeout = some timer

theorem nextTimer_le {timer : Int} (armed : s.Armed timer) (later : s.now < timer) :
    ∃ t, s.nextTimer = some t ∧ t ≤ timer := by
  have least {timers : List Int} (member : timer ∈ timers) :
      ∃ t, timers.min? = some t ∧ t ≤ timer := by
    obtain ⟨t, first⟩ := Option.isSome_iff_exists.mp (List.isSome_min?_of_mem member)
    exact ⟨t, first, (List.min?_eq_some_iff.mp first).2 timer member⟩
  refine least (List.mem_filter.mpr ⟨?_, by simpa using later⟩)
  rcases armed with ⟨line, present, wakeAt, sleeps, rfl⟩ | ⟨r, running, ends⟩
  · refine List.mem_append_left _ (List.mem_filterMap.mpr ⟨line, present, ?_⟩)
    rw [sleeps]
    rfl
  · exact List.mem_append_right _ (List.mem_filterMap.mpr ⟨r, running, ends⟩)

theorem Armed.bounds {timer : Int} {duration : Nat} (armed : s.Armed timer) (later : s.now < timer)
    (allowed : s.nextTimer.all (s.now + duration ≤ ·) = true) : s.now + duration ≤ timer := by
  obtain ⟨t, first, before⟩ := nextTimer_le armed later
  rw [first, Option.all_some, decide_eq_true_eq] at allowed
  exact Int.le_trans allowed before

/-- While nothing can run, the loop of a queue that holds a task sleeps, and not past it. -/
theorem Minds.sleeps (minds : s.Minds name) (sound : ∀ q, s.queue? name = some q → q.Sound)
    (idle : s.ready = []) {t : Task ω} (queued : (s.whereabouts name id).held.1 = some t) :
    ∃ timer, s.Armed timer ∧ s.now < timer ∧ timer ≤ Instant.ceilMilli t.due := by
  cases here : s.line? name with
  | none =>
    have gone : s.queue? name = none := by rw [queue?, here]; rfl
    simp [whereabouts, gone] at queued
  | some line =>
    have queue : s.queue? name = some line.queue := by rw [queue?, here]; rfl
    have found : line.queue.find? id = some t := by
      rw [held_of_queue? queue] at queued
      exact queued
    have member := ((sound _ queue).find?_eq_some_iff.mp found).1
    have open_ : line.queue.closed = false := by
      rw [← Bool.not_eq_true]
      intro shut
      rw [((sound _ queue).emptied shut).1] at member
      cases member
    rcases minds line here open_ with ⟨_, ready⟩ | ⟨wakeAt, sleeps, on, early⟩
    · rw [idle] at ready
      cases ready
    · obtain ⟨head, top⟩ := Heap.exists_peek member
      obtain ⟨w, rfl, before⟩ := early head top
      have first := (sound _ queue).heap.peek_due_le top member
      have armed : s.Armed (Instant.ceilMilli w) :=
        .inl ⟨line, List.mem_of_find?_eq_some here, w, sleeps, rfl⟩
      exact ⟨_, armed, on w rfl, ceilMilli_mono (Int.le_trans before first)⟩

/-- The clock moves, and not past a timer. -/
theorem Stands.wait (stands : s.Stands interval name id phase) (minds : s.Minds name)
    (sound : ∀ q, s.queue? name = some q → q.Sound) {duration : Nat} (idle : s.ready = [])
    (allowed : s.nextTimer.all (s.now + duration ≤ ·) = true) :
    (s.reach (s.now + duration)).Stands interval name id phase := by
  have now := s.reach_now (s.now + duration)
  have config : (s.reach (s.now + duration)).config = s.config :=
    congrArg Prod.fst (s.reach_setting (s.now + duration))
  have place' : (s.reach (s.now + duration)).whereabouts name id = _ :=
    (s.whereabouts_reach (s.now + duration)).trans (whereabouts_conclude _ _ _)
  have none_ : (s.whereabouts name id).jobs = [] := by simp [whereabouts, idle]
  cases stands with
  | @queued t place same on =>
    obtain ⟨timer, armed, later, before⟩ := minds.sleeps sound idle (by rw [place])
    have still := armed.bounds later allowed
    rw [place] at place'
    exact .queued place' same (by rw [now]; exact Int.le_trans still before)
  | handed place | past place =>
    rw [place] at none_
    cases none_
  | @running r place same on =>
    have member : r ∈ (s.whereabouts name id).runs := by simp [place]
    rw [place] at place'
    cases ends : r.overAt s.config.executionTimeout with
    | none =>
      refine .running ?_ same fun c again => ?_
      · simpa [ends] using place'
      · rw [config, ends] at again
        cases again
    | some c =>
      have armed : s.Armed c := .inr ⟨r, (List.mem_filter.mp member).1, ends⟩
      have still := armed.bounds (on c ends) allowed
      by_cases reached : c ≤ s.now + duration
      · refine .past ?_ same ?_
        · rw [config]
          simpa [ends, reached] using place'
        · rw [config, now, ends, Int.le_antisymm reached still]
      · refine .running ?_ same fun c' again => ?_
        · simpa [ends, reached] using place'
        · rw [config, ends] at again
          cases again
          rw [now]
          omega
  | lost place late =>
    rw [place] at place'
    exact .lost place' late

/-- Nothing that the task waits for has been missed. -/
theorem Stands.pending (stands : s.Stands interval name id phase) (minds : s.Minds name)
    (sound : ∀ q, s.queue? name = some q → q.Sound) (shown : s.now ≤ Instant.latest) :
    phase.Pending s.config.executionTimeout s.now (s.ready = []) := by
  have busy : ∀ job, (s.whereabouts name id).jobs = [job] → s.ready ≠ [] := by
    intro job one idle
    have none_ : (s.whereabouts name id).jobs = [] := by simp [whereabouts, idle]
    rw [none_] at one
    cases one
  cases stands with
  | @queued t place same on =>
    refine ⟨on, fun idle => ?_⟩
    obtain ⟨timer, _, later, before⟩ := minds.sleeps sound idle (by rw [place])
    exact Int.lt_of_lt_of_le later before
  | handed place same due => exact ⟨due.2, fun idle => absurd idle (busy _ (by rw [place]))⟩
  | @running r place same on =>
    intro c how outcome
    obtain ⟨_, ends, same'⟩ := Option.map_eq_some_iff.mp ((r.outcome?_eq _).symm.trans outcome)
    cases same'
    exact ⟨Int.le_of_lt (on c ends), fun _ => on c ends⟩
  | @past r place same at_ =>
    intro c how outcome
    obtain ⟨_, ends, same'⟩ := Option.map_eq_some_iff.mp ((r.outcome?_eq _).symm.trans outcome)
    cases same'
    rw [at_] at ends
    cases ends
    exact ⟨Int.le_refl _, fun idle => absurd idle (busy _ (by rw [place]))⟩
  | @lost due place late =>
    have rounded := Instant.le_ceilMilli due
    exact ⟨by omega, fun _ => by omega⟩

end Scheduler

end Vigil
