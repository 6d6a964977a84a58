import Vigil.Proofs.Scheduler.FixedDelay
import Vigil.Proofs.Scheduler.Handovers

/-!
# How often a task is executed

A task that comes back is due one interval later, whichever of its copies brings it back. So where
it was handed over once and nobody calls about it, it is not handed over again before an interval
has passed (`Rested`), and in a stretch of time no more often than intervals fit into it.
-/
namespace Vigil

open Queue

variable {ω : Type}

namespace Queue

theorem Sound.mem_tasks {q : Queue ω} (sound : q.Sound) {t : Task ω} (queued : t ∈ q.heap.tasks) :
    q.find? t.id = some t :=
  sound.find?_eq_some_iff.mpr ⟨queued, rfl⟩

end Queue

namespace Scheduler

/-! ### Intervals -/

/-- The tasks of an id come back after `gap` at the earliest. -/
structure Whereabouts.Lasts (gap : Nat) (w : Whereabouts ω) : Prop where
  queued : ∀ t, w.held.1 = some t → gap ≤ t.interval
  jobs : ∀ job ∈ w.jobs, ∀ n k t, job.duty = some (n, k, t) → gap ≤ t.interval
  runs : ∀ r ∈ w.runs, gap ≤ r.task.interval

/-- All tasks, queued or taken by executions that may still hand them back, have intervals of `gap`
at least. -/
structure Spaced (gap : Nat) (s : Scheduler ω) : Prop where
  queued : ∀ name q, s.queue? name = some q → ∀ t ∈ q.heap.tasks, gap ≤ t.interval
  owed : ∀ name k t, (name, k, t) ∈ s.duties → gap ≤ t.interval

variable {s s' : Scheduler ω} {name id : String} {gap : Nat} {last : Int}

theorem concerns_of_duty {job : Job ω} {k : Nat} {t : Task ω}
    (duty : job.duty = some (name, k, t)) : job.concerns name t.id = true := by
  cases job with
  | start | finish | expire =>
    cases duty
    simp [Job.concerns, Run.concerns]
  | dispatch | retire | release => cases duty

theorem Spaced.lasts (spaced : s.Spaced gap) (sound : ∀ n q, s.queue? n = some q → q.Sound)
    (name id : String) : (s.whereabouts name id).Lasts gap := by
  refine ⟨fun t held => ?_, fun job member n k t duty => ?_, fun r member => ?_⟩
  · cases here : s.queue? name with
    | none => simp [whereabouts, here] at held
    | some q =>
      rw [held_of_queue? here] at held
      exact spaced.queued name q here t ((sound name q here).find?_eq_some_iff.mp held).1
  · refine spaced.owed n k t (List.mem_append_left _ ?_)
    exact List.mem_filterMap.mpr ⟨job, (List.mem_filter.mp member).1, duty⟩
  · refine spaced.owed r.queue r.ticket r.task (List.mem_append_right _ ?_)
    exact List.mem_map.mpr ⟨r, (List.mem_filter.mp member).1, rfl⟩

theorem spaced_of_lasts (sound : ∀ n q, s.queue? n = some q → q.Sound)
    (lasts : ∀ name id, (s.whereabouts name id).Lasts gap) : s.Spaced gap := by
  constructor
  · intro name q here t queued
    refine (lasts name t.id).queued t ?_
    rw [held_of_queue? here]
    exact (sound name q here).mem_tasks queued
  · intro name k t owes
    rcases List.mem_append.mp owes with inLine | under
    · obtain ⟨job, member, duty⟩ := List.mem_filterMap.mp inLine
      have own := concerns_of_duty duty
      exact (lasts name t.id).jobs job (List.mem_filter.mpr ⟨member, own⟩) name k t duty
    · obtain ⟨r, member, duty⟩ := List.mem_map.mp under
      cases duty
      exact (lasts r.queue r.task.id).runs r
        (List.mem_filter.mpr ⟨member, by simp [Run.concerns]⟩)

/-! ### A task that rests -/

/-- The task was handed over at `last`, and not a `gap` ago at the earliest is it due again. -/
structure Rested (gap : Nat) (last : Int) (s : Scheduler ω) (name id : String) : Prop where
  lasts : (s.whereabouts name id).Lasts gap
  past : last ≤ s.now
  ahead : ∀ t, (s.whereabouts name id).held.1 = some t → last + gap ≤ t.due

theorem Rested.of_eq {w : Whereabouts ω} (same : s.whereabouts name id = w) (lasts : w.Lasts gap)
    (past : last ≤ s.now) (ahead : ∀ t, w.held.1 = some t → last + gap ≤ t.due) :
    s.Rested gap last name id := by
  subst same
  exact ⟨lasts, past, ahead⟩

theorem Rested.congr (rested : s.Rested gap last name id)
    (same : s'.whereabouts name id = s.whereabouts name id) (later : s.now ≤ s'.now) :
    s'.Rested gap last name id :=
  .of_eq same rested.lasts (Int.le_trans rested.past later) rested.ahead

/-- Whenever a task was handed over last, it has rested since some instant. -/
theorem exists_rested (lasts : (s.whereabouts name id).Lasts gap) :
    ∃ last, s.Rested gap last name id := by
  cases held : (s.whereabouts name id).held.1 with
  | none =>
    refine ⟨s.now, lasts, Int.le_refl _, fun t queued => ?_⟩
    rw [held] at queued
    cases queued
  | some t =>
    refine ⟨min s.now (t.due - gap), lasts, Int.min_le_left _ _, fun u queued => ?_⟩
    rw [held] at queued
    cases queued
    omega

/-- A task is handed over when it is due, and then no more of it is queued. -/
theorem Rested.handed (rested : s.Rested gap last name id) (handed : Handed s name id s')
    (still : s'.now = s.now) {n : Nat}
    (balance : s'.awaiting name id = s.awaiting name id + n) :
    n = 0 ∧ s'.Rested gap last name id ∨
      n = 1 ∧ last + gap ≤ s.now ∧ s'.Rested gap s.now name id := by
  rcases handed with same | ⟨t, k, held, due, taken⟩
  · left
    rw [awaiting, same, awaiting] at balance
    exact ⟨by omega, rested.congr same (Int.le_of_eq still.symm)⟩
  · right
    have begins : ([.start name k t] : List (Job ω)).countP (·.begins) = 1 := rfl
    rw [awaiting, taken, List.countP_append, begins, awaiting] at balance
    have on := rested.ahead t held
    have gone (u : Task ω) : none ≠ some u := (Option.some_ne_none u).symm
    refine ⟨by omega, by omega, .of_eq taken ⟨fun u queued => absurd queued (gone u), ?_,
      rested.lasts.runs⟩ (Int.le_of_eq still.symm) fun u queued => absurd queued (gone u)⟩
    refine List.forall_mem_append.mpr ⟨rested.lasts.jobs, List.forall_mem_singleton.mpr ?_⟩
    intro n j u duty
    cases duty
    exact rested.lasts.queued t held

/-- A task that comes back is due one interval later. -/
theorem Rested.reschedule (rested : s.Rested gap last name id)
    (sound : ∀ q, s.queue? name = some q → q.Sound) {t : Task ω} (named : t.id = id)
    (lasts : gap ≤ t.interval) : (s.reschedule name t).1.Rested gap last name id := by
  have still := reschedule_now s name t
  have back := reschedule_rescheduled sound t
  generalize (s.reschedule name t).1 = s' at back still
  cases back with
  | dropped => exact rested
  | revoked here =>
    exact rested.congr (whereabouts_putQueue_same here _ fun _ => rfl) (Int.le_of_eq still.symm)
  | @returned q next here open_ again flying free =>
    obtain ⟨same, due, interval, _⟩ := Task.nextRun?_eq_some again
    have queued : (s.putQueue name (q.place next) ((q.heap.insert next).2 == 0)).whereabouts
        name id = { s.whereabouts name id with held := (some next, false) } := by
      rw [whereabouts_putQueue here, if_pos rfl,
        (sound q here).holds_place open_ (same ▸ free), if_pos (same.trans named)]
    have past := rested.past
    refine .of_eq queued ⟨?_, rested.lasts.jobs, rested.lasts.runs⟩ (still ▸ past) ?_
    · intro u there
      cases there
      omega
    · intro u there
      cases there
      omega

theorem Rested.ended (rested : s.Rested gap last name id)
    (sound : ∀ q, s.queue? name = some q → q.Sound) {r : Run ω}
    (own : r.concerns name id = true) (lasts : gap ≤ r.task.interval) :
    (s.finish r).1.Rested gap last name id ∧ (s.expire r).1.Rested gap last name id := by
  obtain ⟨rfl, named⟩ : r.queue = name ∧ r.task.id = id := by simpa [Run.concerns] using own
  let telling : Scheduler ω := { s with ready := s.ready ++ [.release r] }
  have told : telling.whereabouts r.queue id = s.whereabouts r.queue id := by
    refine Whereabouts.ext rfl ?_ rfl
    simp [telling, whereabouts, List.filter_append, Job.concerns]
  have rested' : telling.Rested gap last r.queue id := rested.congr told (Int.le_refl s.now)
  exact ⟨rested.reschedule sound named lasts, rested'.reschedule sound named lasts⟩

/-- What executions of the task do hands nothing over. -/
theorem Rested.perform (rested : s.Rested gap last name id)
    (sound : ∀ q, s.queue? name = some q → q.Sound) (plan : Task ω → Execution) {job : Job ω}
    (own : job.concerns name id = true)
    (lasts : ∀ n k t, job.duty = some (n, k, t) → gap ≤ t.interval) :
    (s.perform plan job).1.Rested gap last name id := by
  cases job with
  | dispatch | retire | release => cases own
  | finish r => exact (rested.ended sound own (lasts _ _ _ rfl)).1
  | expire r => exact (rested.ended sound own (lasts _ _ _ rfl)).2
  | start queue k t =>
    let r : Run ω := { queue, ticket := k, task := t, since := s.now, plan := plan t }
    have own' : r.concerns name id = true := own
    have ended := rested.ended sound own' (lasts _ _ _ rfl)
    obtain ⟨⟨queued, jobs, runs⟩, past, ahead⟩ := rested
    simp only [Scheduler.perform, start_eq]
    refine launch_induction s r ended.1 ended.2 ⟨⟨queued, jobs, ?_⟩, past, ahead⟩
    simp only [whereabouts, List.filter_append] at runs ⊢
    refine List.forall_mem_append.mpr ⟨runs, fun u member => ?_⟩
    rw [List.mem_singleton.mp (List.mem_filter.mp member).1]
    exact lasts _ _ _ rfl

theorem Rested.work (rested : s.Rested gap last name id)
    (sound : ∀ q, s.queue? name = some q → q.Sound) (plan : Task ω → Execution) {place : Nat}
    {job : Job ω} (found : s.ready[place]? = some job) (own : job.concerns name id = true) :
    (({ s with ready := s.ready.eraseIdx place } : Scheduler ω).perform plan job).1.Rested
      gap last name id := by
  let rest : Scheduler ω := { s with ready := s.ready.eraseIdx place }
  obtain ⟨⟨queued, jobs, runs⟩, past, ahead⟩ := rested
  have rested' : rest.Rested gap last name id := by
    refine ⟨⟨queued, fun other member => ?_, runs⟩, past, ahead⟩
    obtain ⟨there, concerned⟩ := List.mem_filter.mp member
    exact jobs other (List.mem_filter.mpr ⟨List.mem_of_mem_eraseIdx there, concerned⟩)
  have lasts := jobs job (List.mem_filter.mpr ⟨List.mem_of_getElem? found, own⟩)
  exact rested'.perform sound plan own lasts

theorem Rested.reach (rested : s.Rested gap last name id) {now : Int} (later : s.now ≤ now) :
    (s.reach now).Rested gap last name id := by
  obtain ⟨⟨queued, jobs, runs⟩, past, ahead⟩ := rested
  have clock := reach_now s now
  refine .of_eq ((whereabouts_reach s now).trans (whereabouts_conclude s _ now))
    ⟨queued, ?_, fun r running => runs r (List.mem_filter.mp running).1⟩ (by omega) ahead
  refine List.forall_mem_append.mpr ⟨jobs, fun job member n k t duty => ?_⟩
  obtain ⟨r, running, rfl⟩ := List.mem_map.mp member
  rw [duty_overJob] at duty
  cases duty
  exact runs r (List.mem_filter.mp running).1

end Scheduler

namespace Chronicle

open Scheduler

variable {c : Chronicle ω} {name id : String} {gap : Nat} {last : Int}

/-! ### Between two calls about a task -/

/-- A move that is not a call about the task hands it over at most once, and then not before it has
rested. -/
theorem rested_step (reached : Reached c) (rested : c.scheduler.Rested gap last name id)
    {move : Move ω} (still : move.stops = false) (spared : move.spares name id = true) :
    (c.emits move).countP (Event.dispatches name id) = 0 ∧
        (c.step move).scheduler.Rested gap last name id ∨
      (c.emits move).countP (Event.dispatches name id) = 1 ∧ last + gap ≤ c.scheduler.now ∧
        (c.step move).scheduler.Rested gap c.scheduler.now name id := by
  have balance := balance_step reached name id move
  cases move with
  | client other call =>
    have spared' : other = name → call.spares id = true := by
      simpa [Move.spares, ← imp_iff_not_or] using spared
    have sound : ∀ q, c.scheduler.queue? other = some q → q.Sound := reached.sound
    have same := (serve_served sound call).whereabouts sound spared'
    exact .inl ⟨countP_notices (fun _ => dispatches_blind name id) (ofLoop_reports _ other call),
      rested.congr same (Int.le_of_eq (serve_now _ _ _).symm)⟩
  | cancel | shutdown => cases still
  | take other =>
    obtain ⟨handed, now⟩ := handed_take reached name id other
    exact rested.handed handed now ((Nat.zero_add _).symm.trans balance)
  | work plan place =>
    cases own : (c.scheduler.ready[place]?).any (·.concerns name id) with
    | false =>
      have unseen : begun (c.occasions name id (.work plan place)) = 0 := by
        simp [begun, occasions, own]
      rw [unseen, Nat.zero_add] at balance
      exact rested.handed (handed_work reached plan own) (work_now c plan place) balance
    | true =>
      obtain ⟨job, found, concerned⟩ := (Option.any_eq_true _ _).mp own
      have ofExecution : ∀ other, job ≠ .dispatch other := by
        rintro other rfl
        cases concerned
      have kept := rested.work (fun _ => reached.sound _) plan found concerned
      have silent : (({ c.scheduler with ready := c.scheduler.ready.eraseIdx place } :
          Scheduler ω).perform plan job).2.countP (Event.dispatches name id) = 0 :=
        dispatches_perform plan _ ofExecution
      left
      simp only [emits, Chronicle.step, next, found]
      exact ⟨silent, kept⟩
  | wait duration =>
    exact .inl ⟨rfl, rested.reach (by omega)⟩

/-- Between two calls about a task it is handed over a `gap` apart. -/
theorem rested_run (reached : Reached c) (rested : c.scheduler.Rested gap last name id)
    {moves : List (Move ω)} (still : ∀ move ∈ moves, move.stops = false)
    (spared : ∀ move ∈ moves, move.spares name id = true) :
    (∀ t ∈ c.dispatches name id moves, last + gap ≤ t) ∧
      (c.dispatches name id moves).Pairwise (fun t u => t + (gap : Int) ≤ u) ∧
        ((c.run moves).scheduler.whereabouts name id).Lasts gap := by
  induction moves generalizing c last with
  | nil => exact ⟨List.forall_mem_nil _, .nil, rested.lasts⟩
  | cons move rest ih =>
    obtain ⟨stillFirst, stillRest⟩ := List.forall_mem_cons.mp still
    obtain ⟨sparedFirst, sparedRest⟩ := List.forall_mem_cons.mp spared
    rw [dispatches_cons]
    rcases rested_step reached rested stillFirst sparedFirst with
      ⟨none_, rested'⟩ | ⟨one, on, rested'⟩
    · rw [none_]
      exact ih (reached.step move) rested' stillRest sparedRest
    · obtain ⟨later, apart, lasts⟩ := ih (reached.step move) rested' stillRest sparedRest
      rw [one]
      refine ⟨List.forall_mem_cons.mpr ⟨on, fun t member => ?_⟩,
        List.pairwise_cons.mpr ⟨later, apart⟩, lasts⟩
      have after := later t member
      omega

/-- What happens in a row of moves happens between its first and its last instant. -/
theorem happened_between (c : Chronicle ω) (moves : List (Move ω)) :
    c.scheduler.now ≤ (c.run moves).scheduler.now ∧
      ∀ e ∈ c.happened moves, c.scheduler.now ≤ e.1 ∧ e.1 ≤ (c.run moves).scheduler.now := by
  induction moves generalizing c with
  | nil => exact ⟨Int.le_refl _, List.forall_mem_nil _⟩
  | cons move rest ih =>
    obtain ⟨on, others⟩ := ih (c.step move)
    have first := step_now c move
    have ran : c.run (move :: rest) = (c.step move).run rest := rfl
    rw [happened_cons, ran]
    refine ⟨Int.le_trans first on, List.forall_mem_append.mpr ⟨?_, fun e member => ?_⟩⟩
    · intro e member
      obtain ⟨_, _, rfl⟩ := List.mem_map.mp member
      exact ⟨Int.le_refl _, Int.le_trans first on⟩
    · obtain ⟨left, right⟩ := others e member
      exact ⟨Int.le_trans first left, right⟩

/-- So many instants that are a `gap` apart fit into a stretch of time. -/
theorem length_mul_le {instants : List Int} {first last : Int} (order : first ≤ last + gap)
    (apart : instants.Pairwise fun t u => t + (gap : Int) ≤ u)
    (between : ∀ t ∈ instants, first ≤ t ∧ t ≤ last) :
    (instants.length : Int) * gap ≤ last + gap - first := by
  induction instants generalizing first with
  | nil => simpa using order
  | cons t rest ih =>
    obtain ⟨later, apart'⟩ := List.pairwise_cons.mp apart
    obtain ⟨here, others⟩ := List.forall_mem_cons.mp between
    have inner : (rest.length : Int) * gap ≤ last + gap - (t + gap) :=
      ih (by omega) apart' fun u member => ⟨later u member, (others u member).2⟩
    rw [List.length_cons, Int.natCast_add, Int.natCast_one, Int.add_mul, Int.one_mul]
    omega

end Chronicle

end Vigil
