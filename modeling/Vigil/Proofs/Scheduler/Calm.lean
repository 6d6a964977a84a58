import Vigil.Proofs.Scheduler.Knowledge
import Vigil.Proofs.Scheduler.Pace
import Vigil.Proofs.Scheduler.Progress

/-!
# No busy loop

A loop that finds nothing to take goes to sleep until somebody wakes it or a later instant comes.
What can be done at one instant is done in as many steps as the workload counts, in whatever order
and with whatever executions, because a task that comes back is not due before an interval has
passed. And as each task is handed over once an interval, so many times does it begin.
-/
namespace Vigil

open Queue

variable {ω : Type}

/-- A consumer that blocks cannot run at once, and its timer is set to a later instant. -/
theorem Station.blocked_sleeps {s : Station ω} (sound : s.queue.Sound) {c blocked : Consumer}
    {queue : Queue ω} (polled : s.poll c = (queue, .inl blocked)) :
    s.runnable blocked = false ∧ ∀ t, blocked.wakeAt = some t → s.now < t := by
  rcases poll_cases sound c with ⟨why, ran⟩ | ⟨t, _, _, ran⟩ | ⟨wakeAt, kept, looked, ran⟩
  · cases ran.symm.trans polled
  · cases ran.symm.trans polled
  · cases ran.symm.trans polled
    obtain ⟨_, rfl, later⟩ := glance_sleep sound looked
    refine ⟨runnable_of_sleep sound kept looked, fun t armed => ?_⟩
    obtain ⟨head, top, rfl⟩ := Option.map_eq_some_iff.mp armed
    exact later head top

namespace Scheduler

variable {s : Scheduler ω} {name : String}

/-- So with a loop that has looked, unless it has ended. -/
theorem dispatch_sleeps (sound : ∀ q, s.queue? name = some q → q.Sound) {line : Line ω}
    (here : (s.dispatch name).1.line? name = some line) :
    line.loop = .ended ∨
      ∃ wakeAt, line.loop = .blocked wakeAt ∧ ∀ t, wakeAt = some t → s.now < t := by
  have looked := dispatch_looked sound
  generalize (s.dispatch name).1 = s' at looked here
  cases looked with
  | missing gone =>
    rw [gone] at here
    cases here
  | @left old there =>
    rw [line?_modifyLine s name (f := fun l => { l with loop := .ended }) fun _ => rfl,
      if_pos rfl, there] at here
    cases here
    exact .inl rfl
  | @slept old q tasks wakeAt there took =>
    have replaced := line?_modifyLine s name
      (f := fun l => { l with queue := q, loop := .blocked wakeAt }) (fun _ => rfl) name
    rw [if_pos rfl, there] at replaced
    cases here.symm.trans replaced
    have queue : s.queue? name = some old.queue := by rw [queue?, there]; rfl
    obtain ⟨rfl, later⟩ := (sound _ queue).takeDue_sleep took
    refine .inr ⟨_, rfl, fun t armed => ?_⟩
    obtain ⟨head, top, rfl⟩ := Option.map_eq_some_iff.mp armed
    exact later head top

end Scheduler

/-- A client acts. -/
def Move.asked : Move ω → Bool
  | .client .. | .cancel | .shutdown => true
  | .take _ | .work .. | .wait _ => false

theorem Move.spares_of_asked {move : Move ω} (unasked : move.asked = false) (name id : String) :
    move.stops = false ∧ move.spares name id = true := by
  cases move with
  | client | cancel | shutdown => cases unasked
  | take | work | wait => exact ⟨rfl, rfl⟩

theorem Move.Unasked.asked {plan : Task ω → Execution} {move : Move ω}
    (unasked : move.Unasked plan) : move.asked = false := by
  cases move with
  | client | cancel | shutdown | take => cases unasked
  | work | wait => rfl

namespace Chronicle

open Scheduler

variable {c : Chronicle ω} {gap : Nat}

/-- As long as no client calls about a task, it is handed over a `gap` apart, and keeps its
interval. -/
theorem dispatches_apart (reached : Reached c) (spaced : c.scheduler.Spaced gap)
    (name id : String) {moves : List (Move ω)}
    (spared : ∀ move ∈ moves, move.stops = false ∧ move.spares name id = true) :
    (c.dispatches name id moves).Pairwise (fun t u => t + (gap : Int) ≤ u) ∧
      ((c.run moves).scheduler.whereabouts name id).Lasts gap := by
  obtain ⟨last, rested⟩ := exists_rested (spaced.lasts (fun _ => reached.sound) name id)
  exact (rested_run reached rested (fun move member => (spared move member).1)
    fun move member => (spared move member).2).2

/-- Until a client acts, intervals stay as long as they are. -/
theorem spaced_run (reached : Reached c) (spaced : c.scheduler.Spaced gap) {moves : List (Move ω)}
    (unasked : ∀ move ∈ moves, move.asked = false) : (c.run moves).scheduler.Spaced gap := by
  refine spaced_of_lasts (fun _ => (reached.run moves).sound) fun name id => ?_
  have spared : ∀ move ∈ moves, move.stops = false ∧ move.spares name id = true :=
    fun move member => Move.spares_of_asked (unasked move member) name id
  exact (dispatches_apart reached spaced name id spared).2

theorem spaced_step (reached : Reached c) (spaced : c.scheduler.Spaced gap) {move : Move ω}
    (unasked : move.asked = false) : (c.step move).scheduler.Spaced gap := by
  have alone : ∀ other ∈ [move], other.asked = false := List.forall_mem_singleton.mpr unasked
  exact spaced_run reached spaced alone

/-! ### What is done at one instant -/

/-- Whether a move does something at once: a job that stands in line, or to take what is due. -/
def does (c : Chronicle ω) : Move ω → Bool
  | .work _ place => place < c.scheduler.ready.length
  | .take name => (c.scheduler.takeOne? name).isSome
  | _ => false

/-- Whether a row of moves is all done at the current instant. -/
def toils (c : Chronicle ω) : List (Move ω) → Bool
  | [] => true
  | move :: rest => c.does move && (c.step move).toils rest

/-- A task that is taken counts for less than one that is due. -/
theorem workload_take (reached : Reached c) {name : String} {s : Scheduler ω} {t : Task ω}
    (took : c.scheduler.takeOne? name = some (s, t)) : s.workload < c.scheduler.workload := by
  obtain ⟨line, here, _, head, due, rfl⟩ := takeOne?_took (fun _ => reached.sound _) took
  have queue : c.scheduler.queue? name = some line.queue := by rw [queue?, here]; rfl
  have lines := overdue_modifyLine reached.distinct queue
    (f := fun l => { l with queue := line.queue.take t }) (q := line.queue.take t) fun _ => rfl
  have one := overdue_take head c.scheduler.now
  have here : t.isDue c.scheduler.now = true := decide_eq_true due
  rw [here, Bool.toNat_true] at one
  have total : effort (c.scheduler.ready ++ [.start name c.scheduler.dispatched t]) +
      4 * (c.scheduler.modifyLine name fun l => { l with queue := line.queue.take t }).overdue <
        c.scheduler.workload := by
    have start : effort [Job.start name c.scheduler.dispatched t] = 3 := rfl
    rw [effort_append, start, workload_eq]
    omega
  exact total

theorem workload_step (reached : Reached c) (spaced : c.scheduler.Spaced gap) (positive : 0 < gap)
    {move : Move ω} (does : c.does move = true) :
    (c.step move).scheduler.workload < c.scheduler.workload := by
  cases move with
  | client | cancel | shutdown | wait => cases does
  | take name =>
    obtain ⟨⟨s, t⟩, took⟩ := Option.isSome_iff_exists.mp does
    simp only [Chronicle.step, took]
    exact workload_take reached took
  | work plan place =>
    have bound : place < c.scheduler.ready.length := of_decide_eq_true does
    have found := List.getElem?_eq_getElem bound
    have lasts : ∀ n k t, c.scheduler.ready[place].duty = some (n, k, t) → 0 < t.interval := by
      intro n k t duty
      have owes : (n, k, t) ∈ c.scheduler.duties := List.mem_append_left _
        (List.mem_filterMap.mpr ⟨_, List.getElem_mem bound, duty⟩)
      have long := spaced.owed n k t owes
      omega
    simp only [Chronicle.step, found]
    exact workload_work (fun _ => reached.sound) reached.distinct plan found lasts

/-- Each thing that is done at an instant leaves less to do. -/
theorem workload_run (reached : Reached c) (spaced : c.scheduler.Spaced gap) (positive : 0 < gap)
    {moves : List (Move ω)} (toils : c.toils moves = true) :
    moves.length + (c.run moves).scheduler.workload ≤ c.scheduler.workload := by
  induction moves generalizing c with
  | nil => exact Nat.le_of_eq (Nat.zero_add _)
  | cons move rest ih =>
    rw [Chronicle.toils, Bool.and_eq_true] at toils
    have unasked : move.asked = false := by
      cases move <;> first | rfl | cases toils.1
    have first := workload_step reached spaced positive toils.1
    have others := ih (reached.step move) (spaced_step reached spaced unasked) toils.2
    have ran : c.run (move :: rest) = (c.step move).run rest := rfl
    rw [List.length_cons, ran]
    omega

end Chronicle

namespace Scheduler

/-- A scheduler of a moment of some run, all of whose tasks have intervals of `gap` at least. -/
def Paced (gap : Nat) (s : Scheduler ω) : Prop := s.Occurs ∧ s.Spaced gap

variable {s : Scheduler ω} {gap : Nat}

theorem Paced.of_step {c : Chronicle ω} (reached : c.Reached) (spaced : c.scheduler.Spaced gap)
    (move : Move ω) (unasked : move.asked = false) : (c.step move).scheduler.Paced gap :=
  ⟨⟨_, reached.step move, rfl⟩, Chronicle.spaced_step reached spaced unasked⟩

theorem Paced.reach (paced : s.Paced gap) {t : Int} (later : s.now ≤ t) :
    (s.reach t).Paced gap := by
  obtain ⟨⟨c, reached, rfl⟩, spaced⟩ := paced
  have waited := of_step reached spaced (.wait (t - c.scheduler.now).toNat) rfl
  have clock : c.scheduler.now + (t - c.scheduler.now).toNat = t := by omega
  rw [Chronicle.step, clock] at waited
  exact waited

theorem Paced.settle (paced : s.Paced gap) (positive : 0 < gap) (plan : Task ω → Execution) :
    (s.settle plan).1.Paced gap ∧ (s.settle plan).1.ready = [] := by
  constructor
  · obtain ⟨⟨c, reached, rfl⟩, spaced⟩ := paced
    obtain ⟨jobs, done, _⟩ := Chronicle.exists_happened_settle plan c
    rw [← done]
    refine ⟨⟨_, reached.run _, rfl⟩, Chronicle.spaced_run reached spaced fun move member => ?_⟩
    exact (Chronicle.unasked_replicate plan jobs move member).asked
  · refine settle_idle (P := Paced gap) ?_ paced
    intro s job rest paced ready
    obtain ⟨⟨c, reached, rfl⟩, spaced⟩ := paced
    have does : c.does (.work plan 0) = true := by simp [Chronicle.does, ready]
    have paced' := of_step reached spaced (.work plan 0) rfl
    have less := Chronicle.workload_step reached spaced positive does
    have worked : (c.step (.work plan 0)).scheduler =
        (({ c.scheduler with ready := rest } : Scheduler ω).perform plan job).1 := by
      simp [Chronicle.step, Chronicle.next, ready]
    rw [worked] at paced' less
    exact ⟨paced', less⟩

theorem advanceTo_now (plan : Task ω → Execution) (s : Scheduler ω) (target : Int) :
    (s.advanceTo plan target).1.now = target := by
  fun_induction Scheduler.advanceTo plan s target with
  | case1 s | case3 s => exact (settle_now _ _).trans (reach_now _ _)
  | case2 _ _ _ _ _ _ _ ih => exact ih

end Scheduler

namespace Chronicle

open Scheduler

variable {c : Chronicle ω}

/-! ### How often a task begins -/

theorem length_dispatches_le (reached : Reached c)
    (spaced : c.scheduler.Spaced (Duration.ofMillis 1)) (name id : String) {moves : List (Move ω)}
    (spared : ∀ move ∈ moves, move.stops = false ∧ move.spares name id = true) {m : Nat}
    (within : (c.run moves).scheduler.now ≤ c.scheduler.now + Duration.ofMillis m) :
    (c.dispatches name id moves).length ≤ m + 1 := by
  obtain ⟨order, between⟩ := c.happened_between moves
  have apart := (dispatches_apart reached spaced name id spared).1
  have inside : ∀ t ∈ c.dispatches name id moves,
      c.scheduler.now ≤ t ∧ t ≤ (c.run moves).scheduler.now := by
    intro t member
    obtain ⟨e, happened, rfl⟩ := List.mem_map.mp member
    exact between e (List.mem_filter.mp happened).1
  have fits := length_mul_le (by omega) apart inside
  simp only [Duration.ofMillis] at within fits
  omega

/-- Take any moment of any run at which all tasks, queued or executing, have intervals of a
millisecond at least.

A loop that gets no task sleeps, until it is woken or cancelled or an instant comes that is later
than now; so does the dispatch loop of a queue after each look, unless it ends. As long as no client
calls about a task, its hand-overs are a millisecond apart, so there is at most one at any instant;
within `m` milliseconds there are at most `m + 1`, and not more of its executions begin, apart from
those that were handed over before. What can be done at one instant is done after as many steps as
the workload counts, whichever jobs are done first, however executions go, and wherever loops are
interrupted. So letting all run at once ends with nothing that can run, and so it is at each stop of
the clock when it is moved on by `m` milliseconds, in which each task is handed over `m + 1` times
at most. -/
theorem no_busy_loop (reached : Reached c) (spaced : c.scheduler.Spaced (Duration.ofMillis 1)) :
    (∀ name q, c.scheduler.queue? name = some q → ∀ (s : Station ω) consumer queue blocked,
      s.queue = q → s.poll consumer = (queue, .inl blocked) →
        s.runnable blocked = false ∧ ∀ t, blocked.wakeAt = some t → s.now < t) ∧
    (∀ name line, (c.scheduler.dispatch name).1.line? name = some line → line.loop = .ended ∨
      ∃ wakeAt, line.loop = .blocked wakeAt ∧ ∀ t, wakeAt = some t → c.scheduler.now < t) ∧
    (∀ name id moves, (∀ move ∈ moves, move.stops = false ∧ move.spares name id = true) →
      (c.dispatches name id moves).Pairwise (fun t u : Int => t + Duration.ofMillis 1 ≤ u) ∧
        (c.dispatches name id moves).Nodup ∧
          ∀ m : Nat, (c.run moves).scheduler.now ≤ c.scheduler.now + Duration.ofMillis m →
            (c.dispatches name id moves).length ≤ m + 1 ∧
              begun (c.course name id moves) ≤ c.scheduler.awaiting name id + (m + 1)) ∧
    (∀ moves, c.toils moves = true → moves.length ≤ c.scheduler.workload) ∧
    ∀ plan, (c.scheduler.settle plan).1.ready = [] ∧ ∀ m : Nat,
      let target := c.scheduler.now + Duration.ofMillis m
      c.scheduler.Rests plan target ∧ (c.scheduler.advanceTo plan target).1.ready = [] ∧
        ∃ moves, (c.run moves).scheduler = (c.scheduler.advanceTo plan target).1 ∧
          c.happened moves = (c.scheduler.advanceTo plan target).2 ∧
            ∀ name id, (c.dispatches name id moves).length ≤ m + 1 ∧
              begun (c.course name id moves) ≤ c.scheduler.awaiting name id + (m + 1) := by
  have positive : 0 < Duration.ofMillis 1 := by decide
  have starts (name id : String) (moves : List (Move ω))
      (spared : ∀ move ∈ moves, move.stops = false ∧ move.spares name id = true) (m : Nat)
      (within : (c.run moves).scheduler.now ≤ c.scheduler.now + Duration.ofMillis m) :
      (c.dispatches name id moves).length ≤ m + 1 ∧
        begun (c.course name id moves) ≤ c.scheduler.awaiting name id + (m + 1) := by
    have handed := length_dispatches_le reached spaced name id spared within
    have balance := balance_run reached name id moves
    exact ⟨handed, by omega⟩
  refine ⟨?blocked, ?looked, ?apart, ?toil, fun plan => ⟨?settled, fun m => ?moved⟩⟩
  case blocked =>
    rintro name _ here s consumer queue blocked rfl polled
    exact Station.blocked_sleeps (reached.sound _ here) polled
  case looked =>
    intro name line here
    exact dispatch_sleeps reached.sound here
  case apart =>
    intro name id moves spared
    have apart := (dispatches_apart reached spaced name id spared).1
    refine ⟨apart, apart.imp fun later same => ?_, starts name id moves spared⟩
    omega
  case toil =>
    intro moves toils
    have less := workload_run reached spaced positive toils
    omega
  case settled => exact (Paced.settle ⟨⟨c, reached, rfl⟩, spaced⟩ positive plan).2
  case moved =>
    have later : c.scheduler.now ≤ c.scheduler.now + Duration.ofMillis m := by omega
    obtain ⟨rests, idle⟩ := rests_of_settles (P := Paced (Duration.ofMillis 1))
      (fun paced on => paced.reach on) (fun paced => paced.settle positive plan)
      ⟨⟨c, reached, rfl⟩, spaced⟩ later
    obtain ⟨moves, unasked, ran, seen⟩ := exists_happened_advanceTo plan c later
    have clock : (c.run moves).scheduler.now = c.scheduler.now + Duration.ofMillis m := by
      rw [ran, advanceTo_now]
    refine ⟨rests, idle, moves, ran, seen, fun name id => starts name id moves ?_ m ?_⟩
    · exact fun move member => Move.spares_of_asked (unasked move member).asked name id
    · exact Int.le_of_eq clock

/-- A task that is due again each millisecond is handed over, and updated before it begins. The
execution that was overtaken is over at once, as all of them are, yet in 3 ms the task is handed
over just 4 times, and what begins besides is what was handed over before. -/
theorem overtaken_task_keeps_pace :
    let t : Task Unit := { id := "a", due := 0, interval := Duration.ofMillis 1, work := () }
    let plan (_ : Task Unit) : Execution := {}
    let now : List (Move Unit) := List.replicate 5 (.work plan 0)
    let later : List (Move Unit) := .wait (Duration.ofMillis 1) :: now
    let fresh : Chronicle Unit := { scheduler := { config := {}, now := 0 } }
    let c := fresh.run
      [.client "q" .addQueue, .client "q" (.register t), .work plan 0, .client "q" (.update t)]
    let moves := now ++ later ++ later ++ later
    c.dispatches "q" "a" moves = [0, 1, 2, 3].map Instant.ofMillis ∧
      begun (c.course "q" "a" moves) = 5 ∧ c.scheduler.awaiting "q" "a" = 1 ∧
        (c.dispatches "q" "a" moves).Nodup ∧ (c.dispatches "q" "a" moves).length ≤ 3 + 1 ∧
          begun (c.course "q" "a" moves) ≤ c.scheduler.awaiting "q" "a" + (3 + 1) := by
  intro t plan now later fresh c moves
  have reached : Reached c := .run (.fresh {} 0) _
  have spaced : c.scheduler.Spaced (Duration.ofMillis 1) := by
    have lines : ∀ l ∈ c.scheduler.lines, ∀ u ∈ l.queue.heap.tasks,
        Duration.ofMillis 1 ≤ u.interval := by decide +kernel
    have duties : ∀ d ∈ c.scheduler.duties, Duration.ofMillis 1 ≤ d.2.2.interval := by
      decide +kernel
    refine ⟨fun name q here => ?_, fun name k u owes => duties _ owes⟩
    obtain ⟨line, found, rfl⟩ := Option.map_eq_some_iff.mp here
    exact lines line (List.mem_of_find?_eq_some found)
  obtain ⟨_, _, starts, _⟩ := no_busy_loop reached spaced
  obtain ⟨_, once, within⟩ := starts "q" "a" moves (by decide +kernel)
  have passed : (c.run moves).scheduler.now ≤ c.scheduler.now + Duration.ofMillis 3 := by
    decide +kernel
  exact ⟨by decide +kernel, by decide +kernel, by decide +kernel, once, within 3 passed⟩

end Chronicle

end Vigil
