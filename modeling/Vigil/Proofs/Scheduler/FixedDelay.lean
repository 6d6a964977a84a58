import Vigil.Proofs.Scheduler.Standing

/-!
# Tasks run with a fixed delay

Take a task that was registered once and is left alone since. A move takes it from one phase to the
next at most, and only when the fixed delay asks for it, so a whole run is a course of executions,
each one interval after the one before was over.
-/
namespace Vigil

open Queue

variable {ω : Type}

/-- Whether a move leaves the task of this id alone: no call names it, or closes the queue. -/
def Move.spares (name id : String) : Move ω → Bool
  | .client other call => other != name || call.spares id
  | _ => true

namespace Chronicle

open Scheduler

variable {c : Chronicle ω} {name id : String} {interval : Nat} {phase : Phase}

/-- A loop that is interrupted hands the task over at most. -/
theorem handed_take (reached : Reached c) (name id other : String) :
    Handed c.scheduler name id (c.step (.take other)).scheduler ∧
      (c.step (.take other)).scheduler.now = c.scheduler.now := by
  have sound : ∀ q, c.scheduler.queue? other = some q → q.Sound := reached.sound
  simp only [Chronicle.step]
  split
  next => exact ⟨.inl rfl, rfl⟩
  next s t took =>
    refine ⟨handed_takeOne sound took, ?_⟩
    obtain ⟨line, _, _, _, _, rfl⟩ := takeOne?_took sound took
    rfl

/-- So does a job that is not about the task. -/
theorem handed_work (reached : Reached c) (plan : Task ω → Execution) {place : Nat}
    (foreign : (c.scheduler.ready[place]?).any (·.concerns name id) = false) :
    Handed c.scheduler name id (c.step (.work plan place)).scheduler := by
  simp only [Chronicle.step]
  split
  next => exact .inl rfl
  next job found =>
    rw [found, Option.any_some] at foreign
    let rest : Scheduler ω := { c.scheduler with ready := c.scheduler.ready.eraseIdx place }
    have sound : ∀ n q, rest.queue? n = some q → q.Sound := fun _ => reached.sound
    have same : rest.whereabouts name id = c.scheduler.whereabouts name id :=
      whereabouts_eraseIdx found foreign
    rcases handed_perform sound plan foreign with unchanged | ⟨t, k, held, due, taken⟩
    · exact .inl (unchanged.trans same)
    · rw [same] at held taken
      exact .inr ⟨t, k, held, due, taken⟩

theorem work_now (c : Chronicle ω) (plan : Task ω → Execution) (place : Nat) :
    (c.step (.work plan place)).scheduler.now = c.scheduler.now := by
  simp only [Chronicle.step]
  split
  next => rfl
  next => exact perform_now plan _ _

/-- One move that leaves the task alone. -/
theorem stands_step (reached : Reached c) (minds : c.scheduler.Minds name)
    (stands : c.scheduler.Stands interval name id phase) {move : Move ω}
    (still : move.stops = false) (spared : move.spares name id = true)
    (allowed : c.allows move = true) :
    ∃ phase', (c.step move).scheduler.Stands interval name id phase' ∧
      FixedDelay Instant.Near c.scheduler.config.executionTimeout interval phase
        (c.occasions name id move) phase' := by
  have config : (c.step move).scheduler.config = c.scheduler.config :=
    congrArg Prod.fst (step_setting reached still)
  cases move with
  | client other call =>
    have spared' : other = name → call.spares id = true := by
      simpa [Move.spares, ← imp_iff_not_or] using spared
    have sound : ∀ q, c.scheduler.queue? other = some q → q.Sound := reached.sound
    have same := (serve_served sound call).whereabouts sound spared'
    exact ⟨phase, stands.congr same (serve_now _ _ _) config, .nothing phase⟩
  | cancel | shutdown => cases still
  | take other =>
    obtain ⟨handed, now⟩ := handed_take reached name id other
    exact ⟨phase, stands.of_handed handed now config, .nothing phase⟩
  | work plan place =>
    cases own : (c.scheduler.ready[place]?).any (·.concerns name id) with
    | false =>
      have unseen : c.occasions name id (.work plan place) = [] := by
        simp only [occasions, own, Bool.false_eq_true, ↓reduceIte]
      rw [unseen]
      exact ⟨phase, stands.of_handed (handed_work reached plan own) (work_now c plan place) config,
        .nothing phase⟩
    | true =>
      have seen : c.occasions name id (.work plan place) =
          ((c.emits (.work plan place)).filterMap (·.occasion? plan)).map (c.scheduler.now, ·) := by
        simp only [occasions, own, ↓reduceIte, List.map_filterMap]
      rw [seen]
      obtain ⟨job, found, concerned⟩ := (Option.any_eq_true _ _).mp own
      simp only [Chronicle.step, emits, found]
      exact stands.work reached.sound plan found concerned
  | wait duration =>
    have idle : c.scheduler.ready = [] ∧
        c.scheduler.nextTimer.all (c.scheduler.now + duration ≤ ·) = true := by
      simpa [allows] using allowed
    exact ⟨phase, stands.wait minds reached.sound idle.1 idle.2, .nothing phase⟩

/-- A row of moves that leave the task alone. -/
theorem stands_run (reached : Reached c) (minds : c.scheduler.Minds name)
    (going : c.scheduler.stopping = false)
    (stands : c.scheduler.Stands interval name id phase) {moves : List (Move ω)}
    (still : ∀ move ∈ moves, move.stops = false)
    (spared : ∀ move ∈ moves, move.spares name id = true) (timely : c.timely moves = true) :
    ∃ phase', (c.run moves).scheduler.Stands interval name id phase' ∧
      FixedDelay Instant.Near c.scheduler.config.executionTimeout interval phase
        (c.course name id moves) phase' := by
  induction moves generalizing c phase with
  | nil => exact ⟨phase, stands, .nothing phase⟩
  | cons move rest ih =>
    obtain ⟨stillFirst, stillRest⟩ := List.forall_mem_cons.mp still
    obtain ⟨sparedFirst, sparedRest⟩ := List.forall_mem_cons.mp spared
    rw [Chronicle.timely, Bool.and_eq_true] at timely
    obtain ⟨between, stands', first⟩ :=
      stands_step reached minds stands stillFirst sparedFirst timely.1
    have setting := step_setting reached stillFirst
    obtain ⟨config, stopping⟩ := Prod.mk.inj setting
    obtain ⟨last, stands'', later⟩ := ih (reached.step move)
      (minds_step reached minds going stillFirst) (stopping.trans going) stands' stillRest
      sparedRest timely.2
    rw [config] at later
    exact ⟨last, stands'', first.trans later⟩

/-! ### Before the task is registered -/

theorem mem_trail_step {d : Deed ω} {other : String} (member : d ∈ c.trail other) (move : Move ω) :
    d ∈ (c.step move).trail other := by
  cases move with
  | client | cancel | shutdown | wait => first | exact mem_noted member _ _ | exact member
  | take n =>
    simp only [Chronicle.step]
    split
    · exact member
    · exact mem_noted member _ _
  | work plan place =>
    simp only [Chronicle.step]
    split
    · exact member
    · exact mem_noted member _ _

theorem mem_trail_run {d : Deed ω} {other : String} (member : d ∈ c.trail other)
    (moves : List (Move ω)) : d ∈ (c.run moves).trail other := by
  induction moves generalizing c with
  | nil => exact member
  | cons move rest ih => exact ih (mem_trail_step member move)

/-- There is nothing of a task that nobody has registered. -/
theorem absent_step (reached : Reached c) (absent : c.scheduler.whereabouts name id = {})
    {move : Move ω} (still : move.stops = false)
    (unborn : ∀ u, .installed u ∈ (c.step move).trail name → u.id ≠ id) :
    (c.step move).scheduler.whereabouts name id = {} ∧ c.occasions name id move = [] := by
  cases move with
  | client other call =>
    refine ⟨(serve_served reached.sound call).absent reached.sound absent ?_, rfl⟩
    rintro rfl u installed
    refine unborn u ?_
    simp only [Chronicle.step, next, noted_self]
    exact List.mem_append_left _ installed
  | cancel | shutdown => cases still
  | take other => exact ⟨(handed_take reached name id other).1.absent absent, rfl⟩
  | work plan place =>
    have foreign : (c.scheduler.ready[place]?).any (·.concerns name id) = false := by
      rw [← Bool.not_eq_true, Option.any_eq_true]
      rintro ⟨job, found, own⟩
      have member : job ∈ (c.scheduler.whereabouts name id).jobs :=
        List.mem_filter.mpr ⟨List.mem_of_getElem? found, own⟩
      rw [absent] at member
      cases member
    refine ⟨(handed_work reached plan foreign).absent absent, ?_⟩
    simp only [occasions, foreign, Bool.false_eq_true, ↓reduceIte]
  | wait duration =>
    refine ⟨?_, rfl⟩
    simp only [Chronicle.step, whereabouts_reach, whereabouts_conclude, absent, List.filter_nil,
      List.map_nil, List.append_nil]

theorem absent_run (reached : Reached c) (absent : c.scheduler.whereabouts name id = {})
    {moves : List (Move ω)} (still : ∀ move ∈ moves, move.stops = false)
    (unborn : ∀ u, .installed u ∈ (c.run moves).trail name → u.id ≠ id) :
    (c.run moves).scheduler.whereabouts name id = {} ∧ c.course name id moves = [] := by
  induction moves generalizing c with
  | nil => exact ⟨absent, rfl⟩
  | cons move rest ih =>
    obtain ⟨first, others⟩ := List.forall_mem_cons.mp still
    obtain ⟨absent', nothing⟩ := absent_step reached absent first
      fun u installed => unborn u (mem_trail_run installed rest)
    obtain ⟨absent'', nothing'⟩ := ih (reached.step move) absent' others unborn
    exact ⟨absent'', by rw [course, nothing, nothing']; rfl⟩

/-- Until the root token is cancelled the dispatch loops pay attention, under the same settings. -/
theorem minds_run (reached : Reached c) (minds : c.scheduler.Minds name)
    (going : c.scheduler.stopping = false) {moves : List (Move ω)}
    (still : ∀ move ∈ moves, move.stops = false) :
    (c.run moves).scheduler.Minds name ∧ (c.run moves).scheduler.setting = c.scheduler.setting := by
  induction moves generalizing c with
  | nil => exact ⟨minds, rfl⟩
  | cons move rest ih =>
    obtain ⟨first, others⟩ := List.forall_mem_cons.mp still
    have setting := step_setting reached first
    obtain ⟨_, stopping⟩ := Prod.mk.inj setting
    obtain ⟨minds', setting'⟩ := ih (reached.step move) (minds_step reached minds going first)
      (stopping.trans going) others
    exact ⟨minds', setting'.trans setting⟩

/-- A task that was accepted, and whose id was unknown, is queued. -/
theorem stands_register (reached : Reached c) {t : Task ω}
    (absent : c.scheduler.whereabouts name t.id = {})
    (accepted : (c.scheduler.register name t).answer = .ok ()) (future : c.scheduler.now ≤ t.due) :
    (c.step (.client name (.register t))).scheduler.Stands t.interval name t.id
      (.waiting t.due) := by
  cases here : c.scheduler.queue? name with
  | none =>
    simp only [register, here] at accepted
    cases accepted
  | some q =>
    have sound := reached.sound q here
    cases success : q.upsert t with
    | error why =>
      simp only [register, here, success] at accepted
      cases accepted
    | ok e =>
      have known : (c.scheduler.whereabouts name t.id).held = _ := held_of_queue? here
      rw [absent] at known
      have free : q.find? t.id = none := (Prod.mk.inj known).1.symm
      obtain ⟨open_, ⟨_, rfl⟩ | ⟨pos, found, _⟩⟩ := upsert_ok sound success
      · have queued : (c.step (.client name (.register t))).scheduler.whereabouts name t.id =
            { held := (some t, false) } := by
          simp only [Chronicle.step, next, serve, register, here, success]
          rw [whereabouts_putQueue here, if_pos rfl, absent, sound.holds_place open_ free,
            if_pos rfl]
        refine .queued queued rfl ?_
        have now : (c.step (.client name (.register t))).scheduler.now = c.scheduler.now :=
          serve_now _ _ _
        rw [now]
        exact Int.le_trans future (Instant.le_ceilMilli t.due)
      · rw [← sound.position_eq_none_iff, found] at free
        cases free

/-- A task is accepted at an instant that is not later than its due time, and from then on it is left
alone: no call names it, its queue is not closed or removed, the root token is not cancelled, and the
clock is virtual. -/
structure LeftAlone (c : Chronicle ω) (name : String) (t : Task ω) (after : List (Move ω)) :
    Prop where
  accepted : (c.scheduler.register name t).answer = .ok ()
  future : c.scheduler.now ≤ t.due
  spared : ∀ move ∈ after, move.spares name t.id = true
  still : ∀ move ∈ after, move.stops = false
  timely : (c.step (.client name (.register t))).timely after = true

/-- A task is registered and then left alone, and its id was unknown before: neither queued nor
handed over nor executed, as it is if nobody ever gave it to the queue (`absent_run`). Then, whatever
other tasks do on whatever queues, its executions follow one another with a fixed delay: the first
begins when the task is due, each is over when it returns, fails, breaks down or is cut off,
whichever comes first (`Execution.outcome?`), and the next begins one interval later. None begins in
between, and none is late: as far as a clock can show, it does not pass the instant of what is to
happen next (`Phase.Pending`). Timers tell milliseconds apart, so that a due time between two of them
is met in the same millisecond, and one that is a whole millisecond exactly (`Instant.Near`). -/
theorem executions_keep_fixed_delay (config : Config) (start : Int) (name : String) (t : Task ω)
    (before after : List (Move ω)) :
    let fresh : Chronicle ω := { scheduler := { config, now := start } }
    let registered := (fresh.run before).step (.client name (.register t))
    (∀ move ∈ before, move.stops = false) → (fresh.run before).LeftAlone name t after →
    (fresh.run before).scheduler.whereabouts name t.id = {} →
    ∃ phase,
      FixedDelay Instant.Near config.executionTimeout t.interval (.waiting t.due)
        (registered.course name t.id after) phase ∧
      ((registered.run after).scheduler.now ≤ Instant.latest →
        phase.Pending config.executionTimeout (registered.run after).scheduler.now
          ((registered.run after).scheduler.ready = [])) := by
  intro fresh registered stillBefore ⟨accepted, future, spared, stillAfter, timely⟩ absent
  have minds : fresh.scheduler.Minds name := fun line found => by cases found
  have new : fresh.Reached := .fresh config start
  obtain ⟨minds₁, setting₁⟩ := minds_run new minds rfl stillBefore
  have reached₁ : (fresh.run before).Reached := new.run before
  -- the task is queued
  have reached₂ : registered.Reached := reached₁.step (.client name (.register t))
  have stands : registered.scheduler.Stands t.interval name t.id (.waiting t.due) :=
    stands_register reached₁ absent accepted future
  have minds₂ : registered.scheduler.Minds name :=
    minds_step reached₁ minds₁ (congrArg Prod.snd setting₁) rfl
  have setting₂ : registered.scheduler.setting = (config, false) :=
    (step_setting reached₁ rfl).trans setting₁
  obtain ⟨config₂, going⟩ := Prod.mk.inj setting₂
  -- and left alone
  obtain ⟨phase, stands', delayed⟩ :=
    stands_run reached₂ minds₂ going stands stillAfter spared timely
  obtain ⟨minds₃, setting₃⟩ := minds_run reached₂ minds₂ going stillAfter
  have config₃ : (registered.run after).scheduler.config = config :=
    (congrArg Prod.fst setting₃).trans config₂
  have pending := stands'.pending minds₃ (reached₂.run after).sound
  rw [config₂] at delayed
  rw [config₃] at pending
  exact ⟨phase, delayed, pending⟩

/-- While another task of the queue executes for 70 ms, a task fails after 5 ms, begins again 20 ms
later, is cut off at the time limit, and begins a third time 20 ms after that. All of these are whole
milliseconds, and so it begins exactly when it is due. -/
theorem delay_beside_slow_task :
    let ms := Duration.ofMillis
    let config : Config := { executionTimeout := some (ms 100) }
    let slow : Task Unit := { id := "slow", due := 0, interval := ms 1000, work := () }
    let t : Task Unit := { id := "a", due := Instant.ofMillis 10, interval := ms 20, work := () }
    let plan (u : Task Unit) : Execution :=
      if u.id = "slow" then { length := some (ms 70) }
      else if u.run = 0 then { length := some (ms 5), ending := .failed ["refused"] }
      else { length := none }
    let now (jobs : Nat) : List (Move Unit) := List.replicate jobs (.work plan 0)
    let later (duration jobs : Nat) : List (Move Unit) := .wait (ms duration) :: now jobs
    let before : List (Move Unit) := [.client "q" .addQueue, .client "q" (.register slow)]
    let after := now 2 ++ later 10 2 ++ later 5 2 ++ later 20 2 ++ later 35 2 ++ later 65 3 ++
      later 20 2
    let fresh : Chronicle Unit := { scheduler := { config, now := 0 } }
    let registered := (fresh.run before).step (.client "q" (.register t))
    let course := registered.course "q" "a" after
    course =
        [(Instant.ofMillis 10, .begun (plan t)),
          (Instant.ofMillis 15, .ended (.failed ["refused"])),
          (Instant.ofMillis 35, .begun { length := none }),
          (Instant.ofMillis 135, .cut),
          (Instant.ofMillis 155, .begun { length := none })] ∧
      ∃ phase, FixedDelay Eq config.executionTimeout t.interval (.waiting t.due) course phase := by
  intro ms config slow t plan now later before after fresh registered course
  have trail : (fresh.run before).trail "q" = [.installed slow, .opened] := by decide +kernel
  have absent : (fresh.run before).scheduler.whereabouts "q" "a" = {} := by
    refine (absent_run (.fresh config 0) rfl (by decide +kernel) fun u installed => ?_).1
    rw [trail] at installed
    simp at installed
    simp [installed, slow]
  have alone : (fresh.run before).LeftAlone "q" t after :=
    ⟨by decide +kernel, by decide +kernel, by decide +kernel, by decide +kernel, by decide +kernel⟩
  obtain ⟨phase, near, _⟩ :=
    executions_keep_fixed_delay config 0 "q" t before after (by decide +kernel) alone absent
  refine ⟨by decide +kernel, phase, near.exact (by decide) (fun due first => ?_) (by decide +kernel)⟩
  cases first
  decide

/-- Executions do not begin exactly when they are due in general. With an interval of 1.5 ms the
second one begins after 2 ms. Nor does a registration fix their interval when a client has queued
the id before: a record that is due later stays, with its own interval of 700 ms, and is put
forward. -/
theorem delay_not_always_exact :
    let ms := Duration.ofMillis
    let fresh : Chronicle Unit := {}
    let plan (_ : Task Unit) : Execution := {}
    let now (jobs : Nat) : List (Move Unit) := List.replicate jobs (.work plan 0)
    let course (before : List (Move Unit)) (t : Task Unit) (after : List (Move Unit)) :=
      ((fresh.run before).step (.client "q" (.register t))).course "q" t.id after
    let punctual (before : List (Move Unit)) (t : Task Unit) (after : List (Move Unit)) : Prop :=
      (∀ move ∈ before, move.stops = false) → (fresh.run before).LeftAlone "q" t after →
        ∃ phase, FixedDelay Eq none t.interval (.waiting t.due) (course before t after) phase
    let fine : Task Unit := { id := "a", due := 0, interval := 1500000, work := () }
    let old : Task Unit := { id := "a", due := Instant.ofMillis 5000, interval := ms 700, work := () }
    let again : Task Unit :=
      { id := "a", due := Instant.ofMillis 100, interval := ms 1000, work := () }
    ¬ punctual [.client "q" .addQueue] fine (now 3 ++ .wait (ms 2) :: now 2) ∧
      ¬ punctual [.client "q" .addQueue, .client "q" (.update old)] again
        (now 1 ++ .wait (ms 100) :: now 3 ++ .wait (ms 700) :: now 2) := by
  intro ms fresh plan now course punctual fine old again
  constructor
  · intro law
    have shown : course [.client "q" .addQueue] fine (now 3 ++ .wait (ms 2) :: now 2) =
        [(0, .begun {}), (0, .ended .completed), (Instant.ofMillis 2, .begun {}),
          (Instant.ofMillis 2, .ended .completed)] := by decide +kernel
    obtain ⟨phase, delayed⟩ := law (by decide +kernel)
      ⟨by decide +kernel, by decide +kernel, by decide +kernel, by decide +kernel,
        by decide +kernel⟩
    rw [shown] at delayed
    exact absurd delayed.second (by decide)
  · intro law
    have shown : course [.client "q" .addQueue, .client "q" (.update old)] again
        (now 1 ++ .wait (ms 100) :: now 3 ++ .wait (ms 700) :: now 2) =
          [(Instant.ofMillis 100, .begun {}), (Instant.ofMillis 100, .ended .completed),
            (Instant.ofMillis 800, .begun {}), (Instant.ofMillis 800, .ended .completed)] := by
      decide +kernel
    obtain ⟨phase, delayed⟩ := law (by decide +kernel)
      ⟨by decide +kernel, by decide +kernel, by decide +kernel, by decide +kernel,
        by decide +kernel⟩
    rw [shown] at delayed
    exact absurd delayed.second (by decide)

end Chronicle

end Vigil
