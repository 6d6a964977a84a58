import Vigil.Proofs.Scheduler.Retention

/-!
# Scripts, and what is seen of a run

A script tells a scheduler on its clock what clients do and how time passes; after each order all
that can run does so. Whoever watches sees frames: the answer, what happened and when, and the
scheduler afterwards. The moves of a chronicle make frames as well, one for each atomic step; and
what happens in a script happens in a run (`exists_happened_obey`).
-/
namespace Vigil

variable {ω : Type}

namespace Scheduler

/-- What a client is told. -/
inductive Answer where
  | done
  | flag (yes : Bool)
  /-- How many tasks a closed queue held, if there is such a queue. -/
  | count (discarded : Option Nat)
  | result (outcome : Except SchedulingError Unit)

/-- What is seen of one thing that is done to a scheduler; events carry their time. -/
structure Frame (ω : Type) where
  answer : Answer := .done
  events : List (Int × Event ω)
  scheduler : Scheduler ω

/-- How the second half of an update ends. -/
def pushed (s : Scheduler ω) (name : String) (task : Task ω) : Except SchedulingError Unit :=
  match s.queue? name with
  | none => .error (.queueNotFound name)
  | some q => (q.push task).map fun _ => ()

def answer (s : Scheduler ω) (name : String) : Call ω → Answer
  | .addQueue => .flag (s.addQueue name).answer
  | .removeQueue => .flag (s.removeQueue name).answer
  | .closeQueue => .count (s.closeQueue name).answer
  | .register task => .result (s.register name task).answer
  | .update task => .result (s.update name task).answer
  | .remove _ => .done
  | .push task => .result (s.pushed name task)

def reports (s : Scheduler ω) (name : String) : Call ω → List Notice
  | .addQueue => (s.addQueue name).notices
  | .removeQueue => (s.removeQueue name).notices
  | .closeQueue => (s.closeQueue name).notices
  | .register task => (s.register name task).notices
  | .update task => (s.update name task).notices
  | .remove id => (s.remove name id).notices
  | .push task => if (s.pushed name task).toBool then [.updated name task.id] else []

/-- One line of a script. -/
inductive Order (ω : Type) where
  | call (name : String) (call : Call ω)
  | cancel
  | shutdown
  | advance (duration : Nat)

/-- Do as told, and then all that can be done at once. -/
def obey (plan : Task ω → Execution) (s : Scheduler ω) : Order ω → Frame ω
  | .call name call =>
    let settled := (s.serve name call).settle plan
    { answer := s.answer name call
      events := ((s.reports name call).map Event.notice ++ settled.2).map (s.now, ·)
      scheduler := settled.1 }
  | .cancel =>
    let settled := s.cancel.settle plan
    { events := settled.2.map (s.now, ·), scheduler := settled.1 }
  | .shutdown =>
    let settled := s.shutdown.scheduler.settle plan
    let happened := s.shutdown.notices.map Event.notice ++ settled.2 ++ [Event.notice .stopped]
    { events := happened.map (s.now, ·)
      scheduler := settled.1 }
  | .advance duration =>
    let moved := s.advanceTo plan (s.now + duration)
    { events := moved.2, scheduler := moved.1 }

/-- The frames of a script. -/
def play (plan : Task ω → Execution) (s : Scheduler ω) : List (Order ω) → List (Frame ω)
  | [] => []
  | order :: rest => s.obey plan order :: (s.obey plan order).scheduler.play plan rest

end Scheduler

/-- What can happen when no client acts and no loop is interrupted. -/
def Move.Unasked (plan : Task ω → Execution) : Move ω → Prop
  | .work plan' _ => plan' = plan
  | .wait _ => True
  | _ => False

namespace Chronicle

/-- What happens in a move. -/
def emits (c : Chronicle ω) : Move ω → List (Event ω)
  | .client name call => (c.scheduler.reports name call).map .notice
  | .shutdown => c.scheduler.shutdown.notices.map .notice
  | .take name =>
    match c.scheduler.takeOne? name with
    | none => []
    | some (_, task) => [.notice (.dispatching name task.id)]
  | .work plan place =>
    match c.scheduler.ready[place]? with
    | none => []
    | some job => (({ c.scheduler with ready := c.scheduler.ready.eraseIdx place } :
        Scheduler ω).perform plan job).2
  | .cancel | .wait _ => []

def frame (c : Chronicle ω) (move : Move ω) : Scheduler.Frame ω where
  answer :=
    match move with
    | .client name call => c.scheduler.answer name call
    | _ => .done
  events := (c.emits move).map (c.scheduler.now, ·)
  scheduler := (c.step move).scheduler

/-- The frames of a row of moves. -/
def frames (c : Chronicle ω) : List (Move ω) → List (Scheduler.Frame ω)
  | [] => []
  | move :: rest => c.frame move :: (c.step move).frames rest

/-! ### Scripts are runs -/

theorem frames_append (c : Chronicle ω) (first second : List (Move ω)) :
    c.frames (first ++ second) = c.frames first ++ (c.run first).frames second := by
  induction first generalizing c with
  | nil => rfl
  | cons move rest ih =>
    rw [List.cons_append, frames, ih, frames, List.cons_append]
    rfl

/-- What happens in a row of moves, with the times. -/
def happened (c : Chronicle ω) (moves : List (Move ω)) : List (Int × Event ω) :=
  (c.frames moves).flatMap (·.events)

theorem happened_append (c : Chronicle ω) (first second : List (Move ω)) :
    c.happened (first ++ second) = c.happened first ++ (c.run first).happened second := by
  rw [happened, frames_append, List.flatMap_append]
  rfl

theorem happened_singleton (c : Chronicle ω) (move : Move ω) :
    c.happened [move] = (c.emits move).map (c.scheduler.now, ·) := by
  simp [happened, frames, frame]

/-- All that can run at an instant does so in jobs, one after the other. -/
theorem exists_happened_settle (plan : Task ω → Execution) (c : Chronicle ω) :
    ∃ jobs, (c.run (List.replicate jobs (.work plan 0))).scheduler =
        (c.scheduler.settle plan).1 ∧
      c.happened (List.replicate jobs (.work plan 0)) =
        (c.scheduler.settle plan).2.map (c.scheduler.now, ·) := by
  generalize same : c.scheduler = s
  -- the first job in line
  have work {job : Job ω} {rest : List (Job ω)} {c : Chronicle ω} {s : Scheduler ω}
      (same : c.scheduler = s) (ready : s.ready = job :: rest) :
      (c.step (.work plan 0)).scheduler = (({ s with ready := rest }).perform plan job).1 ∧
        c.emits (.work plan 0) = (({ s with ready := rest }).perform plan job).2 := by
    subst same
    simp only [Chronicle.step, emits, Chronicle.next, ready, List.getElem?_cons_zero,
      List.eraseIdx_zero, List.tail_cons, and_self]
  fun_induction Scheduler.settle plan s generalizing c with
  | case1 s => exact ⟨0, same, rfl⟩
  | case2 s job rest ready next less final ih =>
    obtain ⟨worked, told⟩ := work same ready
    obtain ⟨jobs, done, seen⟩ := ih (c.step (.work plan 0)) worked
    refine ⟨jobs + 1, done, ?_⟩
    have clock : next.1.now = s.now := Scheduler.perform_now plan _ job
    have split := c.happened_append [.work plan 0] (List.replicate jobs (.work plan 0))
    rw [happened_singleton, told, same] at split
    rw [clock] at seen
    refine split.trans ?_
    rw [List.map_append]
    exact congrArg _ seen
  | case3 s job rest ready next last =>
    obtain ⟨worked, told⟩ := work same ready
    refine ⟨1, worked, ?_⟩
    rw [List.replicate_one, happened_singleton, told, same]

theorem unasked_replicate (plan : Task ω → Execution) (jobs : Nat) :
    ∀ move ∈ List.replicate jobs (.work plan 0 : Move ω), move.Unasked plan := by
  intro move member
  rw [List.eq_of_mem_replicate member]
  rfl

/-- What happens while the clock moves, and nobody asks for anything. -/
theorem exists_happened_advanceTo (plan : Task ω → Execution) (c : Chronicle ω) {target : Int}
    (later : c.scheduler.now ≤ target) :
    ∃ moves, (∀ move ∈ moves, Move.Unasked plan move) ∧
      (c.run moves).scheduler = (c.scheduler.advanceTo plan target).1 ∧
        c.happened moves = (c.scheduler.advanceTo plan target).2 := by
  have stop : ∀ (c : Chronicle ω) (t : Int), c.scheduler.now ≤ t →
      ∃ moves, (∀ move ∈ moves, Move.Unasked plan move) ∧
        (c.run moves).scheduler = ((c.scheduler.reach t).settle plan).1 ∧
          c.happened moves = ((c.scheduler.reach t).settle plan).2.map (t, ·) := by
    intro c t on
    let wait : Move ω := .wait (t - c.scheduler.now).toNat
    have there : (c.step wait).scheduler = c.scheduler.reach t := by
      simp only [Chronicle.step, wait]
      congr 1
      omega
    obtain ⟨jobs, done, seen⟩ := exists_happened_settle plan (c.step wait)
    rw [there] at done seen
    rw [Scheduler.reach_now] at seen
    have split := c.happened_append [wait] (List.replicate jobs (.work plan 0))
    rw [happened_singleton] at split
    exact ⟨wait :: List.replicate jobs (.work plan 0),
      List.forall_mem_cons.mpr ⟨trivial, unasked_replicate plan jobs⟩, done, split.trans seen⟩
  generalize same : c.scheduler = s at later
  fun_induction Scheduler.advanceTo plan s target generalizing c with
  | case1 s stop' timer =>
    subst same
    exact stop c target later
  | case2 s stop' t timer before reached final ih =>
    subst same
    have on : c.scheduler.now ≤ t := Int.le_of_lt (Scheduler.now_lt_nextTimer timer)
    obtain ⟨first, unasked, arrived, seen⟩ := stop c t on
    have clock : (c.run first).scheduler.now ≤ target := by
      rw [arrived, Scheduler.settle_now, Scheduler.reach_now]
      exact before
    obtain ⟨second, unasked', done, seen'⟩ := ih (c.run first) arrived (arrived ▸ clock)
    refine ⟨first ++ second, List.forall_mem_append.mpr ⟨unasked, unasked'⟩,
      by rw [run_append, done], ?_⟩
    rw [happened_append, seen, seen']
  | case3 s stop' t timer after =>
    subst same
    exact stop c target later

/-- What happens in a script happens in a run, but for the report that the scheduler stopped. -/
theorem exists_happened_obey (plan : Task ω → Execution) (c : Chronicle ω)
    (order : Scheduler.Order ω) :
    ∃ moves last, (c.run moves).scheduler = (c.scheduler.obey plan order).scheduler ∧
      (c.scheduler.obey plan order).events = c.happened moves ++ last ∧
        ∀ e ∈ last, e.2 = .notice .stopped := by
  -- a move of a client, and all that can run then
  have settled (move : Move ω) (still : (c.step move).scheduler.now = c.scheduler.now) :
      ∃ moves, (c.run moves).scheduler = ((c.step move).scheduler.settle plan).1 ∧
        c.happened moves = (c.emits move ++ ((c.step move).scheduler.settle plan).2).map
          (c.scheduler.now, ·) := by
    obtain ⟨jobs, done, seen⟩ := exists_happened_settle plan (c.step move)
    have split := c.happened_append [move] (List.replicate jobs (.work plan 0))
    rw [happened_singleton] at split
    rw [still] at seen
    refine ⟨move :: List.replicate jobs (.work plan 0), done, split.trans ?_⟩
    rw [List.map_append]
    exact congrArg _ seen
  cases order with
  | call name call =>
    obtain ⟨moves, done, seen⟩ := settled (.client name call) (Scheduler.serve_now _ name call)
    exact ⟨moves, [], done, by rw [seen]; simp [Scheduler.obey, emits, Chronicle.step, next],
      List.forall_mem_nil _⟩
  | cancel =>
    obtain ⟨moves, done, seen⟩ := settled .cancel (Scheduler.cancel_now _)
    exact ⟨moves, [], done, by rw [seen]; simp [Scheduler.obey, emits, Chronicle.step],
      List.forall_mem_nil _⟩
  | shutdown =>
    obtain ⟨moves, done, seen⟩ := settled .shutdown (Scheduler.shutdown_now _)
    exact ⟨moves, [(c.scheduler.now, .notice .stopped)], done,
      by rw [seen]; simp [Scheduler.obey, emits, Chronicle.step],
      List.forall_mem_singleton.mpr rfl⟩
  | advance duration =>
    have later : c.scheduler.now ≤ c.scheduler.now + duration := by omega
    obtain ⟨moves, _, done, seen⟩ := exists_happened_advanceTo plan c later
    exact ⟨moves, [], done, by rw [seen]; simp [Scheduler.obey], List.forall_mem_nil _⟩

theorem mem_play_happened (plan : Task ω → Execution) (c : Chronicle ω)
    (script : List (Scheduler.Order ω)) {f : Scheduler.Frame ω}
    (played : f ∈ c.scheduler.play plan script) {e : Int × Event ω} (inside : e ∈ f.events) :
    e.2 = .notice .stopped ∨ ∃ moves, e ∈ c.happened moves := by
  induction script generalizing c with
  | nil => cases played
  | cons order rest ih =>
    obtain ⟨moves, last, done, seen, stopped⟩ := exists_happened_obey plan c order
    rcases List.mem_cons.mp played with rfl | later
    · rw [seen] at inside
      rcases List.mem_append.mp inside with here | said
      · exact .inr ⟨moves, here⟩
      · exact .inl (stopped e said)
    · rw [← done] at later
      refine (ih (c.run moves) later).imp id ?_
      rintro ⟨more, there⟩
      exact ⟨moves ++ more, happened_append c moves more ▸ List.mem_append_right _ there⟩

end Chronicle

end Vigil
