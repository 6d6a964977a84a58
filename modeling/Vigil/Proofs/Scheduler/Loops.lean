import Vigil.Proofs.Scheduler.Registry
import Vigil.Proofs.Scheduler.Script
import Vigil.Proofs.Scheduler.Tickets

/-!
# Dispatch loops, from their start to their end

The loop of a registered queue stands in the ready line exactly while it is about to look, and once
(`Lined`). So it ends once; and every loop that was started is still there or has reported its end
(`loops_run`).
-/
namespace Vigil

open Queue

variable {ω : Type}

/-- The loop is about to look at its queue. -/
def DispatchLoop.inLine : DispatchLoop → Bool
  | .fresh | .runnable => true
  | .blocked _ | .ended => false

/-- Whether the job is a look at the queue of this name. -/
def Job.looks (name : String) : Job ω → Bool
  | .dispatch q => q == name
  | _ => false

/-- Whether the job is the end of a loop whose queue of this name was removed. -/
def Job.leaves (name : String) : Job ω → Bool
  | .retire q _ => q == name
  | _ => false

/-- Whether a loop of this name reports its end. -/
def Event.stops (name : String) : Event ω → Bool
  | .notice (.loopStopped q _) => q == name
  | _ => false

/-- Whether the notice comes from a dispatch loop. -/
def Notice.ofLoop : Notice → Bool
  | .loopStarted _ | .loopStopped .. | .dispatching .. => true
  | _ => false

theorem ofLoop_of_stops {name : String} {n : Notice} (other : n.ofLoop = false) :
    Event.stops (ω := ω) name (.notice n) = false := by
  cases n <;> first | rfl | cases other

theorem countP_notices {p : Event ω → Bool}
    (blind : ∀ n : Notice, n.ofLoop = false → p (.notice n) = false) {notices : List Notice}
    (others : ∀ n ∈ notices, n.ofLoop = false) : (notices.map Event.notice).countP p = 0 := by
  rw [List.countP_eq_zero]
  intro e member
  obtain ⟨n, inside, rfl⟩ := List.mem_map.mp member
  rw [blind n (others n inside)]
  exact Bool.false_ne_true

def Queue.Deed.opens : Deed ω → Bool
  | .opened => true
  | _ => false

namespace Scheduler

/-- The loop of the queue that is registered under this name. -/
def loop? (s : Scheduler ω) (name : String) : Option DispatchLoop := (s.line? name).map (·.loop)

/-- The loop of the registered queue is in line, once, exactly if it is about to look. -/
def Lined (s : Scheduler ω) (name : String) : Prop :=
  s.ready.countP (Job.looks name) = ((s.loop? name).any (·.inLine)).toNat

/-- How many loops of queues of this name have not reported their end. -/
def loops (s : Scheduler ω) (name : String) : Nat :=
  s.ready.countP (Job.leaves name) + ((s.loop? name).any (· ≠ .ended)).toNat

/-- From `s` to `s'`, so many loops of this name end and so many begin. -/
structure Turnover (s s' : Scheduler ω) (name : String) (ends begins : Nat) : Prop where
  lined : s.Lined name → s'.Lined name
  balance : s.Lined name → s'.loops name + ends = s.loops name + begins

variable {s s' s'' : Scheduler ω} {name : String}

theorem Turnover.trans {e e' b b' : Nat} (first : Turnover s s' name e b)
    (second : Turnover s' s'' name e' b') : Turnover s s'' name (e + e') (b + b') where
  lined := second.lined ∘ first.lined
  balance lined := by
    have := first.balance lined
    have := second.balance (first.lined lined)
    omega

/-- What comes after a step in which no loop begins or ends. -/
theorem Turnover.andThen {e b : Nat} (idle : Turnover s s' name 0 0)
    (next : Turnover s' s'' name e b) : Turnover s s'' name e b := by
  simpa only [Nat.zero_add] using idle.trans next

theorem Turnover.of_same (loop : s'.loop? name = s.loop? name)
    (looks : s'.ready.countP (Job.looks name) = s.ready.countP (Job.looks name))
    (leaves : s'.ready.countP (Job.leaves name) = s.ready.countP (Job.leaves name)) :
    Turnover s s' name 0 0 where
  lined := by
    unfold Lined
    rw [loop, looks]
    exact id
  balance _ := by
    unfold loops
    rw [loop, leaves]

theorem Turnover.refl (s : Scheduler ω) (name : String) : Turnover s s name 0 0 :=
  .of_same rfl rfl rfl

theorem turnover_wake (s : Scheduler ω) (other name : String) :
    Turnover s (s.wake other) name 0 0 := by
  rcases wake_cases s other with ⟨same, _⟩ | ⟨l, wakeAt, here, sleeps, woken⟩
  · rw [same]
    exact .refl s name
  · have line := line?_wake s name other
    rw [woken] at line ⊢
    by_cases at_ : other = name
    · subst at_
      have before : s.loop? other = some (.blocked wakeAt) := by simp [loop?, here, sleeps]
      have after : ({ s.modifyLine other fun l => { l with loop := .runnable } with
          ready := s.ready ++ [.dispatch other] } : Scheduler ω).loop? other = some .runnable := by
        rw [loop?, line, here]
        simp [Line.roused, sleeps]
      constructor
      · intro lined
        rw [Lined, before] at lined
        rw [Lined, after]
        simpa [Job.looks, DispatchLoop.inLine] using lined
      · intro _
        rw [loops, loops, before, after]
        simp [Job.leaves]
    · refine .of_same ?_ ?_ ?_
      · rw [loop?, line, loop?]
        simp [at_]
      · simp [Job.looks, at_]
      · simp [Job.leaves]

theorem turnover_foldl_wake (names : List String) (s : Scheduler ω) (name : String) :
    Turnover s (names.foldl wake s) name 0 0 := by
  induction names generalizing s with
  | nil => exact .refl s name
  | cons other rest ih => exact (turnover_wake s other name).trans (ih _)

theorem loop?_modifyQueue (s : Scheduler ω) (other : String) (q : Queue ω) :
    (s.modifyLine other fun l => { l with queue := q }).loop? = s.loop? := by
  funext name
  have line := line?_modifyLine s other (f := fun l => { l with queue := q }) (fun _ => rfl) name
  rw [loop?, line, loop?]
  split
  · rw [Option.map_map]
    rfl
  · rfl

theorem turnover_putQueue (s : Scheduler ω) (other : String) (q : Queue ω) (wakes : Bool)
    (name : String) : Turnover s (s.putQueue other q wakes) name 0 0 := by
  have put : Turnover s (s.modifyLine other fun l => { l with queue := q }) name 0 0 :=
    .of_same (congrFun (loop?_modifyQueue s other q) name) rfl rfl
  unfold putQueue
  split
  · exact put.trans (turnover_wake _ other name)
  · exact put

theorem countP_leave (name other : String) (fresh : Bool) (jobs : List (Job ω)) :
    (jobs.map (.leave other fresh)).countP (Job.looks name) =
        (if other = name then 0 else jobs.countP (Job.looks name)) ∧
      (jobs.map (.leave other fresh)).countP (Job.leaves name) = jobs.countP (Job.leaves name) +
        if other = name then jobs.countP (Job.looks name) else 0 := by
  induction jobs with
  | nil => simp
  | cons job rest ih =>
    obtain ⟨looks, leaves⟩ := ih
    simp only [List.map_cons, List.countP_cons, looks, leaves]
    cases job with
    | dispatch q =>
      by_cases at_ : q = other
      · subst at_
        by_cases named : q = name
        · simp only [Job.leave, Job.looks, Job.leaves, named, beq_self_eq_true, ↓reduceIte,
            Bool.false_eq_true, Nat.add_zero, true_and]
          omega
        · simp [Job.leave, Job.looks, Job.leaves, named]
      · by_cases named : other = name
        · subst named
          simp [Job.leave, Job.looks, Job.leaves, at_]
        · simp [Job.leave, Job.looks, Job.leaves, at_, named]
    | retire q =>
      by_cases named : other = name
      · simp [Job.leave, Job.looks, Job.leaves, named]
        omega
      · simp [Job.leave, Job.looks, Job.leaves, named]
    | _ => simp [Job.leave, Job.looks, Job.leaves]

/-- The loop of a queue that is taken out leaves. -/
theorem turnover_detach {line : Line ω} (here : s.line? line.name = some line) (name : String) :
    Turnover s (s.detach line) name 0 0 := by
  have gone : (s.detach line).loop? name = if line.name = name then none else s.loop? name := by
    rw [loop?, line?_detach]
    split <;> rfl
  by_cases at_ : line.name = name
  · subst at_
    rw [if_pos rfl] at gone
    have before : s.loop? line.name = some line.loop := by rw [loop?, here]; rfl
    suffices left : s.Lined line.name →
        (s.detach line).ready.countP (Job.looks line.name) = 0 ∧
          (s.detach line).ready.countP (Job.leaves line.name) =
            s.ready.countP (Job.leaves line.name) + (decide (line.loop ≠ .ended)).toNat by
      constructor
      · intro lined
        rw [Lined, gone, (left lined).1]
        rfl
      · intro lined
        rw [loops, loops, gone, before, (left lined).2]
        simp
    intro lined
    rw [Lined, before] at lined
    rw [detach_eq]
    cases loop : line.loop with
    | fresh | runnable =>
      rw [loop] at lined
      obtain ⟨looks, leaves⟩ := countP_leave line.name line.name true s.ready
      obtain ⟨looks', leaves'⟩ := countP_leave line.name line.name false s.ready
      simp only [looks, leaves, looks', leaves', ↓reduceIte, lined]
      simp [DispatchLoop.inLine]
    | blocked wakeAt =>
      rw [loop] at lined
      simpa [Job.looks, Job.leaves, DispatchLoop.inLine] using lined
    | ended =>
      rw [loop] at lined
      simpa [DispatchLoop.inLine] using lined
  · rw [if_neg at_] at gone
    refine .of_same gone ?_ ?_
    · rw [detach_eq]
      cases line.loop with
      | fresh => simp only [(countP_leave name line.name true s.ready).1, at_, ↓reduceIte]
      | runnable => simp only [(countP_leave name line.name false s.ready).1, at_, ↓reduceIte]
      | blocked | ended => simp [Job.looks]
    · rw [detach_eq]
      cases line.loop with
      | fresh =>
        simp only [(countP_leave name line.name true s.ready).2, at_, ↓reduceIte, Nat.add_zero]
      | runnable =>
        simp only [(countP_leave name line.name false s.ready).2, at_, ↓reduceIte, Nat.add_zero]
      | blocked | ended => simp [Job.leaves, at_]

/-- A line that is found by its name when it is the first of those that are left. -/
theorem line?_head {line : Line ω} {rest : List (Line ω)} (lines : s.lines = line :: rest) :
    s.line? line.name = some line := by
  rw [line?, lines]
  simp

/-- All lines are taken out, the oldest first. -/
theorem turnover_foldl_detach (lines : List (Line ω)) (s : Scheduler ω) (same : s.lines = lines)
    (distinct : (lines.map (·.name)).Nodup) (name : String) :
    Turnover s (lines.foldl detach s) name 0 0 := by
  induction lines generalizing s with
  | nil => exact .refl s name
  | cons line rest ih =>
    obtain ⟨apart, distinct'⟩ := List.nodup_cons.mp distinct
    have left : (s.detach line).lines = rest := by
      rw [detach_eq, same]
      simp only [List.filter_cons, bne_self_eq_false, Bool.false_eq_true, ↓reduceIte]
      refine List.filter_eq_self.mpr fun other member => ?_
      simp only [bne_iff_ne, ne_eq]
      exact fun named => apart (List.mem_map.mpr ⟨other, member, named⟩)
    exact (turnover_detach (line?_head same) name).trans (ih _ left distinct')

/-! ### Calls and jobs -/

theorem loop?_append (s : Scheduler ω) {other : String} (free : s.line? other = none)
    (name : String) :
    ({ s with lines := s.lines ++ [{ name := other }], ready := s.ready ++ [.dispatch other] } :
      Scheduler ω).loop? name = if other = name then some .fresh else s.loop? name := by
  unfold line? at free
  unfold loop? line?
  by_cases at_ : other = name
  · subst at_
    simp [List.find?_append, free]
  · simp [List.find?_append, at_]

theorem turnover_addQueue (s : Scheduler ω) (other name : String) :
    Turnover s (s.addQueue other).scheduler name 0
      (if other = name then (s.addQueue other).answer.toNat else 0) := by
  unfold addQueue
  cases free : s.line? other with
  | some line =>
    simp only [Option.isSome_some, ↓reduceIte, Bool.toNat_false, ite_self]
    exact .refl s name
  | none =>
    have loop := loop?_append s free name
    simp only [Option.isSome_none, Bool.false_eq_true, ↓reduceIte, Bool.toNat_true]
    by_cases at_ : other = name
    · subst at_
      rw [if_pos rfl] at loop ⊢
      have before : s.loop? other = none := by rw [loop?, free]; rfl
      constructor
      · intro lined
        rw [Lined, before] at lined
        rw [Lined, loop]
        simpa [Job.looks, DispatchLoop.inLine] using lined
      · intro _
        rw [loops, loops, loop, before]
        simp [Job.leaves]
    · rw [if_neg at_] at loop ⊢
      exact .of_same loop (by simp [Job.looks, at_]) (by simp [Job.leaves])

theorem turnover_serve (sound : ∀ n q, s.queue? n = some q → q.Sound) (other : String)
    (call : Call ω) (name : String) :
    Turnover s (s.serve other call) name 0
      (if other = name then (s.serving other call).countP Deed.opens else 0) := by
  have none_ (nothing : (s.serving other call).countP Deed.opens = 0)
      (kept : Turnover s (s.serve other call) name 0 0) :
      Turnover s (s.serve other call) name 0
        (if other = name then (s.serving other call).countP Deed.opens else 0) := by
    rwa [nothing, ite_self]
  have served := serve_served (sound other) call
  cases call with
  | addQueue =>
    have added := turnover_addQueue s other name
    simp only [serve, serving]
    cases answer : (s.addQueue other).answer with
    | true => rwa [answer] at added
    | false => rwa [answer] at added
  | removeQueue =>
    refine none_ rfl ?_
    generalize s.serve other .removeQueue = s' at served
    cases served with
    | refused => exact .refl s name
    | @detached line here =>
      have named : line.name = other := by simpa using List.find?_some here
      subst named
      exact turnover_detach here name
    | put => exact turnover_putQueue s other _ _ name
  | closeQueue | register | update | remove | push =>
    refine none_ ?_ ?_
    · rw [List.countP_eq_zero]
      intro d member
      rcases serving_deeds s other _ d member with
        ⟨_, added⟩ | rfl | ⟨t, rfl⟩ | ⟨id, rfl⟩ | ⟨id, due, rfl⟩
      · cases added
      all_goals exact Bool.false_ne_true
    · generalize s.serve other _ = s' at served ⊢
      cases served with
      | refused => exact .refl s name
      | put => exact turnover_putQueue s other _ _ name

theorem turnover_reschedule (sound : ∀ n q, s.queue? n = some q → q.Sound) (other : String)
    (t : Task ω) (name : String) : Turnover s (s.reschedule other t).1 name 0 0 := by
  have back := reschedule_rescheduled (sound other) t
  generalize (s.reschedule other t).1 = s' at back
  cases back with
  | dropped => exact .refl s name
  | revoked | returned => exact turnover_putQueue s other _ _ name

/-- What a look does and reports. -/
theorem dispatch_cases (sound : ∀ q, s.queue? name = some q → q.Sound) {line : Line ω}
    (here : s.line? name = some line) :
    ∃ opening, (opening = [] ∨ opening = [Event.notice (.loopStarted name)]) ∧
      ((s.stopping = true ∨ line.queue.closed = true) ∧
          (∃ why, s.dispatch name = (s.modifyLine name fun l => { l with loop := .ended },
            opening ++ [.notice (.loopStopped name why)])) ∨
        s.stopping = false ∧ line.queue.closed = false ∧ ∃ q tasks wakeAt,
          line.queue.takeDue s.now = (q, tasks, some wakeAt) ∧
          s.dispatch name =
            ({ s.modifyLine name fun l => { l with queue := q, loop := .blocked wakeAt } with
                ready := s.ready ++ (tasks.zipIdx s.dispatched).map fun (t, k) => .start name k t
                dispatched := s.dispatched + tasks.length },
              opening ++ tasks.map fun t => .notice (.dispatching name t.id))) := by
  refine ⟨if line.loop = .fresh then [.notice (.loopStarted name)] else [], ?_, ?_⟩
  · split
    · exact .inr rfl
    · exact .inl rfl
  have queue : s.queue? name = some line.queue := by rw [queue?, here]; rfl
  simp only [dispatch, here]
  by_cases stopping : s.stopping = true
  · rw [if_pos stopping]
    exact .inl ⟨.inl stopping, _, rfl⟩
  · rw [if_neg stopping]
    split
    next q tasks took =>
      exact .inl ⟨.inr (closed_of_takeDue (sound _ queue) (congrArg (·.2.2) took)), _, rfl⟩
    next q tasks wakeAt took =>
      refine .inr ⟨Bool.not_eq_true _ ▸ stopping, ?_, q, tasks, wakeAt, took, rfl⟩
      rw [← Bool.not_eq_true]
      intro shut
      rw [takeDue] at took
      split at took
      next => cases took
      next looked => rw [glance_closed.mpr shut] at looked; cases looked
      next looked => rw [glance_closed.mpr shut] at looked; cases looked

theorem countP_eraseIdx_add {jobs : List (Job ω)} {place : Nat} {job : Job ω}
    (found : jobs[place]? = some job) (p : Job ω → Bool) :
    (jobs.eraseIdx place).countP p + (p job).toNat = jobs.countP p := by
  obtain ⟨bound, rfl⟩ := List.getElem?_eq_some_iff.mp found
  rw [← (List.getElem_cons_eraseIdx_perm bound).countP_eq, List.countP_cons]
  cases p jobs[place] <;> rfl

theorem countP_starts {p : Job ω → Bool} (blind : ∀ n k t, p (.start n k t) = false)
    (tasks : List (Task ω)) (first : Nat) (other : String) :
    ((tasks.zipIdx first).map fun (t, k) => Job.start other k t).countP p = 0 := by
  rw [List.countP_eq_zero]
  intro job member
  obtain ⟨⟨t, k⟩, _, rfl⟩ := List.mem_map.mp member
  simp [blind]

/-- A loop that has looked sleeps, or has reported its end; it gets in no line. -/
theorem dispatch_loop (sound : ∀ q, s.queue? name = some q → q.Sound) {line : Line ω}
    (here : s.line? name = some line) :
    ∃ loop : DispatchLoop, loop.inLine = false ∧
      (∀ other, (s.dispatch name).1.loop? other =
        if name = other then some loop else s.loop? other) ∧
      (∀ other, (s.dispatch name).2.countP (Event.stops other) =
        if name = other ∧ loop = .ended then 1 else 0) ∧
      ∀ p : Job ω → Bool, (∀ n k t, p (.start n k t) = false) →
        (s.dispatch name).1.ready.countP p = s.ready.countP p := by
  have replaced (f : Line ω → Line ω) (keeps : ∀ l, (f l).name = l.name) (other : String) :
      (s.modifyLine name f).loop? other =
        if name = other then some (f line).loop else s.loop? other := by
    rw [loop?, line?_modifyLine s name keeps]
    split
    next same =>
      rw [← same, here]
      rfl
    next => rfl
  obtain ⟨opening, said, ⟨_, why, left⟩ | ⟨_, _, q, tasks, wakeAt, _, slept⟩⟩ :=
    dispatch_cases sound here
  · rw [left]
    refine ⟨.ended, rfl, replaced (fun l => { l with loop := .ended }) fun _ => rfl, ?_,
      fun p _ => rfl⟩
    intro other
    rcases said with rfl | rfl <;> simp [List.countP_cons, Event.stops]
  · rw [slept]
    refine ⟨.blocked wakeAt, rfl,
      replaced (fun l => { l with queue := q, loop := .blocked wakeAt }) fun _ => rfl, ?_, ?_⟩
    · intro other
      rcases said with rfl | rfl <;> simp [List.countP_eq_zero, Event.stops]
    · intro p blind
      simp only [List.countP_append, countP_starts blind, Nat.add_zero]

/-- A look is the end of the loop, or it goes on. -/
theorem turnover_dispatch (sound : ∀ n q, s.queue? n = some q → q.Sound) {place : Nat}
    {other : String} (found : s.ready[place]? = some (.dispatch other)) (name : String) :
    let looking : Scheduler ω := { s with ready := s.ready.eraseIdx place }
    Turnover s (looking.dispatch other).1 name
      ((looking.dispatch other).2.countP (Event.stops name)) 0 := by
  intro looking
  have looks : looking.ready.countP (Job.looks name) + (other == name).toNat =
      s.ready.countP (Job.looks name) := countP_eraseIdx_add found (Job.looks name)
  have leaves : looking.ready.countP (Job.leaves name) = s.ready.countP (Job.leaves name) :=
    countP_eraseIdx_add found (Job.leaves name)
  cases here : s.line? other with
  | none =>
    have stays : looking.dispatch other = (looking, []) := by
      have here' : looking.line? other = none := here
      simp only [dispatch, here']
    rw [stays]
    by_cases at_ : other = name
    · have never : ¬ s.Lined name := by
        intro lined
        rw [Lined, ← looks, loop?, ← at_, here] at lined
        simp at lined
      exact ⟨fun lined => absurd lined never, fun lined => absurd lined never⟩
    · refine .of_same rfl ?_ leaves
      rw [← looks, beq_eq_false_iff_ne.mpr at_]
      rfl
  | some line =>
    have here' : looking.line? other = some line := here
    obtain ⟨loop, asleep, loops_, stops, ready⟩ := 
      dispatch_loop (s := looking) (sound other) here'
    have looks' := ready (Job.looks name) fun _ _ _ => rfl
    have leaves' := ready (Job.leaves name) fun _ _ _ => rfl
    by_cases at_ : other = name
    · subst at_
      have before : s.loop? other = some line.loop := by rw [loop?, here]; rfl
      have after := loops_ other
      rw [if_pos rfl] at after
      -- it was in line, and now it is not
      have was (lined : s.Lined other) :
          looking.ready.countP (Job.looks other) = 0 ∧ line.loop.inLine = true := by
        rw [Lined, before, ← looks, beq_self_eq_true, Option.any_some] at lined
        cases on : line.loop.inLine with
        | true =>
          rw [on] at lined
          exact ⟨Nat.succ.inj lined, rfl⟩
        | false =>
          rw [on] at lined
          cases lined
      constructor
      · intro lined
        rw [Lined, looks', after, (was lined).1]
        simp [asleep]
      · intro lined
        have alive : line.loop ≠ .ended := by
          intro ended
          have := (was lined).2
          rw [ended] at this
          cases this
        rw [loops, loops, leaves', leaves, before, after, stops]
        by_cases ended : loop = .ended <;> simp [alive, ended]
    · have after := loops_ name
      rw [if_neg at_] at after
      have silent := stops name
      rw [if_neg fun both => at_ both.1] at silent
      rw [silent]
      refine .of_same after ?_ (leaves'.trans leaves)
      rw [looks', ← looks, beq_eq_false_iff_ne.mpr at_]
      rfl

/-- An execution that is over reports nothing for a loop. -/
theorem ofLoop_reschedule (s : Scheduler ω) (other : String) (t : Task ω) :
    ∀ n ∈ (s.reschedule other t).2, n.ofLoop = false := by
  unfold reschedule
  split
  · exact List.forall_mem_nil _
  · split
    · exact List.forall_mem_singleton.mpr rfl
    · split
      · exact List.forall_mem_singleton.mpr rfl
      · refine List.forall_mem_singleton.mpr ?_
        split <;> rfl

theorem ofLoop_ofEnding (id : String) (how : Ending) : (Notice.ofEnding id how).ofLoop = false := by
  cases how <;> rfl

theorem stops_reschedule (s : Scheduler ω) (other : String) (t : Task ω) (name : String) :
    ((s.reschedule other t).2.map Event.notice).countP (Event.stops (ω := ω) name) = 0 :=
  countP_notices (fun _ => ofLoop_of_stops) (ofLoop_reschedule s other t)

theorem stops_ofEnding (id : String) (how : Ending) (name : String) :
    Event.stops (ω := ω) name (.notice (.ofEnding id how)) = false :=
  ofLoop_of_stops (ofLoop_ofEnding id how)

theorem turnover_finish (sound : ∀ n q, s.queue? n = some q → q.Sound) (r : Run ω)
    (name : String) :
    Turnover s (s.finish r).1 name ((s.finish r).2.countP (Event.stops name)) 0 := by
  have silent : (s.finish r).2.countP (Event.stops name) = 0 := by
    simp only [finish, List.countP_cons, stops_ofEnding, stops_reschedule]
    rfl
  rw [silent]
  exact turnover_reschedule sound r.queue r.task name

theorem turnover_expire (sound : ∀ n q, s.queue? n = some q → q.Sound) (r : Run ω)
    (name : String) :
    Turnover s (s.expire r).1 name ((s.expire r).2.countP (Event.stops name)) 0 := by
  have silent : (s.expire r).2.countP (Event.stops name) = 0 := by
    simp only [expire, List.countP_cons, stops_reschedule]
    rfl
  let telling : Scheduler ω := { s with ready := s.ready ++ [.release r] }
  have told : Turnover s telling name 0 0 :=
    .of_same rfl (by simp [telling, Job.looks]) (by simp [telling, Job.leaves])
  have sound' : ∀ n q, telling.queue? n = some q → q.Sound := sound
  rw [silent]
  exact told.andThen (turnover_reschedule sound' r.queue r.task name)

theorem turnover_launch (sound : ∀ n q, s.queue? n = some q → q.Sound) (r : Run ω)
    (name : String) :
    Turnover s (s.launch r).1 name ((s.launch r).2.countP (Event.stops name)) 0 :=
  launch_induction s r (turnover_finish sound r name) (turnover_expire sound r name)
    (.of_same rfl rfl rfl)

/-- A loop ends when its job does, or not at all. -/
theorem turnover_work (sound : ∀ n q, s.queue? n = some q → q.Sound) (plan : Task ω → Execution)
    {place : Nat} {job : Job ω} (found : s.ready[place]? = some job) (name : String) :
    let working : Scheduler ω := { s with ready := s.ready.eraseIdx place }
    Turnover s (working.perform plan job).1 name
      ((working.perform plan job).2.countP (Event.stops name)) 0 := by
  intro working
  have looks : working.ready.countP (Job.looks name) + (job.looks name).toNat =
      s.ready.countP (Job.looks name) := countP_eraseIdx_add found (Job.looks name)
  have leaves : working.ready.countP (Job.leaves name) + (job.leaves name).toNat =
      s.ready.countP (Job.leaves name) := countP_eraseIdx_add found (Job.leaves name)
  have taken (blind : job.looks name = false ∧ job.leaves name = false) :
      Turnover s working name 0 0 := by
    rw [blind.1] at looks
    rw [blind.2] at leaves
    exact .of_same rfl looks leaves
  have sound' : ∀ n q, working.queue? n = some q → q.Sound := sound
  cases job with
  | dispatch other => exact turnover_dispatch sound found name
  | retire other fresh =>
    have once : (working.perform plan (.retire other fresh)).2.countP (Event.stops name) =
        (other == name).toNat := by
      simp only [perform, retire]
      cases at_ : other == name <;> cases fresh <;> simp [Event.stops, at_]
    rw [once]
    constructor
    · intro lined
      rw [Lined, ← looks] at lined
      exact lined
    · intro _
      rw [loops, loops, ← leaves]
      simp only [Job.leaves, perform]
      have same : working.loop? name = s.loop? name := rfl
      rw [same]
      omega
  | start other k t =>
    have began := turnover_launch sound'
      { queue := other, ticket := k, task := t, since := working.now, plan := plan t } name
    simp only [perform, start_eq, List.countP_cons]
    exact (taken ⟨rfl, rfl⟩).andThen began
  | finish r => exact (taken ⟨rfl, rfl⟩).andThen (turnover_finish sound' r name)
  | expire r => exact (taken ⟨rfl, rfl⟩).andThen (turnover_expire sound' r name)
  | release r => exact taken ⟨rfl, rfl⟩

theorem turnover_takeOne (sound : ∀ q, s.queue? name = some q → q.Sound) {t : Task ω}
    (took : s.takeOne? name = some (s', t)) (other : String) : Turnover s s' other 0 0 := by
  obtain ⟨line, here, open_, head, due, rfl⟩ := takeOne?_took sound took
  exact .of_same (congrFun (loop?_modifyQueue s name (line.queue.take t)) other)
    (by simp [Job.looks]) (by simp [Job.leaves])

theorem turnover_reach (s : Scheduler ω) (now : Int) (name : String) :
    Turnover s (s.reach now) name 0 0 := by
  have moved : Turnover s { s with now } name 0 0 := .of_same rfl rfl rfl
  have woken := moved.trans (turnover_foldl_wake (s.roused now) { s with now } name)
  have silent (p : Job ω → Bool) (blind : ∀ r, p (.finish r) = false ∧ p (.expire r) = false)
      (runs : List (Run ω)) (limit : Option Nat) :
      (runs.map (·.overJob limit)).countP p = 0 := by
    rw [List.countP_eq_zero]
    intro job member
    obtain ⟨r, _, rfl⟩ := List.mem_map.mp member
    unfold Run.overJob
    split <;> simp [blind]
  let awake : Scheduler ω := (s.roused now).foldl wake { s with now }
  have concluded : Turnover awake (awake.conclude s.config.executionTimeout now) name 0 0 := by
    refine .of_same rfl ?_ ?_
    · simp only [conclude, List.countP_append, silent (Job.looks name) fun _ => ⟨rfl, rfl⟩]
      rfl
    · simp only [conclude, List.countP_append, silent (Job.leaves name) fun _ => ⟨rfl, rfl⟩]
      rfl
  exact woken.andThen concluded

/-! ### Runs -/

/-- No call reports anything for a loop. -/
theorem ofLoop_reports (s : Scheduler ω) (other : String) (call : Call ω) :
    ∀ n ∈ s.reports other call, n.ofLoop = false := by
  have either {p : Prop} [Decidable p] {m n : Notice} (left : m.ofLoop = false)
      (right : n.ofLoop = false) : (if p then m else n).ofLoop = false := by
    split
    · exact left
    · exact right
  cases call with
  | addQueue =>
    simp only [reports, addQueue]
    split <;> exact List.forall_mem_singleton.mpr rfl
  | removeQueue =>
    simp only [reports, removeQueue]
    split
    · exact List.forall_mem_nil _
    · exact List.forall_mem_cons.mpr ⟨rfl, List.forall_mem_singleton.mpr rfl⟩
  | closeQueue =>
    simp only [reports, closeQueue]
    split
    · exact List.forall_mem_nil _
    · exact List.forall_mem_singleton.mpr rfl
  | register t =>
    simp only [reports, register]
    split
    · exact List.forall_mem_nil _
    · split
      · exact List.forall_mem_nil _
      · exact List.forall_mem_singleton.mpr (either rfl rfl)
  | update t =>
    simp only [reports, update]
    split
    · exact List.forall_mem_nil _
    · split
      · exact List.forall_mem_nil _
      · exact List.forall_mem_singleton.mpr rfl
  | remove id =>
    simp only [reports, remove]
    split
    · exact List.forall_mem_singleton.mpr rfl
    · simp only
      split
      · exact List.forall_mem_singleton.mpr rfl
      · exact List.forall_mem_nil _
  | push t =>
    simp only [reports]
    split
    · exact List.forall_mem_singleton.mpr rfl
    · exact List.forall_mem_nil _

theorem stops_reports (s : Scheduler ω) (other : String) (call : Call ω) (name : String) :
    ((s.reports other call).map Event.notice).countP (Event.stops (ω := ω) name) = 0 :=
  countP_notices (fun _ => ofLoop_of_stops) (ofLoop_reports s other call)

theorem turnover_shutdown (distinct : s.titles.Nodup) (name : String) :
    Turnover s s.shutdown.scheduler name 0 0 := by
  have flagged : Turnover s { s with stopping := true } name 0 0 := .of_same rfl rfl rfl
  have cancelled : Turnover s s.cancel name 0 0 := flagged.andThen (turnover_foldl_wake _ _ name)
  have distinct' : s.cancel.titles.Nodup := by
    have kept : s.cancel.titles = s.titles := titles_foldl_wake _ { s with stopping := true }
    rwa [kept]
  exact cancelled.andThen (turnover_foldl_detach _ s.cancel rfl distinct' name)

/-- No job opens a queue. -/
theorem opens_doing (plan : Task ω → Execution) (s : Scheduler ω) (job : Job ω) :
    (s.doing plan job).2.countP Deed.opens = 0 := by
  have back (other : String) (k : Nat) (t : Task ω) :
      (s.returning other k t).countP Deed.opens = 0 := by
    unfold returning
    split
    · rfl
    · split
      · rfl
      · split <;> rfl
  cases job with
  | dispatch other =>
    rw [List.countP_eq_zero]
    intro d member opens
    simp only [doing, handing] at member
    split at member
    · cases member
    · split at member
      · cases member
      · simp only [Books.takings, List.mem_reverse, List.mem_map] at member
        obtain ⟨_, _, rfl⟩ := member
        cases opens
  | retire | release => rfl
  | finish r | expire r => exact back r.queue r.ticket r.task
  | start other k t =>
    simp only [doing]
    split
    · exact back other k t
    · rfl

end Scheduler

namespace Chronicle

variable {c : Chronicle ω} {name : String}

/-- No loop ends without a report, and none begins but with a queue. -/
theorem turnover_step (reached : Reached c) (move : Move ω) (name : String) :
    ∃ begins, c.scheduler.Turnover (c.step move).scheduler name
        ((c.emits move).countP (Event.stops name)) begins ∧
      ((c.step move).trail name).countP Deed.opens =
        (c.trail name).countP Deed.opens + begins := by
  have sound : ∀ n q, c.scheduler.queue? n = some q → q.Sound := fun _ => reached.sound
  have noted_ {other : String} {deeds : List (Deed ω)} :
      ((noted c.trail other deeds) name).countP Deed.opens = (c.trail name).countP Deed.opens +
        if other = name then deeds.countP Deed.opens else 0 := by
    unfold noted
    split
    next => rw [List.countP_append, Nat.add_comm]
    next => rfl
  cases move with
  | client other call =>
    refine ⟨_, ?_, noted_⟩
    simp only [emits, Scheduler.stops_reports]
    exact Scheduler.turnover_serve sound other call name
  | cancel =>
    have flagged : c.scheduler.Turnover { c.scheduler with stopping := true } name 0 0 :=
      .of_same rfl rfl rfl
    exact ⟨0, flagged.andThen (Scheduler.turnover_foldl_wake _ _ name), rfl⟩
  | shutdown =>
    refine ⟨0, ?_, rfl⟩
    have silent : (c.emits .shutdown).countP (Event.stops name) = 0 := by
      rw [List.countP_eq_zero]
      intro e member
      obtain ⟨n, said, rfl⟩ := List.mem_map.mp member
      obtain ⟨line, _, said⟩ := List.mem_flatMap.mp said
      simp only [List.mem_cons, List.not_mem_nil, or_false] at said
      rcases said with rfl | rfl <;> exact Bool.false_ne_true
    rw [silent]
    exact Scheduler.turnover_shutdown reached.distinct name
  | take other =>
    simp only [Chronicle.step, emits]
    cases took : c.scheduler.takeOne? other with
    | none => exact ⟨0, .refl _ name, rfl⟩
    | some taken =>
      refine ⟨0, Scheduler.turnover_takeOne (sound other) took name, noted_.trans ?_⟩
      simp [Deed.opens]
  | work plan place =>
    simp only [Chronicle.step, emits]
    cases found : c.scheduler.ready[place]? with
    | none => exact ⟨0, .refl _ name, rfl⟩
    | some job =>
      refine ⟨0, Scheduler.turnover_work sound plan found name, noted_.trans ?_⟩
      rw [Scheduler.opens_doing, ite_self]
  | wait duration => exact ⟨0, Scheduler.turnover_reach _ _ name, rfl⟩

/-- How many loops of queues of this name reported their end in these frames. -/
def stops (name : String) (frames : List (Scheduler.Frame ω)) : Nat :=
  (frames.flatMap (·.events)).countP fun (_, e) => e.stops name

theorem Reached.lined (reached : Reached c) (name : String) : c.scheduler.Lined name := by
  induction reached with
  | fresh => rfl
  | step reached move ih =>
    obtain ⟨_, turnover, _⟩ := turnover_step reached move name
    exact turnover.lined ih

/-- Loops that have not ended, and ends that were reported, are as many as queues were opened. -/
theorem loops_run (reached : Reached c) (moves : List (Move ω)) (name : String) :
    (c.run moves).scheduler.loops name + stops name (c.frames moves) +
        (c.trail name).countP Deed.opens =
      c.scheduler.loops name + ((c.run moves).trail name).countP Deed.opens := by
  induction moves generalizing c with
  | nil => rfl
  | cons move rest ih =>
    obtain ⟨begins, turnover, opened⟩ := turnover_step reached move name
    have balance := turnover.balance (reached.lined name)
    have later := ih (reached.step move)
    have first : stops name (c.frames (move :: rest)) =
        (c.emits move).countP (Event.stops name) + stops name ((c.step move).frames rest) := by
      simp only [stops, frames, frame, List.flatMap_cons, List.countP_append, List.countP_map]
      rfl
    rw [first]
    change _ + _ + _ = _ + List.countP _ (((c.step move).run rest).trail name)
    change ((c.step move).run rest).scheduler.loops name + _ + _ = _
    omega

end Chronicle

end Vigil
