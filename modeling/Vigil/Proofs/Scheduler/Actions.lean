import Vigil.Proofs.Scheduler.Parts
import Vigil.Proofs.Scheduler.Upkeep

/-!
# What a scheduler can do

Calls of clients, hand-backs and looks of dispatch loops, each opened once: an inversion lemma says
everything that a call (`serve_served`), a hand-back (`reschedule_rescheduled`) or a look
(`dispatch_looked`) can mean for the scheduler. A call changes a queue by a row of calls of that
queue, an execution that begins is over at once or stays, and only clients touch the root token.
-/
namespace Vigil

open Queue

variable {ω : Type}

namespace Queue

/-- A loop that does not even sleep has found its queue closed. -/
theorem closed_of_takeDue {q : Queue ω} (sound : q.Sound) {now : Int}
    (left : (q.takeDue now).2.2 = none) : q.closed = true := by
  have same := takeDue_closed sound left
  rw [takeDue] at same
  split at same
  next closed => exact glance_closed.mp closed
  next => cases same
  next => simp at same

theorem heard_push_cleared {q : Queue ω} {t : Task ω} {e : Effect ω Unit} (sound : q.Sound)
    (success : (q.remove t.id).1.push t = .ok e) : e.Heard q := by
  obtain ⟨sound', silent⟩ := heard_remove sound t.id
  obtain ⟨same, later⟩ := silent.resolve_left Bool.false_ne_true
  obtain ⟨placed, awake | ⟨still, latest⟩⟩ := heard_push sound' success
  · exact ⟨placed, .inl awake⟩
  · refine ⟨placed, .inr ⟨still.trans same, ?_⟩⟩
    intro new top
    obtain ⟨between, there, first⟩ := latest new top
    obtain ⟨old, here, second⟩ := later between there
    exact ⟨old, here, Int.le_trans second first⟩

end Queue

namespace Scheduler

/-! ### Calls of clients -/

/-- What a client's call asks of the queue it is about. -/
def Call.asks : Call ω → List (Queue.Call ω)
  | .addQueue | .removeQueue => []
  | .closeQueue => [.close]
  | .register task => [.upsert task]
  | .update task => [.remove task.id, .push task]
  | .remove id => [.remove id]
  | .push task => [.push task]

/-- What a call about the queue of this name can do. -/
inductive Served (s : Scheduler ω) (name : String) : Call ω → Scheduler ω → Prop where
  | refused (call : Call ω)
      (vain : ∀ q, s.queue? name = some q → q.run call.asks = q) : Served s name call s
  | added (free : s.line? name = none) :
      Served s name .addQueue
        { s with lines := s.lines ++ [{ name }], ready := s.ready ++ [.dispatch name] }
  | detached {line : Line ω} (here : s.line? name = some line) :
      Served s name .removeQueue (s.detach line)
  | put {call : Call ω} {q : Queue ω} {wakes : Bool} (here : s.queue? name = some q)
      (heard : (⟨q.run call.asks, (), wakes⟩ : Effect ω Unit).Heard q) :
      Served s name call (s.putQueue name (q.run call.asks) wakes)

variable {s : Scheduler ω} {name : String}

theorem serve_served (sound : ∀ q, s.queue? name = some q → q.Sound) (call : Call ω) :
    Served s name call (s.serve name call) := by
  have missing : ∀ call, s.queue? name = none → Served s name call s := by
    intro call gone
    refine .refused call fun q here => ?_
    rw [gone] at here
    cases here
  have vain : ∀ {call : Call ω} {q : Queue ω}, s.queue? name = some q → q.run call.asks = q →
      Served s name call s := by
    intro call q here same
    refine .refused call fun r there => ?_
    cases here.symm.trans there
    exact same
  cases call with
  | addQueue =>
    simp only [serve, addQueue]
    split
    next => exact .refused _ fun _ _ => rfl
    next free => exact .added (Option.not_isSome_iff_eq_none.mp free)
  | removeQueue =>
    simp only [serve, removeQueue]
    split
    next => exact .refused _ fun _ _ => rfl
    next line here => exact .detached here
  | closeQueue =>
    simp only [serve, closeQueue]
    split
    next gone => exact missing _ gone
    next q here =>
      have heard : (⟨q.run (Call.asks .closeQueue), (), true⟩ : Effect ω Unit).Heard q :=
        heard_close (sound q here)
      exact .put here heard
  | register t =>
    simp only [serve, register]
    split
    next gone => exact missing _ gone
    next q here =>
      split
      next why failed => exact vain here (congrArg q.accept failed)
      next e success =>
        obtain ⟨sound', heard⟩ := heard_upsert (sound q here) success
        have ran : q.run (Call.asks (.register t)) = e.queue := congrArg q.accept success
        rw [← ran] at sound' heard ⊢
        exact .put here ⟨sound', heard⟩
  | update t =>
    simp only [serve, update]
    split
    next gone => exact missing _ gone
    next q here =>
      split
      next why failed =>
        obtain ⟨sound', silent⟩ := heard_remove (sound q here) t.id
        have ran : q.run (Call.asks (.update t)) = (q.remove t.id).1 :=
          congrArg (q.remove t.id).1.accept failed
        have heard : (⟨(q.remove t.id).1, (), false⟩ : Effect ω Unit).Heard q := ⟨sound', silent⟩
        rw [← ran] at heard ⊢
        exact .put here heard
      next e success =>
        obtain ⟨sound', heard⟩ := heard_push_cleared (sound q here) success
        have ran : q.run (Call.asks (.update t)) = e.queue :=
          congrArg (q.remove t.id).1.accept success
        rw [← ran] at sound' heard ⊢
        exact .put here ⟨sound', heard⟩
  | remove id =>
    simp only [serve, remove]
    split
    next gone => exact missing _ gone
    next q here =>
      obtain ⟨sound', silent⟩ := heard_remove (sound q here) id
      have heard : (⟨q.run (Call.asks (.remove id)), (), false⟩ : Effect ω Unit).Heard q :=
        ⟨sound', silent⟩
      exact .put here heard
  | push t =>
    simp only [serve, push]
    split
    next gone => exact missing _ gone
    next q here =>
      split
      next why failed => exact vain here (congrArg q.accept failed)
      next e success =>
        obtain ⟨sound', heard⟩ := heard_push (sound q here) success
        have ran : q.run (Call.asks (.push t)) = e.queue := congrArg q.accept success
        rw [← ran] at sound' heard ⊢
        exact .put here ⟨sound', heard⟩

/-! ### Hand-backs -/

/-- What handing a task back to the queue of this name can do. -/
inductive Rescheduled (s : Scheduler ω) (name : String) (t : Task ω) : Scheduler ω → Prop where
  /-- There is no queue that is open, or no instant to be due at. -/
  | dropped (why : ∀ q, s.queue? name = some q → q.closed = false → t.nextRun? s.now = none) :
      Rescheduled s name t s
  | revoked {q : Queue ω} (here : s.queue? name = some q) (absent : t.id ∉ q.inFlight) :
      Rescheduled s name t (s.putQueue name q false)
  | returned {q : Queue ω} {next : Task ω} (here : s.queue? name = some q)
      (open_ : q.closed = false) (again : t.nextRun? s.now = some next)
      (flying : t.id ∈ q.inFlight) (free : q.find? t.id = none) :
      Rescheduled s name t (s.putQueue name (q.place next) ((q.heap.insert next).2 == 0))

theorem reschedule_rescheduled (sound : ∀ q, s.queue? name = some q → q.Sound) (t : Task ω) :
    Rescheduled s name t (s.reschedule name t).1 := by
  unfold reschedule
  split
  next again => exact .dropped fun _ _ _ => again
  next next again =>
    split
    next gone => exact .dropped fun q here => by rw [gone] at here; cases here
    next q here =>
      have named := (Task.nextRun?_eq_some again).1
      split
      next why refused =>
        refine .dropped fun r there open_ => ?_
        cases here.symm.trans there
        rw [requeue_error refused] at open_
        cases open_
      next e success =>
        obtain ⟨open_, ⟨absent, rfl⟩ | ⟨flying, free, rfl⟩⟩ := requeue_ok (sound q here) success
        · exact .revoked here (named ▸ absent)
        · exact .returned here open_ again (named ▸ flying) (named ▸ free)

/-! ### Looks -/

/-- What a look of the dispatch loop of this name can do. -/
inductive Looked (s : Scheduler ω) (name : String) : Scheduler ω → Prop where
  | missing (gone : s.line? name = none) : Looked s name s
  | left {line : Line ω} (here : s.line? name = some line)
      (why : s.stopping = true ∨ line.queue.closed = true) :
      Looked s name (s.modifyLine name fun l => { l with loop := .ended })
  | slept {line : Line ω} {q : Queue ω} {tasks : List (Task ω)} {wakeAt : Option Int}
      (here : s.line? name = some line)
      (took : line.queue.takeDue s.now = (q, tasks, some wakeAt)) :
      Looked s name
        { s.modifyLine name fun l => { l with queue := q, loop := .blocked wakeAt } with
          ready := s.ready ++ (tasks.zipIdx s.dispatched).map fun (t, k) => .start name k t
          dispatched := s.dispatched + tasks.length }

theorem dispatch_looked (sound : ∀ q, s.queue? name = some q → q.Sound) :
    Looked s name (s.dispatch name).1 := by
  unfold dispatch
  split
  next gone => exact .missing gone
  next line here =>
    by_cases stopping : s.stopping = true
    · simp only [stopping, ↓reduceIte]
      exact .left here (.inl stopping)
    · simp only [stopping, Bool.false_eq_true, ↓reduceIte]
      split
      next q tasks took =>
        have queue : s.queue? name = some line.queue := by rw [queue?, here]; rfl
        exact .left here (.inr (closed_of_takeDue (sound _ queue) (congrArg (·.2.2) took)))
      next q tasks wakeAt took => exact .slept here took

theorem takeOne?_took (sound : ∀ q, s.queue? name = some q → q.Sound) {s' : Scheduler ω}
    {t : Task ω} (took : s.takeOne? name = some (s', t)) :
    ∃ line, s.line? name = some line ∧ line.queue.closed = false ∧
      line.queue.heap.peek = some t ∧ t.due ≤ s.now ∧
        s' = { s.modifyLine name fun l => { l with queue := line.queue.take t } with
          ready := s.ready ++ [.start name s.dispatched t]
          dispatched := s.dispatched + 1 } := by
  unfold takeOne? at took
  split at took
  · cases took
  next line here =>
    have queue : s.queue? name = some line.queue := by rw [queue?, here]; rfl
    split at took
    · cases took
    · split at took
      next task rest looked =>
        cases took
        obtain ⟨open_, head, due, rfl⟩ := glance_taken (sound _ queue) looked
        exact ⟨line, here, open_, head, due, rfl⟩
      next => cases took

/-! ### What nobody but the owner changes -/

/-- The configuration, and whether the root token is cancelled. -/
def setting (s : Scheduler ω) : Config × Bool := (s.config, s.stopping)

theorem wake_setting (s : Scheduler ω) (name : String) : (s.wake name).setting = s.setting := by
  unfold wake
  split <;> rfl

theorem foldl_wake_setting (names : List String) (s : Scheduler ω) :
    (names.foldl wake s).setting = s.setting := by
  induction names generalizing s with
  | nil => rfl
  | cons name rest ih => rw [List.foldl_cons, ih, wake_setting]

theorem putQueue_setting (s : Scheduler ω) (name : String) (q : Queue ω) (wakes : Bool) :
    (s.putQueue name q wakes).setting = s.setting := by
  unfold putQueue
  split
  · exact wake_setting _ name
  · rfl

theorem detach_setting (s : Scheduler ω) (line : Line ω) : (s.detach line).setting = s.setting := by
  unfold detach
  split <;> rfl

theorem reach_setting (s : Scheduler ω) (now : Int) : (s.reach now).setting = s.setting :=
  foldl_wake_setting (s.roused now) { s with now }

theorem reschedule_setting (s : Scheduler ω) (name : String) (t : Task ω) :
    (s.reschedule name t).1.setting = s.setting := by
  unfold reschedule
  split
  · rfl
  · split
    · rfl
    · split
      · rfl
      · exact putQueue_setting s name _ _

theorem dispatch_setting (s : Scheduler ω) (name : String) :
    (s.dispatch name).1.setting = s.setting := by
  simp only [dispatch]
  split
  · rfl
  · split
    · rfl
    · split <;> rfl

theorem perform_setting (plan : Task ω → Execution) (s : Scheduler ω) (job : Job ω) :
    (s.perform plan job).1.setting = s.setting := by
  cases job with
  | dispatch name => exact dispatch_setting s name
  | retire | release => rfl
  | finish r => exact reschedule_setting s r.queue r.task
  | expire r => exact reschedule_setting { s with ready := s.ready ++ [.release r] } r.queue r.task
  | start name ticket t =>
    simp only [perform, start]
    split
    next => exact reschedule_setting s name t
    next =>
      split
      next => exact reschedule_setting { s with ready := s.ready ++ [.release _] } name t
      next => rfl

theorem Served.setting {call : Call ω} {s' : Scheduler ω} (served : Served s name call s') :
    s'.setting = s.setting := by
  cases served with
  | refused | added => rfl
  | detached => exact detach_setting s _
  | put => exact putQueue_setting s name _ _

theorem takeOne?_setting {s' : Scheduler ω} {t : Task ω} (took : s.takeOne? name = some (s', t)) :
    s'.setting = s.setting := by
  unfold takeOne? at took
  split at took
  · cases took
  · split at took
    · cases took
    · split at took
      · cases took
        rfl
      · cases took

end Scheduler

/-- A client cancels the root token. -/
def Move.stops : Move ω → Bool
  | .cancel | .shutdown => true
  | _ => false

namespace Chronicle

variable {c : Chronicle ω} {name : String}

/-- A queue of a run is sound. -/
theorem Reached.sound (reached : Reached c) (q : Queue ω)
    (here : c.scheduler.queue? name = some q) : q.Sound :=
  (reached.kept.faithful name q here).sound

theorem step_setting (reached : Reached c) {move : Move ω} (going : move.stops = false) :
    (c.step move).scheduler.setting = c.scheduler.setting := by
  cases move with
  | client name call => exact (Scheduler.serve_served reached.sound call).setting
  | cancel | shutdown => cases going
  | take name =>
    simp only [Chronicle.step]
    split
    · rfl
    next took => exact Scheduler.takeOne?_setting took
  | work plan place =>
    simp only [Chronicle.step]
    split
    · rfl
    next job found => exact Scheduler.perform_setting plan _ job
  | wait duration => exact Scheduler.reach_setting _ _

end Chronicle

end Vigil
