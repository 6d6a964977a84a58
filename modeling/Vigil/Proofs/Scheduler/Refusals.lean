import Vigil.Proofs.Scheduler.Actions
import Vigil.Queue.Station

/-!
# Dispatch loops that are refused

A loop asks its queue for a task again and again, and leaves when it is refused for good. It is
never refused for another reason, so it never pauses before it asks again (`leaves_if_refused`). A
look of the scheduler at a queue is such a row of requests (`dispatch_asks`).
-/
namespace Vigil

open Queue

variable {ω : Type}

/-- What a dispatch loop does when it got no task. -/
inductive Turn where
  | leave (why : SchedulingError)
  /-- Report the error and ask again after a pause. -/
  | pause (why : SchedulingError) (backoff : Nat)
  deriving DecidableEq

def Scheduler.Config.turn (config : Scheduler.Config) (why : SchedulingError) : Turn :=
  if why.isTerminal then .leave why else .pause why config.retryBackoff

namespace Station

theorem size_polled {s : Station ω} {c : Consumer} {queue : Queue ω} {t : Task ω}
    (polled : s.poll c = (queue, .inr (.task t))) : queue.size < s.queue.size := by
  unfold poll at polled
  split at polled
  · cases polled
  · split at polled
    · cases polled
    next looked =>
      cases polled
      exact size_taken looked
    · cases polled

/-- A loop asks for task after task, until it has to wait or is refused. -/
def ask (config : Scheduler.Config) (s : Station ω) (c : Consumer) :
    Queue ω × List (Task ω) × (Consumer ⊕ Turn) :=
  match _h : s.poll c with
  | (queue, .inl blocked) => (queue, [], .inl blocked)
  | (queue, .inr (.refused why)) => (queue, [], .inr (config.turn why))
  | (queue, .inr (.task t)) =>
    let (final, tasks, last) := ask config { s with queue } c
    (final, t :: tasks, last)
termination_by s.queue.size
decreasing_by exact size_polled ‹_›

/-- Who is refused a task is told of the cancelled token or of the closed queue. -/
theorem refused_why {s : Station ω} {c : Consumer} {queue : Queue ω} {why : SchedulingError}
    (polled : s.poll c = (queue, .inr (.refused why))) : why = .cancelled ∨ why = .queueClosed := by
  unfold poll at polled
  split at polled
  · cases polled
    exact .inl rfl
  · split at polled
    · cases polled
      exact .inr rfl
    · cases polled
    · cases polled

/-- A loop that does not wait leaves. -/
theorem leaves_if_refused (config : Scheduler.Config) (s : Station ω) (c : Consumer) {turn : Turn}
    (refused : (s.ask config c).2.2 = .inr turn) :
    turn = .leave .cancelled ∨ turn = .leave .queueClosed := by
  fun_induction ask config s c with
  | case1 s queue blocked polled => cases refused
  | case2 s queue why polled =>
    cases refused
    rcases refused_why polled with rfl | rfl
    · exact .inl rfl
    · exact .inr rfl
  | case3 s queue t polled final tasks last eq ih =>
    rw [eq] at ih
    exact ih refused

theorem ask_cancelled (config : Scheduler.Config) {s : Station ω} {c : Consumer}
    (cancelled : s.cancelled.contains c.token = true) :
    s.ask config c = (s.queue, [], .inr (.leave .cancelled)) := by
  have polled : s.poll c = (s.queue, .inr (.refused .cancelled)) := by
    simp only [poll, cancelled, ↓reduceIte]
  rw [ask]
  split
  next other =>
    rw [polled] at other
    cases other
  next other =>
    rw [polled] at other
    cases other
    rfl
  next other =>
    rw [polled] at other
    cases other

/-- To ask as long as the token stands is to take what is due. -/
theorem ask_takeDue (config : Scheduler.Config) {s : Station ω} {c : Consumer}
    (going : s.cancelled.contains c.token = false) :
    s.ask config c =
      match s.queue.takeDue s.now with
      | (queue, tasks, some wakeAt) => (queue, tasks, .inl { c with wakeAt, woken := false })
      | (queue, tasks, none) => (queue, tasks, .inr (.leave .queueClosed)) := by
  fun_induction ask config s c with
  | case1 s queue blocked polled =>
    unfold poll at polled
    simp only [going, Bool.false_eq_true, ↓reduceIte] at polled
    split at polled
    · cases polled
    · cases polled
    next wakeAt looked =>
      cases polled
      have slept : s.queue.takeDue s.now = (s.queue, [], some wakeAt) := by
        rw [takeDue]
        split <;> simp_all
      rw [slept]
  | case2 s queue why polled =>
    unfold poll at polled
    simp only [going, Bool.false_eq_true, ↓reduceIte] at polled
    split at polled
    next looked =>
      cases polled
      have closed : s.queue.takeDue s.now = (s.queue, [], none) := by
        rw [takeDue]
        split <;> simp_all
      rw [closed]
      rfl
    · cases polled
    · cases polled
  | case3 s queue t polled final tasks last eq ih =>
    unfold poll at polled
    simp only [going, Bool.false_eq_true, ↓reduceIte] at polled
    split at polled
    · cases polled
    next task rest looked =>
      cases polled
      have rest := ih going
      rw [eq] at rest
      obtain ⟨after, more, sleeps, came⟩ : ∃ after more sleeps,
          queue.takeDue s.now = (after, more, sleeps) := ⟨_, _, _, rfl⟩
      have took : s.queue.takeDue s.now = (after, t :: more, sleeps) := by
        rw [takeDue]
        split <;> simp_all
      simp only [came, took] at rest ⊢
      cases sleeps <;> (cases rest; rfl)
    · cases polled

end Station

namespace Scheduler

/-- Where the loop of a line asks, under a child of the root token. -/
def station (s : Scheduler ω) (line : Line ω) (token : String) : Station ω where
  queue := line.queue
  now := s.now
  cancelled := if s.stopping then (∅ : Std.ExtTreeSet String).insert token else ∅

/-- A look of a loop at its queue is a row of requests. -/
theorem dispatch_asks {s : Scheduler ω} {name : String} {line : Line ω}
    (here : s.line? name = some line) (c : Consumer) :
    let opening := if line.loop = .fresh then [Event.notice (.loopStarted name)] else []
    s.dispatch name =
      match (s.station line c.token).ask s.config c with
      | (queue, tasks, .inl blocked) =>
        ({ s.modifyLine name fun l => { l with queue, loop := .blocked blocked.wakeAt } with
            ready := s.ready ++ (tasks.zipIdx s.dispatched).map fun (t, k) => .start name k t
            dispatched := s.dispatched + tasks.length },
          opening ++ tasks.map fun t => .notice (.dispatching name t.id))
      | (_, _, .inr (.leave why)) =>
        (s.modifyLine name fun l => { l with loop := .ended },
          opening ++ [.notice (.loopStopped name why)])
      | (_, _, .inr (.pause ..)) => (s, opening) := by
  intro opening
  simp only [dispatch, here]
  cases stopping : s.stopping with
  | true =>
    have cancelled : (s.station line c.token).cancelled.contains c.token = true := by
      simp [station, stopping]
    rw [Station.ask_cancelled s.config cancelled]
    simp only [↓reduceIte]
    rfl
  | false =>
    have going : (s.station line c.token).cancelled.contains c.token = false := by
      simp [station, stopping]
    rw [Station.ask_takeDue s.config going]
    simp only [Bool.false_eq_true, ↓reduceIte, station]
    split
    next took => simp only [took]; rfl
    next took => simp only [took]; rfl

end Scheduler

end Vigil
