import Vigil.Proofs.Scheduler.Loops

/-!
# Why dispatch loops end

A loop does not sleep at a closed queue or after the root token was cancelled, and for no other
reason does it end (`Heeds`). So where nothing can run, the loops that have ended are those of
closed and of removed queues, or all of them.
-/
namespace Vigil

open Queue

variable {ω : Type}

namespace DispatchLoop

/-- The loop has ended only if it was told to, and does not sleep then. -/
def Fits (loop : DispatchLoop) (told : Prop) : Prop :=
  (loop = .ended → told) ∧ (told → ∀ wakeAt, loop ≠ .blocked wakeAt)

theorem Fits.of_inLine {loop : DispatchLoop} (inLine : loop.inLine = true) (told : Prop) :
    loop.Fits told := by
  cases loop with
  | fresh | runnable => simp [Fits]
  | blocked | ended => cases inLine

theorem Fits.ended {told : Prop} (why : told) : Fits .ended told := by simp [Fits, why]

theorem Fits.blocked {told : Prop} (going : ¬ told) (wakeAt : Option Int) :
    Fits (.blocked wakeAt) told := by simp [Fits, going]

end DispatchLoop

namespace Scheduler

variable {s s' : Scheduler ω} {name : String}

/-- The loop of the registered queue has ended only because the root token is cancelled or the queue
closed; and it does not sleep through that. -/
def Heeds (s : Scheduler ω) (name : String) : Prop :=
  ∀ line, s.line? name = some line →
    line.loop.Fits (s.stopping = true ∨ line.queue.closed = true)

theorem Heeds.of_lines (heeds : s.Heeds name) (still : s'.stopping = s.stopping)
    (lines : ∀ line, s'.line? name = some line → ∃ old, s.line? name = some old ∧
      (line = old ∨ line = old.roused)) : s'.Heeds name := by
  intro line found
  obtain ⟨old, here, rfl | rfl⟩ := lines line found
  · rw [still]
    exact heeds line here
  · have fits := heeds old here
    rw [still]
    obtain ⟨named, queue, loop⟩ := old
    cases loop with
    | blocked => exact .of_inLine rfl _
    | fresh | runnable | ended => exact fits

theorem Heeds.wake (heeds : s.Heeds name) (other : String) : (s.wake other).Heeds name := by
  refine heeds.of_lines (congrArg Prod.snd (wake_setting s other)) fun line found => ?_
  rw [line?_wake] at found
  obtain ⟨old, here, rfl⟩ := Option.map_eq_some_iff.mp found
  refine ⟨old, here, ?_⟩
  split
  · exact .inr rfl
  · exact .inl rfl

theorem Heeds.foldl_wake (heeds : s.Heeds name) (names : List String) :
    (names.foldl Scheduler.wake s).Heeds name := by
  induction names generalizing s with
  | nil => exact heeds
  | cons other rest ih => exact ih (heeds.wake other)

/-- Whoever closes a queue wakes its loop. -/
theorem Heeds.putQueue (heeds : s.Heeds name) {other : String} {old q : Queue ω} {wakes : Bool}
    (here : s.queue? other = some old) (heard : wakes = true ∨ q.closed = old.closed)
    (shut : old.closed = true → q.closed = true) : (s.putQueue other q wakes).Heeds name := by
  obtain ⟨line, found, rfl⟩ := Option.map_eq_some_iff.mp here
  let s' := s.modifyLine other fun l => { l with queue := q }
  have lines : s'.line? name =
      if other = name then (s.line? name).map fun l => { l with queue := q } else s.line? name :=
    line?_modifyLine s other (f := fun l => { l with queue := q }) (fun _ => rfl) name
  by_cases at_ : other = name
  · subst at_
    rw [if_pos rfl, found, Option.map_some] at lines
    obtain ⟨ended, asleep⟩ := heeds line found
    cases wakes with
    | true =>
      intro line' found'
      have woken : (s'.wake other).line? other = some { line with queue := q : Line ω }.roused := by
        rw [line?_wake, lines]
        simp
      cases woken.symm.trans found'
      have still : (s.putQueue other q true).stopping = s.stopping :=
        congrArg Prod.snd (putQueue_setting s other q true)
      rw [still]
      obtain ⟨named, queue, loop⟩ := line
      cases loop with
      | ended => exact .ended ((ended rfl).imp_right shut)
      | fresh | runnable | blocked => exact .of_inLine rfl _
    | false =>
      intro line' found'
      cases lines.symm.trans found'
      have same := heard.resolve_left Bool.false_ne_true
      exact ⟨fun past => (ended past).imp_right shut,
        fun told => asleep (told.imp_right fun closed => same ▸ closed)⟩
  · rw [if_neg at_] at lines
    have put : s'.Heeds name := heeds.of_lines rfl fun line' found' =>
      ⟨line', lines ▸ found', .inl rfl⟩
    cases wakes with
    | true => exact put.wake other
    | false => exact put

theorem Heeds.detach (heeds : s.Heeds name) (line : Line ω) : (s.detach line).Heeds name := by
  refine heeds.of_lines (congrArg Prod.snd (detach_setting s line)) fun old found => ?_
  rw [line?_detach] at found
  split at found
  · cases found
  · exact ⟨old, found, .inl rfl⟩

theorem Heeds.served (heeds : s.Heeds name) {other : String}
    (sound : ∀ q, s.queue? other = some q → q.Sound) {call : Call ω}
    (served : Served s other call s') : s'.Heeds name := by
  cases served with
  | refused => exact heeds
  | added free =>
    intro line found
    have lines : (s.line? name).or
        (if other = name then some ({ name := other } : Line ω) else none) = some line := by
      rw [← found]
      by_cases at_ : other = name <;> simp [line?, List.find?_append, at_]
    rcases Option.or_eq_some_iff.mp lines with here | ⟨_, new⟩
    · exact heeds line here
    · split at new
      · cases new
        exact .of_inLine rfl _
      · cases new
  | detached => exact heeds.detach _
  | put here heard =>
    exact heeds.putQueue here (heard.heard.imp_right And.left) ((sound _ here).closed_run call.asks)

theorem Heeds.reschedule (heeds : s.Heeds name) (sound : ∀ n q, s.queue? n = some q → q.Sound)
    (other : String) (t : Task ω) : (s.reschedule other t).1.Heeds name := by
  have back := reschedule_rescheduled (sound other) t
  generalize (s.reschedule other t).1 = s' at back
  cases back with
  | dropped => exact heeds
  | revoked here => exact heeds.putQueue here (.inr rfl) id
  | returned here open_ => exact heeds.putQueue here (.inr rfl) id

theorem Heeds.dispatch (heeds : s.Heeds name) (sound : ∀ n q, s.queue? n = some q → q.Sound)
    (other : String) : (s.dispatch other).1.Heeds name := by
  cases here : s.line? other with
  | none =>
    have stays : s.dispatch other = (s, []) := by simp only [Scheduler.dispatch, here]
    rwa [stays]
  | some line =>
    have replaced (f : Line ω → Line ω) (keeps : ∀ l, (f l).name = l.name)
        (fits : (f line).loop.Fits (s.stopping = true ∨ (f line).queue.closed = true)) :
        (s.modifyLine other f).Heeds name := by
      intro line' found
      rw [line?_modifyLine s other keeps] at found
      split at found
      next same =>
        rw [← same, here] at found
        cases found
        exact fits
      next => exact heeds line' found
    obtain ⟨opening, _, ⟨why, _, left⟩ | ⟨going, open_, q, tasks, wakeAt, took, slept⟩⟩ :=
      dispatch_cases (sound other) here
    · rw [left]
      exact replaced (fun l => { l with loop := .ended }) (fun _ => rfl) (.ended why)
    · have queue : s.queue? other = some line.queue := by rw [queue?, here]; rfl
      have still : q.closed = false := by
        have turned := (line.queue.turned_takeDue s.now).keeps (sound other _ queue)
        rw [took] at turned
        exact turned.2.1.trans open_
      rw [slept]
      exact replaced (fun l => { l with queue := q, loop := .blocked wakeAt }) (fun _ => rfl)
        (.blocked (by simp [going, still]) wakeAt)

theorem Heeds.perform (heeds : s.Heeds name) (sound : ∀ n q, s.queue? n = some q → q.Sound)
    (plan : Task ω → Execution) (job : Job ω) : (s.perform plan job).1.Heeds name := by
  have cut (r : Run ω) : (s.expire r).1.Heeds name := by
    let telling : Scheduler ω := { s with ready := s.ready ++ [.release r] }
    have heeds' : telling.Heeds name := heeds
    exact heeds'.reschedule sound r.queue r.task
  cases job with
  | dispatch other => exact heeds.dispatch sound other
  | retire | release => exact heeds
  | finish r => exact heeds.reschedule sound r.queue r.task
  | expire r => exact cut r
  | start other k t =>
    simp only [Scheduler.perform, start_eq]
    exact launch_induction s _ (heeds.reschedule sound other t) (cut _) heeds

theorem heeds_cancel (s : Scheduler ω) (name : String) : s.cancel.Heeds name := by
  intro line found
  have lines := line?_foldl_wake { s with stopping := true } name (s.lines.reverse.map (·.name))
  have woken : s.cancel.line? name = some line := found
  rw [cancel, lines] at woken
  obtain ⟨old, here, same⟩ := Option.map_eq_some_iff.mp woken
  have named : name ∈ s.lines.reverse.map (·.name) := by
    have member := List.mem_of_find?_eq_some here
    have titled : old.name = name := by simpa using List.find?_some here
    exact List.mem_map.mpr ⟨old, List.mem_reverse.mpr member, titled⟩
  rw [if_pos named] at same
  subst same
  have stopping : s.cancel.stopping = true :=
    congrArg Prod.snd (foldl_wake_setting _ { s with stopping := true })
  refine ⟨fun _ => .inl stopping, fun _ wakeAt sleeps => ?_⟩
  unfold Line.roused at sleeps
  split at sleeps
  next => cases sleeps
  next awake => exact awake wakeAt sleeps

theorem Heeds.foldl_detach (heeds : s.Heeds name) (lines : List (Line ω)) :
    (lines.foldl Scheduler.detach s).Heeds name := by
  induction lines generalizing s with
  | nil => exact heeds
  | cons line rest ih => exact ih (heeds.detach line)

end Scheduler

namespace Chronicle

variable {c : Chronicle ω} {name : String}

theorem Reached.heeds (reached : Reached c) (name : String) : c.scheduler.Heeds name := by
  induction reached with
  | fresh =>
    intro line found
    cases found
  | @step c reached move ih =>
    have sound : ∀ n q, c.scheduler.queue? n = some q → q.Sound := fun _ => reached.sound
    cases move with
    | client other call =>
      exact ih.served (sound other) (Scheduler.serve_served (sound other) call)
    | cancel => exact Scheduler.heeds_cancel _ name
    | shutdown => exact (Scheduler.heeds_cancel _ name).foldl_detach _
    | take other =>
      simp only [Chronicle.step]
      split
      · exact ih
      next t took =>
        obtain ⟨line, here, open_, _, _, rfl⟩ := Scheduler.takeOne?_took (sound other) took
        have queue : c.scheduler.queue? other = some line.queue := by
          rw [Scheduler.queue?, here]
          rfl
        have put : (c.scheduler.putQueue other (line.queue.take t) false).Heeds name :=
          ih.putQueue queue (.inr rfl) id
        exact put
    | work plan place =>
      simp only [Chronicle.step]
      split
      · exact ih
      next job found =>
        have heeds : ({ c.scheduler with ready := c.scheduler.ready.eraseIdx place } :
          Scheduler ω).Heeds name := ih
        exact heeds.perform sound plan job
    | wait duration =>
      have moved : ({ c.scheduler with now := c.scheduler.now + duration } :
        Scheduler ω).Heeds name := ih
      exact moved.foldl_wake _

/-- Where nothing can run, the loop of a registered queue has ended or sleeps, for one reason. -/
theorem Reached.ended_iff (reached : Reached c) (idle : c.scheduler.ready = []) {line : Line ω}
    (here : c.scheduler.line? name = some line) :
    line.loop = .ended ↔ c.scheduler.stopping = true ∨ line.queue.closed = true := by
  obtain ⟨ended, asleep⟩ := reached.heeds name line here
  refine ⟨ended, fun told => ?_⟩
  have lined := reached.lined name
  rw [Scheduler.Lined, Scheduler.loop?, here, idle] at lined
  cases loop : line.loop with
  | fresh | runnable => simp [loop, DispatchLoop.inLine] at lined
  | blocked wakeAt => exact absurd loop (asleep told wakeAt)
  | ended => rfl

/-- Where nothing can run, the loops that go on are those of open queues. -/
theorem Reached.loops_idle (reached : Reached c) (idle : c.scheduler.ready = []) (name : String) :
    c.scheduler.loops name =
      ((c.scheduler.queue? name).any fun q => !c.scheduler.stopping && !q.closed).toNat := by
  rw [Scheduler.loops, idle, Scheduler.loop?, Scheduler.queue?]
  cases here : c.scheduler.line? name with
  | none => rfl
  | some line =>
    have ended := reached.ended_iff idle here
    cases stopping : c.scheduler.stopping <;> cases closed : line.queue.closed <;>
      simp_all

end Chronicle

end Vigil
