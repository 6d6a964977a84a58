import Vigil.Proofs.Scheduler.Actions
import Vigil.Proofs.Scheduler.Retention

/-!
# Dispatch loops pay attention

The loop of an open queue is about to look at it, or it sleeps with a timer that has not fired and
is set no later than the head of the queue is due. What brings the head of a queue to an earlier
instant wakes the loop, so nothing that is done to a scheduler makes a loop miss a task, until the
root token is cancelled.
-/
namespace Vigil

open Queue

variable {ω : Type}

namespace Queue

/-- After all that is due is taken, the loop sleeps until what is left is due. -/
theorem Sound.takeDue_sleep {q r : Queue ω} (sound : q.Sound) {now : Int} {tasks : List (Task ω)}
    {wakeAt : Option Int} (took : q.takeDue now = (r, tasks, some wakeAt)) :
    wakeAt = r.heap.peek.map (·.due) ∧ ∀ head, r.heap.peek = some head → now < head.due := by
  fun_induction Queue.takeDue q now generalizing tasks with
  | case1 q looked => cases took
  | case2 q wakeAt' looked =>
    cases took
    obtain ⟨_, same, later⟩ := glance_sleep sound looked
    exact ⟨same, later⟩
  | case3 q t rest looked after tasks' last eq ih =>
    cases took
    obtain ⟨open_, head, _, rfl⟩ := glance_taken sound looked
    exact ih (sound.take open_ head).2.1 eq

/-- Nothing opens a closed queue. -/
theorem Sound.closed_run {q : Queue ω} (sound : q.Sound) (calls : List (Call ω))
    (shut : q.closed = true) : (q.run calls).closed = true := by
  rw [sound.run_closed shut, shut]

end Queue

/-- Wake a loop that sleeps. -/
def Line.roused (l : Line ω) : Line ω :=
  match l.loop with
  | .blocked _ => { l with loop := .runnable }
  | _ => l

@[simp] theorem Line.roused_roused (l : Line ω) : l.roused.roused = l.roused := by
  obtain ⟨named, queue, loop⟩ := l
  cases loop <;> rfl

namespace Scheduler

/-- The loop of the queue of this name, if it is open, is about to look at the queue, or sleeps with
a timer that has not fired and is early enough for the head. -/
def Minds (s : Scheduler ω) (name : String) : Prop :=
  ∀ line, s.line? name = some line → line.queue.closed = false →
    (line.loop = .fresh ∨ line.loop = .runnable) ∧ .dispatch name ∈ s.ready ∨
      ∃ wakeAt, line.loop = .blocked wakeAt ∧
        (∀ w, wakeAt = some w → s.now < Instant.ceilMilli w) ∧
          ∀ head, line.queue.heap.peek = some head → ∃ w, wakeAt = some w ∧ w ≤ head.due

variable {s s' : Scheduler ω} {name : String}

/-- Where no queue and no loop changes, and no look is forgotten. -/
theorem Minds.congr (minds : s.Minds name) (same : s'.line? name = s.line? name)
    (still : s'.now = s.now) (kept : .dispatch name ∈ s.ready → .dispatch name ∈ s'.ready) :
    s'.Minds name := by
  intro line here open_
  rw [same] at here
  rw [still]
  rcases minds line here open_ with ⟨loop, ready⟩ | asleep
  · exact .inl ⟨loop, kept ready⟩
  · exact .inr asleep

/-! ### Waking -/

/-- A loop that sleeps is made runnable and gets in line; any other is left alone. -/
theorem wake_cases (s : Scheduler ω) (name : String) :
    (s.wake name = s ∧ ∀ l, s.line? name = some l → l.roused = l) ∨
      ∃ l wakeAt, s.line? name = some l ∧ l.loop = .blocked wakeAt ∧
        s.wake name = { s.modifyLine name fun l => { l with loop := .runnable } with
          ready := s.ready ++ [.dispatch name] } := by
  unfold wake
  cases here : s.line? name with
  | none => exact .inl ⟨rfl, fun l found => by cases found⟩
  | some l =>
    obtain ⟨named, queue, loop⟩ := l
    cases loop with
    | blocked wakeAt => exact .inr ⟨_, wakeAt, rfl, rfl, rfl⟩
    | _ =>
      refine .inl ⟨rfl, ?_⟩
      intro l found
      cases found
      rfl

theorem line?_wake (s : Scheduler ω) (name other : String) :
    (s.wake other).line? name =
      (s.line? name).map fun l => if other = name then l.roused else l := by
  rcases wake_cases s other with ⟨same, awake⟩ | ⟨l, wakeAt, here, sleeps, woken⟩
  · rw [same]
    cases found : s.line? name with
    | none => rfl
    | some l =>
      rw [Option.map_some]
      split
      next at_ =>
        subst at_
        rw [awake l found]
      next => rfl
  · have modified := line?_modifyLine s other (f := fun l => { l with loop := .runnable })
      (fun _ => rfl) name
    rw [woken]
    refine modified.trans ?_
    by_cases at_ : other = name
    · subst at_
      simp only [here, Option.map_some, ↓reduceIte, Line.roused, sleeps]
    · simp only [at_, ↓reduceIte, Option.map_id']

theorem mem_ready_wake {job : Job ω} (member : job ∈ s.ready) (other : String) :
    job ∈ (s.wake other).ready := by
  rcases wake_cases s other with ⟨same, _⟩ | ⟨_, _, _, _, woken⟩
  · rwa [same]
  · rw [woken]
    exact List.mem_append_left _ member

theorem dispatch_mem_ready_wake {l : Line ω} {wakeAt : Option Int} (here : s.line? name = some l)
    (sleeps : l.loop = .blocked wakeAt) : .dispatch name ∈ (s.wake name).ready := by
  rcases wake_cases s name with ⟨_, awake⟩ | ⟨_, _, _, _, woken⟩
  · have same := awake l here
    simp only [Line.roused, sleeps] at same
    rw [← same] at sleeps
    cases sleeps
  · rw [woken]
    exact List.mem_append_right _ (List.mem_singleton_self _)

theorem line?_foldl_wake (s : Scheduler ω) (name : String) (names : List String) :
    (names.foldl wake s).line? name =
      (s.line? name).map fun l => if name ∈ names then l.roused else l := by
  induction names generalizing s with
  | nil => simp
  | cons other rest ih =>
    rw [List.foldl_cons, ih, line?_wake, Option.map_map]
    congr 1
    funext l
    by_cases here : other = name
    · by_cases again : name ∈ rest <;> simp [here, again, Line.roused_roused]
    · simp [here, Ne.symm here]

theorem mem_ready_foldl_wake {job : Job ω} (member : job ∈ s.ready) (names : List String) :
    job ∈ (names.foldl wake s).ready := by
  induction names generalizing s with
  | nil => exact member
  | cons other rest ih => exact ih (mem_ready_wake member other)

theorem dispatch_mem_ready_foldl_wake {l : Line ω} {wakeAt : Option Int}
    (here : s.line? name = some l) (sleeps : l.loop = .blocked wakeAt) {names : List String}
    (named : name ∈ names) : .dispatch name ∈ (names.foldl wake s).ready := by
  induction names generalizing s with
  | nil => cases named
  | cons other rest ih =>
    by_cases first : other = name
    · subst first
      exact mem_ready_foldl_wake (dispatch_mem_ready_wake here sleeps) rest
    · have there : (s.wake other).line? name = some l := by
        rw [line?_wake, here]
        simp [first]
      exact ih there (List.mem_of_ne_of_mem (Ne.symm first) named)

/-- A loop that has not ended and was woken is about to look. -/
theorem minds_of_roused {line : Line ω} (here : s.line? name = some line.roused)
    (alive : line.queue.closed = false → line.loop ≠ .ended ∧ .dispatch name ∈ s.ready) :
    s.Minds name := by
  intro line' found open_
  cases here.symm.trans found
  obtain ⟨named, queue, loop⟩ := line
  cases loop with
  | fresh => exact .inl ⟨.inl rfl, (alive open_).2⟩
  | runnable => exact .inl ⟨.inr rfl, (alive open_).2⟩
  | blocked wakeAt => exact .inl ⟨.inr rfl, (alive open_).2⟩
  | ended => exact absurd rfl (alive open_).1

theorem Minds.alive (minds : s.Minds name) {line : Line ω} (here : s.line? name = some line)
    (open_ : line.queue.closed = false) : line.loop ≠ .ended := by
  intro ended
  rcases minds line here open_ with ⟨fresh | runnable, _⟩ | ⟨wakeAt, sleeps, _⟩
  · rw [fresh] at ended
    cases ended
  · rw [runnable] at ended
    cases ended
  · rw [sleeps] at ended
    cases ended

/-! ### A queue changes -/

/-- A change either wakes the loop, or leaves the head where its timer is early enough. -/
theorem Minds.putQueue (minds : s.Minds name) {other : String} {old q : Queue ω} {wakes : Bool}
    (here : s.queue? other = some old) (heard : (⟨q, (), wakes⟩ : Effect ω Unit).Heard old)
    (shut : old.closed = true → q.closed = true) : (s.putQueue other q wakes).Minds name := by
  obtain ⟨line, found, rfl⟩ := Option.map_eq_some_iff.mp here
  let s' := s.modifyLine other fun l => { l with queue := q }
  have lines : s'.line? name =
      if other = name then (s.line? name).map fun l => { l with queue := q } else s.line? name :=
    line?_modifyLine s other (f := fun l => { l with queue := q }) (fun _ => rfl) name
  by_cases at_ : other = name
  · subst at_
    rw [if_pos rfl, found, Option.map_some] at lines
    have was : q.closed = false → line.queue.closed = false := by
      intro open_
      rw [← Bool.not_eq_true]
      intro closed
      rw [shut closed] at open_
      cases open_
    cases wakes with
    | true =>
      have woken : (s'.wake other).line? other = some { line with queue := q : Line ω }.roused := by
        rw [line?_wake, lines]
        simp
      refine minds_of_roused woken fun open_ => ?_
      have alive := minds.alive found (was open_)
      refine ⟨alive, ?_⟩
      rcases minds line found (was open_) with ⟨_, ready⟩ | ⟨wakeAt, sleeps, _⟩
      · exact mem_ready_wake (s := s') ready other
      · exact dispatch_mem_ready_wake lines sleeps
    | false =>
      intro line' found' open_
      cases lines.symm.trans found'
      obtain ⟨_, later⟩ := heard.heard.resolve_left Bool.false_ne_true
      rcases minds line found (was open_) with looking | ⟨wakeAt, sleeps, on, early⟩
      · exact .inl looking
      · refine .inr ⟨wakeAt, sleeps, on, fun new top => ?_⟩
        obtain ⟨old, head, before⟩ := later new top
        obtain ⟨w, armed, earlier⟩ := early old head
        exact ⟨w, armed, Int.le_trans earlier before⟩
  · rw [if_neg at_] at lines
    cases wakes with
    | true =>
      refine minds.congr ?_ (wake_now s' other) fun member => mem_ready_wake (s := s') member other
      change (s'.wake other).line? name = _
      simp only [line?_wake, lines, at_, ↓reduceIte, Option.map_id']
    | false => exact minds.congr lines rfl id

/-! ### Calls -/

theorem line?_detach (s : Scheduler ω) (line : Line ω) (name : String) :
    (s.detach line).line? name = if line.name = name then none else s.line? name := by
  have left : (s.lines.filter (·.name != line.name)).find? (·.name == name) =
      if line.name = name then none else s.line? name := by
    rw [List.find?_filter]
    split
    next same =>
      subst same
      simp
    next different =>
      unfold line?
      congr 1
      funext l
      by_cases here : l.name = name
      · simp [here, Ne.symm different]
      · simp [here]
  unfold detach
  split <;> exact left

theorem dispatch_mem_ready_detach {line : Line ω} (other : line.name ≠ name)
    (ready : .dispatch name ∈ s.ready) : .dispatch name ∈ (s.detach line).ready := by
  have kept (fresh : Bool) : Job.dispatch name ∈ s.ready.map (Job.leave line.name fresh) := by
    refine List.mem_map.mpr ⟨.dispatch name, ready, ?_⟩
    simp [Job.leave, Ne.symm other]
  rw [detach_eq]
  cases line.loop with
  | ended => exact ready
  | fresh => exact kept true
  | runnable => exact kept false
  | blocked => exact List.mem_append_left _ ready

theorem Minds.detach (minds : s.Minds name) (line : Line ω) : (s.detach line).Minds name := by
  by_cases at_ : line.name = name
  · intro line' found
    rw [line?_detach, if_pos at_] at found
    cases found
  · exact minds.congr ((line?_detach s line name).trans (if_neg at_)) (detach_now s line)
      (dispatch_mem_ready_detach at_)

theorem Minds.served (minds : s.Minds name) {other : String}
    (sound : ∀ q, s.queue? other = some q → q.Sound) {call : Call ω}
    (served : Served s other call s') : s'.Minds name := by
  cases served with
  | refused => exact minds
  | added free =>
    by_cases at_ : other = name
    · subst at_
      intro line found open_
      have fresh : line = { name := other } := by
        have lines : (s.line? other).or (some ({ name := other } : Line ω)) = some line := by
          rw [← found]
          simp [line?, List.find?_append]
        rw [free] at lines
        exact (Option.some.inj lines).symm
      subst fresh
      exact .inl ⟨.inl rfl, List.mem_append_right _ (List.mem_singleton_self _)⟩
    · refine minds.congr ?_ rfl fun member => List.mem_append_left _ member
      simp [line?, List.find?_append, at_]
  | detached => exact minds.detach _
  | put here heard => exact minds.putQueue here heard ((sound _ here).closed_run call.asks)

/-! ### Jobs -/

theorem Minds.rescheduled (minds : s.Minds name) {other : String}
    (sound : ∀ q, s.queue? other = some q → q.Sound) {t : Task ω}
    (back : Rescheduled s other t s') : s'.Minds name := by
  cases back with
  | dropped => exact minds
  | @revoked q here absent =>
    have idle : (⟨q, (), false⟩ : Effect ω Unit).Heard q :=
      ⟨sound q here, .inr ⟨rfl, .of_root rfl⟩⟩
    exact minds.putQueue here idle id
  | @returned q next here open_ again flying free =>
    have named := (Task.nextRun?_eq_some again).1
    exact minds.putQueue here (heard_place (sound q here) open_ (named ▸ free) ())
      fun shut => by rw [open_] at shut; cases shut

/-- A loop that has looked ends only if it may, and else knows when to look next. -/
theorem Looked.minds (sound : ∀ q, s.queue? name = some q → q.Sound) (going : s.stopping = false)
    (looked : Looked s name s') : s'.Minds name := by
  cases looked with
  | missing gone =>
    intro line found
    rw [gone] at found
    cases found
  | @left line here why =>
    intro line' found open_
    have modified := line?_modifyLine s name (f := fun l => { l with loop := .ended })
      (fun _ => rfl) name
    rw [if_pos rfl, here] at modified
    cases modified.symm.trans found
    rcases why with stopping | shut
    · rw [going] at stopping
      cases stopping
    · rw [shut] at open_
      cases open_
  | @slept line q tasks wakeAt here took =>
    intro line' found open_
    have modified := line?_modifyLine s name
      (f := fun l => { l with queue := q, loop := .blocked wakeAt }) (fun _ => rfl) name
    rw [if_pos rfl, here] at modified
    cases modified.symm.trans found
    have queue : s.queue? name = some line.queue := by rw [queue?, here]; rfl
    obtain ⟨rfl, later⟩ := (sound _ queue).takeDue_sleep took
    refine .inr ⟨_, rfl, ?_, ?_⟩
    · intro w armed
      obtain ⟨head, top, rfl⟩ := Option.map_eq_some_iff.mp armed
      exact Int.lt_of_lt_of_le (later head top) (Instant.le_ceilMilli head.due)
    · intro head top
      exact ⟨head.due, by rw [top]; rfl, Int.le_refl _⟩

theorem Minds.looked (minds : s.Minds name) {other : String} (apart : other ≠ name)
    (looked : Looked s other s') : s'.Minds name := by
  cases looked with
  | missing => exact minds
  | left =>
    have modified := line?_modifyLine s other (f := fun l => { l with loop := .ended })
      (fun _ => rfl) name
    exact minds.congr (modified.trans (if_neg apart)) rfl id
  | @slept line q tasks wakeAt here took =>
    have modified := line?_modifyLine s other
      (f := fun l => { l with queue := q, loop := .blocked wakeAt }) (fun _ => rfl) name
    exact minds.congr (modified.trans (if_neg apart)) rfl (List.mem_append_left _)

theorem Minds.takeOne (minds : s.Minds name) {other : String}
    (sound : ∀ q, s.queue? other = some q → q.Sound) {t : Task ω}
    (took : s.takeOne? other = some (s', t)) : s'.Minds name := by
  obtain ⟨line, here, open_, head, _, rfl⟩ := takeOne?_took sound took
  have queue : s.queue? other = some line.queue := by rw [queue?, here]; rfl
  have after := minds.putQueue queue (heard_take (sound _ queue) open_ head)
    fun shut => by rw [open_] at shut; cases shut
  exact after.congr rfl rfl (List.mem_append_left _)

/-- Another job is done first. -/
theorem Minds.eraseIdx (minds : s.Minds name) {place : Nat} {job : Job ω}
    (found : s.ready[place]? = some job) (other : job ≠ .dispatch name) :
    ({ s with ready := s.ready.eraseIdx place } : Scheduler ω).Minds name := by
  refine minds.congr rfl rfl fun member => ?_
  obtain ⟨i, there⟩ := List.mem_iff_getElem?.mp member
  refine List.mem_eraseIdx_iff_getElem?.mpr ⟨i, ?_, there⟩
  rintro rfl
  rw [found] at there
  exact other (Option.some.inj there)

theorem Minds.ended (minds : s.Minds name) {r : Run ω}
    (sound : ∀ q, s.queue? r.queue = some q → q.Sound) :
    (s.finish r).1.Minds name ∧ (s.expire r).1.Minds name := by
  let telling : Scheduler ω := { s with ready := s.ready ++ [.release r] }
  have minds' : telling.Minds name := minds.congr rfl rfl (List.mem_append_left _)
  have sound' : ∀ q, telling.queue? r.queue = some q → q.Sound := sound
  exact ⟨minds.rescheduled sound (reschedule_rescheduled sound r.task),
    minds'.rescheduled sound' (reschedule_rescheduled sound' r.task)⟩

theorem Minds.perform (minds : s.Minds name) (sound : ∀ n q, s.queue? n = some q → q.Sound)
    (plan : Task ω → Execution) {job : Job ω} (other : job ≠ .dispatch name) :
    (s.perform plan job).1.Minds name := by
  cases job with
  | dispatch at_ =>
    have apart : at_ ≠ name := fun same => other (congrArg _ same)
    exact minds.looked apart (dispatch_looked (sound at_))
  | retire | release => exact minds
  | finish r => exact (minds.ended (sound r.queue)).1
  | expire r => exact (minds.ended (sound r.queue)).2
  | start at_ ticket t =>
    simp only [Scheduler.perform, start_eq]
    refine launch_induction s _ ?_ ?_ (minds.congr rfl rfl id)
    · exact (minds.ended (sound at_)).1
    · exact (minds.ended (sound at_)).2

/-! ### The clock -/

theorem mem_roused {line : Line ω} (here : s.line? name = some line) {w now : Int}
    (sleeps : line.loop = .blocked (some w)) (fired : Instant.ceilMilli w ≤ now) :
    name ∈ s.roused now := by
  have named : line.name = name := by simpa using List.find?_some here
  refine List.mem_map.mpr ⟨line, List.mem_filter.mpr ⟨List.mem_of_find?_eq_some here, ?_⟩, named⟩
  simp [sleeps, fired]

/-- A timer that fires wakes its loop. -/
theorem Minds.reach (minds : s.Minds name) (now : Int) : (s.reach now).Minds name := by
  rw [reach_eq]
  let s' : Scheduler ω := { s with now }
  suffices woken : ((s.roused now).foldl wake s').Minds name from
    woken.congr rfl rfl (List.mem_append_left _)
  have lines := line?_foldl_wake s' name (s.roused now)
  cases here : s.line? name with
  | none =>
    intro line found
    rw [lines] at found
    have gone : s'.line? name = none := here
    rw [gone] at found
    cases found
  | some line =>
    have there : s'.line? name = some line := here
    rw [there, Option.map_some] at lines
    by_cases member : name ∈ s.roused now
    · rw [if_pos member] at lines
      refine minds_of_roused lines fun open_ => ⟨minds.alive here open_, ?_⟩
      rcases minds line here open_ with ⟨_, ready⟩ | ⟨wakeAt, sleeps, _⟩
      · exact mem_ready_foldl_wake (s := s') ready _
      · exact dispatch_mem_ready_foldl_wake there sleeps member
    · rw [if_neg member] at lines
      intro line' found open_
      cases lines.symm.trans found
      rcases minds line here open_ with ⟨loop, ready⟩ | ⟨wakeAt, sleeps, _, early⟩
      · exact .inl ⟨loop, mem_ready_foldl_wake (s := s') ready _⟩
      · refine .inr ⟨wakeAt, sleeps, fun w armed => ?_, early⟩
        rw [foldl_wake_now]
        subst armed
        exact Int.not_le.mp fun fired => member (mem_roused here sleeps fired)

end Scheduler

namespace Chronicle

variable {c : Chronicle ω} {name : String}

theorem minds_step (reached : Reached c) (minds : c.scheduler.Minds name)
    (going : c.scheduler.stopping = false) {move : Move ω} (still : move.stops = false) :
    (c.step move).scheduler.Minds name := by
  have sound : ∀ n q, c.scheduler.queue? n = some q → q.Sound := fun _ => reached.sound
  cases move with
  | client other call =>
    exact minds.served (sound other) (Scheduler.serve_served (sound other) call)
  | cancel | shutdown => cases still
  | take other =>
    simp only [Chronicle.step]
    split
    · exact minds
    next took => exact minds.takeOne (sound other) took
  | work plan place =>
    simp only [Chronicle.step]
    split
    · exact minds
    next job found =>
      by_cases own : job = .dispatch name
      · subst own
        let s : Scheduler ω := { c.scheduler with ready := c.scheduler.ready.eraseIdx place }
        have sound' : ∀ q, s.queue? name = some q → q.Sound := sound name
        exact (Scheduler.dispatch_looked sound').minds sound' going
      · exact (minds.eraseIdx found own).perform sound plan own
  | wait duration => exact minds.reach _

end Chronicle

end Vigil
