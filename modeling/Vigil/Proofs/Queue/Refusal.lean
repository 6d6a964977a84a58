import Vigil.Proofs.Queue.Diary
import Vigil.Proofs.Scheduler.Knowledge

/-!
# Who is refused changes nothing

A call can be refused before the queue is touched, or after an id was looked for and not found, and
a hand-back or a removal can find that there is nothing for it to do. Each of them leaves the queue
as it was, down to the slots of the heap, and wakes nobody; a consumer that is refused leaves the
others where they stand. Replacing a record takes the old task out before it puts the new one in,
but it can fail only if the queue is closed, and from a closed queue there is nothing to take.
-/
namespace Vigil

open Queue

variable {ω α : Type}

namespace Queue

/-- A removal that finds nothing takes nothing. -/
theorem Sound.remove_nothing {q : Queue ω} (sound : q.Sound) {id : String}
    (nothing : (q.remove id).2 = false) : (q.remove id).1 = q := by
  cases found : q.heap.position id with
  | some pos =>
    obtain ⟨e, slot, _⟩ := (sound.heap.indexed id pos).mp found
    obtain ⟨answer, _⟩ := sound.heap.removeAt slot
    simp only [Queue.remove, found, answer] at nothing
    cases nothing
  | none =>
    simp only [Queue.remove, found] at nothing ⊢
    have unclaimed : id ∉ q.inFlight := by
      rw [Std.ExtTreeSet.mem_iff_contains, nothing]
      exact Bool.false_ne_true
    have same : q.inFlight.erase id = q.inFlight := Std.ExtTreeSet.ext_mem fun other => by
      rw [Std.ExtTreeSet.mem_erase]
      refine ⟨And.right, fun flying => ⟨?_, flying⟩⟩
      rintro same
      rw [← Std.LawfulEqCmp.eq_of_compare same] at flying
      exact unclaimed flying
    rw [same]

end Queue

namespace Station

/-- How somebody is refused: with an error, or with the answer that there was nothing to do. -/
inductive Refusal where
  | error (why : SchedulingError)
  | declined
  deriving DecidableEq

/-- How an operation refuses that fails. -/
def failure? : Except SchedulingError (Effect ω α) → Option Refusal
  | .error why => some (.error why)
  | .ok _ => none

/-- How a hand-back refuses, which can also find that its id has no claim. -/
def rejection? : Except SchedulingError (Effect ω Bool) → Option Refusal
  | .error why => some (.error why)
  | .ok e => if e.answer then none else some .declined

/-- How a consumer is refused that runs. -/
def dismissal? (s : Station ω) (c : Consumer) : Option Refusal :=
  match (s.poll c).2 with
  | .inr (.refused why) => some (.error why)
  | _ => none

def refusal? (s : Station ω) : Act ω → Option Refusal
  | .push t => failure? (s.queue.push t)
  | .upsert t => failure? (s.queue.upsert t)
  | .update id due => failure? (s.queue.update id due)
  | .remove id => if (s.queue.remove id).2 then none else some .declined
  | .requeue t => rejection? (s.queue.requeue t)
  | .poll place =>
    match s.consumers[place]? with
    | none => none
    | some c => if s.runnable c then s.dismissal? c else none
  | _ => none

/-- Everybody but the consumer that acts. -/
def Act.others : Act ω → List Consumer → List Consumer
  | .poll place, consumers => consumers.eraseIdx place
  | _, consumers => consumers

section

variable {s : Station ω}

theorem accept_failure {answer : Except SchedulingError (Effect ω α)} {r : Refusal}
    (refused : failure? answer = some r) : s.accept answer = s := by
  cases answer with
  | error why => rfl
  | ok e => cases refused

theorem requeue_declined {q : Queue ω} (sound : q.Sound) {t : Task ω} {e : Effect ω Bool}
    (handed : q.requeue t = .ok e) (answer : e.answer = false) : e = ⟨q, false, false⟩ := by
  obtain ⟨_, ⟨_, rfl⟩ | ⟨_, _, rfl⟩⟩ := requeue_ok sound handed
  · rfl
  · cases answer

theorem accept_rejection (sound : s.queue.Sound) {t : Task ω} {r : Refusal}
    (refused : rejection? (s.queue.requeue t) = some r) : s.accept (s.queue.requeue t) = s := by
  cases handed : s.queue.requeue t with
  | error why => rfl
  | ok e =>
    cases answer : e.answer with
    | true => simp [handed, rejection?, answer] at refused
    | false =>
      rw [requeue_declined sound handed answer]
      rfl

theorem polled_dismissal (sound : s.queue.Sound) {before after : List Consumer} {c : Consumer}
    {r : Refusal} (refused : s.dismissal? c = some r) :
    s.polled before c after = { s with consumers := before ++ after } := by
  rcases poll_cases sound c with ⟨why, ran⟩ | ⟨t, _, _, ran⟩ | ⟨wakeAt, _, _, ran⟩
  · rw [polled, ran]
  · rw [dismissal?, ran] at refused
    cases refused
  · rw [dismissal?, ran] at refused
    cases refused

/-- Who is refused changes nothing. -/
theorem act_refused (sound : s.queue.Sound) {a : Act ω} {r : Refusal}
    (refused : s.refusal? a = some r) :
    (s.act a).1 = { s with consumers := a.others s.consumers } := by
  cases a with
  | push t => exact accept_failure refused
  | upsert t => exact accept_failure refused
  | update id due => exact accept_failure refused
  | remove id =>
    have nothing : (s.queue.remove id).2 = false := by
      by_contra found
      simp [refusal?, found] at refused
    simp only [act, apply, sound.remove_nothing nothing, Bool.false_eq_true, ↓reduceIte, Act.others]
  | requeue t => exact accept_rejection sound refused
  | close | join | cancel | pass | stir => cases refused
  | poll place =>
    simp only [refusal?, act] at refused ⊢
    split
    next absent => rw [absent] at refused; cases refused
    next c present =>
      simp only [present] at refused
      split
      next able =>
        simp only [able, ↓reduceIte] at refused
        rw [polled_dismissal sound refused, Act.others, List.eraseIdx_eq_take_drop_succ]
      next unable => simp [unable] at refused

/-! ### Cancelled tokens -/

theorem accept_cancelled (answer : Except SchedulingError (Effect ω α)) :
    (s.accept answer).cancelled = s.cancelled := by
  cases answer <;> rfl

theorem polled_cancelled (before after : List Consumer) (c : Consumer) :
    (s.polled before c after).cancelled = s.cancelled := by
  unfold polled
  split <;> rfl

/-- A token stays cancelled. -/
theorem act_cancelled {token : String} (gone : s.cancelled.contains token = true) (a : Act ω) :
    (s.act a).1.cancelled.contains token = true := by
  cases a with
  | push | upsert | update | requeue =>
    simp only [act, accept_cancelled]
    exact gone
  | remove | close | join | pass | stir => exact gone
  | cancel other =>
    simp only [act, cancel, Std.ExtTreeSet.contains_insert, gone, Bool.or_true]
  | poll place =>
    simp only [act]
    split
    next => exact gone
    next =>
      split
      next => rw [polled_cancelled]; exact gone
      next => exact gone

theorem refusal?_cancelled {place : Nat} {c : Consumer} (present : s.consumers[place]? = some c)
    (gone : s.cancelled.contains c.token = true) :
    s.refusal? (.poll place) = some (.error .cancelled) ∧ (s.act (.poll place)).2 = none := by
  have able : s.runnable c = true := by simp only [runnable, gone, Bool.or_true, Bool.true_or]
  have polled : s.poll c = (s.queue, .inr (.refused .cancelled)) := by
    simp only [poll, gone, ↓reduceIte]
  constructor
  · simp only [refusal?, present, able, ↓reduceIte, dismissal?, polled]
  · simp only [act, present, able, ↓reduceIte, delivered, polled]

end

end Station

theorem Diary.run_cancelled {d : Diary ω} {token : String}
    (gone : d.station.cancelled.contains token = true) (later : List (Station.Act ω)) :
    (d.run later).station.cancelled.contains token = true := by
  induction later generalizing d with
  | nil => exact gone
  | cons a rest ih => exact ih (Station.act_cancelled gone a)

namespace Scheduler

variable {s : Scheduler ω} {name : String}

/-- To put back a queue that was looked up is to do nothing. -/
theorem putQueue_same (distinct : s.titles.Nodup) {q : Queue ω} (here : s.queue? name = some q) :
    s.putQueue name q false = s := by
  have same : (s.lines.map fun l => if l.name == name then { l with queue := q } else l) =
      s.lines := by
    refine (List.map_congr_left fun l member => ?_).trans (List.map_id _)
    split
    next named =>
      have found := line?_of_mem distinct member
      rw [beq_iff_eq.mp named] at found
      rw [queue?, found] at here
      cases here
      rfl
    next => rfl
  simp only [putQueue, modifyLine, Bool.false_eq_true, ↓reduceIte, same]

theorem Occurs.update_refused (occurs : s.Occurs) {t : Task ω} {why : SchedulingError}
    (refused : (s.update name t).answer = .error why) : (s.update name t).scheduler = s := by
  simp only [update] at refused ⊢
  split
  next => rfl
  next q here =>
    simp only [here] at refused
    split
    next failed =>
      have sound := occurs.sound here
      simp only [sound.remove_closed (sound.closed_of_replace failed)]
      exact putQueue_same occurs.distinct here
    next success =>
      simp only [success] at refused
      cases refused

end Scheduler

namespace Station

/-- Whatever happened at a queue, and whoever stands there: a call that is refused, with an error or
with the answer that there was nothing to do, leaves the station as it is, the slots of the heap and
the ids in flight, the clock and the tokens, and every consumer asleep or woken as it was, but for
the consumer that was refused itself, who is gone. Once its token is cancelled, whatever is done
before it runs, a consumer is refused for that, be a task due or not. And a client who fails to
replace a task, with nobody between the two steps of that, leaves all queues as they were. -/
theorem refused_changes_nothing {s : Station ω} (reached : Reached s) :
    (∀ a r, s.refusal? a = some r → (s.act a).1 = { s with consumers := a.others s.consumers }) ∧
    (∀ token, s.cancelled.contains token = true → ∀ later place c,
      let s' := (({ station := s } : Diary ω).run later).station
      s'.consumers[place]? = some c → c.token = token →
        s'.refusal? (.poll place) = some (.error .cancelled) ∧ (s'.act (.poll place)).2 = none) ∧
    ∀ (scheduler : Scheduler ω) name t why, scheduler.Occurs →
      (scheduler.update name t).answer = .error why →
        (scheduler.update name t).scheduler = scheduler := by
  refine ⟨fun a r refused => act_refused reached.alert.sound refused, ?_,
    fun scheduler name t why occurs refused => occurs.update_refused refused⟩
  rintro token gone later place c s' present rfl
  exact refusal?_cancelled present (Diary.run_cancelled gone later)

/-- A consumer is cancelled while a task is due, and the task is pushed once more. A queue is closed
while its task is executing, and the task cannot be replaced then. -/
theorem refused_while_due :
    let x : Task Unit := { id := "x", due := 0, interval := 1000000, work := () }
    let s := (({} : Diary Unit).run [.push x, .join "a", .join "b", .cancel "a"]).station
    let closed := (({} : Chronicle Unit).run [.client "q" .addQueue, .client "q" (.register x),
      .take "q", .client "q" .closeQueue]).scheduler
    s.queue.due? "x" = some s.now ∧ s.cancelled.contains "a" = true ∧
      s.refusal? (.push x) = some (.error (.duplicateTask "x")) ∧ (s.act (.push x)).1 = s ∧
      s.refusal? (.poll 0) = some (.error .cancelled) ∧ (s.act (.poll 0)).2 = none ∧
      (s.act (.poll 0)).1 = { s with consumers := [{ token := "b" }] } ∧
      (closed.update "q" x).answer = .error .queueClosed ∧
      (closed.update "q" x).scheduler = closed := by
  intro x s closed
  have reached : Reached s := ((Diary.Reached.fresh 0).run _).station
  have occurs : closed.Occurs := ⟨_, (Chronicle.Reached.fresh {} 0).run _, rfl⟩
  obtain ⟨unchanged, dismissed, kept⟩ := refused_changes_nothing reached
  have gone : s.cancelled.contains "a" = true := by decide +kernel
  have duplicate : s.refusal? (.push x) = some (.error (.duplicateTask "x")) := by decide +kernel
  have failed : (closed.update "q" x).answer = .error .queueClosed := by decide +kernel
  have others : (Act.poll 0 : Act Unit).others s.consumers = [{ token := "b" }] := by decide +kernel
  obtain ⟨refused, nothing⟩ := dismissed "a" gone [] 0 { token := "a" } (by decide +kernel) rfl
  exact ⟨by decide +kernel, gone, duplicate, unchanged _ _ duplicate, refused, nothing,
    others ▸ unchanged _ _ refused, failed, kept closed "q" x _ occurs failed⟩

end Station
end Vigil
