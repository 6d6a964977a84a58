import Vigil.Proofs.Queue.Diary
import Vigil.Proofs.Queue.Removal

/-!
# A closed queue stays closed

Every operation asks whether the queue is closed before it touches it, and a closed queue is empty,
so there is nothing left that a call could change (`Sound.after_closed`). Whoever waited is woken by
the close, and whoever comes later has not looked yet; so each of them can run, and is refused.
-/
namespace Vigil

variable {ω : Type}

namespace Queue

/-- What a queue that is closed says to everybody: that it is, and that there is nothing. -/
structure Shut (q : Queue ω) : Prop where
  closed : q.closed = true
  empty : q.heap.tasks = []
  unknown : ∀ id, ¬ q.Knows id
  push : ∀ t, q.push t = .error .queueClosed
  upsert : ∀ t, q.upsert t = .error .queueClosed
  update : ∀ id due, q.update id due = .error .queueClosed
  requeue : ∀ t, q.requeue t = .error .queueClosed
  remove : ∀ id, q.remove id = (q, false)
  contains : ∀ id, q.contains id = false
  due : ∀ id, q.due? id = none
  close : q.close = (q, 0)

theorem Sound.shut {q : Queue ω} (sound : q.Sound) (closed : q.closed = true) : q.Shut := by
  obtain ⟨empty, unclaimed⟩ := sound.emptied closed
  have absent : ∀ id, q.find? id = none := by
    intro id
    refine Option.eq_none_iff_forall_ne_some.mpr fun t found => ?_
    have queued := (sound.find?_eq_some_iff.mp found).1
    rw [empty] at queued
    cases queued
  exact {
    closed, empty
    unknown := fun id => (not_knows_iff q id).mpr ⟨absent id, unclaimed id⟩
    push := fun t => by simp only [Queue.push, closed, ↓reduceIte]
    upsert := fun t => by simp only [Queue.upsert, closed, ↓reduceIte]
    update := fun id due => by simp only [Queue.update, closed, ↓reduceIte]
    requeue := fun t => by simp only [Queue.requeue, closed, ↓reduceIte]
    remove := sound.remove_closed closed
    contains := fun id => by rw [sound.contains_eq, absent, Option.isSome_none]
    due := fun id => by rw [due?, absent, Option.map_none]
    close := sound.close_closed closed }

/-- The receipt of a call that found nothing to take out or to throw away. -/
def Receipt.Barren : Receipt ω → Prop
  | .removed _ queued => queued = false
  | .closed discarded count => discarded = [] ∧ count = 0
  | _ => False

theorem Shut.receipt {q : Queue ω} (shut : q.Shut) (c : Call ω) : ∀ r ∈ q.receipt c, r.Barren := by
  intro r given
  cases c with
  | push t =>
    rw [Queue.receipt, shut.push t] at given
    cases given
  | upsert t =>
    rw [Queue.receipt, shut.upsert t] at given
    cases given
  | update id due =>
    rw [Queue.receipt, shut.update id due] at given
    cases given
  | remove id =>
    cases given
    exact shut.contains id
  | requeue t =>
    rw [Queue.receipt, shut.requeue t] at given
    cases given
  | close =>
    cases given
    exact ⟨shut.empty, congrArg Prod.snd shut.close⟩
  | look now =>
    rw [Queue.receipt, glance_closed.mpr shut.closed] at given
    cases given

end Queue

namespace Station

/-- What a consumer is told at a closed queue. -/
def dismissal (s : Station ω) (c : Consumer) : SchedulingError :=
  if s.cancelled.contains c.token then .cancelled else .queueClosed

section

variable {s : Station ω}

theorem poll_closed (closed : s.queue.closed = true) (c : Consumer) :
    s.poll c = (s.queue, .inr (.refused (s.dismissal c))) := by
  simp only [poll, dismissal, Queue.glance_closed.mpr closed]
  split <;> rfl

/-- Nobody sleeps at a closed queue: whoever waits there was woken, or is cancelled. -/
theorem Alert.runnable_of_closed (alert : s.Alert) (closed : s.queue.closed = true) {c : Consumer}
    (waiting : c ∈ s.consumers) : s.runnable c = true := by
  rcases alert.attentive c waiting with woken | gone | ⟨open_, _⟩
  · simp only [runnable, woken, Bool.true_or]
  · simp only [runnable, gone, Bool.or_true, Bool.true_or]
  · rw [closed] at open_
    cases open_

theorem run_closed (closed : s.queue.closed = true) {waiting : List Consumer}
    (able : ∀ c ∈ waiting, s.runnable c = true) :
    s.run waiting = (s, waiting.map fun c => .refused (s.dismissal c)) := by
  induction waiting with
  | nil => rfl
  | cons c rest ih =>
    obtain ⟨first, others⟩ := List.forall_mem_cons.mp able
    simp only [run, first, ↓reduceIte, poll_closed closed, ih others, List.map_cons]

/-- All who wait at a closed queue leave as soon as they run, each with the refusal. -/
theorem Alert.settle_closed (alert : s.Alert) (closed : s.queue.closed = true) :
    s.settle = ({ s with consumers := [] },
      s.consumers.map fun c => (s.now, .refused (s.dismissal c))) := by
  have ran := run_closed (s := { s with consumers := [] }) closed
    fun c waiting => alert.runnable_of_closed closed waiting
  simp only [settle, ran, List.map_map]
  rfl

/-- At a closed queue nothing can be done to the queue. -/
theorem act_closed (sound : s.queue.Sound) (closed : s.queue.closed = true) (a : Act ω) :
    (s.act a).1.queue = s.queue ∧ ∀ r ∈ (s.act a).2, r.Barren := by
  rcases s.act_queue a with ⟨still, none_⟩ | ⟨c, called, receipt⟩
  · rw [none_]
    exact ⟨still, nofun⟩
  · rw [called, receipt]
    exact ⟨sound.after_closed closed c, (sound.shut closed).receipt c⟩

end

end Station

namespace Diary

theorem run_closed {d : Diary ω} (sound : d.station.queue.Sound)
    (closed : d.station.queue.closed = true) (later : List (Station.Act ω)) :
    (d.run later).station.queue = d.station.queue ∧
      ∃ since, (d.run later).receipts = since ++ d.receipts ∧ ∀ r ∈ since, r.Barren := by
  induction later generalizing d with
  | nil => exact ⟨rfl, [], rfl, nofun⟩
  | cons a rest ih =>
    obtain ⟨still, barren⟩ := Station.act_closed sound closed a
    have same : (d.step a).station.queue = d.station.queue := still
    obtain ⟨final, since, receipts, others⟩ := ih (d := d.step a) (same ▸ sound) (same ▸ closed)
    refine ⟨final.trans same, since ++ (d.station.act a).2.toList, ?_, ?_⟩
    · rw [run_cons, receipts, step, List.append_assoc]
    · intro r given
      rcases List.mem_append.mp given with late | first
      · exact others r late
      · exact barren r (Option.mem_toList.mp first)

/-- Whatever happened at a queue before it is closed, and whatever is done there afterwards: the
close answers how many tasks were queued; from then on the queue is closed and empty, knows no id
as queued or executing, and refuses or finds nothing; no receipt says that a task was put in, moved
or handed out; and every consumer, whether it slept when the queue was closed or came later, can
run, and is told that the queue is closed, or that its token is cancelled. -/
theorem close_is_final (now : Int) (before later : List (Station.Act ω)) :
    let opened := ({ station := { now } } : Diary ω).run before
    let shut := opened.step .close
    let d := shut.run later
    let s := d.station
    opened.station.close.2 = opened.station.queue.size ∧
      s.queue.Shut ∧
      (∃ since, d.receipts = since ++ shut.receipts ∧ ∀ r ∈ since, r.Barren) ∧
      (∀ c ∈ s.consumers, s.runnable c = true) ∧
      (∀ c, s.poll c = (s.queue, .inr (.refused (s.dismissal c)))) ∧
      s.settle = ({ s with consumers := [] },
        s.consumers.map fun c => (s.now, .refused (s.dismissal c))) := by
  intro opened shut d s
  have reached : shut.Reached := ((Reached.fresh now).run before).step .close
  have closed : shut.station.queue.closed = true := (Queue.close_queue opened.station.queue).1
  obtain ⟨still, written⟩ := run_closed reached.sound closed later
  have alert : s.Alert := (reached.run later).station.alert
  have closed' : s.queue.closed = true := still ▸ closed
  refine ⟨?_, alert.sound.shut closed', written,
    fun c waiting => alert.runnable_of_closed closed' waiting, Station.poll_closed closed',
    alert.settle_closed closed'⟩
  simp [Station.close, Queue.close, Heap.drain, Queue.size, Heap.size]

/-- A consumer sleeps until a task is due and another has come after its token was cancelled; a
handler returns with a task that it took before the close. -/
example :
    let t : Task Unit := { id := "x", due := 0, interval := 1000000, work := () }
    let d : Diary Unit := ({} : Diary Unit).run
      [.push t, .join "a", .poll 0, .push { t with id := "y", due := 5000000 }, .join "a", .poll 0,
        .close, .requeue (t.dueAt 1000000), .join "b", .cancel "b", .pass 5000000]
    d.station.settle.2.map (·.2) = [.refused .queueClosed, .refused .cancelled] := by
  decide +kernel

end Diary

end Vigil
