import Vigil.Proofs.Heap.Head
import Vigil.Proofs.Queue.Invariant
import Vigil.Queue.Station

/-!
# No lost wake-up

Any number of consumers stand at one queue. A consumer enrols for wake-ups before it looks, so its
look and its falling asleep are one step for everybody else. Producers wake nobody unless the slot
an operation answers is the root's; what carries the argument is that then the head is no earlier
than before (`Effect.Heard`), so a deadline armed for an older head is still early enough
(`Attentive`).
-/
namespace Vigil

namespace Queue

variable {ω α : Type}

/-- An accepted operation keeps the queue sound, and either wakes the blocked consumers or leaves
the queue as open as it was, with a head that is no earlier. -/
structure Effect.Heard (e : Effect ω α) (q : Queue ω) : Prop where
  sound : e.queue.Sound
  heard : e.wakes = true ∨ e.queue.closed = q.closed ∧ q.heap.HeadNoEarlier e.queue.heap

theorem heard_place {q : Queue ω} (sound : q.Sound) {t : Task ω} (open_ : q.closed = false)
    (free : q.find? t.id = none) (answer : α) :
    (⟨q.place t, answer, (q.heap.insert t).2 == 0⟩ : Effect ω α).Heard q := by
  refine ⟨(sound.place open_ free).1, ?_⟩
  by_cases top : (q.heap.insert t).2 = 0
  · left
    simpa using top
  · right
    have absent := (sound.position_eq_none_iff t.id).mpr free
    exact ⟨rfl, sound.heap.headNoEarlier_insert absent top⟩

theorem heard_rekey {q : Queue ω} (sound : q.Sound) {id : String} {pos : Nat} (due : Int)
    (found : q.heap.position id = some pos) (answer : α) :
    (⟨q.rekey pos due, answer, pos == 0 || (q.heap.updateKey pos due).2 == some 0⟩ :
      Effect ω α).Heard q := by
  refine ⟨(sound.rekey due found).1, ?_⟩
  by_cases top : pos = 0 ∨ (q.heap.updateKey pos due).2 = some 0
  · left
    simpa using top
  · right
    rw [not_or] at top
    exact ⟨rfl, sound.heap.headNoEarlier_updateKey found due top.2⟩

theorem heard_push {q : Queue ω} {t : Task ω} {e : Effect ω Unit} (sound : q.Sound)
    (success : q.push t = .ok e) : e.Heard q := by
  obtain ⟨open_, free, rfl⟩ := push_ok sound success
  exact heard_place sound open_ free ()

theorem heard_upsert {q : Queue ω} {t : Task ω} {e : Effect ω Bool} (sound : q.Sound)
    (success : q.upsert t = .ok e) : e.Heard q := by
  obtain ⟨open_, ⟨free, rfl⟩ | ⟨pos, found, rfl⟩⟩ := upsert_ok sound success
  · exact heard_place sound open_ free true
  · exact heard_rekey sound t.due found false

theorem heard_update {q : Queue ω} {id : String} {due : Int} {e : Effect ω Unit} (sound : q.Sound)
    (success : q.update id due = .ok e) : e.Heard q := by
  obtain ⟨_, pos, found, rfl⟩ := update_ok success
  exact heard_rekey sound due found ()

theorem heard_requeue {q : Queue ω} {t : Task ω} {e : Effect ω Bool} (sound : q.Sound)
    (success : q.requeue t = .ok e) : e.Heard q := by
  obtain ⟨open_, ⟨_, rfl⟩ | ⟨_, free, rfl⟩⟩ := requeue_ok sound success
  · exact ⟨sound, Or.inr ⟨rfl, .of_root rfl⟩⟩
  · exact heard_place sound open_ free true

/-- `remove` wakes nobody, and need not. -/
theorem heard_remove {q : Queue ω} (sound : q.Sound) (id : String) :
    (⟨(q.remove id).1, (q.remove id).2, false⟩ : Effect ω Bool).Heard q := by
  obtain ⟨sound', same, _, _, fewer⟩ := sound.remove id
  exact ⟨sound', Or.inr ⟨same, sound.heap.headNoEarlier_of_subset fewer⟩⟩

theorem heard_close {q : Queue ω} (sound : q.Sound) :
    (⟨q.close.1, (), true⟩ : Effect ω Unit).Heard q :=
  ⟨sound.close, Or.inl rfl⟩

/-- A consumer that takes a task wakes none of the others. -/
theorem heard_take {q : Queue ω} (sound : q.Sound) {t : Task ω} (open_ : q.closed = false)
    (head : q.heap.peek = some t) : (⟨q.take t, (), false⟩ : Effect ω Unit).Heard q := by
  obtain ⟨_, sound', _, finds⟩ := sound.take open_ head
  refine ⟨sound', Or.inr ⟨rfl, sound.heap.headNoEarlier_of_subset ?_⟩⟩
  intro u member
  have there := sound'.find?_eq_some_iff.mpr ⟨member, rfl⟩
  rw [finds] at there
  split at there
  · cases there
  · exact (sound.find?_eq_some_iff.mp there).1

end Queue

namespace Station

variable {ω α : Type}

/-! ### Everything that can happen at a queue -/

/-- One consumer runs. The others keep their places. -/
def polled (s : Station ω) (before : List Consumer) (c : Consumer) (after : List Consumer) :
    Station ω :=
  match s.poll c with
  | (queue, .inl blocked) => { s with queue, consumers := before ++ blocked :: after }
  | (queue, .inr _) => { s with queue, consumers := before ++ after }

/-- One step of a producer, of the clock or of a consumer. A consumer may be woken for no reason,
consumers run in any order, and the clock does not wait for them. -/
inductive Step (s : Station ω) : Station ω → Prop where
  | push (t : Task ω) {e} (success : s.queue.push t = .ok e) : Step s (s.apply e)
  | upsert (t : Task ω) {e} (success : s.queue.upsert t = .ok e) : Step s (s.apply e)
  | update (id : String) (due : Int) {e} (success : s.queue.update id due = .ok e) :
      Step s (s.apply e)
  | remove (id : String) :
      Step s (s.apply ⟨(s.queue.remove id).1, (s.queue.remove id).2, false⟩)
  | requeue (t : Task ω) {e} (success : s.queue.requeue t = .ok e) : Step s (s.apply e)
  | close : Step s s.close.1
  | join (token : String) : Step s (s.join token)
  | cancel (token : String) : Step s (s.cancel token)
  | pass {now : Int} (later : s.now ≤ now) : Step s { s with now }
  | stir {before after c} (present : s.consumers = before ++ c :: after) :
      Step s { s with consumers := before ++ { c with woken := true } :: after }
  | poll {before after c} (present : s.consumers = before ++ c :: after)
      (able : s.runnable c = true) : Step s (s.polled before c after)

/-- The states a new queue can come to, whatever its clock shows at the start. -/
inductive Reached : Station ω → Prop where
  | fresh (now : Int) : Reached { now }
  | step {s s' : Station ω} (reached : Reached s) (move : s.Step s') : Reached s'

/-! ### The invariant -/

/-- The consumer has a wake-up pending, or has armed a deadline no later than the head's due time;
a consumer that saw an empty queue has none and waits for ever. -/
def Attentive (s : Station ω) (c : Consumer) : Prop :=
  c.woken = true ∨ s.cancelled.contains c.token = true ∨
    s.queue.closed = false ∧ ∀ head, s.queue.heap.peek = some head →
      ∃ deadline, c.wakeAt = some deadline ∧ deadline ≤ head.due

structure Alert (s : Station ω) : Prop where
  sound : s.queue.Sound
  attentive : ∀ c ∈ s.consumers, s.Attentive c

theorem Attentive.keep {s s' : Station ω} {c : Consumer} (attentive : s.Attentive c)
    (cancelled : ∀ token, s.cancelled.contains token = true → s'.cancelled.contains token = true)
    (same : s'.queue.closed = s.queue.closed) (head : s.queue.heap.HeadNoEarlier s'.queue.heap) :
    s'.Attentive c := by
  rcases attentive with woken | gone | ⟨open_, armed⟩
  · exact Or.inl woken
  · exact Or.inr (Or.inl (cancelled _ gone))
  · refine Or.inr (Or.inr ⟨same.trans open_, ?_⟩)
    intro new top
    obtain ⟨old, before, le⟩ := head new top
    obtain ⟨deadline, wakeAt, early⟩ := armed old before
    exact ⟨deadline, wakeAt, Int.le_trans early le⟩

theorem Alert.apply {s : Station ω} (alert : s.Alert) {e : Queue.Effect ω α}
    (heard : e.Heard s.queue) : (s.apply e).Alert := by
  refine ⟨heard.sound, ?_⟩
  intro c member
  simp only [Station.apply] at member
  split at member
  next wakes =>
    obtain ⟨old, _, rfl⟩ := List.mem_map.mp member
    exact Or.inl rfl
  next silent =>
    rcases heard.heard with wakes | ⟨same, head⟩
    · exact absurd wakes silent
    · exact (alert.attentive c member).keep (fun _ gone => gone) same head

/-- A consumer that blocks has armed the head's due time. -/
theorem attentive_of_sleep {s : Station ω} (sound : s.queue.Sound) {wakeAt : Option Int}
    (looked : s.queue.glance s.now = .sleep wakeAt) (c : Consumer) :
    s.Attentive { c with wakeAt, woken := false } := by
  obtain ⟨open_, rfl, _⟩ := Queue.glance_sleep sound looked
  refine Or.inr (Or.inr ⟨open_, ?_⟩)
  intro head top
  exact ⟨head.due, by simp [top], Int.le_refl _⟩

/-- What one consumer can do: leave without touching the queue, leave with the head, or block. -/
theorem poll_cases {s : Station ω} (sound : s.queue.Sound) (c : Consumer) :
    (∃ why, s.poll c = (s.queue, .inr (.refused why))) ∨
    (∃ t, s.queue.closed = false ∧ s.queue.heap.peek = some t ∧
      s.poll c = (s.queue.take t, .inr (.task t))) ∨
    ∃ wakeAt, s.cancelled.contains c.token = false ∧ s.queue.glance s.now = .sleep wakeAt ∧
      s.poll c = (s.queue, .inl { c with wakeAt, woken := false }) := by
  unfold poll
  split
  next gone => exact Or.inl ⟨_, rfl⟩
  next kept =>
    split
    next => exact Or.inl ⟨_, rfl⟩
    next t rest looked =>
      obtain ⟨open_, top, _, rfl⟩ := Queue.glance_taken sound looked
      exact Or.inr (Or.inl ⟨t, open_, top, rfl⟩)
    next wakeAt looked =>
      exact Or.inr (Or.inr ⟨wakeAt, Bool.not_eq_true _ ▸ kept, looked, rfl⟩)

theorem Alert.polled {s : Station ω} (alert : s.Alert) {before after : List Consumer}
    {c : Consumer} (present : s.consumers = before ++ c :: after) :
    (s.polled before c after).Alert := by
  have others : ∀ other, other ∈ before ++ after → other ∈ s.consumers := by
    intro other member
    rw [present]
    simp only [List.mem_append, List.mem_cons] at member ⊢
    tauto
  unfold Station.polled
  rcases poll_cases alert.sound c with ⟨why, ran⟩ | ⟨t, open_, top, ran⟩ | ⟨wakeAt, _, looked, ran⟩
  · rw [ran]
    exact ⟨alert.sound, fun other member => alert.attentive other (others other member)⟩
  · rw [ran]
    have heard := Queue.heard_take alert.sound open_ top
    refine ⟨heard.sound, ?_⟩
    intro other member
    rcases heard.heard with wakes | ⟨same, head⟩
    · cases wakes
    · exact (alert.attentive other (others other member)).keep (fun _ gone => gone) same head
  · rw [ran]
    refine ⟨alert.sound, ?_⟩
    intro other member
    rcases List.mem_append.mp member with left | right
    · exact alert.attentive other (others other (List.mem_append_left _ left))
    · rcases List.mem_cons.mp right with rfl | right
      · exact attentive_of_sleep alert.sound looked c
      · exact alert.attentive other (others other (List.mem_append_right _ right))

theorem Step.alert {s s' : Station ω} (move : s.Step s') (alert : s.Alert) : s'.Alert := by
  cases move with
  | push t success => exact alert.apply (Queue.heard_push alert.sound success)
  | upsert t success => exact alert.apply (Queue.heard_upsert alert.sound success)
  | update id due success => exact alert.apply (Queue.heard_update alert.sound success)
  | remove id => exact alert.apply (Queue.heard_remove alert.sound id)
  | requeue t success => exact alert.apply (Queue.heard_requeue alert.sound success)
  | close => exact alert.apply (Queue.heard_close alert.sound)
  | join token =>
    refine ⟨alert.sound, ?_⟩
    intro c member
    rcases List.mem_append.mp member with old | new
    · exact alert.attentive c old
    · rw [List.mem_singleton.mp new]
      exact Or.inl rfl
  | cancel token =>
    refine ⟨alert.sound, fun c member => (alert.attentive c member).keep ?_ rfl (.of_root rfl)⟩
    intro other gone
    simp only [Station.cancel, Std.ExtTreeSet.contains_insert, Bool.or_eq_true]
    exact Or.inr gone
  | pass later =>
    exact ⟨alert.sound, fun c member =>
      (alert.attentive c member).keep (fun _ gone => gone) rfl (.of_root rfl)⟩
  | stir present =>
    refine ⟨alert.sound, ?_⟩
    intro c member
    rcases List.mem_append.mp member with left | right
    · exact alert.attentive c (present ▸ List.mem_append_left _ left)
    · rcases List.mem_cons.mp right with rfl | right
      · exact Or.inl rfl
      · exact alert.attentive c (present ▸ List.mem_append_right _ (List.mem_cons_of_mem _ right))
  | poll present able => exact alert.polled present

theorem Reached.alert {s : Station ω} (reached : Reached s) : s.Alert := by
  induction reached with
  | fresh now =>
    refine ⟨Queue.sound_empty, ?_⟩
    intro c member
    cases member
  | step _ move ih => exact move.alert ih

/-! ### Letting everybody run -/

theorem runnable_congr {s s' : Station ω} (clock : s'.now = s.now)
    (tokens : s'.cancelled = s.cancelled) (c : Consumer) : s'.runnable c = s.runnable c := by
  simp only [runnable, clock, tokens]

theorem run_cancelled (s : Station ω) (waiting : List Consumer) :
    (s.run waiting).1.cancelled = s.cancelled := by
  induction waiting generalizing s with
  | nil => rfl
  | cons c rest ih =>
    simp only [Station.run]
    split
    · split <;> exact ih _
    · exact ih s

/-- `run` lets the consumers run one by one, each of them a step. -/
theorem Reached.run {s : Station ω} {done waiting : List Consumer}
    (reached : Reached { s with consumers := done ++ waiting }) (empty : s.consumers = []) :
    Reached { (s.run waiting).1 with consumers := done ++ (s.run waiting).1.consumers } := by
  induction waiting generalizing s done with
  | nil =>
    simp only [Station.run, empty]
    exact reached
  | cons c rest ih =>
    simp only [Station.run]
    split
    next able =>
      let crowd : Station ω := { s with consumers := done ++ c :: rest }
      have move : crowd.Step (crowd.polled done c rest) := .poll rfl able
      have ran := reached.step move
      have looked : crowd.poll c = s.poll c := rfl
      unfold polled at ran
      rw [looked] at ran
      split
      next queue blocked left =>
        rw [left] at ran
        have inside : done ++ blocked :: rest = (done ++ [blocked]) ++ rest := by simp
        simp only [inside] at ran
        have final := ih (s := { s with queue }) ran empty
        rw [List.append_assoc] at final
        exact final
      next queue outcome left =>
        rw [left] at ran
        exact ih (s := { s with queue }) ran empty
    next unable =>
      have inside : done ++ c :: rest = (done ++ [c]) ++ rest := by simp
      rw [inside] at reached
      have final := ih reached empty
      rw [List.append_assoc] at final
      exact final

/-- Who goes to sleep cannot run before he is woken or the time has come. -/
theorem runnable_of_sleep {s : Station ω} (sound : s.queue.Sound) {c : Consumer}
    (kept : s.cancelled.contains c.token = false) {wakeAt : Option Int}
    (looked : s.queue.glance s.now = .sleep wakeAt) :
    s.runnable { c with wakeAt, woken := false } = false := by
  obtain ⟨_, rfl, later⟩ := Queue.glance_sleep sound looked
  simp only [runnable, kept, Bool.false_or, Option.any_map]
  cases top : s.queue.heap.peek with
  | none => rfl
  | some head =>
    have due := later head top
    have fires := Instant.le_ceilMilli head.due
    simp only [Option.any_some, decide_eq_false_iff_not]
    omega

theorem run_idle {s : Station ω} (sound : s.queue.Sound) (empty : s.consumers = [])
    (waiting : List Consumer) : ∀ c ∈ (s.run waiting).1.consumers, s.runnable c = false := by
  induction waiting generalizing s with
  | nil =>
    intro c member
    simp only [Station.run, empty, List.not_mem_nil] at member
  | cons c rest ih =>
    intro other member
    simp only [Station.run] at member
    split at member
    next able =>
      rcases poll_cases sound c with ⟨why, ran⟩ | ⟨t, open_, top, ran⟩ | ⟨wakeAt, kept, looked, ran⟩
      · rw [ran] at member
        exact ih sound empty other member
      · rw [ran] at member
        exact ih (s := { s with queue := s.queue.take t })
          (Queue.heard_take sound open_ top).sound empty other member
      · rw [ran] at member
        rcases List.mem_cons.mp member with rfl | right
        · exact runnable_of_sleep sound kept looked
        · exact ih sound empty other right
    next unable =>
      rcases List.mem_cons.mp member with rfl | right
      · exact Bool.not_eq_true _ ▸ unable
      · exact ih sound empty other right

theorem Reached.settle {s : Station ω} (reached : Reached s) :
    Reached s.settle.1 ∧ ∀ c ∈ s.settle.1.consumers, s.settle.1.runnable c = false := by
  let cleared : Station ω := { s with consumers := [] }
  have all : Reached { cleared with consumers := [] ++ s.consumers } := reached
  refine ⟨all.run rfl, ?_⟩
  intro c member
  have same : s.settle.1.runnable c = cleared.runnable c :=
    runnable_congr (run_now _ _) (run_cancelled _ _) c
  rw [same]
  exact run_idle (s := cleared) reached.alert.sound rfl s.consumers c member

/-- The clock stops at every timer, and whoever can run does so there. -/
theorem Reached.advanceTo {s : Station ω} {target : Int} (reached : Reached s)
    (later : s.now ≤ target) : Reached (s.advanceTo target).1 := by
  fun_induction Station.advanceTo s target with
  | case1 s timer => exact (reached.step (.pass later)).settle.1
  | case2 s t timer before here final ih =>
    have on : s.now ≤ t := Int.le_of_lt (now_lt_nextTimer timer)
    refine ih (reached.step (.pass on)).settle.1 ?_
    rw [settle_now]
    exact before
  | case3 s t timer after => exact (reached.step (.pass later)).settle.1

/-! ### The theorem -/

/-- A consumer that cannot run has nothing to run for. -/
theorem Alert.rest {s : Station ω} (alert : s.Alert) {c : Consumer} (member : c ∈ s.consumers)
    (idle : s.runnable c = false) :
    s.queue.closed = false ∧ s.cancelled.contains c.token = false ∧
      ∀ t ∈ s.queue.heap.tasks, s.now < Instant.ceilMilli t.due := by
  simp only [runnable, Bool.or_eq_false_iff] at idle
  obtain ⟨⟨asleep, kept⟩, armed⟩ := idle
  refine ⟨?_, kept, ?_⟩
  · rcases alert.attentive c member with woken | gone | ⟨open_, _⟩
    · rw [asleep] at woken
      cases woken
    · rw [kept] at gone
      cases gone
    · exact open_
  · intro t queued
    obtain ⟨head, top⟩ := Heap.exists_peek queued
    have first := alert.sound.heap.peek_due_le top queued
    rcases alert.attentive c member with woken | gone | ⟨_, early⟩
    · rw [asleep] at woken
      cases woken
    · rw [kept] at gone
      cases gone
    · obtain ⟨deadline, wakeAt, le⟩ := early head top
      rw [wakeAt] at armed
      simp only [Option.any_some, decide_eq_false_iff_not] at armed
      simp only [Instant.ceilMilli] at armed ⊢
      omega

/-- Whatever happened at a queue, every consumer that stands there has a wake-up pending or a
deadline that is early enough. Letting all who can run do so is again such a history, after which
nobody can; and then whoever still waits does so at an open queue, with a token that stands, and no
queued task has reached the millisecond of its due time. On a clock that shows whole milliseconds
no queued task is due at all. -/
theorem no_lost_wakeup {s : Station ω} (reached : Reached s) :
    (∀ c ∈ s.consumers, s.Attentive c) ∧
      (Reached s.settle.1 ∧ ∀ c ∈ s.settle.1.consumers, s.settle.1.runnable c = false) ∧
      ((∀ c ∈ s.consumers, s.runnable c = false) → ∀ c ∈ s.consumers,
        s.queue.closed = false ∧ s.cancelled.contains c.token = false ∧
          ∀ t ∈ s.queue.heap.tasks, s.now < Instant.ceilMilli t.due ∧
            ((∃ ms, s.now = Instant.ofMillis ms) → s.now < t.due)) := by
  refine ⟨reached.alert.attentive, reached.settle, ?_⟩
  intro idle c member
  obtain ⟨open_, kept, undue⟩ := reached.alert.rest member (idle c member)
  refine ⟨open_, kept, ?_⟩
  intro t queued
  have waits := undue t queued
  refine ⟨waits, ?_⟩
  rintro ⟨ms, whole⟩
  simp only [Instant.ceilMilli, Instant.ofMillis] at waits whole
  omega

/-- A consumer falls asleep at an empty queue, a task due in 5 ms arrives and wakes it, and it
arms the task's due time. -/
theorem rearmed_by_push :
    ∃ s : Station Unit, s.consumers = [{ token := "a", wakeAt := some 5000000, woken := false }] ∧
      s.queue.heap.size = 1 ∧ ∀ c ∈ s.consumers, s.queue.closed = false ∧
        s.cancelled.contains c.token = false ∧
          ∀ t ∈ s.queue.heap.tasks, s.now < Instant.ceilMilli t.due ∧
            ((∃ ms, s.now = Instant.ofMillis ms) → s.now < t.due) := by
  let t : Task Unit := { id := "x", due := 5000000, interval := 1000000, work := () }
  let first : Station Unit := (({} : Station Unit).join "a").settle.1
  have blocked : Reached first := ((Reached.fresh 0).step (.join "a")).settle.1
  have added := blocked.alert.sound.push_free (t := t) (by decide +kernel) (by decide +kernel)
  have woken := blocked.step (.push t added)
  obtain ⟨_, ⟨_, idle⟩, _⟩ := no_lost_wakeup woken
  obtain ⟨_, _, rest⟩ := no_lost_wakeup woken.settle.1
  exact ⟨_, by decide +kernel, by decide +kernel, rest idle⟩

end Station

end Vigil
