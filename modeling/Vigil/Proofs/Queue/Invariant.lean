import Vigil.Proofs.Heap.Operations
import Vigil.Queue

/-!
# The representation of a task queue, and what each operation can do to it

A queue is sound if its heap is well-formed, no id is both queued and in flight, and nothing is
left in it once it is closed. Each operation is opened once: an inversion lemma says everything
its success can mean (`push_ok`, `upsert_ok`, `update_ok`, `requeue_ok`, `glance_taken`), and an
effect lemma says which tasks are queued and which ids are in flight afterwards.
-/
namespace Vigil.Queue

variable {ω : Type}

structure Sound (q : Queue ω) : Prop where
  heap : q.heap.WellFormed
  apart : ∀ id, id ∈ q.inFlight → q.find? id = none
  emptied : q.closed = true → q.heap.tasks = [] ∧ ∀ id, id ∉ q.inFlight

theorem sound_empty : ({} : Queue ω).Sound := by
  refine ⟨Heap.wellFormed_empty, ?_, ?_⟩
  · intro id member
    simp at member
  · intro closed
    cases closed

theorem Sound.find?_eq_some_iff {q : Queue ω} (sound : q.Sound) {id : String} {t : Task ω} :
    q.find? id = some t ↔ t ∈ q.heap.tasks ∧ t.id = id :=
  sound.heap.indexed.find?_eq_some_iff

theorem Sound.position_eq_none_iff {q : Queue ω} (sound : q.Sound) (id : String) :
    q.heap.position id = none ↔ q.find? id = none := by
  rw [sound.heap.indexed.position_eq_none_iff, Option.eq_none_iff_forall_ne_some]
  constructor
  · intro free t found
    obtain ⟨member, named⟩ := sound.find?_eq_some_iff.mp found
    exact free t member named
  · intro free t member named
    exact free t (sound.find?_eq_some_iff.mpr ⟨member, named⟩)

theorem Sound.contains_eq {q : Queue ω} (sound : q.Sound) (id : String) :
    q.contains id = (q.find? id).isSome := by
  have none_iff := sound.position_eq_none_iff id
  cases hp : q.heap.position id <;> cases hf : q.find? id <;> simp_all [contains]

/-- How often an id stands in the heap. -/
def copies (q : Queue ω) (id : String) : Nat := (q.heap.tasks.map (·.id)).count id

theorem Sound.copies_eq {q : Queue ω} (sound : q.Sound) (id : String) :
    q.copies id = if (q.find? id).isSome then 1 else 0 := by
  have once := List.nodup_iff_count.mp sound.heap.indexed.nodup_ids id
  cases found : q.find? id with
  | none =>
    rw [copies, List.count_eq_zero_of_not_mem]
    · simp
    · intro member
      obtain ⟨t, inside, named⟩ := List.mem_map.mp member
      rw [sound.find?_eq_some_iff.mpr ⟨inside, named⟩] at found
      cases found
  | some t =>
    obtain ⟨inside, named⟩ := sound.find?_eq_some_iff.mp found
    have positive : 0 < (q.heap.tasks.map (·.id)).count id :=
      List.count_pos_iff.mpr (List.mem_map.mpr ⟨t, inside, named⟩)
    simp only [copies, Option.isSome_some, ↓reduceIte]
    omega

/-! ### The four ways to change a queue -/

/-- Queue a task; an execution of its id loses its claim. -/
def place (q : Queue ω) (t : Task ω) : Queue ω :=
  { q with heap := (q.heap.insert t).1, inFlight := q.inFlight.erase t.id }

/-- Move the task in a slot to a new due time. -/
def rekey (q : Queue ω) (pos : Nat) (due : Int) : Queue ω :=
  { q with heap := (q.heap.updateKey pos due).1 }

/-- Take the head out and mark it as in flight. -/
def take (q : Queue ω) (t : Task ω) : Queue ω :=
  { q with heap := q.heap.popMin.1, inFlight := q.inFlight.insert t.id }

theorem mem_inFlight_place (q : Queue ω) (t : Task ω) (id : String) :
    id ∈ (q.place t).inFlight ↔ t.id ≠ id ∧ id ∈ q.inFlight := by
  simp [place, Std.ExtTreeSet.mem_erase]

theorem mem_inFlight_take (q : Queue ω) (t : Task ω) (id : String) :
    id ∈ (q.take t).inFlight ↔ t.id = id ∨ id ∈ q.inFlight := by
  simp [take, Std.ExtTreeSet.mem_insert]

theorem Sound.place {q : Queue ω} (sound : q.Sound) {t : Task ω} (open_ : q.closed = false)
    (free : q.find? t.id = none) :
    (q.place t).Sound ∧
      ∀ id, (q.place t).find? id = if t.id = id then some t else q.find? id := by
  obtain ⟨heap, added⟩ := sound.heap.insert ((sound.position_eq_none_iff t.id).mpr free)
  have finds : ∀ id, (q.place t).find? id = if t.id = id then some t else q.find? id :=
    Heap.find?_add sound.heap.indexed heap.indexed added
  refine ⟨⟨heap, ?_, ?_⟩, finds⟩
  · intro id member
    obtain ⟨other, flying⟩ := (mem_inFlight_place q t id).mp member
    rw [finds, if_neg other]
    exact sound.apart id flying
  · intro closed
    rw [Queue.place, open_] at closed
    cases closed

theorem Sound.rekey {q : Queue ω} (sound : q.Sound) {id : String} {pos : Nat} (due : Int)
    (found : q.heap.position id = some pos) :
    (q.rekey pos due).Sound ∧ ∃ old, q.find? id = some old ∧
      ∀ other, (q.rekey pos due).find? other =
        if id = other then some (old.dueAt due) else q.find? other := by
  obtain ⟨e, he, named⟩ := (sound.heap.indexed id pos).mp found
  obtain ⟨heap, rest, left, right⟩ := sound.heap.updateKey he due
  have finds : ∀ other, (q.rekey pos due).find? other =
      if id = other then some (e.task.dueAt due) else q.find? other := by
    intro other
    rw [← named]
    have same : (e.task.dueAt due).id = e.task.id := rfl
    exact Heap.find?_exchange sound.heap.indexed heap.indexed same left right other
  have there : q.find? id = some e.task :=
    sound.find?_eq_some_iff.mpr ⟨left.mem_iff.mpr (by simp), named⟩
  refine ⟨⟨heap, ?_, ?_⟩, e.task, there, finds⟩
  · intro other flying
    have apart := sound.apart other flying
    rw [finds]
    split
    next same =>
      rw [← same, there] at apart
      cases apart
    next => exact apart
  · intro closed
    have empty := (sound.emptied closed).1
    rw [empty] at left
    exact absurd left.length_eq (by simp)

theorem Sound.take {q : Queue ω} (sound : q.Sound) {t : Task ω} (open_ : q.closed = false)
    (head : q.heap.peek = some t) :
    q.heap.popMin.2 = some t ∧ (q.take t).Sound ∧ q.find? t.id = some t ∧
      ∀ id, (q.take t).find? id = if t.id = id then none else q.find? id := by
  obtain ⟨e, he, rfl⟩ := (Heap.peek_eq_some_iff q.heap t).mp head
  obtain ⟨answer, heap, dropped⟩ := sound.heap.removeAt he
  have finds : ∀ id, (q.take e.task).find? id = if e.task.id = id then none else q.find? id :=
    Heap.find?_drop sound.heap.indexed heap.indexed dropped
  refine ⟨answer, ⟨heap, ?_, ?_⟩, ?_, finds⟩
  · intro id member
    rw [finds]
    split
    · rfl
    next other =>
      rcases (mem_inFlight_take q _ id).mp member with same | flying
      · exact absurd same other
      · exact sound.apart id flying
  · intro closed
    rw [Queue.take, open_] at closed
    cases closed
  · exact sound.find?_eq_some_iff.mpr ⟨Heap.mem_tasks_of_peek head, rfl⟩

/-! ### What the operations mean -/

theorem push_ok {q : Queue ω} {t : Task ω} {e : Effect ω Unit} (sound : q.Sound)
    (success : q.push t = .ok e) :
    q.closed = false ∧ q.find? t.id = none ∧ e = ⟨q.place t, (), (q.heap.insert t).2 == 0⟩ := by
  unfold push at success
  split at success
  · cases success
  next open_ =>
    split at success
    · cases success
    next absent =>
      cases success
      refine ⟨by simpa using open_, ?_, rfl⟩
      rw [sound.contains_eq] at absent
      simpa using absent

theorem Sound.push_free {q : Queue ω} (sound : q.Sound) {t : Task ω} (open_ : q.closed = false)
    (free : q.find? t.id = none) :
    q.push t = .ok ⟨q.place t, (), (q.heap.insert t).2 == 0⟩ := by
  have absent : q.contains t.id = false := by
    rw [sound.contains_eq, free]
    rfl
  unfold push
  rw [if_neg (by simp [open_]), if_neg (by simp [absent])]
  rfl

/-- A success either queues the task or re-keys the queued one of its id. -/
theorem upsert_ok {q : Queue ω} {t : Task ω} {e : Effect ω Bool} (sound : q.Sound)
    (success : q.upsert t = .ok e) :
    q.closed = false ∧
      (q.find? t.id = none ∧ e = ⟨q.place t, true, (q.heap.insert t).2 == 0⟩ ∨
        ∃ pos, q.heap.position t.id = some pos ∧
          e = ⟨q.rekey pos t.due, false,
            pos == 0 || (q.heap.updateKey pos t.due).2 == some 0⟩) := by
  unfold upsert at success
  split at success
  · cases success
  next open_ =>
    refine ⟨by simpa using open_, ?_⟩
    split at success
    next pos found =>
      cases success
      exact Or.inr ⟨pos, found, rfl⟩
    next absent =>
      cases success
      exact Or.inl ⟨(sound.position_eq_none_iff _).mp absent, rfl⟩

theorem update_ok {q : Queue ω} {id : String} {due : Int} {e : Effect ω Unit}
    (success : q.update id due = .ok e) :
    q.closed = false ∧ ∃ pos, q.heap.position id = some pos ∧
      e = ⟨q.rekey pos due, (), pos == 0 || (q.heap.updateKey pos due).2 == some 0⟩ := by
  unfold update at success
  split at success
  · cases success
  next open_ =>
    refine ⟨by simpa using open_, ?_⟩
    split at success
    · cases success
    next pos found =>
      cases success
      exact ⟨pos, found, rfl⟩

/-- A hand-back is accepted exactly while its id is in flight; the id is then not queued, so it
never re-keys. -/
theorem requeue_ok {q : Queue ω} {t : Task ω} {e : Effect ω Bool} (sound : q.Sound)
    (success : q.requeue t = .ok e) :
    q.closed = false ∧
      (t.id ∉ q.inFlight ∧ e = ⟨q, false, false⟩ ∨
        t.id ∈ q.inFlight ∧ q.find? t.id = none ∧
          e = ⟨q.place t, true, (q.heap.insert t).2 == 0⟩) := by
  unfold requeue at success
  split at success
  · cases success
  next open_ =>
    refine ⟨by simpa using open_, ?_⟩
    split at success
    next absent =>
      cases success
      refine Or.inl ⟨?_, rfl⟩
      rw [Std.ExtTreeSet.mem_iff_contains]
      intro flying
      rw [flying] at absent
      cases absent
    next flying =>
      have claimed : t.id ∈ q.inFlight := by
        rw [Std.ExtTreeSet.mem_iff_contains]
        simpa using flying
      have free := sound.apart _ claimed
      rw [(sound.position_eq_none_iff _).mpr free] at success
      cases success
      exact Or.inr ⟨claimed, free, rfl⟩

/-- Only a closed queue answers a hand-back with an error. -/
theorem requeue_error {q : Queue ω} {t : Task ω} {why : SchedulingError}
    (refused : q.requeue t = .error why) : q.closed = true := by
  unfold requeue at refused
  split at refused
  next closed => exact closed
  next open_ =>
    split at refused
    · cases refused
    · split at refused <;> cases refused

theorem glance_taken {q rest : Queue ω} {now : Int} {t : Task ω} (sound : q.Sound)
    (looked : q.glance now = .taken t rest) :
    q.closed = false ∧ q.heap.peek = some t ∧ t.due ≤ now ∧ rest = q.take t := by
  unfold glance at looked
  split at looked
  · cases looked
  next open_ =>
    split at looked
    · cases looked
    next head top =>
      split at looked
      · cases looked
      next due =>
        obtain ⟨answer, _⟩ := sound.take (by simpa using open_) top
        split at looked
        next heap task popped =>
          cases looked
          have same : head = t := by
            rw [popped] at answer
            exact (Option.some.inj answer).symm
          subst same
          refine ⟨by simpa using open_, top, by omega, ?_⟩
          rw [Queue.take, popped]
        · cases looked

/-- A consumer goes to sleep until the head is due, or for ever if there is none. -/
theorem glance_sleep {q : Queue ω} {now : Int} {wakeAt : Option Int} (sound : q.Sound)
    (looked : q.glance now = .sleep wakeAt) :
    q.closed = false ∧ wakeAt = q.heap.peek.map (·.due) ∧
      ∀ head, q.heap.peek = some head → now < head.due := by
  unfold glance at looked
  split at looked
  · cases looked
  next open_ =>
    refine ⟨by simpa using open_, ?_⟩
    split at looked
    next none_ =>
      cases looked
      exact ⟨by simp [none_], fun head top => by rw [none_] at top; cases top⟩
    next head top =>
      split at looked
      next later =>
        cases looked
        refine ⟨by simp [top], ?_⟩
        intro other same
        rw [top] at same
        cases same
        exact later
      next due =>
        obtain ⟨answer, _⟩ := sound.take (by simpa using open_) top
        split at looked
        · cases looked
        next popped =>
          rw [popped] at answer
          cases answer

theorem glance_closed {q : Queue ω} {now : Int} : q.glance now = .closed ↔ q.closed = true := by
  unfold glance
  split
  next closed => simp [closed]
  next open_ =>
    simp only [open_, Bool.false_eq_true, iff_false]
    split
    · simp
    · split
      · simp
      · split <;> simp

/-- A consumer that does not even block took nothing, for the queue is closed. -/
theorem takeDue_closed {q : Queue ω} (sound : q.Sound) {now : Int}
    (refused : (q.takeDue now).2.2 = none) : q.takeDue now = (q, [], none) := by
  have closed : q.closed = true := by
    fun_induction Queue.takeDue q now with
    | case1 q looked => exact glance_closed.mp looked
    | case2 q wakeAt looked => cases refused
    | case3 q t rest looked after tasks last eq ih =>
      obtain ⟨open_, head, _, rfl⟩ := glance_taken sound looked
      rw [eq] at ih
      exact ih (sound.take open_ head).2.1 refused
  have looked : q.glance now = .closed := glance_closed.mpr closed
  rw [takeDue]
  split
  · rfl
  next other =>
    rw [looked] at other
    cases other
  next other =>
    rw [looked] at other
    cases other

/-- The queue `r` is `q` with this id neither queued nor in flight, and is sound. -/
structure Without (q : Queue ω) (id : String) (r : Queue ω) : Prop where
  sound : r.Sound
  closed : r.closed = q.closed
  finds : ∀ other, r.find? other = if id = other then none else q.find? other
  flying : ∀ other, other ∈ r.inFlight ↔ id ≠ other ∧ other ∈ q.inFlight
  fewer : ∀ t ∈ r.heap.tasks, t ∈ q.heap.tasks

theorem Sound.unclaim {q : Queue ω} (sound : q.Sound) {id : String} (gone : q.find? id = none) :
    q.Without id { q with inFlight := q.inFlight.erase id } := by
  have members : ∀ other, other ∈ (q.inFlight.erase id) ↔ id ≠ other ∧ other ∈ q.inFlight := by
    simp [Std.ExtTreeSet.mem_erase]
  refine ⟨⟨sound.heap, ?_, ?_⟩, rfl, ?_, members, fun t member => member⟩
  · intro other member
    exact sound.apart other ((members other).mp member).2
  · intro closed
    obtain ⟨empty, none_⟩ := sound.emptied closed
    exact ⟨empty, fun other member => none_ other ((members other).mp member).2⟩
  · intro other
    split
    next same =>
      subst same
      exact gone
    next => rfl

theorem Sound.unqueue {q : Queue ω} (sound : q.Sound) {id : String} {pos : Nat}
    (found : q.heap.position id = some pos) :
    q.Without id { q with heap := (q.heap.removeAt pos).1 } := by
  obtain ⟨e, he, named⟩ := (sound.heap.indexed id pos).mp found
  obtain ⟨_, heap, dropped⟩ := sound.heap.removeAt he
  have there : q.find? id = some e.task :=
    sound.find?_eq_some_iff.mpr ⟨dropped.mem_iff.mpr (by simp), named⟩
  have finds : ∀ other, ({ q with heap := (q.heap.removeAt pos).1 } : Queue ω).find? other =
      if id = other then none else q.find? other := by
    intro other
    rw [← named]
    exact Heap.find?_drop sound.heap.indexed heap.indexed dropped other
  refine ⟨⟨heap, ?_, ?_⟩, rfl, finds, ?_, ?_⟩
  · intro other flying
    rw [finds, sound.apart other flying, ite_self]
  · intro closed
    have empty := (sound.emptied closed).1
    rw [empty] at dropped
    exact absurd dropped.length_eq (by simp)
  · intro other
    refine ⟨fun flying => ⟨?_, flying⟩, fun both => both.2⟩
    intro same
    rw [← same] at flying
    rw [sound.apart id flying] at there
    cases there
  · intro t member
    exact dropped.mem_iff.mpr (List.mem_cons_of_mem _ member)

/-- Removing an id leaves it neither queued nor in flight, and nothing else changes. -/
theorem Sound.remove {q : Queue ω} (sound : q.Sound) (id : String) :
    q.Without id (q.remove id).1 := by
  cases found : q.heap.position id with
  | none =>
    have shape : (q.remove id).1 = { q with inFlight := q.inFlight.erase id } := by
      simp only [Queue.remove, found]
    rw [shape]
    exact sound.unclaim ((sound.position_eq_none_iff id).mp found)
  | some pos =>
    have shape : (q.remove id).1 = { q with heap := (q.heap.removeAt pos).1 } := by
      simp only [Queue.remove, found]
    rw [shape]
    exact sound.unqueue found

theorem close_queue (q : Queue ω) :
    q.close.1.closed = true ∧ q.close.1.heap.tasks = [] ∧ (∀ id, q.close.1.find? id = none) ∧
      ∀ id, id ∉ q.close.1.inFlight := by
  simp [close, Heap.drain, Heap.tasks, find?, Heap.position]

theorem Sound.close {q : Queue ω} (sound : q.Sound) : q.close.1.Sound := by
  obtain ⟨_, empty, gone, none_⟩ := close_queue q
  refine ⟨⟨?_, ?_, ?_⟩, ?_, ?_⟩
  · intro i _ x y hx _
    simp [Queue.close, Heap.drain] at hx
  · intro id pos
    simp [Queue.close, Heap.drain, Heap.position]
  · have all : q.heap.slots.toList.Perm (q.heap.slots.toList ++ q.close.1.heap.slots.toList) := by
      simp [Queue.close, Heap.drain]
    exact sound.heap.stamped.drop all rfl
  · intro id member
    exact absurd member (none_ id)
  · exact fun _ => ⟨empty, none_⟩

end Vigil.Queue
