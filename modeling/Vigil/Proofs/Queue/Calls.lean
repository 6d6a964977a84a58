import Vigil.Proofs.Heap.Access
import Vigil.Proofs.Queue.Wakeup

/-!
# A queue under any row of calls

Clients, handlers and consumers reach a queue only through its calls, one after the other. Whatever
is called in whatever order, the queue stays sound, and what a call asks of the heap (`asks`) the
heap can do: no stored id is inserted, and no slot past the end is named or touched. A consumer that
waits looks at the queue again and again, and each look is a call of its own.
-/
namespace Vigil

namespace Queue

variable {ω α : Type}

/-- A call of a client or a handler, or one look of a consumer. -/
inductive Call (ω : Type) where
  | push (t : Task ω)
  | upsert (t : Task ω)
  | update (id : String) (due : Int)
  | remove (id : String)
  | requeue (t : Task ω)
  | close
  | look (now : Int)

/-- A refused call leaves the queue as it is. -/
def accept (q : Queue ω) : Except SchedulingError (Effect ω α) → Queue ω
  | .ok e => e.queue
  | .error _ => q

def after (q : Queue ω) : Call ω → Queue ω
  | .push t => q.accept (q.push t)
  | .upsert t => q.accept (q.upsert t)
  | .update id due => q.accept (q.update id due)
  | .remove id => (q.remove id).1
  | .requeue t => q.accept (q.requeue t)
  | .close => q.close.1
  | .look now =>
    match q.glance now with
    | .taken _ rest => rest
    | _ => q

def run (q : Queue ω) (calls : List (Call ω)) : Queue ω := calls.foldl after q

theorem run_append (q : Queue ω) (first second : List (Call ω)) :
    q.run (first ++ second) = (q.run first).run second :=
  List.foldl_append

/-! ### What a call can do -/

/-- The changes a call can make to a sound queue. -/
inductive Change (q : Queue ω) : Call ω → Queue ω → Prop where
  | none (c : Call ω) : q.Change c q
  /-- Only an execution that is in flight hands a task back. -/
  | placed {c : Call ω} {t : Task ω} (open_ : q.closed = false) (free : q.find? t.id = none)
      (cause : c = .push t ∨ c = .upsert t ∨ c = .requeue t ∧ t.id ∈ q.inFlight) :
      q.Change c (q.place t)
  | rekeyed {id : String} {pos : Nat} (c : Call ω) (due : Int)
      (found : q.heap.position id = some pos) : q.Change c (q.rekey pos due)
  | removed (id : String) : q.Change (.remove id) (q.remove id).1
  | taken {t : Task ω} (now : Int) (open_ : q.closed = false) (head : q.heap.peek = some t) :
      q.Change (.look now) (q.take t)
  | closed : q.Change .close q.close.1

theorem Sound.change {q : Queue ω} (sound : q.Sound) (c : Call ω) : q.Change c (q.after c) := by
  cases c with
  | push t =>
    cases pushed : q.push t with
    | error why => simpa only [after, pushed] using .none _
    | ok e =>
      obtain ⟨open_, free, rfl⟩ := push_ok sound pushed
      simpa only [after, pushed] using .placed open_ free (.inl rfl)
  | upsert t =>
    cases added : q.upsert t with
    | error why => simpa only [after, added] using .none _
    | ok e =>
      obtain ⟨open_, ⟨free, rfl⟩ | ⟨pos, found, rfl⟩⟩ := upsert_ok sound added
      · simpa only [after, added] using .placed open_ free (.inr (.inl rfl))
      · simpa only [after, added] using .rekeyed _ t.due found
  | update id due =>
    cases moved : q.update id due with
    | error why => simpa only [after, moved] using .none _
    | ok e =>
      obtain ⟨_, pos, found, rfl⟩ := update_ok moved
      simpa only [after, moved] using .rekeyed _ due found
  | remove id => exact .removed id
  | requeue t =>
    cases returned : q.requeue t with
    | error why => simpa only [after, returned] using .none _
    | ok e =>
      obtain ⟨open_, ⟨_, rfl⟩ | ⟨flying, free, rfl⟩⟩ := requeue_ok sound returned
      · simpa only [after, returned] using .none _
      · simpa only [after, returned] using .placed open_ free (.inr (.inr ⟨rfl, flying⟩))
  | close => exact .closed
  | look now =>
    cases looked : q.glance now with
    | closed => simpa only [after, looked] using .none _
    | sleep wakeAt => simpa only [after, looked] using .none _
    | taken t rest =>
      obtain ⟨open_, head, _, rfl⟩ := glance_taken sound looked
      simpa only [after, looked] using .taken now open_ head

theorem Change.sound {q r : Queue ω} {c : Call ω} (change : q.Change c r) (sound : q.Sound) :
    r.Sound := by
  cases change with
  | none => exact sound
  | placed open_ free _ => exact (sound.place open_ free).1
  | rekeyed _ due found => exact (sound.rekey due found).1
  | removed id => exact (sound.remove id).sound
  | taken _ open_ head => exact (sound.take open_ head).2.1
  | closed => exact sound.close

theorem Sound.run {q : Queue ω} (sound : q.Sound) (calls : List (Call ω)) : (q.run calls).Sound := by
  induction calls generalizing q with
  | nil => exact sound
  | cons c rest ih => exact ih ((sound.change c).sound sound)

/-! ### What a call asks of the heap -/

/-- Re-key the task of an id, or insert it if there is none. -/
def rekeyOrInsert (q : Queue ω) (t : Task ω) : List (Heap.Op ω) :=
  match q.heap.position t.id with
  | some pos => [.position t.id, .updateKey pos t.due]
  | none => [.position t.id, .insert t]

/-- The heap operations of a call, in order. -/
def asks (q : Queue ω) : Call ω → List (Heap.Op ω)
  | .push t =>
    if q.closed then []
    else if q.contains t.id then [.position t.id]
    else [.position t.id, .insert t]
  | .upsert t => if q.closed then [] else q.rekeyOrInsert t
  | .update id due =>
    if q.closed then []
    else
      match q.heap.position id with
      | some pos => [.position id, .updateKey pos due]
      | none => [.position id]
  | .remove id =>
    match q.heap.position id with
    | some pos => [.position id, .removeAt pos]
    | none => [.position id]
  | .requeue t =>
    if q.closed || !q.inFlight.contains t.id then [] else q.rekeyOrInsert t
  | .close => [.drain]
  | .look now =>
    if q.closed then []
    else
      match q.heap.peek with
      | some head => if now < head.due then [.peek] else [.peek, .popMin]
      | none => [.peek]

/-- Beyond what it asks, a call does nothing to the heap. -/
theorem run_asks (q : Queue ω) (c : Call ω) : (q.heap.run (q.asks c)).1 = (q.after c).heap := by
  cases c with
  | push t => simp only [asks, after, push]; grind [Heap.run, Heap.perform, accept]
  | upsert t => simp only [asks, after, upsert, rekeyOrInsert]; grind [Heap.run, Heap.perform, accept]
  | update id due => simp only [asks, after, update]; grind [Heap.run, Heap.perform, accept]
  | remove id => simp only [asks, after, remove]; grind [Heap.run, Heap.perform]
  | requeue t => simp only [asks, after, requeue, rekeyOrInsert]; grind [Heap.run, Heap.perform, accept]
  | close => rfl
  | look now =>
    have empty : ∀ rest, q.heap.popMin = (rest, none) → rest = q.heap := by
      intro rest popped
      cases top : q.heap.slots[0]? with
      | none =>
        rw [Heap.popMin, Heap.removeAt_missing top] at popped
        cases popped
        rfl
      | some e =>
        rw [Heap.popMin, Heap.removeAt_eq q.heap top] at popped
        cases popped
    simp only [asks, after, glance]
    grind [Heap.run, Heap.perform]

theorem admitsAll_rekeyOrInsert (q : Queue ω) (t : Task ω) :
    q.heap.admitsAll (q.rekeyOrInsert t) := by
  simp only [rekeyOrInsert]
  split
  next => rfl
  next absent => simp only [Heap.admitsAll, Heap.admits, Heap.perform, absent]; rfl

/-- A task is inserted only after its id was looked for and not found. -/
theorem admitsAll_asks (q : Queue ω) (c : Call ω) : q.heap.admitsAll (q.asks c) := by
  cases c with
  | push t =>
    simp only [asks]
    split
    next => rfl
    next =>
      split
      next => rfl
      next absent =>
        have free : q.heap.position t.id = none := by simpa [contains] using absent
        have adds := q.admitsAll_rekeyOrInsert t
        simpa only [rekeyOrInsert, free] using adds
  | upsert t =>
    simp only [asks]
    split
    next => rfl
    next => exact q.admitsAll_rekeyOrInsert t
  | update id due =>
    simp only [asks]
    split
    next => rfl
    next => split <;> rfl
  | remove id =>
    simp only [asks]
    split <;> rfl
  | requeue t =>
    simp only [asks]
    split
    next => rfl
    next => exact q.admitsAll_rekeyOrInsert t
  | close => rfl
  | look now =>
    simp only [asks]
    split
    next => rfl
    next =>
      split
      next => split <;> rfl
      next => rfl

/-- A call assigns one key at most. -/
theorem after_nextSeq_le (q : Queue ω) (c : Call ω) :
    (q.after c).heap.nextSeq ≤ q.heap.nextSeq + 1 := by
  have once : (q.asks c).countP (·.stamps) ≤ 1 := by
    cases c <;> simp only [asks, rekeyOrInsert] <;> grind [Heap.Op.stamps]
  rw [← run_asks, Heap.run_nextSeq]
  omega

theorem run_nextSeq_le (q : Queue ω) (calls : List (Call ω)) :
    (q.run calls).heap.nextSeq ≤ q.heap.nextSeq + calls.length := by
  induction calls generalizing q with
  | nil => exact Nat.le_refl _
  | cons c rest ih =>
    have first := after_nextSeq_le q c
    have others := ih (q.after c)
    simp only [run, List.foldl_cons, List.length_cons] at others ⊢
    omega

/-- The slots a call names exist. -/
theorem Sound.slot_lt {q : Queue ω} (sound : q.Sound) {c : Call ω} {op : Heap.Op ω} {pos : Nat}
    (asked : op ∈ q.asks c) (named : op.slot? = some pos) : pos < q.heap.size := by
  have exists_ : ∀ id, q.heap.position id = some pos → pos < q.heap.size := by
    intro id found
    obtain ⟨e, he, _⟩ := (sound.heap.indexed id pos).mp found
    exact (Array.getElem?_eq_some_iff.mp he).1
  have root : ∀ head, q.heap.peek = some head → 0 < q.heap.size := by
    intro head top
    obtain ⟨e, he, _⟩ := (Heap.peek_eq_some_iff q.heap head).mp top
    exact (Array.getElem?_eq_some_iff.mp he).1
  cases c <;> simp only [asks, rekeyOrInsert] at asked <;> grind [Heap.Op.slot?]

/-- No hand-back re-keys: an id in flight is not queued. -/
theorem Sound.updateKey_not_mem {q : Queue ω} (sound : q.Sound) (t : Task ω) (pos : Nat)
    (due : Int) : .updateKey pos due ∉ q.asks (.requeue t) := by
  simp only [asks]
  split
  next => exact List.not_mem_nil
  next accepted =>
    have flying : t.id ∈ q.inFlight := by
      rw [Std.ExtTreeSet.mem_iff_contains]
      simp only [Bool.or_eq_true, Bool.not_eq_true', not_or, Bool.not_eq_false] at accepted
      exact accepted.2
    have absent := (sound.position_eq_none_iff t.id).mpr (sound.apart t.id flying)
    simp [rekeyOrInsert, absent]

theorem Sound.closed_eq {q : Queue ω} (sound : q.Sound) (closed : q.closed = true) :
    q.heap.slots = #[] ∧ q.heap.index = ∅ ∧ q.inFlight = ∅ := by
  obtain ⟨empty, none_⟩ := sound.emptied closed
  have slots : q.heap.slots = #[] := by simpa [Heap.tasks] using empty
  refine ⟨slots, ?_, Std.ExtTreeSet.ext_mem fun id => by simp [none_ id]⟩
  refine Std.ExtTreeMap.ext_getElem? fun {id} => ?_
  have absent : q.heap.position id = none := by
    rw [sound.heap.indexed.position_eq_none_iff, empty]
    exact fun t member => absurd member List.not_mem_nil
  simpa [Heap.position] using absent

/-! ### Closed queues -/

theorem Sound.remove_closed {q : Queue ω} (sound : q.Sound) (closed : q.closed = true)
    (id : String) : q.remove id = (q, false) := by
  obtain ⟨_, _, unclaimed⟩ := sound.closed_eq closed
  have absent : q.heap.position id = none := by
    rw [sound.heap.indexed.position_eq_none_iff, (sound.emptied closed).1]
    exact List.forall_mem_nil _
  have same : q.inFlight.erase id = q.inFlight := by simp [unclaimed]
  have nobody : q.inFlight.contains id = false := by simp [unclaimed]
  simp only [Queue.remove, absent, same, nobody]

theorem Sound.close_closed {q : Queue ω} (sound : q.Sound) (closed : q.closed = true) :
    q.close = (q, 0) := by
  obtain ⟨slots, index, unclaimed⟩ := sound.closed_eq closed
  obtain ⟨⟨_, _, nextSeq⟩, inFlight, shut⟩ := q
  simp only at slots index unclaimed closed
  subst slots index unclaimed closed
  rfl

/-- Whatever is called of a closed queue, nothing changes. -/
theorem Sound.after_closed {q : Queue ω} (sound : q.Sound) (closed : q.closed = true)
    (c : Call ω) : q.after c = q := by
  cases c with
  | push t => simp only [after, push, closed, ↓reduceIte, accept]
  | upsert t => simp only [after, upsert, closed, ↓reduceIte, accept]
  | update id due => simp only [after, update, closed, ↓reduceIte, accept]
  | remove id => simp only [after, sound.remove_closed closed]
  | requeue t => simp only [after, requeue, closed, ↓reduceIte, accept]
  | close => simp only [after, sound.close_closed closed]
  | look now => simp only [after, glance_closed.mpr closed]

theorem Sound.run_closed {q : Queue ω} (sound : q.Sound) (closed : q.closed = true)
    (calls : List (Call ω)) : q.run calls = q := by
  induction calls with
  | nil => rfl
  | cons c rest ih =>
    rw [Queue.run, List.foldl_cons, sound.after_closed closed]
    exact ih

/-- Only a closed queue refuses to have a task replaced. -/
theorem Sound.closed_of_replace {q : Queue ω} (sound : q.Sound) {t : Task ω}
    {why : SchedulingError} (refused : (q.remove t.id).1.push t = .error why) :
    q.closed = true := by
  by_contra open_
  have without := sound.remove t.id
  have free : (q.remove t.id).1.find? t.id = none := by rw [without.finds, if_pos rfl]
  rw [without.sound.push_free (without.closed.trans (Bool.not_eq_true _ ▸ open_)) free] at refused
  cases refused

/-- Whatever was called: the index is exact, the slots are in heap order by due time and sequence
number, no sequence number was used twice and one was spent a call at most, no id is both queued
and in flight, and a closed queue is empty. So the next call, whichever it is, names existing slots
only, inserts no stored id, and the heap does what it is asked without leaving its array; a hand-back
never re-keys, and a head that was seen is there to be taken. -/
theorem representation (calls : List (Call ω)) :
    let q := ({} : Queue ω).run calls
    q.heap.Indexed ∧ q.heap.Ordered ∧ q.heap.Stamped ∧ q.heap.nextSeq ≤ calls.length ∧
      (∀ id ∈ q.inFlight, q.contains id = false) ∧
      (q.closed = true → q.heap.slots = #[] ∧ q.heap.index = ∅ ∧ q.inFlight = ∅) ∧
      (∀ c, q.heap.run? (q.asks c) = some (q.heap.run (q.asks c)) ∧
        (q.heap.run (q.asks c)).1 = (q.after c).heap ∧
        ∀ op ∈ q.asks c, ∀ pos, op.slot? = some pos → pos < q.heap.size) ∧
      (∀ t pos due, .updateKey pos due ∉ q.asks (.requeue t)) ∧
      ∀ head, q.heap.peek = some head → q.heap.popMin.2 = some head := by
  intro q
  have sound : q.Sound := sound_empty.run calls
  refine ⟨sound.heap.indexed, sound.heap.ordered, sound.heap.stamped, ?_, ?_, sound.closed_eq,
    ?_, sound.updateKey_not_mem, ?_⟩
  · have spent : q.heap.nextSeq ≤ 0 + calls.length := run_nextSeq_le {} calls
    omega
  · intro id flying
    rw [sound.contains_eq, sound.apart id flying]
    rfl
  · intro c
    exact ⟨Heap.run?_eq (q.admitsAll_asks c), q.run_asks c, fun op asked pos => sound.slot_lt asked⟩
  · intro head top
    obtain ⟨e, he, same⟩ := (Heap.peek_eq_some_iff q.heap head).mp top
    exact same ▸ (sound.heap.removeAt he).1

end Queue

namespace Station

variable {ω : Type}

/-- A consumer that runs looks at the queue, if its token still stands. -/
theorem polled_queue (s : Station ω) (before after : List Consumer) (c : Consumer) :
    (s.polled before c after).queue = s.queue ∨
      (s.polled before c after).queue = s.queue.after (.look s.now) := by
  have shown : (s.polled before c after).queue = (s.poll c).1 := by
    unfold polled
    split
    next left => rw [left]
    next left => rw [left]
  rw [shown, poll]
  split
  · exact .inl rfl
  · simp only [Queue.after]
    split
    next looked => exact .inl rfl
    next looked => exact .inr (by rw [looked])
    next looked => exact .inl rfl

/-- Where consumers stand and others call, the queue has gone through some row of calls. -/
theorem Reached.called {s : Station ω} (reached : Reached s) :
    ∃ calls, s.queue = ({} : Queue ω).run calls := by
  induction reached with
  | fresh now => exact ⟨[], rfl⟩
  | @step s s' _ move ih =>
    obtain ⟨calls, same⟩ := ih
    have next (c : Queue.Call ω) {q : Queue ω} (called : q = s.queue.after c) :
        ∃ calls, q = ({} : Queue ω).run calls :=
      ⟨calls ++ [c], by rw [called, same, Queue.run_append]; rfl⟩
    cases move with
    | push t success => exact next (.push t) (by simp only [Queue.after, success]; rfl)
    | upsert t success => exact next (.upsert t) (by simp only [Queue.after, success]; rfl)
    | update id due success => exact next (.update id due) (by simp only [Queue.after, success]; rfl)
    | remove id => exact next (.remove id) rfl
    | requeue t success => exact next (.requeue t) (by simp only [Queue.after, success]; rfl)
    | close => exact next .close rfl
    | join | cancel | pass | stir => exact ⟨calls, same⟩
    | poll _ _ =>
      rcases s.polled_queue _ _ _ with still | looked
      · exact ⟨calls, still.trans same⟩
      · exact next _ looked

end Station

end Vigil
