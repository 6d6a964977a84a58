import Vigil.Proofs.Queue.Removal
import Vigil.Proofs.Scheduler.Runs

/-!
# What a scheduler does to a queue unasked

Between the calls of clients about a queue, its dispatch loop looks at it, and executions that are
over hand their tasks back. That is all that happens to it (`Turned`), whatever is done elsewhere:
jobs in any order, movements of the clock, calls about other queues. A queue that is turned over
knows the ids that it knew, and is as open as it was.
-/
namespace Vigil

variable {ω : Type}

namespace Queue

/-- A look or a hand-back. -/
def Call.Internal : Call ω → Prop
  | .look _ | .requeue _ => True
  | _ => False

/-- The queue `r` comes from `q` by looks and hand-backs. -/
def Turned (q r : Queue ω) : Prop :=
  ∃ calls : List (Call ω), (∀ c ∈ calls, c.Internal) ∧ r = q.run calls

theorem Turned.refl (q : Queue ω) : q.Turned q := ⟨[], List.forall_mem_nil _, rfl⟩

theorem turned_after (q : Queue ω) {c : Call ω} (internal : c.Internal) : q.Turned (q.after c) :=
  ⟨[c], List.forall_mem_singleton.mpr internal, rfl⟩

theorem turned_glance {q rest : Queue ω} {now : Int} {t : Task ω}
    (looked : q.glance now = .taken t rest) : q.Turned rest := by
  have shown : q.after (.look now) = rest := by simp only [after, looked]
  exact shown ▸ q.turned_after (c := .look now) trivial

theorem turned_requeue {q : Queue ω} {t : Task ω} {e : Effect ω Bool}
    (success : q.requeue t = .ok e) : q.Turned e.queue := by
  have shown : q.after (.requeue t) = e.queue := by simp only [after, success, accept]
  exact shown ▸ q.turned_after (c := .requeue t) trivial

theorem turned_takeDue (q : Queue ω) (now : Int) : q.Turned (q.takeDue now).1 := by
  fun_induction Queue.takeDue q now with
  | case1 q looked => exact .refl q
  | case2 q wakeAt looked => exact .refl q
  | case3 q t rest looked after tasks last eq ih =>
    obtain ⟨calls, internal, there⟩ := ih
    rw [eq] at there
    have first : q.after (.look now) = rest := by simp only [Queue.after, looked]
    refine ⟨.look now :: calls, List.forall_mem_cons.mpr ⟨trivial, internal⟩, ?_⟩
    rw [there, ← first]
    rfl

theorem Change.turn {q r : Queue ω} {c : Call ω} (change : q.Change c r) (sound : q.Sound)
    (internal : c.Internal) : r.closed = q.closed ∧ ∀ id, r.Knows id ↔ q.Knows id := by
  cases change with
  | none => exact ⟨rfl, fun id => .rfl⟩
  | @placed _ t open_ free cause =>
    refine ⟨rfl, fun id => (sound.knows_place open_ free id).trans ⟨?_, Or.inr⟩⟩
    rintro (rfl | known)
    · rcases cause with rfl | rfl | ⟨rfl, flying⟩
      · exact internal.elim
      · exact internal.elim
      · exact .inr flying
    · exact known
  | rekeyed _ due found => exact ⟨rfl, sound.knows_rekey due found⟩
  | removed id => exact internal.elim
  | taken _ open_ head => exact ⟨rfl, sound.knows_take open_ head⟩
  | closed => exact internal.elim

theorem Turned.keeps {q r : Queue ω} (turned : q.Turned r) (sound : q.Sound) :
    r.Sound ∧ r.closed = q.closed ∧ ∀ id, r.Knows id ↔ q.Knows id := by
  obtain ⟨calls, internal, rfl⟩ := turned
  induction calls generalizing q with
  | nil => exact ⟨sound, rfl, fun id => .rfl⟩
  | cons c rest ih =>
    obtain ⟨first, others⟩ := List.forall_mem_cons.mp internal
    have change := sound.change c
    obtain ⟨same, known⟩ := change.turn sound first
    obtain ⟨sound', same', known'⟩ := ih (change.sound sound) others
    exact ⟨sound', same'.trans same, fun id => (known' id).trans (known id)⟩

/-- An open queue takes every task, and then knows its id too. -/
theorem Sound.upsert_open {q : Queue ω} (sound : q.Sound) (open_ : q.closed = false) (t : Task ω) :
    ∃ e, q.upsert t = .ok e ∧ e.queue.Sound ∧ e.queue.closed = false ∧
      ∀ id, e.queue.Knows id ↔ t.id = id ∨ q.Knows id := by
  cases added : q.upsert t with
  | error why =>
    unfold upsert at added
    rw [if_neg (by simp [open_])] at added
    split at added <;> cases added
  | ok e =>
    refine ⟨e, rfl, ?_⟩
    obtain ⟨_, ⟨free, rfl⟩ | ⟨pos, found, rfl⟩⟩ := upsert_ok sound added
    · exact ⟨(sound.place open_ free).1, open_, sound.knows_place open_ free⟩
    · obtain ⟨sound', old, there, _⟩ := sound.rekey t.due found
      refine ⟨sound', open_, fun id => ?_⟩
      refine (sound.knows_rekey t.due found id).trans ⟨Or.inr, ?_⟩
      rintro (rfl | known)
      · exact .inl (Option.isSome_of_eq_some there)
      · exact known

end Queue

namespace Scheduler

/-- The queue of this name is still there, turned over. -/
def Turns (name : String) (s s' : Scheduler ω) : Prop :=
  ∀ q, s.queue? name = some q → ∃ r, s'.queue? name = some r ∧ q.Turned r

variable {s s' : Scheduler ω}

theorem turns_of_same {name : String} (same : s'.queue? name = s.queue? name) :
    Turns name s s' := fun q here => ⟨q, same.trans here, .refl q⟩

theorem turns_replace {name at_ : String} {old new : Queue ω} (here : s.queue? at_ = some old)
    (queues : s'.queue? = fun other => if at_ = other then some new else s.queue? other)
    (turned : old.Turned new) : Turns name s s' := by
  intro q found
  rw [queues]
  by_cases same : at_ = name
  · subst same
    rw [here] at found
    cases found
    exact ⟨new, if_pos rfl, turned⟩
  · exact ⟨q, (if_neg same).trans found, .refl q⟩

theorem queue?_putQueue {name : String} {old : Queue ω} (here : s.queue? name = some old)
    (q : Queue ω) (wakes : Bool) :
    (s.putQueue name q wakes).queue? =
      fun other => if name = other then some q else s.queue? other := by
  -- whatever the histories are
  have booked (trail : String → List (Queue.Deed ω)) :
      (s.putQueue name q wakes).books (noted trail name []) = (s.books trail).put name q [] :=
    putQueue_books here q wakes []
  exact congrArg Books.queue? (booked fun _ => [])

/-! ### Jobs -/

theorem turns_reschedule (s : Scheduler ω) (name from_ : String) (t : Task ω) :
    Turns name s (s.reschedule from_ t).1 := by
  unfold reschedule
  split
  next => exact turns_of_same rfl
  next next_ _ =>
    split
    next => exact turns_of_same rfl
    next q here =>
      split
      next => exact turns_of_same rfl
      next e success =>
        exact turns_replace here (queue?_putQueue here _ _) (Queue.turned_requeue success)

theorem turns_dispatch (s : Scheduler ω) (name from_ : String) :
    Turns name s (s.dispatch from_).1 := by
  unfold dispatch
  cases here : s.line? from_ with
  | none => exact turns_of_same rfl
  | some line =>
    have queue : s.queue? from_ = some line.queue := by rw [queue?, here]; rfl
    have ended : (s.modifyLine from_ fun l => { l with loop := .ended }).queue? = s.queue? :=
      queue?_modifyLine s from_ (f := fun l => { l with loop := .ended }) (fun _ => rfl)
        (fun _ => rfl)
    have left := turns_of_same (congrFun ended name)
    by_cases stopping : s.stopping = true
    · simpa only [stopping, ↓reduceIte] using left
    · simp only [stopping, Bool.false_eq_true, ↓reduceIte]
      split
      next => exact left
      next q tasks wakeAt took =>
        have turned := line.queue.turned_takeDue s.now
        rw [took] at turned
        exact turns_replace queue
          (queue?_replaceQueue here (f := fun l => { l with queue := q, loop := .blocked wakeAt })
            (fun _ => rfl) (fun _ => rfl)) turned

theorem turns_takeOne {name from_ : String} {t : Task ω} (took : s.takeOne? from_ = some (s', t)) :
    Turns name s s' := by
  unfold takeOne? at took
  split at took
  · cases took
  next line here =>
    split at took
    · cases took
    · split at took
      next task rest looked =>
        cases took
        have queue : s.queue? from_ = some line.queue := by rw [queue?, here]; rfl
        exact turns_replace queue
          (queue?_replaceQueue here (f := fun l => { l with queue := rest }) (fun _ => rfl)
            (fun _ => rfl)) (Queue.turned_glance looked)
      next => cases took

theorem turns_perform (plan : Task ω → Execution) (s : Scheduler ω) (job : Job ω) (name : String) :
    Turns name s (s.perform plan job).1 := by
  cases job with
  | dispatch from_ => exact turns_dispatch s name from_
  | retire | release => exact turns_of_same rfl
  | finish r => exact turns_reschedule s name r.queue r.task
  | expire r => exact turns_reschedule { s with ready := s.ready ++ [.release r] } name r.queue r.task
  | start from_ ticket t =>
    simp only [perform, start]
    split
    next => exact turns_reschedule s name from_ t
    next =>
      split
      next => exact turns_reschedule { s with ready := s.ready ++ [.release _] } name from_ t
      next => exact turns_of_same rfl

/-! ### The clock, and calls about other queues -/

theorem queue?_reach (s : Scheduler ω) (now : Int) : (s.reach now).queue? = s.queue? :=
  congrArg Books.queue? (reach_books s now fun _ => [])

theorem queue?_cancel (s : Scheduler ω) : s.cancel.queue? = s.queue? :=
  congrArg Books.queue? (cancel_books s fun _ => [])

theorem queue?_serve_of_ne (s : Scheduler ω) {name other : String} (different : other ≠ name)
    (call : Call ω) : (s.serve other call).queue? name = s.queue? name := by
  have put : ∀ {old : Queue ω}, s.queue? other = some old → ∀ q wakes,
      (s.putQueue other q wakes).queue? name = s.queue? name := by
    intro old here q wakes
    rw [queue?_putQueue here]
    exact if_neg different
  cases call with
  | addQueue =>
    simp only [serve]
    cases added : (s.addQueue other).answer with
    | true =>
      have grown := congrArg Books.queue? (addQueue_books s other (fun _ => []) added)
      exact (congrFun grown name).trans (if_neg different)
    | false =>
      unfold addQueue at added ⊢
      split
      next => rfl
      next free => simp [free] at added
  | removeQueue =>
    simp only [serve, removeQueue]
    split
    next => rfl
    next line here =>
      have named : line.name = other := by simpa using List.find?_some here
      have left := congrArg Books.queue? (detach_books s line fun _ => [])
      exact (congrFun left name).trans (if_neg (named ▸ different))
  | closeQueue =>
    simp only [serve, closeQueue]
    split
    next => rfl
    next here => exact put here _ _
  | register t =>
    simp only [serve, register]
    split
    next => rfl
    next here => split <;> [rfl; exact put here _ _]
  | update t =>
    simp only [serve, update]
    split
    next => rfl
    next here => split <;> exact put here _ _
  | remove id =>
    simp only [serve, remove]
    split
    next => rfl
    next here => exact put here _ _
  | push t =>
    simp only [serve, push]
    split
    next => rfl
    next here => split <;> [rfl; exact put here _ _]

/-! ### Calls about an open queue -/

section

variable {name : String} {q : Queue ω}

theorem register_open (here : s.queue? name = some q) (sound : q.Sound) (open_ : q.closed = false)
    (t : Task ω) :
    (s.register name t).answer = .ok () ∧
      ∃ r, (s.register name t).scheduler.queue? name = some r ∧ r.Sound ∧ r.closed = false ∧
        ∀ id, r.Knows id ↔ t.id = id ∨ q.Knows id := by
  obtain ⟨e, success, rest⟩ := sound.upsert_open open_ t
  simp only [register, here, success]
  refine ⟨trivial, e.queue, ?_, rest⟩
  rw [queue?_putQueue here]
  exact if_pos rfl

theorem remove_open (here : s.queue? name = some q) (sound : q.Sound) (open_ : q.closed = false)
    (id : String) :
    ∃ r, (s.remove name id).scheduler.queue? name = some r ∧ r.Sound ∧ r.closed = false ∧
      ∀ other, r.Knows other ↔ id ≠ other ∧ q.Knows other := by
  have without := sound.remove id
  refine ⟨(q.remove id).1, ?_, without.sound, without.closed.trans open_, without.knows⟩
  simp only [remove, here]
  rw [queue?_putQueue here]
  exact if_pos rfl

/-- An id that the queue does not know can be pushed. -/
theorem push_open (here : s.queue? name = some q) (sound : q.Sound) (open_ : q.closed = false)
    {t : Task ω} (unknown : ¬ q.Knows t.id) :
    ∃ e, q.push t = .ok e ∧
      ∃ r, (s.push name t).queue? name = some r ∧ r.Sound ∧ r.closed = false ∧
        ∀ id, r.Knows id ↔ t.id = id ∨ q.Knows id := by
  have free := ((Queue.not_knows_iff q t.id).mp unknown).1
  have success := sound.push_free open_ free
  refine ⟨_, success, q.place t, ?_, (sound.place open_ free).1, open_,
    sound.knows_place open_ free⟩
  simp only [push, here, success]
  rw [queue?_putQueue here]
  exact if_pos rfl

end

end Scheduler

end Vigil
