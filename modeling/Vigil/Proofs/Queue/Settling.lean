import Vigil.Proofs.Heap.Head
import Vigil.Queue

/-!
# What the slot of a keyed task tells

A task that is added or re-keyed stands in the slot that is answered, and that slot is the root's
exactly if every other task is due later. So where the slot is another one, the head is due no
earlier than it was. Producers need no more than that to decide whom to wake, and no more of the
queue than that its heap is well-formed.
-/
namespace Vigil.Queue

variable {ω α : Type} {q : Queue ω} {t : Task ω}

/-- If nobody is woken, nobody's deadline for the head has become too late. -/
def Effect.Sparing (e : Effect ω α) (q : Queue ω) : Prop :=
  e.wakes = false → q.heap.HeadNoEarlier e.queue.heap

theorem sparing_insert (wf : q.heap.WellFormed) (absent : q.heap.position t.id = none)
    {inFlight : Std.ExtTreeSet String} (answer : α) :
    (⟨{ q with heap := (q.heap.insert t).1, inFlight }, answer, (q.heap.insert t).2 == 0⟩ :
      Effect ω α).Sparing q :=
  fun quiet => wf.headNoEarlier_insert absent (by simpa using quiet)

theorem sparing_updateKey (wf : q.heap.WellFormed) {id : String} {pos : Nat}
    (found : q.heap.position id = some pos) {due : Int} {inFlight : Std.ExtTreeSet String}
    {wakes : Bool} (heeded : (q.heap.updateKey pos due).2 = some 0 → wakes = true) (answer : α) :
    (⟨{ q with heap := (q.heap.updateKey pos due).1, inFlight }, answer, wakes⟩ :
      Effect ω α).Sparing q := by
  intro quiet
  refine wf.headNoEarlier_updateKey found due fun root => ?_
  exact Bool.false_ne_true (quiet.symm.trans (heeded root))

theorem sparing_push (wf : q.heap.WellFormed) {e : Effect ω Unit} (success : q.push t = .ok e) :
    e.Sparing q := by
  unfold push at success
  split at success
  · cases success
  · split at success
    · cases success
    next absent =>
      cases success
      exact sparing_insert wf (by simpa [contains] using absent) ()

theorem sparing_upsert (wf : q.heap.WellFormed) {e : Effect ω Bool}
    (success : q.upsert t = .ok e) : e.Sparing q := by
  unfold upsert at success
  split at success
  · cases success
  · split at success
    next pos found =>
      cases success
      have heeded : (q.heap.updateKey pos t.due).2 = some 0 →
          (pos == 0 || (q.heap.updateKey pos t.due).2 == some 0) = true := fun root => by simp [root]
      exact sparing_updateKey wf found heeded false
    next absent =>
      cases success
      exact sparing_insert wf absent true

theorem sparing_update (wf : q.heap.WellFormed) {id : String} {due : Int} {e : Effect ω Unit}
    (success : q.update id due = .ok e) : e.Sparing q := by
  unfold update at success
  split at success
  · cases success
  · split at success
    · cases success
    next pos found =>
      cases success
      have heeded : (q.heap.updateKey pos due).2 = some 0 →
          (pos == 0 || (q.heap.updateKey pos due).2 == some 0) = true := fun root => by simp [root]
      exact sparing_updateKey wf found heeded ()

theorem sparing_requeue (wf : q.heap.WellFormed) {e : Effect ω Bool}
    (success : q.requeue t = .ok e) : e.Sparing q := by
  unfold requeue at success
  split at success
  · cases success
  · split at success
    · cases success
      exact fun _ => .of_root rfl
    · split at success
      next pos found =>
        cases success
        have heeded : (q.heap.updateKey pos t.due).2 = some 0 →
            ((q.heap.updateKey pos t.due).2.getD pos == 0) = true := fun root => by simp [root]
        exact sparing_updateKey wf found heeded true
      next absent =>
        cases success
        exact sparing_insert wf absent true

/-- In a well-formed heap, a task that is added or re-keyed is found in the slot that is answered,
and this is slot 0 exactly if all other tasks are due strictly later, so that a tie leaves the older
one ahead. If an operation of a queue with such a heap wakes nobody, its head is due no earlier than
before. -/
theorem answered_slot {h : Heap ω} (wf : h.WellFormed) :
    (∀ t, h.position t.id = none →
      let added := h.insert t
      added.1.position t.id = some added.2 ∧
        (added.2 = 0 ↔ ∀ u ∈ added.1.tasks, u.id ≠ t.id → t.due < u.due)) ∧
    (∀ pos t due, h.get? pos = some t →
      let moved := h.updateKey pos due
      ∃ slot, moved.2 = some slot ∧ moved.1.position t.id = some slot ∧
        (slot = 0 ↔ ∀ u ∈ moved.1.tasks, u.id ≠ t.id → due < u.due)) ∧
    ∀ q : Queue ω, q.heap = h →
      (∀ t e, q.push t = .ok e → e.Sparing q) ∧ (∀ t e, q.upsert t = .ok e → e.Sparing q) ∧
        (∀ id due e, q.update id due = .ok e → e.Sparing q) ∧
          ∀ t e, q.requeue t = .ok e → e.Sparing q := by
  refine ⟨fun t absent => ?_, fun pos t due there => ?_, ?_⟩
  · have newest := Heap.newest_insert h t
    have wf' := (wf.insert absent).1
    exact ⟨newest.position_eq wf'.indexed, wf'.slot_eq_zero_iff newest⟩
  · obtain ⟨e, he, rfl⟩ := Option.map_eq_some_iff.mp there
    obtain ⟨slot, answer, newest⟩ := Heap.newest_updateKey he due
    have wf' := (wf.updateKey he due).1
    exact ⟨slot, answer, newest.position_eq wf'.indexed, wf'.slot_eq_zero_iff newest⟩
  · rintro q rfl
    exact ⟨fun _ _ => sparing_push wf, fun _ _ => sparing_upsert wf,
      fun _ _ _ => sparing_update wf, fun _ _ => sparing_requeue wf⟩

def taskDueAt (id : String) (due : Int) : Task Unit := { id, due, interval := 1, work := () }

/-- Two tasks, of which the first is due at 5. -/
def pairDue : Heap Unit :=
  ((({} : Heap Unit).insert (taskDueAt "a" 5)).1.insert (taskDueAt "b" 9)).1

/-- A third task that is due at 5 goes behind the first, and so does the second one if it is brought
forward that far; nobody is woken then, for the head stays. One instant earlier it is the head. -/
theorem tied_task_stays_behind :
    pairDue.WellFormed ∧ (pairDue.insert (taskDueAt "c" 5)).2 ≠ 0 ∧
      (pairDue.updateKey 1 5).2 ≠ some 0 ∧ (pairDue.updateKey 1 4).1.position "b" = some 0 ∧
      ∃ e, ({ heap := pairDue } : Queue Unit).update "b" 5 = .ok e ∧ e.wakes = false ∧
        pairDue.HeadNoEarlier e.queue.heap := by
  have wf : pairDue.WellFormed :=
    ((Heap.wellFormed_empty.insert (by decide +kernel)).1.insert (by decide +kernel)).1
  obtain ⟨added, moved, calls⟩ := answered_slot wf
  refine ⟨wf, fun root => ?_, fun root => ?_, ?_, ?_⟩
  · have later := (added (taskDueAt "c" 5) (by decide +kernel)).2.mp root
    exact absurd (later (taskDueAt "a" 5) (by decide +kernel) (by decide)) (by decide)
  · obtain ⟨slot, answer, -, leads⟩ := moved 1 (taskDueAt "b" 9) 5 (by decide +kernel)
    rw [answer] at root
    have later := leads.mp (Option.some.inj root)
    exact absurd (later (taskDueAt "a" 5) (by decide +kernel) (by decide)) (by decide)
  · obtain ⟨slot, answer, there, leads⟩ := moved 1 (taskDueAt "b" 9) 4 (by decide +kernel)
    have only : ∀ u ∈ (pairDue.updateKey 1 4).1.tasks, u.id ≠ "b" → 4 < u.due := by decide +kernel
    rw [leads.mpr only] at there
    exact there
  · have quiet : (({ heap := pairDue } : Queue Unit).update "b" 5).toOption.map (·.wakes) =
        some false := by decide +kernel
    cases updated : ({ heap := pairDue } : Queue Unit).update "b" 5 with
    | error why =>
      rw [updated] at quiet
      cases quiet
    | ok e =>
      rw [updated] at quiet
      have wakes : e.wakes = false := Option.some.inj quiet
      exact ⟨e, rfl, wakes, (calls { heap := pairDue } rfl).2.2.1 "b" 5 e updated wakes⟩

end Vigil.Queue
