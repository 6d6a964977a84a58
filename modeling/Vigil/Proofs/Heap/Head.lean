import Mathlib.Data.List.Nodup
import Vigil.Proofs.Heap.Operations

/-!
# When a keyed entry leads

An entry that was added or re-keyed has the newest key of its heap (`Newest`). It leads exactly if
every other task is due later (`WellFormed.slot_eq_zero_iff`), and if it does not lead, the head is a
task that was there before, so it is due no earlier than the head was.
-/
namespace Vigil.Heap

variable {ω : Type} {h h' : Heap ω} {slot pos : Nat} {e : Entry ω}

/-- The entry stands in the slot, and no key was assigned after its own. -/
structure Newest (h : Heap ω) (slot : Nat) (e : Entry ω) : Prop where
  stored : h.slots[slot]? = some e
  last : h.nextSeq = e.seq + 1

theorem Newest.position_eq (newest : h.Newest slot e) (indexed : h.Indexed) :
    h.position e.task.id = some slot :=
  (indexed _ slot).mpr ⟨e, newest.stored, rfl⟩

theorem Newest.eq_zero_of_root (newest : h.Newest slot e) (indexed : h.Indexed) {root : Entry ω}
    (hroot : h.slots[0]? = some root) (same : root.task.id = e.task.id) : slot = 0 := by
  have there := (indexed e.task.id 0).mpr ⟨root, hroot, same⟩
  rw [newest.position_eq indexed] at there
  exact Option.some.inj there

/-- The newest entry leads only if no other task is due as early. -/
theorem WellFormed.slot_eq_zero_iff (wf : h.WellFormed) (newest : h.Newest slot e) :
    slot = 0 ↔ ∀ u ∈ h.tasks, u.id ≠ e.task.id → e.task.due < u.due := by
  have listed {i : Nat} {x : Entry ω} (hx : h.slots[i]? = some x) : x ∈ h.slots.toList :=
    Array.mem_toList_iff.mpr (Array.mem_of_getElem? hx)
  constructor
  · rintro rfl u member other
    obtain ⟨i, x, hx, rfl⟩ := (mem_tasks_iff h u).mp member
    rcases (Entry.le_iff _ _).mp (wf.ordered.root_le newest.stored hx) with earlier | ⟨_, before⟩
    · exact earlier
    · -- what is due at the same instant has an older key, and would lead
      have older := wf.stamped.below x (listed hx)
      have same : x.seq = e.seq := by
        have last := newest.last
        omega
      have alone := List.inj_on_of_nodup_map wf.stamped.distinct (listed hx)
        (listed newest.stored) same
      exact absurd (congrArg (·.task.id) alone) other
  · intro later
    have bound := (Array.getElem?_eq_some_iff.mp newest.stored).1
    obtain ⟨root, hroot⟩ : ∃ root, h.slots[0]? = some root :=
      ⟨_, Array.getElem?_eq_getElem (by omega)⟩
    refine newest.eq_zero_of_root wf.indexed hroot ?_
    by_contra other
    have behind := later root.task ((mem_tasks_iff h _).mpr ⟨0, root, hroot, rfl⟩) other
    have first := Entry.due_le (wf.ordered.root_le hroot newest.stored)
    omega

/-- If the newest entry does not lead, one that was there before does. -/
theorem WellFormed.headNoEarlier_of_newest (wf : h.WellFormed) (wf' : h'.WellFormed)
    (newest : h'.Newest slot e) (others : ∀ u ∈ h'.tasks, u.id ≠ e.task.id → u ∈ h.tasks)
    (behind : slot ≠ 0) : h.HeadNoEarlier h' := by
  intro new top
  obtain ⟨root, hroot, rfl⟩ := (peek_eq_some_iff h' new).mp top
  have other : root.task.id ≠ e.task.id := fun same =>
    behind (newest.eq_zero_of_root wf'.indexed hroot same)
  have member := others root.task (mem_tasks_of_peek top) other
  obtain ⟨old, before⟩ := exists_peek member
  exact ⟨old, before, wf.peek_due_le before member⟩

theorem newest_insert (h : Heap ω) (t : Task ω) :
    (h.insert t).1.Newest (h.insert t).2 { task := t, seq := h.nextSeq } :=
  ⟨settled_insert h t, insert_nextSeq h t⟩

theorem newest_updateKey (he : h.slots[pos]? = some e) (due : Int) :
    ∃ slot, (h.updateKey pos due).2 = some slot ∧
      (h.updateKey pos due).1.Newest slot { task := e.task.dueAt due, seq := h.nextSeq } := by
  obtain ⟨slot, answer, stored⟩ := settled_updateKey he due
  exact ⟨slot, answer, stored, updateKey_nextSeq h pos due⟩

theorem WellFormed.headNoEarlier_insert (wf : h.WellFormed) {t : Task ω}
    (absent : h.position t.id = none) (behind : (h.insert t).2 ≠ 0) :
    h.HeadNoEarlier (h.insert t).1 := by
  obtain ⟨wf', added⟩ := wf.insert absent
  refine wf.headNoEarlier_of_newest wf' (newest_insert h t) (fun u member other => ?_) behind
  rcases List.mem_cons.mp (added.mem_iff.mp member) with rfl | old
  · exact absurd rfl other
  · exact old

theorem WellFormed.headNoEarlier_updateKey (wf : h.WellFormed) {id : String}
    (found : h.position id = some pos) (due : Int) (behind : (h.updateKey pos due).2 ≠ some 0) :
    h.HeadNoEarlier (h.updateKey pos due).1 := by
  obtain ⟨e, he, -⟩ := (wf.indexed id pos).mp found
  obtain ⟨wf', rest, before, after⟩ := wf.updateKey he due
  obtain ⟨slot, answer, newest⟩ := newest_updateKey he due
  refine wf.headNoEarlier_of_newest wf' newest (fun u member other => ?_) fun root =>
    behind (answer.trans (congrArg some root))
  rcases List.mem_cons.mp (after.mem_iff.mp member) with rfl | old
  · exact absurd rfl other
  · exact before.mem_iff.mpr (List.mem_cons_of_mem _ old)

end Vigil.Heap
