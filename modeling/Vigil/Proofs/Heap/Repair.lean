import Vigil.Proofs.Heap.Access

/-!
# One disturbed slot is repaired

Whatever entry is put into a slot of an ordered heap, `fix` brings the heap back into order by moving
that entry alone, one way or the other, and touches no slot that does not exist (`Repaired`). A heap
is disturbed like this where a task is re-keyed, and where the last entry fills the hole that a
removed one leaves.
-/
namespace Vigil.Heap

variable {ω : Type} {h h' : Heap ω} {pos : Nat}

/-- Another entry stands in slot `pos`, perhaps with entries missing elsewhere, and every id is found
where it stands. -/
structure Disturbed (h h' : Heap ω) (pos : Nat) : Prop where
  stored : pos < h.slots.size
  filled : pos < h'.slots.size
  elsewhere : ∀ (i : Nat) (e : Entry ω), i ≠ pos → h'.slots[i]? = some e → h.slots[i]? = some e
  indexed : h'.Indexed

/-- What `fix` makes of a heap with one disturbed slot. -/
structure Repaired (h : Heap ω) (pos : Nat) : Prop where
  /-- The strict form, which compares and exchanges only slots that exist, gets to its end. -/
  inside : h.fix? pos = some (h.fix pos)
  ordered : (h.fix pos).1.Ordered
  entries : (h.fix pos).1.slots.toList.Perm h.slots.toList
  indexed : (h.fix pos).1.Indexed
  settled : (h.fix pos).1.slots[(h.fix pos).2]? = h.slots[pos]?
  /-- Either nothing moves toward the root, or nothing is tried away from it. -/
  oneWay : h.siftUp pos = (h, pos) ∧ h.fix pos = h.siftDown pos ∨
    (h.siftUp pos).2 < pos ∧ h.fix pos = h.siftUp pos

theorem fix_oneWay (h : Heap ω) (pos : Nat) :
    h.siftUp pos = (h, pos) ∧ h.fix pos = h.siftDown pos ∨
      (h.siftUp pos).2 < pos ∧ h.fix pos = h.siftUp pos := by
  rw [fix_eq]
  by_cases moves : 0 < pos ∧ h.less pos (parent pos) = true
  · right
    have rises : (h.siftUp pos).2 ≤ parent pos := by
      rw [siftUp_eq, if_pos moves]
      exact siftUp_le _ _
    exact ⟨Nat.lt_of_le_of_lt rises (parent_lt moves.1), if_pos moves⟩
  · left
    exact ⟨by rw [siftUp_eq, if_neg moves], if_neg moves⟩

theorem Disturbed.repaired (disturbed : h.Disturbed h' pos) (ordered : h.Ordered) :
    h'.Repaired pos where
  inside := fix?_eq h' disturbed.filled
  ordered := ordered_fix (ordered.around disturbed.stored disturbed.elsewhere)
  entries := (rearranged_fix h' pos).perm
  indexed := (rearranged_fix h' pos).indexed disturbed.indexed
  settled := settled_fix h' pos
  oneWay := fix_oneWay h' pos

variable {e : Entry ω}

/-- A re-keyed task stays where it is until the heap is repaired. -/
theorem Indexed.disturbed_rekeyed (indexed : h.Indexed) (he : h.slots[pos]? = some e) {t : Task ω}
    (same : t.id = e.task.id) : h.Disturbed (h.rekeyed pos t) pos := by
  have bound := (Array.getElem?_eq_some_iff.mp he).1
  refine ⟨bound, ?_, rekeyed_elsewhere he t, indexed.rekeyed he same⟩
  simpa only [Heap.rekeyed, Array.size_setIfInBounds] using bound

/-- The last entry comes to stand in the slot of the removed one. -/
theorem Indexed.disturbed_cut (indexed : h.Indexed) (he : h.slots[pos]? = some e)
    (inner : pos < h.slots.size - 1) : h.Disturbed (h.cut pos) pos := by
  have bound := (Array.getElem?_eq_some_iff.mp he).1
  have size := cut_size he
  exact ⟨bound, by omega, cut_elsewhere he, indexed.cut he⟩

/-- In an ordered heap with an exact index, whatever entry comes to stand in a slot that was taken,
`fix` moves it to where it belongs: toward the root or away from it but never both, with no slot
touched that does not exist. Then the heap is in order again, with the same entries and an exact
index. Re-keying the task of the slot is such a repair, and so is filling the hole that it leaves. -/
theorem disturbed_slot_repaired (ordered : h.Ordered) (indexed : h.Indexed)
    (stored : h.slots[pos]? = some e) :
    (∀ h', h.Disturbed h' pos → h'.Repaired pos) ∧
    (∀ due, let changed := h.rekeyed pos (e.task.dueAt due)
      h.Disturbed changed pos ∧ h.updateKey pos due = ((changed.fix pos).1, some (changed.fix pos).2)) ∧
    (pos < h.slots.size - 1 →
      h.Disturbed (h.cut pos) pos ∧ (h.cut pos).slots[pos]? = h.slots.back? ∧
        h.removeAt pos = (((h.cut pos).fix pos).1, some e.task)) := by
  refine ⟨fun h' disturbed => disturbed.repaired ordered, fun due => ?_, fun inner => ?_⟩
  · exact ⟨indexed.disturbed_rekeyed stored rfl, updateKey_eq h stored due⟩
  · refine ⟨indexed.disturbed_cut stored inner, ?_, ?_⟩
    · rw [cut_get stored inner, if_pos rfl]
    · rw [removeAt_eq h stored, if_pos inner]

/-- Seven tasks, of which the last is due before the one in slot 1. -/
def lopsidedCalls : List (Op Unit) :=
  [(1, "a"), (10, "b"), (2, "c"), (11, "d"), (12, "e"), (3, "f"), (4, "g")].map
    fun (due, id) => .insert { id, due, interval := 1, work := () }

def lopsided : Heap Unit := (({} : Heap Unit).run lopsidedCalls).1

theorem wellFormed_lopsided : lopsided.WellFormed := by
  have admitted : ({} : Heap Unit).admitsAll lopsidedCalls := by decide +kernel
  obtain ⟨_, -, represents⟩ := represents_empty.run admitted
  exact represents.wf

/-- The last task fills a hole below slot 1 and passes that slot on its way up; the first one, once
it is put off, goes all the way down. -/
theorem hole_filled_from_other_branch :
    lopsided.WellFormed ∧ (lopsided.cut 3).Repaired 3 ∧ ((lopsided.cut 3).fix 3).2 = 1 ∧
      (lopsided.removeAt 3).1.tasks.map (·.id) = ["a", "g", "c", "b", "e", "f"] ∧
      (lopsided.updateKey 0 20).2 = some 5 := by
  have wf := wellFormed_lopsided
  obtain ⟨e, he⟩ : ∃ e, lopsided.slots[3]? = some e :=
    ⟨_, Array.getElem?_eq_getElem (by decide +kernel)⟩
  obtain ⟨repaired, -, removed⟩ := disturbed_slot_repaired wf.ordered wf.indexed he
  obtain ⟨disturbed, -, -⟩ := removed (by decide +kernel)
  exact ⟨wf, repaired _ disturbed, by decide +kernel, by decide +kernel, by decide +kernel⟩

end Vigil.Heap
