import Mathlib.Data.List.Perm.Basic
import Vigil.Proofs.Heap.Sift

/-!
# Well-formed heaps

Besides the order, a well-formed heap has an exact index and sequence numbers that are used once.
Sifting only rearranges the entries and keeps the index exact (`Rearranged`), so an operation can
be described by the tasks it adds, drops or re-keys, up to the order of the slots. Which task an id
finds follows from membership (`Indexed.find?_eq_some_iff`).
-/
namespace Vigil.Heap

variable {ω : Type}

/-- The stored tasks, in slot order. -/
def tasks (h : Heap ω) : List (Task ω) := h.slots.toList.map (·.task)

/-- The stored task with this id. -/
def find? (h : Heap ω) (id : String) : Option (Task ω) := (h.position id).bind h.get?

/-- The index records every stored id with its slot, and nothing else. -/
def Indexed (h : Heap ω) : Prop :=
  ∀ id pos, h.position id = some pos ↔ ∃ e, h.slots[pos]? = some e ∧ e.task.id = id

/-- Every sequence number was given out, and to one entry. -/
structure Stamped (h : Heap ω) : Prop where
  below : ∀ e ∈ h.slots.toList, e.seq < h.nextSeq
  distinct : (h.slots.toList.map (·.seq)).Nodup

structure WellFormed (h : Heap ω) : Prop where
  ordered : h.Ordered
  indexed : h.Indexed
  stamped : h.Stamped

theorem wellFormed_empty : ({} : Heap ω).WellFormed := by
  refine ⟨?_, ?_, by simp, by simp⟩
  · intro i _ x y hx _
    simp at hx
  · intro id pos
    simp [position]

/-! ### Rearrangements -/

/-- The same entries in other slots, with the index kept exact. -/
structure Rearranged (h h' : Heap ω) : Prop where
  perm : h'.slots.toList.Perm h.slots.toList
  nextSeq : h'.nextSeq = h.nextSeq
  indexed : h.Indexed → h'.Indexed

theorem Rearranged.rfl (h : Heap ω) : h.Rearranged h := ⟨.rfl, Eq.refl _, id⟩

theorem Rearranged.trans {a b c : Heap ω} (first : a.Rearranged b) (second : b.Rearranged c) :
    a.Rearranged c :=
  ⟨second.perm.trans first.perm, second.nextSeq.trans first.nextSeq,
    fun exact_ => second.indexed (first.indexed exact_)⟩

theorem position_reindex (h : Heap ω) (pos : Nat) (id : String) :
    (h.reindex pos).position id =
      if (h.slots[pos]?.map (·.task.id)) = some id then some pos else h.position id := by
  simp only [reindex]
  split
  next e he => simp [position, Std.ExtTreeMap.getElem?_insert, he]
  next absent => simp [absent]

theorem reindex_nextSeq (h : Heap ω) (pos : Nat) : (h.reindex pos).nextSeq = h.nextSeq := by
  simp only [reindex]
  split <;> rfl

theorem rearranged_swap (h : Heap ω) {a b : Nat} (ha : a < h.slots.size)
    (hb : b < h.slots.size) : h.Rearranged (h.swap a b) := by
  refine ⟨?_, ?_, ?_⟩
  · rw [swap_slots, Array.swapIfInBounds_def, dif_pos ha, dif_pos hb]
    exact (Array.swap_perm ha hb).toList
  · simp only [swap, reindex_nextSeq]
  · intro indexed id pos
    have get := swap_slots_get h ha hb
    obtain ⟨x, hx⟩ : ∃ x, h.slots[a]? = some x := ⟨_, Array.getElem?_eq_getElem ha⟩
    obtain ⟨y, hy⟩ : ∃ y, h.slots[b]? = some y := ⟨_, Array.getElem?_eq_getElem hb⟩
    have atA := (indexed x.task.id a).mpr ⟨x, hx, rfl⟩
    have atB := (indexed y.task.id b).mpr ⟨y, hy, rfl⟩
    have moved : (h.swap a b).position id =
        if x.task.id = id then some b else if y.task.id = id then some a else h.position id := by
      simp only [swap_slots] at get
      simp only [swap, position_reindex, reindex_slots, get, hx, hy]
      by_cases same : b = a
      · subst same
        rw [hx] at hy
        cases hy
        simp [position]
      · simp [same, position]
    rw [moved, get]
    grind [Indexed]

theorem rearranged_siftUp (h : Heap ω) (pos : Nat) : h.Rearranged (h.siftUp pos).1 := by
  fun_induction siftUp h pos with
  | case1 h => exact .rfl h
  | case2 h pos inner up earlier ih =>
    obtain ⟨x, y, hx, hy, _⟩ := (less_iff h _ _).mp earlier
    exact (rearranged_swap h (Array.getElem?_eq_some_iff.mp hx).1
      (Array.getElem?_eq_some_iff.mp hy).1).trans ih
  | case3 h => exact .rfl h

theorem rearranged_siftDown (h : Heap ω) (pos : Nat) : h.Rearranged (h.siftDown pos).1 := by
  fun_induction siftDown h pos with
  | case1 h pos child later ih =>
    obtain ⟨x, y, hx, hy, _⟩ := (less_iff h _ _).mp later
    exact (rearranged_swap h (Array.getElem?_eq_some_iff.mp hy).1
      (Array.getElem?_eq_some_iff.mp hx).1).trans ih
  | case2 h => exact .rfl h

theorem rearranged_fix (h : Heap ω) (pos : Nat) : h.Rearranged (h.fix pos).1 := by
  rw [fix_eq]
  split
  · exact rearranged_siftUp h pos
  · exact rearranged_siftDown h pos

theorem tasks_perm {h : Heap ω} {entries : List (Entry ω)} (perm : h.slots.toList.Perm entries) :
    h.tasks.Perm (entries.map (·.task)) := perm.map _

/-- A rearrangement that restores the order makes the heap well-formed. -/
theorem Rearranged.wellFormed {h h' : Heap ω} (moved : h.Rearranged h') (ordered : h'.Ordered)
    (indexed : h.Indexed) (stamped : h.Stamped) : h'.WellFormed := by
  refine ⟨ordered, moved.indexed indexed, ?_, ?_⟩
  · intro e member
    rw [moved.nextSeq]
    exact stamped.below e (moved.perm.mem_iff.mp member)
  · exact (moved.perm.map _).nodup_iff.mpr stamped.distinct

/-- Dropping entries keeps the numbers unique. -/
theorem Stamped.drop {h h' : Heap ω} {dropped : List (Entry ω)} (stamped : h.Stamped)
    (kept : h.slots.toList.Perm (dropped ++ h'.slots.toList)) (same : h'.nextSeq = h.nextSeq) :
    h'.Stamped := by
  constructor
  · intro e member
    rw [same]
    exact stamped.below e (kept.mem_iff.mpr (List.mem_append_right _ member))
  · have all := (kept.map (·.seq)).nodup_iff.mp stamped.distinct
    rw [List.map_append] at all
    exact (List.nodup_append.mp all).2.1

/-- A new entry with the next number keeps the numbers unique. -/
theorem Stamped.stamp {h h' : Heap ω} {dropped rest : List (Entry ω)} {e : Entry ω}
    (stamped : h.Stamped) (old : h.slots.toList.Perm (dropped ++ rest))
    (new : h'.slots.toList.Perm (e :: rest)) (number : e.seq = h.nextSeq)
    (next : h'.nextSeq = h.nextSeq + 1) : h'.Stamped := by
  have bound : ∀ x ∈ rest, x.seq < h.nextSeq := fun x member =>
    stamped.below x (old.mem_iff.mpr (List.mem_append_right _ member))
  constructor
  · intro x member
    rw [next]
    rcases List.mem_cons.mp (new.mem_iff.mp member) with rfl | inside
    · omega
    · exact Nat.lt_succ_of_lt (bound x inside)
  · have all := (old.map (·.seq)).nodup_iff.mp stamped.distinct
    rw [List.map_append] at all
    refine (new.map (·.seq)).nodup_iff.mpr
      (List.nodup_cons.mpr ⟨?_, (List.nodup_append.mp all).2.1⟩)
    intro member
    obtain ⟨x, inside, eq⟩ := List.mem_map.mp member
    have same : x.seq = e.seq := eq
    have less := bound x inside
    omega

/-! ### Finding a task by its id -/

theorem mem_tasks_iff (h : Heap ω) (t : Task ω) :
    t ∈ h.tasks ↔ ∃ (pos : Nat) (e : Entry ω), h.slots[pos]? = some e ∧ e.task = t := by
  simp only [tasks, List.mem_map, Array.mem_toList_iff, Array.mem_iff_getElem?]
  constructor
  · rintro ⟨e, ⟨pos, he⟩, same⟩
    exact ⟨pos, e, he, same⟩
  · rintro ⟨pos, e, he, same⟩
    exact ⟨e, ⟨pos, he⟩, same⟩

theorem Indexed.find?_eq_some_iff {h : Heap ω} (indexed : h.Indexed) {id : String} {t : Task ω} :
    h.find? id = some t ↔ t ∈ h.tasks ∧ t.id = id := by
  simp only [find?, get?, Option.bind_eq_some_iff, Option.map_eq_some_iff, mem_tasks_iff]
  constructor
  · rintro ⟨pos, found, e, he, rfl⟩
    obtain ⟨e', he', named⟩ := (indexed id pos).mp found
    rw [he] at he'
    cases he'
    exact ⟨⟨pos, e, he, rfl⟩, named⟩
  · rintro ⟨⟨pos, e, he, rfl⟩, named⟩
    exact ⟨pos, (indexed id pos).mpr ⟨e, he, named⟩, e, he, rfl⟩

theorem Indexed.position_isSome_iff {h : Heap ω} (indexed : h.Indexed) (id : String) :
    (h.position id).isSome ↔ ∃ t ∈ h.tasks, t.id = id := by
  rw [Option.isSome_iff_exists]
  constructor
  · rintro ⟨pos, found⟩
    obtain ⟨e, he, named⟩ := (indexed id pos).mp found
    exact ⟨e.task, (mem_tasks_iff h _).mpr ⟨pos, e, he, rfl⟩, named⟩
  · rintro ⟨t, member, named⟩
    obtain ⟨pos, e, he, rfl⟩ := (mem_tasks_iff h t).mp member
    exact ⟨pos, (indexed id pos).mpr ⟨e, he, named⟩⟩

theorem Indexed.position_eq_none_iff {h : Heap ω} (indexed : h.Indexed) (id : String) :
    h.position id = none ↔ ∀ t ∈ h.tasks, t.id ≠ id := by
  rw [← Option.not_isSome_iff_eq_none, indexed.position_isSome_iff]
  simp

/-- No id is stored twice. -/
theorem Indexed.nodup_ids {h : Heap ω} (indexed : h.Indexed) :
    (h.tasks.map (·.id)).Nodup := by
  rw [List.nodup_iff_pairwise_ne, List.pairwise_iff_getElem]
  intro i j hi hj before same
  simp only [tasks, List.length_map, Array.length_toList] at hi hj
  simp only [tasks, List.getElem_map, Array.getElem_toList] at same
  have atI := (indexed _ i).mpr ⟨_, Array.getElem?_eq_getElem hi, rfl⟩
  have atJ := (indexed _ j).mpr ⟨_, Array.getElem?_eq_getElem hj, same.symm⟩
  rw [atI] at atJ
  cases atJ
  omega

/-- An id finds the first of the stored tasks that has it, in whatever order they are listed. -/
theorem Indexed.find?_eq {h : Heap ω} (indexed : h.Indexed) {listed : List (Task ω)}
    (perm : h.tasks.Perm listed) (id : String) : h.find? id = listed.find? (·.id == id) := by
  cases first : listed.find? (·.id == id) with
  | none =>
    by_contra other
    obtain ⟨t, found⟩ := Option.ne_none_iff_exists'.mp other
    obtain ⟨member, named⟩ := indexed.find?_eq_some_iff.mp found
    have refused := List.find?_eq_none.mp first t (perm.mem_iff.mp member)
    exact refused (by simpa using named)
  | some t =>
    refine indexed.find?_eq_some_iff.mpr ⟨perm.mem_iff.mpr (List.mem_of_find?_eq_some first), ?_⟩
    simpa using List.find?_some first

theorem find?_add {h h' : Heap ω} (before : h.Indexed) (after : h'.Indexed) {t : Task ω}
    (perm : h'.tasks.Perm (t :: h.tasks)) (id : String) :
    h'.find? id = if t.id = id then some t else h.find? id := by
  rw [after.find?_eq perm, before.find?_eq .rfl]
  by_cases here : t.id = id
  · rw [if_pos here, List.find?_cons_of_pos (by simpa using here)]
  · rw [if_neg here, List.find?_cons_of_neg (by simpa using here)]

theorem find?_exchange {h h' : Heap ω} (before : h.Indexed) (after : h'.Indexed)
    {old new : Task ω} {rest : List (Task ω)} (same : new.id = old.id)
    (left : h.tasks.Perm (old :: rest)) (right : h'.tasks.Perm (new :: rest)) (id : String) :
    h'.find? id = if new.id = id then some new else h.find? id := by
  rw [after.find?_eq right, before.find?_eq left]
  by_cases here : new.id = id
  · rw [if_pos here, List.find?_cons_of_pos (by simpa using here)]
  · rw [if_neg here, List.find?_cons_of_neg (by simpa using here),
      List.find?_cons_of_neg (by simpa [same] using here)]

theorem find?_drop {h h' : Heap ω} (before : h.Indexed) (after : h'.Indexed) {t : Task ω}
    (perm : h.tasks.Perm (t :: h'.tasks)) (id : String) :
    h'.find? id = if t.id = id then none else h.find? id := by
  have once := (perm.map (·.id)).nodup_iff.mp before.nodup_ids
  rw [List.map_cons, List.nodup_cons] at once
  rw [before.find?_eq perm, after.find?_eq .rfl]
  by_cases here : t.id = id
  · subst here
    rw [if_pos rfl, List.find?_eq_none]
    intro u member named
    exact once.1 (List.mem_map.mpr ⟨u, member, by simpa using named⟩)
  · rw [if_neg here, List.find?_cons_of_neg (by simpa using here)]

end Vigil.Heap
