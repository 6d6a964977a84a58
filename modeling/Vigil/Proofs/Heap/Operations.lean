import Vigil.Proofs.Heap.WellFormed

/-!
# What the operations of a heap do to its contents

On a well-formed heap `insert` adds one task, `removeAt` takes the task of its slot out and
`updateKey` re-keys it; the other tasks stay and the heap stays well-formed. The slot an operation
answers is where its task stands afterwards (`settled_insert`, `settled_updateKey`).
-/
namespace Vigil.Heap

variable {ω : Type}

/-! ### Insertion -/

/-- The heap right after a task was appended, before it is sifted up. -/
def pushed (h : Heap ω) (t : Task ω) : Heap ω :=
  { slots := h.slots.push { task := t, seq := h.nextSeq }
    index := h.index.insert t.id h.slots.size
    nextSeq := h.nextSeq + 1 }

theorem insert_eq (h : Heap ω) (t : Task ω) : h.insert t = (h.pushed t).siftUp h.slots.size := rfl

theorem pushed_get_of_ne (h : Heap ω) (t : Task ω) {i : Nat} (other : i ≠ h.slots.size) :
    (h.pushed t).slots[i]? = h.slots[i]? := by
  rw [pushed, Array.getElem?_push, if_neg other]

theorem Ordered.insert {h : Heap ω} (ordered : h.Ordered) (t : Task ω) :
    (h.insert t).1.Ordered := by
  -- a slot past the last one has no children
  have leaf : ∀ i, 0 < i → parent i = h.slots.size → (h.pushed t).slots[i]? = none := by
    intro i inner child
    have rise := parent_lt inner
    simp only [pushed, Array.getElem?_eq_none_iff, Array.size_push]
    omega
  rw [insert_eq]
  refine ordered_siftUp ⟨?_, ?_⟩ ?_
  · intro i inner here above x y hx hy
    rw [pushed_get_of_ne h t above] at hx
    rw [pushed_get_of_ne h t here] at hy
    exact ordered i inner x y hx hy
  · intro _ i inner child x y _ hy
    rw [leaf i inner child] at hy
    cases hy
  · intro i inner child x y _ hy
    rw [leaf i inner child] at hy
    cases hy

theorem Indexed.pushed {h : Heap ω} (indexed : h.Indexed) {t : Task ω}
    (absent : h.position t.id = none) : (h.pushed t).Indexed := by
  intro id pos
  have before := indexed id pos
  have free := (indexed.position_eq_none_iff t.id).mp absent
  have found : (h.pushed t).position id =
      if t.id = id then some h.slots.size else h.position id := by
    simp [position, Heap.pushed, Std.ExtTreeMap.getElem?_insert]
  rw [found]
  by_cases last : pos = h.slots.size
  · subst last
    have old : h.slots[h.slots.size]? = none := by simp
    simp only [old, reduceCtorEq, false_and, exists_false, iff_false] at before
    simp only [Heap.pushed, Array.getElem?_push, ↓reduceIte, Option.some.injEq, exists_eq_left']
    constructor
    · intro here
      by_contra other
      rw [if_neg other] at here
      exact before here
    · intro same
      rw [if_pos same]
  · rw [pushed_get_of_ne h t last, ← before]
    by_cases same : t.id = id
    · subst same
      simp [absent, Ne.symm last]
    · rw [if_neg same]

theorem pushed_perm (h : Heap ω) (t : Task ω) :
    (h.pushed t).slots.toList.Perm ({ task := t, seq := h.nextSeq } :: h.slots.toList) := by
  rw [pushed, Array.toList_push]
  exact List.perm_append_singleton _ _

theorem insert_perm (h : Heap ω) (t : Task ω) :
    (h.insert t).1.slots.toList.Perm ({ task := t, seq := h.nextSeq } :: h.slots.toList) :=
  (rearranged_siftUp (h.pushed t) h.slots.size).perm.trans (pushed_perm h t)

theorem WellFormed.insert {h : Heap ω} (wf : h.WellFormed) {t : Task ω}
    (absent : h.position t.id = none) :
    (h.insert t).1.WellFormed ∧ (h.insert t).1.tasks.Perm (t :: h.tasks) := by
  have moved : (h.pushed t).Rearranged (h.insert t).1 := rearranged_siftUp _ _
  have all : h.slots.toList.Perm ([] ++ h.slots.toList) := .rfl
  have stamped : (h.pushed t).Stamped := wf.stamped.stamp all (pushed_perm h t) rfl rfl
  exact ⟨moved.wellFormed (wf.ordered.insert t) (wf.indexed.pushed absent) stamped,
    tasks_perm (insert_perm h t)⟩

/-! ### Re-keying -/

/-- The heap right after an entry was re-keyed, before it is moved. -/
def rekeyed (h : Heap ω) (pos : Nat) (t : Task ω) : Heap ω :=
  { h with
    slots := h.slots.setIfInBounds pos { task := t, seq := h.nextSeq }
    nextSeq := h.nextSeq + 1 }

theorem updateKey_eq (h : Heap ω) {pos : Nat} {e : Entry ω} (he : h.slots[pos]? = some e)
    (due : Int) :
    h.updateKey pos due =
      (((h.rekeyed pos (e.task.dueAt due)).fix pos).1,
        some ((h.rekeyed pos (e.task.dueAt due)).fix pos).2) := by
  simp only [updateKey, he, rekeyed]

theorem rekeyed_get (h : Heap ω) {pos : Nat} (t : Task ω) (bound : pos < h.slots.size) (i : Nat) :
    (h.rekeyed pos t).slots[i]? =
      if i = pos then some { task := t, seq := h.nextSeq } else h.slots[i]? := by
  simp only [rekeyed, Array.getElem?_setIfInBounds]
  grind

/-- What stands in another slot than the re-keyed one was there before. -/
theorem rekeyed_elsewhere {h : Heap ω} {pos : Nat} {e : Entry ω} (he : h.slots[pos]? = some e)
    (t : Task ω) (i : Nat) (x : Entry ω) (other : i ≠ pos)
    (hx : (h.rekeyed pos t).slots[i]? = some x) : h.slots[i]? = some x := by
  rwa [rekeyed_get h t (Array.getElem?_eq_some_iff.mp he).1, if_neg other] at hx

theorem Indexed.rekeyed {h : Heap ω} (indexed : h.Indexed) {pos : Nat} {e : Entry ω}
    (he : h.slots[pos]? = some e) {t : Task ω} (same : t.id = e.task.id) :
    (h.rekeyed pos t).Indexed := by
  intro id i
  have before := indexed id i
  rw [rekeyed_get h t (Array.getElem?_eq_some_iff.mp he).1]
  refine before.trans ?_
  by_cases here : i = pos
  · subst here
    simp [he, same]
  · rw [if_neg here]

theorem rekeyed_perm {h : Heap ω} {pos : Nat} {e : Entry ω} (he : h.slots[pos]? = some e)
    (t : Task ω) :
    h.slots.toList.Perm (e :: h.slots.toList.eraseIdx pos) ∧
      (h.rekeyed pos t).slots.toList.Perm
        ({ task := t, seq := h.nextSeq } :: h.slots.toList.eraseIdx pos) := by
  obtain ⟨bound, entry⟩ := Array.getElem?_eq_some_iff.mp he
  constructor
  · have split := List.getElem_cons_eraseIdx_perm (l := h.slots.toList) (n := pos) bound
    rw [Array.getElem_toList, entry] at split
    exact split.symm
  · simp only [rekeyed, Array.toList_setIfInBounds]
    exact List.set_perm_cons_eraseIdx (l := h.slots.toList) (n := pos) bound _

theorem updateKey_perm {h : Heap ω} {pos : Nat} {e : Entry ω} (he : h.slots[pos]? = some e)
    (due : Int) :
    ∃ rest, h.slots.toList.Perm (e :: rest) ∧
      (h.updateKey pos due).1.slots.toList.Perm
        ({ task := e.task.dueAt due, seq := h.nextSeq } :: rest) := by
  obtain ⟨old, new⟩ := rekeyed_perm he (e.task.dueAt due)
  rw [updateKey_eq h he]
  exact ⟨_, old, (rearranged_fix (h.rekeyed pos (e.task.dueAt due)) pos).perm.trans new⟩

theorem WellFormed.updateKey {h : Heap ω} (wf : h.WellFormed) {pos : Nat} {e : Entry ω}
    (he : h.slots[pos]? = some e) (due : Int) :
    (h.updateKey pos due).1.WellFormed ∧
      ∃ rest, h.tasks.Perm (e.task :: rest) ∧
        (h.updateKey pos due).1.tasks.Perm (e.task.dueAt due :: rest) := by
  have bound := (Array.getElem?_eq_some_iff.mp he).1
  let changed := h.rekeyed pos (e.task.dueAt due)
  have moved : changed.Rearranged (changed.fix pos).1 := rearranged_fix _ _
  obtain ⟨old, new⟩ := rekeyed_perm he (e.task.dueAt due)
  have around : changed.OrderedAround pos :=
    wf.ordered.around bound (rekeyed_elsewhere he (e.task.dueAt due))
  have all : h.slots.toList.Perm ([e] ++ h.slots.toList.eraseIdx pos) := old
  have stamped : changed.Stamped := wf.stamped.stamp all new rfl rfl
  obtain ⟨rest, left, right⟩ := updateKey_perm he due
  refine ⟨?_, rest.map Entry.task, tasks_perm left, tasks_perm right⟩
  rw [updateKey_eq h he]
  exact moved.wellFormed (ordered_fix around) (wf.indexed.rekeyed he rfl) stamped

/-! ### Removal -/

theorem position_erase (h : Heap ω) (e : Entry ω) (id : String) :
    ({ h with slots := h.slots.pop, index := h.index.erase e.task.id } : Heap ω).position id =
      if e.task.id = id then none else h.position id := by
  simp [position, Std.ExtTreeMap.getElem?_erase]

/-- Dropping the last slot takes its entry out and leaves the other slots alone. -/
theorem dropLast_spec {h : Heap ω} {e : Entry ω} (last : h.slots.back? = some e) :
    (∀ (i : Nat) (x : Entry ω), h.dropLast.slots[i]? = some x → h.slots[i]? = some x) ∧
      h.slots.toList.Perm ([e] ++ h.dropLast.slots.toList) ∧
      h.dropLast.nextSeq = h.nextSeq ∧ (h.Indexed → h.dropLast.Indexed) := by
  have shape : h.dropLast =
      { h with slots := h.slots.pop, index := h.index.erase e.task.id } := by
    simp only [dropLast, last]
  have split : h.slots.pop.toList ++ [e] = h.slots.toList := by
    rw [Array.toList_pop]
    rw [← Array.getLast?_toList] at last
    exact List.dropLast_append_getLast? e last
  rw [Array.back?_eq_getElem?] at last
  have pop : ∀ i, h.slots.pop[i]? = if i = h.slots.size - 1 then none else h.slots[i]? := by
    intro i
    rw [Array.getElem?_pop]
    grind
  rw [shape]
  refine ⟨?_, ?_, rfl, ?_⟩
  · intro i x hx
    simp only [pop] at hx
    split at hx
    · cases hx
    · exact hx
  · rw [← split]
    exact List.perm_append_comm
  · intro indexed id pos
    rw [position_erase]
    simp only [pop]
    have there := (indexed e.task.id (h.slots.size - 1)).mpr ⟨e, last, rfl⟩
    have before := indexed id pos
    by_cases here : pos = h.slots.size - 1
    · subst here
      simp only [↓reduceIte, reduceCtorEq, false_and, exists_false, iff_false]
      intro found
      split at found
      · cases found
      next other =>
        obtain ⟨x, hx, named⟩ := before.mp found
        rw [last] at hx
        cases hx
        exact other named
    · rw [if_neg here, ← before]
      by_cases same : e.task.id = id
      · subst same
        simp [there, Ne.symm here]
      · rw [if_neg same]

/-- The heap right after the entry in `pos` was exchanged for the last one and dropped. -/
def cut (h : Heap ω) (pos : Nat) : Heap ω :=
  (if pos = h.slots.size - 1 then h else h.swap pos (h.slots.size - 1)).dropLast

theorem removeAt_eq (h : Heap ω) {pos : Nat} {e : Entry ω} (he : h.slots[pos]? = some e) :
    h.removeAt pos =
      (if pos < h.slots.size - 1 then ((h.cut pos).fix pos).1 else h.cut pos, some e.task) := by
  simp only [removeAt, he, cut]

theorem removeAt_missing {h : Heap ω} {pos : Nat} (missing : h.slots[pos]? = none) :
    h.removeAt pos = (h, none) := by
  simp only [removeAt, missing]

/-- The exchange before the cut puts the entry that is to go into the last slot. -/
theorem swap_last_spec {h : Heap ω} {pos : Nat} {e : Entry ω} (he : h.slots[pos]? = some e) :
    let h' := if pos = h.slots.size - 1 then h else h.swap pos (h.slots.size - 1)
    h.Rearranged h' ∧ h'.slots.back? = some e ∧
      ∀ i < h.slots.size - 1, h'.slots[i]? = if i = pos then h.slots.back? else h.slots[i]? := by
  have bound := (Array.getElem?_eq_some_iff.mp he).1
  have lastIn : h.slots.size - 1 < h.slots.size := by omega
  intro h'
  simp only [h', Array.back?_eq_getElem?]
  split
  next last =>
    refine ⟨.rfl h, last ▸ he, fun i inner => ?_⟩
    rw [if_neg (by omega)]
  next inner =>
    have get := swap_slots_get h bound lastIn
    have same : (h.swap pos (h.slots.size - 1)).slots.size = h.slots.size := by simp
    refine ⟨rearranged_swap h bound lastIn, ?_, fun i before => ?_⟩
    · rw [same, get, if_neg (Ne.symm inner), if_pos rfl]
      exact he
    · rw [get, if_neg (Nat.ne_of_lt before)]

theorem cut_perm {h : Heap ω} {pos : Nat} {e : Entry ω} (he : h.slots[pos]? = some e) :
    h.slots.toList.Perm (e :: (h.cut pos).slots.toList) := by
  obtain ⟨exchanged, last, _⟩ := swap_last_spec he
  exact exchanged.perm.symm.trans (dropLast_spec last).2.1

theorem cut_nextSeq {h : Heap ω} {pos : Nat} {e : Entry ω} (he : h.slots[pos]? = some e) :
    (h.cut pos).nextSeq = h.nextSeq := by
  obtain ⟨exchanged, last, _⟩ := swap_last_spec he
  exact (dropLast_spec last).2.2.1.trans exchanged.nextSeq

theorem Indexed.cut {h : Heap ω} (indexed : h.Indexed) {pos : Nat} {e : Entry ω}
    (he : h.slots[pos]? = some e) : (h.cut pos).Indexed := by
  obtain ⟨exchanged, last, _⟩ := swap_last_spec he
  exact (dropLast_spec last).2.2.2 (exchanged.indexed indexed)

theorem cut_size {h : Heap ω} {pos : Nat} {e : Entry ω} (he : h.slots[pos]? = some e) :
    (h.cut pos).slots.size = h.slots.size - 1 := by
  have shorter := (cut_perm he).length_eq
  simp only [Array.length_toList, List.length_cons] at shorter
  omega

/-- The cut leaves every slot but the last, and puts what was there into the one it cuts. -/
theorem cut_get {h : Heap ω} {pos : Nat} {e : Entry ω} (he : h.slots[pos]? = some e) {i : Nat}
    (inner : i < h.slots.size - 1) :
    (h.cut pos).slots[i]? = if i = pos then h.slots.back? else h.slots[i]? := by
  have size := cut_size he
  obtain ⟨_, last, exchanged⟩ := swap_last_spec he
  obtain ⟨x, hx⟩ : ∃ x, (h.cut pos).slots[i]? = some x :=
    ⟨_, Array.getElem?_eq_getElem (by omega)⟩
  rw [← exchanged i inner, hx]
  exact ((dropLast_spec last).1 i x hx).symm

theorem cut_elsewhere {h : Heap ω} {pos : Nat} {e : Entry ω} (he : h.slots[pos]? = some e)
    (i : Nat) (x : Entry ω) (other : i ≠ pos) (hx : (h.cut pos).slots[i]? = some x) :
    h.slots[i]? = some x := by
  have size := cut_size he
  have inside := (Array.getElem?_eq_some_iff.mp hx).1
  rwa [cut_get he (by omega), if_neg other] at hx

theorem removeAt_perm {h : Heap ω} {pos : Nat} {e : Entry ω} (he : h.slots[pos]? = some e) :
    h.slots.toList.Perm (e :: (h.removeAt pos).1.slots.toList) := by
  rw [removeAt_eq h he]
  split
  next inner =>
    exact (cut_perm he).trans ((rearranged_fix (h.cut pos) pos).perm.symm.cons e)
  next outer => exact cut_perm he

theorem WellFormed.removeAt {h : Heap ω} (wf : h.WellFormed) {pos : Nat} {e : Entry ω}
    (he : h.slots[pos]? = some e) :
    (h.removeAt pos).2 = some e.task ∧ (h.removeAt pos).1.WellFormed ∧
      h.tasks.Perm (e.task :: (h.removeAt pos).1.tasks) := by
  have bound := (Array.getElem?_eq_some_iff.mp he).1
  have all : h.slots.toList.Perm ([e] ++ (h.cut pos).slots.toList) := cut_perm he
  have stamped : (h.cut pos).Stamped := wf.stamped.drop all (cut_nextSeq he)
  refine ⟨congrArg Prod.snd (removeAt_eq h he), ?_, tasks_perm (removeAt_perm he)⟩
  rw [removeAt_eq h he]
  split
  next inner =>
    have moved : (h.cut pos).Rearranged ((h.cut pos).fix pos).1 := rearranged_fix _ _
    have around := wf.ordered.around bound (cut_elsewhere he)
    exact moved.wellFormed (ordered_fix around) (wf.indexed.cut he) stamped
  next outer =>
    refine ⟨wf.ordered.mono fun i x hx => ?_, wf.indexed.cut he, stamped⟩
    have size := cut_size he
    have inside : i < (h.cut pos).slots.size := (Array.getElem?_eq_some_iff.mp hx).1
    exact cut_elsewhere he i x (by omega) hx

/-! ### Sequence numbers -/

theorem insert_nextSeq (h : Heap ω) (t : Task ω) : (h.insert t).1.nextSeq = h.nextSeq + 1 :=
  (rearranged_siftUp (h.pushed t) h.slots.size).nextSeq

theorem updateKey_nextSeq (h : Heap ω) (pos : Nat) (due : Int) :
    (h.updateKey pos due).1.nextSeq = h.nextSeq + 1 := by
  cases he : h.slots[pos]? with
  | none => simp only [updateKey, he]
  | some e =>
    rw [updateKey_eq h he]
    exact (rearranged_fix (h.rekeyed pos (e.task.dueAt due)) pos).nextSeq

theorem removeAt_nextSeq (h : Heap ω) (pos : Nat) : (h.removeAt pos).1.nextSeq = h.nextSeq := by
  cases he : h.slots[pos]? with
  | none => simp only [removeAt, he]
  | some e =>
    rw [removeAt_eq h he]
    split
    next inner => exact (rearranged_fix (h.cut pos) pos).nextSeq.trans (cut_nextSeq he)
    next outer => exact cut_nextSeq he

/-! ### The slot an operation answers -/

theorem settled_siftUp (h : Heap ω) (pos : Nat) :
    (h.siftUp pos).1.slots[(h.siftUp pos).2]? = h.slots[pos]? := by
  fun_induction siftUp h pos with
  | case1 => rfl
  | case2 h pos inner up earlier ih =>
    obtain ⟨x, y, hx, hy, _⟩ := (less_iff h _ _).mp earlier
    rw [ih, swap_slots_get h (Array.getElem?_eq_some_iff.mp hx).1
      (Array.getElem?_eq_some_iff.mp hy).1, if_neg (by omega), if_pos rfl]
  | case3 => rfl

theorem settled_siftDown (h : Heap ω) (pos : Nat) :
    (h.siftDown pos).1.slots[(h.siftDown pos).2]? = h.slots[pos]? := by
  fun_induction siftDown h pos with
  | case1 h pos child later ih =>
    obtain ⟨x, y, hx, hy, _⟩ := (less_iff h _ _).mp later
    have deep : 0 < child ∧ parent child = pos := parent_earlierChild h pos
    have down := parent_lt deep.1
    rw [ih, swap_slots_get h (Array.getElem?_eq_some_iff.mp hy).1
      (Array.getElem?_eq_some_iff.mp hx).1, if_neg (by omega), if_pos rfl]
  | case2 => rfl

theorem settled_fix (h : Heap ω) (pos : Nat) :
    (h.fix pos).1.slots[(h.fix pos).2]? = h.slots[pos]? := by
  rw [fix_eq]
  split
  · exact settled_siftUp h pos
  · exact settled_siftDown h pos

/-- An inserted task stands in the slot that was answered. -/
theorem settled_insert (h : Heap ω) (t : Task ω) :
    (h.insert t).1.slots[(h.insert t).2]? = some { task := t, seq := h.nextSeq } := by
  rw [insert_eq, settled_siftUp]
  simp [pushed]

/-- A re-keyed task stands in the slot that was answered. -/
theorem settled_updateKey {h : Heap ω} {pos : Nat} {e : Entry ω} (he : h.slots[pos]? = some e)
    (due : Int) :
    ∃ settled, (h.updateKey pos due).2 = some settled ∧
      (h.updateKey pos due).1.slots[settled]? =
        some { task := e.task.dueAt due, seq := h.nextSeq } := by
  rw [updateKey_eq h he]
  refine ⟨_, rfl, ?_⟩
  rw [settled_fix, rekeyed_get h _ (Array.getElem?_eq_some_iff.mp he).1, if_pos rfl]

/-! ### The root -/

/-- The earliest due time in `h'` is no earlier than the one in `h`; an empty heap has none. -/
def HeadNoEarlier (h h' : Heap ω) : Prop :=
  ∀ new, h'.peek = some new → ∃ old, h.peek = some old ∧ old.due ≤ new.due

theorem HeadNoEarlier.of_root {h h' : Heap ω} (same : h'.slots[0]? = h.slots[0]?) :
    h.HeadNoEarlier h' := by
  intro new top
  rw [peek, get?, same] at top
  exact ⟨new, top, Int.le_refl _⟩

theorem peek_eq_some_iff (h : Heap ω) (t : Task ω) :
    h.peek = some t ↔ ∃ e, h.slots[0]? = some e ∧ e.task = t := by
  rw [peek, get?, Option.map_eq_some_iff]

theorem mem_tasks_of_peek {h : Heap ω} {t : Task ω} (top : h.peek = some t) : t ∈ h.tasks := by
  obtain ⟨e, he, rfl⟩ := (peek_eq_some_iff h t).mp top
  exact (mem_tasks_iff h _).mpr ⟨0, e, he, rfl⟩

/-- The root is due no later than any stored task. -/
theorem WellFormed.peek_due_le {h : Heap ω} (wf : h.WellFormed) {head t : Task ω}
    (top : h.peek = some head) (member : t ∈ h.tasks) : head.due ≤ t.due := by
  obtain ⟨root, hroot, rfl⟩ := (peek_eq_some_iff h head).mp top
  obtain ⟨pos, e, he, rfl⟩ := (mem_tasks_iff h t).mp member
  exact Entry.due_le (wf.ordered.root_le hroot he)

theorem exists_peek {h : Heap ω} {t : Task ω} (member : t ∈ h.tasks) :
    ∃ head, h.peek = some head := by
  obtain ⟨pos, e, he, rfl⟩ := (mem_tasks_iff h t).mp member
  have bound := (Array.getElem?_eq_some_iff.mp he).1
  exact ⟨_, (peek_eq_some_iff h _).mpr ⟨_, Array.getElem?_eq_getElem (by omega), rfl⟩⟩

/-- Taking tasks out never brings the head forward. -/
theorem WellFormed.headNoEarlier_of_subset {h h' : Heap ω} (wf : h.WellFormed)
    (subset : ∀ t ∈ h'.tasks, t ∈ h.tasks) : h.HeadNoEarlier h' := by
  intro new top
  have member := subset new (mem_tasks_of_peek top)
  obtain ⟨old, before⟩ := exists_peek member
  exact ⟨old, before, wf.peek_due_le before member⟩

end Vigil.Heap
