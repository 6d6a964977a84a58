import Vigil.Heap

/-!
# Sifting: how one disturbed slot is brought back into order

The order of a heap is a statement on slots: no entry is later than its children. Re-keying an
entry, or moving the last entry into a hole, breaks it around one slot only (`OrderedAround`), with
the slot's children still no earlier than the slot's parent. `siftUp` carries that slot toward the
root and `siftDown` away from it; `fix` runs both and restores the order wherever the new key
belongs (`ordered_fix`).
-/
namespace Vigil.Heap

variable {ω : Type}

/-- The entry that leaves first, or either one if they are the same. -/
instance : LE (Entry ω) := ⟨fun a b => b.before a = false⟩

theorem Entry.before_iff (a b : Entry ω) :
    a.before b = true ↔
      a.task.due < b.task.due ∨ a.task.due = b.task.due ∧ a.seq < b.seq := by
  simp [before]

theorem Entry.le_iff (a b : Entry ω) :
    a ≤ b ↔ a.task.due < b.task.due ∨ a.task.due = b.task.due ∧ a.seq ≤ b.seq := by
  change b.before a = false ↔ _
  rw [← Bool.not_eq_true, Entry.before_iff]
  omega

theorem Entry.le_rfl (a : Entry ω) : a ≤ a := by
  rw [Entry.le_iff]
  omega

theorem Entry.le_trans {a b c : Entry ω} (first : a ≤ b) (second : b ≤ c) : a ≤ c := by
  rw [Entry.le_iff] at *
  omega

theorem Entry.le_of_before {a b : Entry ω} (earlier : a.before b = true) : a ≤ b := by
  rw [Entry.before_iff] at earlier
  rw [Entry.le_iff]
  omega

theorem Entry.due_le {a b : Entry ω} (le : a ≤ b) : a.task.due ≤ b.task.due := by
  rw [Entry.le_iff] at le
  omega

/-- The slot above. Slot 0 has none, although `parent 0` is 0. -/
def parent (pos : Nat) : Nat := (pos - 1) / 2

theorem parent_lt {pos : Nat} (inner : 0 < pos) : parent pos < pos := by
  unfold parent
  omega

/-- The entry in slot `i`, if there is one, need not leave after the one in slot `j`. -/
def InOrder (h : Heap ω) (i j : Nat) : Prop :=
  ∀ x y, h.slots[i]? = some x → h.slots[j]? = some y → x ≤ y

/-- No entry is later than its children. -/
def Ordered (h : Heap ω) : Prop := ∀ i, 0 < i → h.InOrder (parent i) i

/-- The order holds except at `pos`, whose children are no earlier than the parent of `pos`. -/
structure OrderedAround (h : Heap ω) (pos : Nat) : Prop where
  away : ∀ i, 0 < i → i ≠ pos → parent i ≠ pos → h.InOrder (parent i) i
  across : 0 < pos → ∀ i, 0 < i → parent i = pos → h.InOrder (parent pos) i

/-- The entry in `pos` is no later than its children. -/
def OrderedBelow (h : Heap ω) (pos : Nat) : Prop :=
  ∀ i, 0 < i → parent i = pos → h.InOrder pos i

/-- The entry in `pos` is no earlier than its parent. -/
def OrderedAbove (h : Heap ω) (pos : Nat) : Prop := 0 < pos → h.InOrder (parent pos) pos

theorem OrderedAround.ordered {h : Heap ω} {pos : Nat} (around : h.OrderedAround pos)
    (above : h.OrderedAbove pos) (below : h.OrderedBelow pos) : h.Ordered := by
  intro i inner
  by_cases here : i = pos
  · subst here
    exact above inner
  · by_cases child : parent i = pos
    · rw [child]
      exact below i inner child
    · exact around.away i inner here child

/-- In an ordered heap a new entry in one slot, or a missing one elsewhere, disturbs that slot
only. -/
theorem Ordered.around {h h' : Heap ω} {pos : Nat} (ordered : h.Ordered)
    (present : pos < h.slots.size)
    (frame : ∀ (i : Nat) (e : Entry ω), i ≠ pos → h'.slots[i]? = some e → h.slots[i]? = some e) :
    h'.OrderedAround pos := by
  constructor
  · intro i inner here child x y hx hy
    exact ordered i inner x y (frame _ _ child hx) (frame _ _ here hy)
  · intro deep i inner child x y hx hy
    have up := parent_lt deep
    have down := parent_lt inner
    have mid := Array.getElem?_eq_getElem present
    have above := ordered pos deep x _ (frame _ _ (by omega) hx) mid
    exact Entry.le_trans above
      (ordered i inner _ y (by rw [child]; exact mid) (frame _ _ (by omega) hy))

theorem Ordered.mono {h h' : Heap ω} (ordered : h.Ordered)
    (frame : ∀ (i : Nat) (e : Entry ω), h'.slots[i]? = some e → h.slots[i]? = some e) :
    h'.Ordered := by
  intro i inner x y hx hy
  exact ordered i inner x y (frame _ _ hx) (frame _ _ hy)

theorem less_iff (h : Heap ω) (a b : Nat) :
    h.less a b = true ↔
      ∃ x y, h.slots[a]? = some x ∧ h.slots[b]? = some y ∧ x.before y = true := by
  simp only [less]
  split
  · rename_i x y hx hy
    simp [hx, hy]
  · rename_i none_of
    simp only [Bool.false_eq_true, false_iff]
    rintro ⟨x, y, hx, hy, _⟩
    exact none_of x y hx hy

theorem less_eq_false_iff (h : Heap ω) (a b : Nat) : h.less a b = false ↔ h.InOrder b a := by
  rw [← Bool.not_eq_true, less_iff]
  constructor
  · intro refused x y hx hy
    change y.before x = false
    rw [← Bool.not_eq_true]
    exact fun earlier => refused ⟨y, x, hy, hx, earlier⟩
  · rintro inOrder ⟨x, y, hx, hy, earlier⟩
    have late : x.before y = false := inOrder y x hy hx
    rw [late] at earlier
    cases earlier

/-- An exchange of two slots that exist, slot by slot. -/
theorem swap_slots_get (h : Heap ω) {a b : Nat} (ha : a < h.slots.size) (hb : b < h.slots.size)
    (i : Nat) :
    (h.swap a b).slots[i]? =
      if i = a then h.slots[b]? else if i = b then h.slots[a]? else h.slots[i]? := by
  rw [swap_slots, Array.swapIfInBounds_def, dif_pos ha, dif_pos hb, Array.getElem?_swap,
    Array.getElem?_eq_getElem ha, Array.getElem?_eq_getElem hb]
  by_cases left : i = a
  · subst left
    by_cases same : b = i
    · subst same
      rw [if_pos rfl]
    · rw [if_neg same, if_pos rfl, if_pos rfl]
  · rw [if_neg (Ne.symm left), if_neg left]
    simp only [eq_comm (a := b)]

/-! ### Toward the root -/

/-- One exchange with the parent moves the disturbance there, with nothing amiss below it. -/
theorem OrderedAround.raise {h : Heap ω} {pos : Nat} (around : h.OrderedAround pos)
    (inner : 0 < pos) (earlier : h.less pos (parent pos) = true) :
    (h.swap pos (parent pos)).OrderedAround (parent pos) ∧
      (h.swap pos (parent pos)).OrderedBelow (parent pos) := by
  obtain ⟨e, p, he, hp, before⟩ := (less_iff h _ _).mp earlier
  have posIn := (Array.getElem?_eq_some_iff.mp he).1
  have parIn := (Array.getElem?_eq_some_iff.mp hp).1
  have up := parent_lt inner
  have get := swap_slots_get h posIn parIn
  refine ⟨⟨?_, ?_⟩, ?_⟩
  · intro i hi here child x y hx hy
    have notPos : i ≠ pos := by intro same; exact child (same ▸ rfl)
    rw [get, if_neg notPos, if_neg here] at hy
    by_cases grand : parent i = pos
    · rw [get, if_pos grand] at hx
      exact around.across inner i hi grand x y hx hy
    · rw [get, if_neg grand, if_neg child] at hx
      exact around.away i hi notPos grand x y hx hy
  · intro deep i hi child x y hx hy
    have top := parent_lt deep
    have down := parent_lt hi
    rw [get, if_neg (by omega), if_neg (by omega)] at hx
    have above : x ≤ p := around.away (parent pos) deep (by omega) (by omega) x p hx hp
    by_cases here : i = pos
    · rw [get, if_pos here, hp] at hy
      cases hy
      exact above
    · rw [get, if_neg here, if_neg (by omega)] at hy
      exact Entry.le_trans above
        (around.away i hi here (by omega) p y (by rw [child]; exact hp) hy)
  · intro i hi child x y hx hy
    have down := parent_lt hi
    rw [get, if_neg (by omega), if_pos rfl, he] at hx
    cases hx
    by_cases here : i = pos
    · rw [get, if_pos here, hp] at hy
      cases hy
      exact Entry.le_of_before before
    · rw [get, if_neg here, if_neg (by omega)] at hy
      exact Entry.le_trans (Entry.le_of_before before)
        (around.away i hi here (by omega) p y (by rw [child]; exact hp) hy)

/-- Unfold one round of `siftUp`. -/
theorem siftUp_eq (h : Heap ω) (pos : Nat) :
    h.siftUp pos =
      if 0 < pos ∧ h.less pos (parent pos) = true
      then (h.swap pos (parent pos)).siftUp (parent pos) else (h, pos) := by
  rw [siftUp]
  by_cases root : pos = 0
  · simp [root]
  · have inner : 0 < pos := Nat.pos_of_ne_zero root
    rw [if_neg root]
    simp only [inner, true_and, parent]

theorem siftUp_le (h : Heap ω) (pos : Nat) : (h.siftUp pos).2 ≤ pos := by
  fun_induction siftUp h pos with
  | case1 => exact Nat.le_refl _
  | case2 h pos inner up _ ih => omega
  | case3 => exact Nat.le_refl _

theorem ordered_siftUp {h : Heap ω} {pos : Nat} (around : h.OrderedAround pos)
    (below : h.OrderedBelow pos) : (h.siftUp pos).1.Ordered := by
  induction pos using Nat.strongRecOn generalizing h with
  | ind pos ih =>
    rw [siftUp_eq]
    split
    next moves =>
      obtain ⟨inner, earlier⟩ := moves
      obtain ⟨around', below'⟩ := around.raise inner earlier
      exact ih _ (parent_lt inner) around' below'
    next stays =>
      refine around.ordered ?_ below
      intro inner
      apply (less_eq_false_iff h _ _).mp
      rw [← Bool.not_eq_true]
      exact fun earlier => stays ⟨inner, earlier⟩

/-! ### Away from the root -/

theorem parent_earlierChild (h : Heap ω) (pos : Nat) :
    0 < h.earlierChild pos ∧ parent (h.earlierChild pos) = pos := by
  simp only [earlierChild, parent]
  split <;> omega

/-- Where a slot has a child, its earlier child exists and is no later than that one. -/
theorem earlierChild_le (h : Heap ω) {pos i : Nat} (inner : 0 < i) (child : parent i = pos)
    {y : Entry ω} (hy : h.slots[i]? = some y) :
    ∃ x, h.slots[h.earlierChild pos]? = some x ∧ x ≤ y := by
  have bound := (Array.getElem?_eq_some_iff.mp hy).1
  have side : i = 2 * pos + 1 ∨ i = 2 * pos + 2 := by
    unfold parent at child
    omega
  have inside : 2 * pos + 1 < h.slots.size := by omega
  have left := Array.getElem?_eq_getElem inside
  simp only [earlierChild]
  split
  next right =>
    obtain ⟨r, l, hr, hl, before⟩ := (less_iff h _ _).mp right
    refine ⟨r, hr, ?_⟩
    rcases side with rfl | rfl
    · rw [hl] at hy
      cases hy
      exact Entry.le_of_before before
    · rw [hr] at hy
      cases hy
      exact Entry.le_rfl _
  next kept =>
    refine ⟨_, left, ?_⟩
    rcases side with rfl | rfl
    · rw [left] at hy
      cases hy
      exact Entry.le_rfl _
    · exact (less_eq_false_iff h _ _).mp (Bool.not_eq_true _ ▸ kept) _ y left hy

/-- One exchange with the earlier child moves the disturbance there, with nothing amiss above. -/
theorem OrderedAround.lower {h : Heap ω} {pos : Nat} (around : h.OrderedAround pos)
    (above : h.OrderedAbove pos) (later : h.less (h.earlierChild pos) pos = true) :
    (h.swap pos (h.earlierChild pos)).OrderedAround (h.earlierChild pos) ∧
      (h.swap pos (h.earlierChild pos)).OrderedAbove (h.earlierChild pos) := by
  obtain ⟨deep, up⟩ := parent_earlierChild h pos
  obtain ⟨c, e, hc, he, before⟩ := (less_iff h _ _).mp later
  have least : ∀ i, 0 < i → parent i = pos → ∀ y, h.slots[i]? = some y → c ≤ y := by
    intro i hi child y hy
    obtain ⟨x, hx, le⟩ := earlierChild_le h hi child hy
    rw [hc] at hx
    cases hx
    exact le
  generalize h.earlierChild pos = child at *
  have posIn := (Array.getElem?_eq_some_iff.mp he).1
  have childIn := (Array.getElem?_eq_some_iff.mp hc).1
  have down := parent_lt deep
  have get := swap_slots_get h posIn childIn
  refine ⟨⟨?_, ?_⟩, ?_⟩
  · intro i hi here below x y hx hy
    have rise := parent_lt hi
    by_cases atPos : i = pos
    · subst atPos
      rw [get, if_neg (by omega), if_neg (by omega)] at hx
      rw [get, if_pos rfl] at hy
      exact around.across hi child deep up x y hx hy
    · rw [get, if_neg atPos, if_neg here] at hy
      by_cases sibling : parent i = pos
      · rw [get, if_pos sibling, hc] at hx
        cases hx
        exact least i hi sibling y hy
      · rw [get, if_neg sibling, if_neg below] at hx
        exact around.away i hi atPos sibling x y hx hy
  · intro _ i hi below x y hx hy
    have rise := parent_lt hi
    rw [get, if_pos up, hc] at hx
    cases hx
    rw [get, if_neg (by omega), if_neg (by omega)] at hy
    exact around.away i hi (by omega) (by omega) c y (by rw [below]; exact hc) hy
  · intro _ x y hx hy
    rw [get, if_pos up, hc] at hx
    rw [get, if_neg (by omega), if_pos rfl, he] at hy
    cases hx
    cases hy
    exact Entry.le_of_before before

theorem ordered_siftDown {h : Heap ω} {pos : Nat} (around : h.OrderedAround pos)
    (above : h.OrderedAbove pos) : (h.siftDown pos).1.Ordered := by
  fun_induction siftDown h pos with
  | case1 h pos child later ih =>
    obtain ⟨around', above'⟩ := around.lower above later
    exact ih around' above'
  | case2 h pos child settled =>
    refine around.ordered above ?_
    intro i inner below x y hx hy
    obtain ⟨c, hc, le⟩ := earlierChild_le h inner below hy
    have first : h.InOrder pos child :=
      (less_eq_false_iff h _ _).mp (Bool.not_eq_true _ ▸ settled)
    exact Entry.le_trans (first x c hx hc) le

/-! ### Either way -/

/-- `fix` runs one of the two sifts: toward the root if the entry is earlier than its parent. -/
theorem fix_eq (h : Heap ω) (pos : Nat) :
    h.fix pos =
      if 0 < pos ∧ h.less pos (parent pos) = true then h.siftUp pos else h.siftDown pos := by
  simp only [fix]
  by_cases moves : 0 < pos ∧ h.less pos (parent pos) = true
  · have settled : (h.siftUp pos).2 ≠ pos := by
      rw [siftUp_eq, if_pos moves]
      have bound := siftUp_le (h.swap pos (parent pos)) (parent pos)
      have up := parent_lt moves.1
      omega
    rw [if_pos moves, if_neg settled]
  · rw [if_neg moves, siftUp_eq, if_neg moves]
    exact if_pos rfl

/-- Wherever the key of the disturbed entry belongs, `fix` restores the order. -/
theorem ordered_fix {h : Heap ω} {pos : Nat} (around : h.OrderedAround pos) :
    (h.fix pos).1.Ordered := by
  rw [fix_eq]
  split
  next moves =>
    obtain ⟨around', below'⟩ := around.raise moves.1 moves.2
    rw [siftUp_eq, if_pos moves]
    exact ordered_siftUp around' below'
  next stays =>
    refine ordered_siftDown around ?_
    intro inner
    apply (less_eq_false_iff h _ _).mp
    rw [← Bool.not_eq_true]
    exact fun earlier => stays ⟨inner, earlier⟩

/-- The root of an ordered heap is no later than any entry. -/
theorem Ordered.root_le {h : Heap ω} (ordered : h.Ordered) {root : Entry ω}
    (hroot : h.slots[0]? = some root) :
    ∀ {i : Nat} {e : Entry ω}, h.slots[i]? = some e → root ≤ e := by
  intro i
  induction i using Nat.strongRecOn with
  | ind i ih =>
    intro e he
    by_cases top : i = 0
    · subst top
      rw [hroot] at he
      cases he
      exact Entry.le_rfl _
    · have inner : 0 < i := Nat.pos_of_ne_zero top
      have bound := (Array.getElem?_eq_some_iff.mp he).1
      have up := parent_lt inner
      have inside : parent i < h.slots.size := by omega
      have middle := Array.getElem?_eq_getElem inside
      exact Entry.le_trans (ih _ up middle) (ordered i inner _ e middle he)

end Vigil.Heap
