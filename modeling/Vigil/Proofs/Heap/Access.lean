import Vigil.Proofs.Heap.Agenda

/-!
# No slot is touched that does not exist

The operations of a heap once more, in a strict form that has no answer where a slot past the end
is compared or exchanged, or where an id is inserted that is stored already. Whatever the contents,
the strict form answers, and answers the same, unless a stored id is inserted (`perform?_eq`): a
sift starts in a slot that exists, goes to parents only upward, and looks for children below the
end only.
-/
namespace Vigil.Heap

variable {ω : Type}

def less? (h : Heap ω) (a b : Nat) : Option Bool :=
  match h.slots[a]?, h.slots[b]? with
  | some x, some y => some (x.before y)
  | _, _ => none

theorem less?_eq (h : Heap ω) {a b : Nat} (ha : a < h.slots.size) (hb : b < h.slots.size) :
    h.less? a b = some (h.less a b) := by
  simp only [less?, less, Array.getElem?_eq_getElem ha, Array.getElem?_eq_getElem hb]

theorem lt_of_less? {h : Heap ω} {a b : Nat} {earlier : Bool} (known : h.less? a b = some earlier) :
    a < h.slots.size := by
  simp only [less?] at known
  split at known
  next hx _ => exact (Array.getElem?_eq_some_iff.mp hx).1
  next => cases known

/-- The slots that are exchanged are those that were compared. -/
def siftUp? (h : Heap ω) (pos : Nat) : Option (Heap ω × Nat) :=
  if _inner : 0 < pos then
    match h.less? pos (parent pos) with
    | none => none
    | some true => (h.swap pos (parent pos)).siftUp? (parent pos)
    | some false => some (h, pos)
  else some (h, pos)
termination_by pos
decreasing_by exact parent_lt _inner

/-- The children of a slot are looked for only below the end of the array. -/
def earlierChild? (h : Heap ω) (pos : Nat) : Option Nat :=
  let left := 2 * pos + 1
  if left + 1 < h.slots.size then
    (h.less? (left + 1) left).map fun right => if right then left + 1 else left
  else some left

theorem lt_of_earlierChild? {h : Heap ω} {pos child : Nat}
    (known : h.earlierChild? pos = some child) : pos < child := by
  simp only [earlierChild?] at known
  split at known
  · obtain ⟨right, _, rfl⟩ := Option.map_eq_some_iff.mp known
    cases right <;> simp only [↓reduceIte, Bool.false_eq_true] <;> omega
  · cases known
    omega

def siftDown? (h : Heap ω) (pos : Nat) : Option (Heap ω × Nat) :=
  if 2 * pos + 1 < h.slots.size then
    match _chosen : h.earlierChild? pos with
    | none => none
    | some child =>
      match _compared : h.less? child pos with
      | none => none
      | some true => (h.swap pos child).siftDown? child
      | some false => some (h, pos)
  else some (h, pos)
termination_by h.slots.size - pos
decreasing_by
  have down := lt_of_earlierChild? _chosen
  have inside := lt_of_less? _compared
  simp only [swap_slots, Array.size_swapIfInBounds]
  omega

def fix? (h : Heap ω) (pos : Nat) : Option (Heap ω × Nat) :=
  match h.siftUp? pos with
  | none => none
  | some (raised, settled) => if settled = pos then raised.siftDown? pos else some (raised, settled)

/-- Only an id that is not stored may be inserted. -/
def insert? (h : Heap ω) (t : Task ω) : Option (Heap ω × Nat) :=
  if (h.position t.id).isSome then none else (h.pushed t).siftUp? h.slots.size

def removeAt? (h : Heap ω) (pos : Nat) : Option (Heap ω × Option (Task ω)) :=
  match h.slots[pos]? with
  | none => some (h, none)
  | some e =>
    if pos < (h.cut pos).slots.size then
      ((h.cut pos).fix? pos).map fun fixed => (fixed.1, some e.task)
    else some (h.cut pos, some e.task)

def updateKey? (h : Heap ω) (pos : Nat) (due : Int) : Option (Heap ω × Option Nat) :=
  match h.slots[pos]? with
  | none => some ({ h with nextSeq := h.nextSeq + 1 }, none)
  | some e =>
    ((h.rekeyed pos (e.task.dueAt due)).fix? pos).map fun fixed => (fixed.1, some fixed.2)

def perform? (h : Heap ω) : Op ω → Option (Heap ω × Answer ω)
  | .insert t => (h.insert? t).map fun r => (r.1, .slot (some r.2))
  | .popMin => (h.removeAt? 0).map fun r => (r.1, .task r.2)
  | .removeAt pos => (h.removeAt? pos).map fun r => (r.1, .task r.2)
  | .updateKey pos due => (h.updateKey? pos due).map fun r => (r.1, .slot r.2)
  | op => some (h.perform op)

def run? (h : Heap ω) : List (Op ω) → Option (Heap ω × List (Answer ω))
  | [] => some (h, [])
  | op :: rest =>
    match h.perform? op with
    | none => none
    | some (next, answer) => (next.run? rest).map fun (final, answers) => (final, answer :: answers)

/-! ### The strict form answers the same -/

theorem siftUp?_eq (h : Heap ω) {pos : Nat} (inside : pos < h.slots.size) :
    h.siftUp? pos = some (h.siftUp pos) := by
  induction pos using Nat.strongRecOn generalizing h with
  | ind pos ih =>
    rw [siftUp?, siftUp_eq]
    by_cases inner : 0 < pos
    · have up := parent_lt inner
      rw [dif_pos inner, less?_eq h inside (by omega)]
      cases earlier : h.less pos (parent pos) with
      | true =>
        rw [if_pos ⟨inner, rfl⟩]
        exact ih _ up _ (by simp only [swap_slots, Array.size_swapIfInBounds]; omega)
      | false => rw [if_neg (by simp)]
    · rw [dif_neg inner, if_neg (fun both => inner both.1)]

theorem earlierChild?_eq (h : Heap ω) {pos : Nat} (left : 2 * pos + 1 < h.slots.size) :
    h.earlierChild? pos = some (h.earlierChild pos) := by
  simp only [earlierChild?, earlierChild]
  split
  next right => rw [less?_eq h right left, Option.map_some]
  next alone =>
    have absent : h.less (2 * pos + 1 + 1) (2 * pos + 1) = false := by
      rw [less_eq_false_iff]
      intro x y _ hy
      exact absurd (Array.getElem?_eq_some_iff.mp hy).1 alone
    rw [absent]
    rfl

theorem earlierChild_lt (h : Heap ω) {pos : Nat} (left : 2 * pos + 1 < h.slots.size) :
    h.earlierChild pos < h.slots.size := by
  simp only [earlierChild]
  split
  next right =>
    obtain ⟨x, _, hx, _⟩ := (less_iff h _ _).mp right
    exact (Array.getElem?_eq_some_iff.mp hx).1
  next => exact left

theorem siftDown?_eq (h : Heap ω) {pos : Nat} (inside : pos < h.slots.size) :
    h.siftDown? pos = some (h.siftDown pos) := by
  fun_induction siftDown h pos with
  | case1 h pos child later ih =>
    obtain ⟨x, y, hx, hy, _⟩ := (less_iff h _ _).mp later
    have below := (Array.getElem?_eq_some_iff.mp hx).1
    obtain ⟨deep, up⟩ : 0 < child ∧ parent child = pos := parent_earlierChild h pos
    have left : 2 * pos + 1 < h.slots.size := by
      unfold parent at up
      omega
    have chosen : h.earlierChild? pos = some child := earlierChild?_eq h left
    have compared : h.less? child pos = some true := by rw [less?_eq h below inside, later]
    have lower := ih (by simpa only [swap_slots, Array.size_swapIfInBounds] using below)
    rw [siftDown?, if_pos left]
    grind
  | case2 h pos child settled =>
    rw [siftDown?]
    split
    next left =>
      have chosen : h.earlierChild? pos = some child := earlierChild?_eq h left
      have below : child < h.slots.size := earlierChild_lt h left
      have compared : h.less? child pos = some false := by
        rw [less?_eq h below inside, eq_false_of_ne_true settled]
      grind
    next => rfl

theorem fix?_eq (h : Heap ω) {pos : Nat} (inside : pos < h.slots.size) :
    h.fix? pos = some (h.fix pos) := by
  have raised : pos < (h.siftUp pos).1.slots.size := by
    have same : (h.siftUp pos).1.slots.size = h.slots.size := size_siftUp h pos
    omega
  simp only [fix?, fix, siftUp?_eq h inside]
  split
  next => exact siftDown?_eq _ raised
  next => rfl

theorem insert?_eq (h : Heap ω) {t : Task ω} (absent : h.position t.id = none) :
    h.insert? t = some (h.insert t) := by
  rw [insert?, absent, if_neg (by simp), insert_eq]
  exact siftUp?_eq _ (by simp [pushed])

theorem removeAt?_eq (h : Heap ω) (pos : Nat) : h.removeAt? pos = some (h.removeAt pos) := by
  cases he : h.slots[pos]? with
  | none => simp only [removeAt?, removeAt, he]
  | some e =>
    have size := cut_size he
    rw [removeAt_eq h he]
    simp only [removeAt?, he]
    split
    next inner => rw [fix?_eq _ inner, Option.map_some, if_pos (by omega)]
    next outer => rw [if_neg (by omega)]

theorem updateKey?_eq (h : Heap ω) (pos : Nat) (due : Int) :
    h.updateKey? pos due = some (h.updateKey pos due) := by
  cases he : h.slots[pos]? with
  | none => simp only [updateKey?, updateKey, he]
  | some e =>
    have bound := (Array.getElem?_eq_some_iff.mp he).1
    rw [updateKey_eq h he]
    simp only [updateKey?, he]
    rw [fix?_eq _ (by simpa [rekeyed] using bound), Option.map_some]

/-- The strict form fails on the insertion of a stored id, and on nothing else. -/
theorem perform?_eq (h : Heap ω) (op : Op ω) :
    h.perform? op = if h.admits op then some (h.perform op) else none := by
  cases op with
  | insert t =>
    cases stored : h.position t.id with
    | none => simp only [perform?, insert?_eq h stored, admits, stored, perform, Option.map_some,
        Option.isNone_none, ↓reduceIte]
    | some pos => simp [perform?, insert?, admits, stored]
  | popMin => exact congrArg (Option.map _) (removeAt?_eq h 0)
  | removeAt pos => exact congrArg (Option.map _) (removeAt?_eq h pos)
  | updateKey pos due => exact congrArg (Option.map _) (updateKey?_eq h pos due)
  | _ => rfl

theorem run?_eq {h : Heap ω} {ops : List (Op ω)} (admitted : h.admitsAll ops) :
    h.run? ops = some (h.run ops) := by
  induction ops generalizing h with
  | nil => rfl
  | cons op rest ih =>
    obtain ⟨first, others⟩ := Bool.and_eq_true_iff.mp admitted
    simp only [run?, perform?_eq, first, ↓reduceIte, ih others, Option.map_some]
    rfl

end Vigil.Heap
