import Std.Data.ExtTreeMap
import Vigil.Task
/-!
A binary min-heap of tasks with an identity index. The array of entries is ordered by due time,
and among equal due times by the order in which the tasks were last inserted or re-keyed: each
entry carries a sequence number. The index maps the id of every stored task to its slot, and each
swap keeps it right, so a task is found, removed or re-keyed without a search.
-/

namespace Vigil

open Std

structure Heap.Entry (ω : Type) where
  task : Task ω
  seq : Nat
  deriving DecidableEq, Repr

structure Heap (ω : Type) where
  slots : Array (Heap.Entry ω) := #[]
  index : ExtTreeMap String Nat := ∅
  nextSeq : Nat := 0

namespace Heap

variable {ω : Type}

/-- Strict order of entries: earlier due time, or the same and the smaller sequence number. -/
def Entry.before (a b : Entry ω) : Bool :=
  a.task.due < b.task.due || (a.task.due == b.task.due && a.seq < b.seq)

def size (h : Heap ω) : Nat := h.slots.size

def isEmpty (h : Heap ω) : Bool := h.slots.isEmpty

/-- The slot of the task with this id. -/
def position (h : Heap ω) (id : String) : Option Nat := h.index[id]?

/-- The task stored in a slot. -/
def get? (h : Heap ω) (pos : Nat) : Option (Task ω) := h.slots[pos]?.map (·.task)

/-- The earliest task. -/
def peek (h : Heap ω) : Option (Task ω) := h.get? 0

/-- Whether the entry in slot `a` orders strictly before the one in slot `b`. -/
def less (h : Heap ω) (a b : Nat) : Bool :=
  match h.slots[a]?, h.slots[b]? with
  | some x, some y => x.before y
  | _, _ => false

/-- Record that the entry in `pos` lives there. -/
def reindex (h : Heap ω) (pos : Nat) : Heap ω :=
  match h.slots[pos]? with
  | some e => { h with index := h.index.insert e.task.id pos }
  | none => h

/-- Exchange two entries and their index records. -/
def swap (h : Heap ω) (a b : Nat) : Heap ω :=
  ({ h with slots := h.slots.swapIfInBounds a b }.reindex a).reindex b

@[simp] theorem reindex_slots (h : Heap ω) (pos : Nat) : (h.reindex pos).slots = h.slots := by
  simp only [reindex]; split <;> rfl

@[simp] theorem swap_slots (h : Heap ω) (a b : Nat) :
    (h.swap a b).slots = h.slots.swapIfInBounds a b := by
  simp [swap]

/-- Move the entry in `pos` toward the root until its parent is not later; answers its slot. -/
def siftUp (h : Heap ω) (pos : Nat) : Heap ω × Nat :=
  if pos = 0 then (h, pos)
  else
    let parent := (pos - 1) / 2
    if h.less pos parent then (h.swap pos parent).siftUp parent else (h, pos)
termination_by pos

/-- The earlier child of `pos`; the left one on a tie or if it is alone. -/
def earlierChild (h : Heap ω) (pos : Nat) : Nat :=
  let left := 2 * pos + 1
  if h.less (left + 1) left then left + 1 else left

/-- Move the entry in `pos` away from the root until no child is earlier; answers its slot. -/
def siftDown (h : Heap ω) (pos : Nat) : Heap ω × Nat :=
  let child := h.earlierChild pos
  if h.less child pos then (h.swap pos child).siftDown child else (h, pos)
termination_by h.slots.size - pos
decreasing_by
  rename_i hless
  have hchild : child < h.slots.size := by
    simp only [less] at hless
    split at hless
    · rename_i hx _; exact (Array.getElem?_eq_some_iff.1 hx).1
    · cases hless
  have hgt : pos < child := by
    simp only [child, earlierChild]; split <;> omega
  simp only [swap_slots, Array.size_swapIfInBounds]
  omega

/-- Restore the order around a slot whose entry has a new key; answers where it settled. -/
def fix (h : Heap ω) (pos : Nat) : Heap ω × Nat :=
  let (raised, settled) := h.siftUp pos
  if settled = pos then raised.siftDown pos else (raised, settled)

/-- Add a task whose id is not stored yet; answers the slot it settled in. -/
def insert (h : Heap ω) (task : Task ω) : Heap ω × Nat :=
  let pos := h.slots.size
  { slots := h.slots.push { task, seq := h.nextSeq }
    index := h.index.insert task.id pos
    nextSeq := h.nextSeq + 1 : Heap ω }.siftUp pos

/-- Drop the last slot together with its index record. -/
def dropLast (h : Heap ω) : Heap ω :=
  match h.slots.back? with
  | some e => { h with slots := h.slots.pop, index := h.index.erase e.task.id }
  | none => h

/-- Take the task out of a slot; the last entry fills the hole. -/
def removeAt (h : Heap ω) (pos : Nat) : Heap ω × Option (Task ω) :=
  match h.slots[pos]? with
  | none => (h, none)
  | some e =>
    let last := h.slots.size - 1
    let cut := (if pos = last then h else h.swap pos last).dropLast
    (if pos < last then (cut.fix pos).1 else cut, some e.task)

/-- Take the earliest task. -/
def popMin (h : Heap ω) : Heap ω × Option (Task ω) := h.removeAt 0

/-- Move the task in a slot to a new due time, behind its ties; answers its new slot. A sequence
number is spent even if the slot does not exist. -/
def updateKey (h : Heap ω) (pos : Nat) (due : Int) : Heap ω × Option Nat :=
  let bumped := { h with nextSeq := h.nextSeq + 1 }
  match h.slots[pos]? with
  | none => (bumped, none)
  | some e =>
    let entry : Entry ω := { task := e.task.dueAt due, seq := h.nextSeq }
    let (fixed, settled) := { bumped with slots := h.slots.setIfInBounds pos entry }.fix pos
    (fixed, some settled)

theorem size_siftUp (h : Heap ω) (pos : Nat) : (h.siftUp pos).1.size = h.size := by
  fun_induction siftUp h pos with
  | case1 => rfl
  | case2 h pos _ _ _ ih => simpa [size] using ih
  | case3 => rfl

theorem size_siftDown (h : Heap ω) (pos : Nat) : (h.siftDown pos).1.size = h.size := by
  fun_induction siftDown h pos with
  | case1 h pos _ _ ih => simpa [size] using ih
  | case2 => rfl

theorem size_fix (h : Heap ω) (pos : Nat) : (h.fix pos).1.size = h.size := by
  simp only [fix]
  split <;> simp [size_siftDown, size_siftUp]

theorem size_dropLast (h : Heap ω) : h.dropLast.size = h.size - 1 := by
  simp only [dropLast]
  split
  · simp [size]
  · rename_i hb
    have : h.slots.size = 0 := by simpa using hb
    simp [size, this]

theorem size_removeAt {h : Heap ω} {pos : Nat} (hpos : pos < h.size) :
    (h.removeAt pos).1.size = h.size - 1 := by
  have hpos' : pos < h.slots.size := hpos
  simp only [removeAt, Array.getElem?_eq_getElem hpos']
  split <;> split <;> simp [size_fix, size_dropLast] <;> simp [size]

/-- Remove everything; the tasks come in slot order. -/
def drain (h : Heap ω) : Heap ω × List (Task ω) :=
  ({ h with slots := #[], index := ∅ }, h.slots.toList.map (·.task))

end Heap

end Vigil
