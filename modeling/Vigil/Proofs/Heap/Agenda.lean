import Vigil.Proofs.Heap.Operations

/-!
# A heap answers as a list in order of leaving

The reference is an agenda: a list of tasks, the next one first, in which a task that is added or
re-keyed goes behind all that are due no later. Its tasks also stand in numbered slots, and how
they are arranged there is left open, except that the next one has slot 0. What carries the proof
is that the entries of a heap, listed in the order of `Entry.before`, are the tasks of the agenda
(`Represents`): a new entry has the largest sequence number, so that order puts it behind its ties.
-/
namespace Vigil

variable {ω α β : Type}

/-! ### Lists in order of leaving -/

/-- Put `x` behind everything that is due no later. -/
def enlist (due : α → Int) (x : α) : List α → List α
  | [] => [x]
  | y :: rest => if due y ≤ due x then y :: enlist due x rest else x :: y :: rest

theorem enlist_perm (due : α → Int) (x : α) (l : List α) : (enlist due x l).Perm (x :: l) := by
  induction l with
  | nil => exact .rfl
  | cons y rest ih =>
    simp only [enlist]
    split
    · exact (ih.cons y).trans (.swap x y rest)
    · exact .rfl

theorem map_enlist (due : β → Int) (f : α → β) (x : α) (l : List α) :
    (enlist (fun y => due (f y)) x l).map f = enlist due (f x) (l.map f) := by
  induction l with
  | nil => rfl
  | cons y rest ih =>
    simp only [enlist, List.map_cons]
    split
    · rw [List.map_cons, ih]
    · rfl

/-- Where no entry has a larger sequence number, behind all ties is where the new one belongs. -/
theorem pairwise_enlist {e : Heap.Entry ω} {es : List (Heap.Entry ω)}
    (sorted : es.Pairwise (·.before · = true)) (newest : ∀ x ∈ es, x.seq < e.seq) :
    (enlist (·.task.due) e es).Pairwise (·.before · = true) := by
  induction es with
  | nil => exact List.pairwise_singleton _ _
  | cons x rest ih =>
    obtain ⟨first, others⟩ := List.pairwise_cons.mp sorted
    obtain ⟨older, oldest⟩ := List.forall_mem_cons.mp newest
    simp only [enlist]
    split
    next early =>
      refine List.pairwise_cons.mpr ⟨?_, ih others oldest⟩
      intro y member
      rcases List.mem_cons.mp ((enlist_perm _ e rest).mem_iff.mp member) with rfl | inside
      · rw [Heap.Entry.before_iff]
        omega
      · exact first y inside
    next late =>
      refine List.pairwise_cons.mpr ⟨?_, sorted⟩
      intro y member
      rw [Heap.Entry.before_iff]
      rcases List.mem_cons.mp member with rfl | inside
      · omega
      · have behind := (Heap.Entry.before_iff x y).mp (first y inside)
        omega

/-! ### Calls and answers -/

namespace Heap

/-- What can be asked of a heap. -/
inductive Op (ω : Type) where
  | insert (task : Task ω)
  | popMin
  | removeAt (pos : Nat)
  | updateKey (pos : Nat) (due : Int)
  | peek
  | get (pos : Nat)
  | position (id : String)
  | size
  | drain

inductive Answer (ω : Type) where
  | task (t : Option (Task ω))
  | slot (pos : Option Nat)
  | count (n : Nat)
  | tasks (ts : List (Task ω))
  deriving DecidableEq

def perform (h : Heap ω) : Op ω → Heap ω × Answer ω
  | .insert t => ((h.insert t).1, .slot (some (h.insert t).2))
  | .popMin => (h.popMin.1, .task h.popMin.2)
  | .removeAt pos => ((h.removeAt pos).1, .task (h.removeAt pos).2)
  | .updateKey pos due => ((h.updateKey pos due).1, .slot (h.updateKey pos due).2)
  | .peek => (h, .task h.peek)
  | .get pos => (h, .task (h.get? pos))
  | .position id => (h, .slot (h.position id))
  | .size => (h, .count h.size)
  | .drain => (h.drain.1, .tasks h.drain.2)

/-- Answer calls in order. -/
def run (h : Heap ω) : List (Op ω) → Heap ω × List (Answer ω)
  | [] => (h, [])
  | op :: rest =>
    let (final, answers) := (h.perform op).1.run rest
    (final, (h.perform op).2 :: answers)

/-- An id may be inserted only while it is not stored. -/
def admits (h : Heap ω) : Op ω → Bool
  | .insert t => (h.position t.id).isNone
  | _ => true

def admitsAll (h : Heap ω) : List (Op ω) → Bool
  | [] => true
  | op :: rest => h.admits op && (h.perform op).1.admitsAll rest

/-- Whether the call assigns a key, and so spends a sequence number. -/
def Op.stamps : Op ω → Bool
  | .insert _ | .updateKey .. => true
  | _ => false

/-- The slot a call is pointed at. -/
def Op.slot? : Op ω → Option Nat
  | .removeAt pos | .updateKey pos _ | .get pos => some pos
  | .popMin => some 0
  | _ => none

theorem popMin_smaller {h rest : Heap ω} {t : Task ω} (popped : h.popMin = (rest, some t)) :
    rest.size < h.size := by
  cases he : h.slots[0]? with
  | none =>
    rw [popMin, removeAt_missing he] at popped
    cases popped
  | some e =>
    have bound : 0 < h.size := (Array.getElem?_eq_some_iff.mp he).1
    have smaller := size_removeAt bound
    rw [popMin] at popped
    rw [popped] at smaller
    exact smaller ▸ Nat.sub_lt bound Nat.one_pos

/-- The tasks that come when the earliest is taken again and again. -/
def popAll (h : Heap ω) : List (Task ω) :=
  match _popped : h.popMin with
  | (_, none) => []
  | (rest, some t) => t :: rest.popAll
termination_by h.size
decreasing_by exact popMin_smaller _popped

end Heap

/-! ### The reference -/

/-- Tasks in the order in which they leave, and the same tasks in the order of their slots. -/
structure Agenda (ω : Type) where
  tasks : List (Task ω) := []
  shelf : List (Task ω) := []

namespace Agenda

/-- The slot of the task with this id. -/
def slot? (a : Agenda ω) (id : String) : Option Nat := a.shelf.findIdx? (·.id == id)

/-- The agenda has these tasks, in slots of which the next task has the first. -/
structure Holds (a : Agenda ω) (list : List (Task ω)) : Prop where
  tasks : a.tasks = list
  shelf : a.shelf.Perm list
  first : a.shelf.head? = list.head?

/-- The list without the task of this id. -/
def without (id : String) (tasks : List (Task ω)) : List (Task ω) := tasks.filter (·.id ≠ id)

/-- What an agenda may answer to a call, and become. Where tasks come or go the shelf may be
arranged anew. -/
def Serves (a : Agenda ω) (op : Heap.Op ω) (answer : Heap.Answer ω) (a' : Agenda ω) : Prop :=
  match op with
  | .insert t => answer = .slot (a'.slot? t.id) ∧ a'.Holds (enlist (·.due) t a.tasks)
  | .popMin => answer = .task a.tasks.head? ∧ a'.Holds a.tasks.tail
  | .removeAt pos =>
    match a.shelf[pos]? with
    | none => answer = .task none ∧ a' = a
    | some t => answer = .task (some t) ∧ a'.Holds (without t.id a.tasks)
  | .updateKey pos due =>
    match a.shelf[pos]? with
    | none => answer = .slot none ∧ a' = a
    | some t =>
      answer = .slot (a'.slot? t.id) ∧
        a'.Holds (enlist (·.due) (t.dueAt due) (without t.id a.tasks))
  | .peek => answer = .task a.tasks.head? ∧ a' = a
  | .get pos => answer = .task a.shelf[pos]? ∧ a' = a
  | .position id => answer = .slot (a.slot? id) ∧ a' = a
  | .size => answer = .count a.tasks.length ∧ a' = a
  | .drain => answer = .tasks a.shelf ∧ a' = {}

/-- Calls, answers and the agenda afterwards. -/
inductive Run : Agenda ω → List (Heap.Op ω) → List (Heap.Answer ω) → Agenda ω → Prop where
  | done (a : Agenda ω) : Run a [] [] a
  | call {a b c : Agenda ω} {op ops answer answers} (served : a.Serves op answer b)
      (rest : Run b ops answers c) : Run a (op :: ops) (answer :: answers) c

end Agenda

namespace Heap

/-! ### The entries of a heap in order of leaving -/

/-- The agenda has the tasks of the heap, in the order of their entries and in their slots. -/
structure Represents (h : Heap ω) (a : Agenda ω) : Prop where
  wf : h.WellFormed
  shelf : a.shelf = h.tasks
  listed : ∃ es : List (Entry ω), es.Perm h.slots.toList ∧ es.Pairwise (·.before · = true) ∧
    es.map (·.task) = a.tasks

theorem represents_empty : ({} : Heap ω).Represents {} :=
  ⟨wellFormed_empty, rfl, [], .rfl, .nil, rfl⟩

theorem head?_tasks (h : Heap ω) : h.tasks.head? = h.peek := by
  simp [tasks, peek, get?, List.head?_eq_getElem?]

section

variable {h : Heap ω} {a : Agenda ω}

/-- The root is the first of the entries in order. -/
theorem Represents.peek_eq (represents : h.Represents a) : h.peek = a.tasks.head? := by
  obtain ⟨es, perm, sorted, tasks⟩ := represents.listed
  rw [← tasks]
  cases es with
  | nil =>
    have empty : h.slots.toList = [] := List.nil_perm.mp perm
    rw [← head?_tasks, Heap.tasks, empty]
  | cons first rest =>
    have stored : first ∈ h.slots.toList := perm.mem_iff.mp List.mem_cons_self
    obtain ⟨pos, inside⟩ := Array.mem_iff_getElem?.mp (Array.mem_toList_iff.mp stored)
    have bound := (Array.getElem?_eq_some_iff.mp inside).1
    obtain ⟨root, hroot⟩ : ∃ root, h.slots[0]? = some root :=
      ⟨_, Array.getElem?_eq_getElem (by omega)⟩
    have least : first.before root = false := represents.wf.ordered.root_le hroot inside
    have member : root ∈ first :: rest :=
      perm.mem_iff.mpr (Array.mem_toList_iff.mpr (Array.mem_iff_getElem?.mpr ⟨0, hroot⟩))
    rcases List.mem_cons.mp member with rfl | later
    · exact (peek_eq_some_iff h _).mpr ⟨root, hroot, rfl⟩
    · rw [(List.pairwise_cons.mp sorted).1 root later] at least
      cases least

theorem Represents.holds (represents : h.Represents a) : a.Holds a.tasks := by
  obtain ⟨es, perm, _, tasks⟩ := represents.listed
  refine ⟨rfl, ?_, ?_⟩
  · rw [represents.shelf, ← tasks]
    exact (perm.map _).symm
  · rw [represents.shelf, head?_tasks, represents.peek_eq]

theorem get?_eq (h : Heap ω) (pos : Nat) : h.get? pos = h.tasks[pos]? := by
  simp [get?, tasks]

/-- An exact index finds the slot where the task stands. -/
theorem Represents.position_eq (represents : h.Represents a) (id : String) :
    h.position id = a.slot? id := by
  rw [Agenda.slot?, represents.shelf]
  cases found : h.position id with
  | none =>
    have free := (represents.wf.indexed.position_eq_none_iff id).mp found
    refine (List.findIdx?_eq_none_iff.mpr ?_).symm
    intro t member
    simpa using free t member
  | some pos =>
    obtain ⟨e, he, named⟩ := (represents.wf.indexed id pos).mp found
    obtain ⟨bound, entry⟩ := Array.getElem?_eq_some_iff.mp he
    refine (List.findIdx?_eq_some_iff_getElem.mpr ⟨by simpa [tasks] using bound, ?_, ?_⟩).symm
    · simpa [tasks, entry] using named
    · intro other before
      simp only [tasks, List.getElem_map, Array.getElem_toList, beq_iff_eq]
      intro same
      have there := (represents.wf.indexed id other).mpr
        ⟨_, Array.getElem?_eq_getElem (by omega), same⟩
      rw [found] at there
      cases there
      omega

theorem Represents.length_eq (represents : h.Represents a) : a.tasks.length = h.size := by
  have same := represents.holds.shelf.length_eq
  rw [represents.shelf] at same
  simpa [tasks, size] using same.symm

/-- The entry in a slot is the only one of its id, so the list without that id is the list without
that entry. -/
theorem WellFormed.filter_perm (wf : h.WellFormed) {es rest : List (Entry ω)} {e : Entry ω}
    (perm : es.Perm h.slots.toList) (split : h.slots.toList.Perm (e :: rest)) :
    (es.filter (·.task.id ≠ e.task.id)).Perm rest := by
  have ids : (h.tasks.map (·.id)).Perm (e.task.id :: rest.map (·.task.id)) := by
    have tasks := (tasks_perm split).map (·.id)
    rwa [List.map_cons, List.map_cons, List.map_map] at tasks
  have once := (List.nodup_cons.mp (ids.nodup_iff.mp wf.indexed.nodup_ids)).1
  have others : ∀ x ∈ rest, x.task.id ≠ e.task.id := fun x member same =>
    once (List.mem_map.mpr ⟨x, member, same⟩)
  have kept : (e :: rest).filter (·.task.id ≠ e.task.id) = rest := by
    rw [List.filter_cons_of_neg (by simp), List.filter_eq_self]
    simpa using others
  have filtered := (perm.trans split).filter (·.task.id ≠ e.task.id)
  rwa [kept] at filtered

theorem map_filter_id (es : List (Entry ω)) (id : String) :
    (es.filter (·.task.id ≠ id)).map (·.task) = Agenda.without id (es.map (·.task)) := by
  rw [Agenda.without, List.filter_map]
  rfl

/-! ### The operations -/

theorem Represents.insert (represents : h.Represents a) {t : Task ω}
    (absent : h.position t.id = none) :
    (h.insert t).1.Represents ⟨enlist (·.due) t a.tasks, (h.insert t).1.tasks⟩ := by
  obtain ⟨es, perm, sorted, tasks⟩ := represents.listed
  refine ⟨(represents.wf.insert absent).1, rfl,
    enlist (·.task.due) { task := t, seq := h.nextSeq } es, ?_, ?_, ?_⟩
  · exact ((enlist_perm _ _ es).trans (perm.cons _)).trans (insert_perm h t).symm
  · exact pairwise_enlist sorted fun x member =>
      represents.wf.stamped.below x (perm.mem_iff.mp member)
  · rw [map_enlist Task.due Entry.task, tasks]

theorem Represents.removeAt (represents : h.Represents a) {pos : Nat} {e : Entry ω}
    (he : h.slots[pos]? = some e) :
    (h.removeAt pos).1.Represents
      ⟨Agenda.without e.task.id a.tasks, (h.removeAt pos).1.tasks⟩ := by
  obtain ⟨es, perm, sorted, tasks⟩ := represents.listed
  refine ⟨(represents.wf.removeAt he).2.1, rfl, es.filter (·.task.id ≠ e.task.id), ?_,
    sorted.filter _, ?_⟩
  · exact represents.wf.filter_perm perm (removeAt_perm he)
  · rw [map_filter_id, tasks]

theorem Represents.updateKey (represents : h.Represents a) {pos : Nat} {e : Entry ω}
    (he : h.slots[pos]? = some e) (due : Int) :
    (h.updateKey pos due).1.Represents
      ⟨enlist (·.due) (e.task.dueAt due) (Agenda.without e.task.id a.tasks),
        (h.updateKey pos due).1.tasks⟩ := by
  obtain ⟨es, perm, sorted, tasks⟩ := represents.listed
  obtain ⟨rest, old, new⟩ := updateKey_perm he due
  let others := es.filter (·.task.id ≠ e.task.id)
  have left : others.Perm rest := represents.wf.filter_perm perm old
  refine ⟨(represents.wf.updateKey he due).1, rfl,
    enlist (·.task.due) { task := e.task.dueAt due, seq := h.nextSeq } others, ?_, ?_, ?_⟩
  · exact ((enlist_perm _ _ others).trans (left.cons _)).trans new.symm
  · refine pairwise_enlist (sorted.filter _) ?_
    intro x member
    exact represents.wf.stamped.below x (perm.mem_iff.mp (List.mem_filter.mp member).1)
  · rw [map_enlist Task.due Entry.task, map_filter_id, tasks]

/-- Taking the earliest task takes the first of the list. -/
theorem Represents.popMin (represents : h.Represents a) :
    h.popMin.2 = a.tasks.head? ∧ ∃ a', h.popMin.1.Represents a' ∧ a'.tasks = a.tasks.tail := by
  have top := represents.peek_eq
  cases he : h.slots[0]? with
  | none =>
    have none_ : h.popMin = (h, none) := removeAt_missing he
    have empty : a.tasks = [] := by
      rw [peek, get?, he] at top
      exact List.head?_eq_none_iff.mp top.symm
    rw [none_, empty]
    exact ⟨rfl, a, represents, empty⟩
  | some e =>
    obtain ⟨answer, _, _⟩ := represents.wf.removeAt he
    have removed := represents.removeAt he
    rw [(peek_eq_some_iff h e.task).mpr ⟨e, he, rfl⟩] at top
    refine ⟨answer.trans top, _, removed, ?_⟩
    obtain ⟨rest, split⟩ := List.head?_eq_some_iff.mp top.symm
    have ids : (a.tasks.map (·.id)).Nodup := by
      refine (represents.holds.shelf.map _).nodup_iff.mp ?_
      rw [represents.shelf]
      exact represents.wf.indexed.nodup_ids
    rw [split, List.map_cons, List.nodup_cons] at ids
    simp only [split, List.tail_cons, Agenda.without]
    rw [List.filter_cons_of_neg (by simp), List.filter_eq_self]
    intro t member
    simp only [decide_eq_true_eq]
    rintro same
    exact ids.1 (List.mem_map.mpr ⟨t, member, same⟩)

/-- Every call is served as the agenda may serve it. -/
theorem Represents.perform (represents : h.Represents a) {op : Op ω} (admitted : h.admits op) :
    ∃ a', a.Serves op (h.perform op).2 a' ∧ (h.perform op).1.Represents a' := by
  cases op with
  | insert t =>
    have absent : h.position t.id = none := Option.isNone_iff_eq_none.mp admitted
    have added := represents.insert absent
    refine ⟨_, ⟨?_, added.holds⟩, added⟩
    have there := (added.wf.indexed t.id _).mpr ⟨_, settled_insert h t, rfl⟩
    rw [← added.position_eq, there]
    rfl
  | popMin =>
    obtain ⟨answer, a', popped, tasks⟩ := represents.popMin
    refine ⟨a', ⟨congrArg Answer.task answer, ?_⟩, popped⟩
    rw [← tasks]
    exact popped.holds
  | removeAt pos =>
    have shown : a.shelf[pos]? = h.slots[pos]?.map (·.task) := by
      rw [represents.shelf, ← get?_eq, get?]
    simp only [Agenda.Serves, shown]
    cases he : h.slots[pos]? with
    | none =>
      rw [Heap.perform, removeAt_missing he]
      exact ⟨a, ⟨rfl, rfl⟩, represents⟩
    | some e =>
      have removed := represents.removeAt he
      exact ⟨_, ⟨congrArg Answer.task (represents.wf.removeAt he).1, removed.holds⟩, removed⟩
  | updateKey pos due =>
    have shown : a.shelf[pos]? = h.slots[pos]?.map (·.task) := by
      rw [represents.shelf, ← get?_eq, get?]
    simp only [Agenda.Serves, shown]
    cases he : h.slots[pos]? with
    | none =>
      have out : h.updateKey pos due = ({ h with nextSeq := h.nextSeq + 1 }, none) := by
        simp only [Heap.updateKey, he]
      have bumped : ({ h with nextSeq := h.nextSeq + 1 } : Heap ω).WellFormed :=
        ⟨represents.wf.ordered, represents.wf.indexed,
          fun e member => Nat.lt_succ_of_lt (represents.wf.stamped.below e member),
          represents.wf.stamped.distinct⟩
      rw [Heap.perform, out]
      exact ⟨a, ⟨rfl, rfl⟩, bumped, represents.shelf, represents.listed⟩
    | some e =>
      have moved := represents.updateKey he due
      obtain ⟨settled, answer, there⟩ := settled_updateKey he due
      refine ⟨_, ⟨?_, moved.holds⟩, moved⟩
      have found := (moved.wf.indexed e.task.id settled).mpr ⟨_, there, rfl⟩
      rw [← moved.position_eq, found]
      exact congrArg Answer.slot answer
  | peek => exact ⟨a, ⟨congrArg Answer.task represents.peek_eq, rfl⟩, represents⟩
  | get pos =>
    refine ⟨a, ⟨?_, rfl⟩, represents⟩
    rw [represents.shelf, ← get?_eq]
    rfl
  | position id => exact ⟨a, ⟨congrArg Answer.slot (represents.position_eq id), rfl⟩, represents⟩
  | size => exact ⟨a, ⟨congrArg Answer.count represents.length_eq.symm, rfl⟩, represents⟩
  | drain =>
    refine ⟨{}, ⟨congrArg Answer.tasks represents.shelf.symm, rfl⟩, ⟨?_, ?_, ?_⟩, rfl, [], .rfl,
      .nil, rfl⟩
    · intro i _ x y hx _
      simp [Heap.perform, Heap.drain] at hx
    · intro id pos
      simp [Heap.perform, Heap.drain, position]
    · exact ⟨by simp [Heap.perform, Heap.drain], by simp [Heap.perform, Heap.drain]⟩

theorem Represents.run (represents : h.Represents a) {ops : List (Op ω)}
    (admitted : h.admitsAll ops) :
    ∃ a', Agenda.Run a ops (h.run ops).2 a' ∧ (h.run ops).1.Represents a' := by
  induction ops generalizing h a with
  | nil => exact ⟨a, .done a, represents⟩
  | cons op rest ih =>
    obtain ⟨first, others⟩ := Bool.and_eq_true_iff.mp admitted
    obtain ⟨b, served, next⟩ := represents.perform first
    obtain ⟨c, ran, final⟩ := ih next others
    exact ⟨c, .call served ran, final⟩

theorem Represents.popAll (represents : h.Represents a) : h.popAll = a.tasks := by
  generalize tasks : a.tasks = list
  induction list generalizing h a with
  | nil =>
    have answer := represents.popMin.1
    rw [tasks] at answer
    rw [Heap.popAll]
    split
    · rfl
    next rest t popped =>
      rw [popped] at answer
      cases answer
  | cons t rest ih =>
    obtain ⟨answer, a', next, others⟩ := represents.popMin
    rw [tasks] at answer others
    rw [Heap.popAll]
    split
    next popped =>
      rw [popped] at answer
      cases answer
    next after u popped =>
      rw [popped] at answer next
      cases answer
      rw [ih next others]

theorem Represents.sorted (represents : h.Represents a) :
    a.tasks.Pairwise (·.due ≤ ·.due) := by
  obtain ⟨es, _, sorted, tasks⟩ := represents.listed
  rw [← tasks, List.pairwise_map]
  refine sorted.imp ?_
  intro x y before
  exact Entry.due_le (Entry.le_of_before before)

end

theorem perform_nextSeq (h : Heap ω) (op : Op ω) :
    (h.perform op).1.nextSeq = h.nextSeq + if op.stamps then 1 else 0 := by
  cases op with
  | insert t => exact insert_nextSeq h t
  | updateKey pos due => exact updateKey_nextSeq h pos due
  | removeAt pos => exact removeAt_nextSeq h pos
  | popMin => exact removeAt_nextSeq h 0
  | _ => rfl

theorem run_nextSeq (h : Heap ω) (ops : List (Op ω)) :
    (h.run ops).1.nextSeq = h.nextSeq + ops.countP (·.stamps) := by
  induction ops generalizing h with
  | nil => rfl
  | cons op rest ih =>
    simp only [Heap.run, ih, perform_nextSeq, List.countP_cons]
    omega

/-- Whatever is asked of a new heap, as long as no stored id is inserted again, it answers as an
agenda may answer, and the agenda is then what the heap yields when the earliest task is taken
again and again: a list in order of due times. As many sequence numbers are given out as keys were
assigned. -/
theorem run_refines_agenda (ops : List (Op ω)) (admitted : ({} : Heap ω).admitsAll ops) :
    ∃ a : Agenda ω, Agenda.Run {} ops (({} : Heap ω).run ops).2 a ∧
      a.tasks.Pairwise (·.due ≤ ·.due) ∧ (({} : Heap ω).run ops).1.popAll = a.tasks ∧
      (({} : Heap ω).run ops).1.nextSeq = ops.countP (·.stamps) := by
  obtain ⟨a, ran, represents⟩ := represents_empty.run admitted
  refine ⟨a, ran, represents.sorted, represents.popAll, ?_⟩
  rw [run_nextSeq]
  exact Nat.zero_add _

/-- Of four tasks due at the same instant the third is taken out of its slot and the first re-keyed
to that instant again, as is a slot past the end. -/
def tiedCalls : List (Op Unit) :=
  ["a", "b", "c", "d"].map (fun id => .insert { id, due := 5, interval := 1, work := () }) ++
    [.removeAt 2, .updateKey 0 5, .updateKey 9 5, .position "a", .popMin, .size]

/-- The re-keyed task goes behind its ties. -/
theorem rekeyed_task_leaves_last :
    ({} : Heap Unit).admitsAll tiedCalls ∧ ∃ a : Agenda Unit,
      Agenda.Run {} tiedCalls (({} : Heap Unit).run tiedCalls).2 a ∧
        a.tasks.map (·.id) = ["d", "a"] ∧
        (({} : Heap Unit).run tiedCalls).1.nextSeq = 6 := by
  have admitted : ({} : Heap Unit).admitsAll tiedCalls := by decide +kernel
  obtain ⟨a, ran, _, order, stamps⟩ := run_refines_agenda tiedCalls admitted
  refine ⟨admitted, a, ran, ?_, stamps.trans (by decide +kernel)⟩
  rw [← order]
  decide +kernel

end Heap

end Vigil
