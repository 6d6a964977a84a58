import Vigil.Proofs.Heap.Agenda
import Vigil.Proofs.Queue.Calls

/-!
# What a queue comes to for its callers

How the tasks are arranged in the heap and which sequence numbers they carry is nobody's business.
What callers can tell of a queue is its outline: the tasks in the order in which they will leave,
the ids in flight, and whether it is closed. Every call does the same to the outline of a queue as
to the queue (`Sound.outline_after`), so queues of one outline stay of one outline.

Two outlines can also differ in a single id only. They do if they are the same once that id is
forgotten, and adding a task under it makes them the same again (`Outline.enter_forget`).
-/
namespace Vigil

variable {ω : Type}

/-! ### Sorted lists of tasks -/

namespace Agenda

theorem mem_without {id : String} {t : Task ω} {tasks : List (Task ω)} :
    t ∈ without id tasks ↔ t ∈ tasks ∧ t.id ≠ id := by
  simp [without]

theorem without_cons_self {id : String} {t : Task ω} (named : t.id = id) (rest : List (Task ω)) :
    without id (t :: rest) = without id rest :=
  List.filter_cons_of_neg (by simpa using named)

theorem without_cons {id : String} {t : Task ω} (other : t.id ≠ id) (rest : List (Task ω)) :
    without id (t :: rest) = t :: without id rest :=
  List.filter_cons_of_pos (by simpa using other)

@[simp] theorem without_without (id : String) (tasks : List (Task ω)) :
    without id (without id tasks) = without id tasks := by
  simp [without]

theorem without_comm (first second : String) (tasks : List (Task ω)) :
    without first (without second tasks) = without second (without first tasks) := by
  simp only [without, List.filter_filter, Bool.and_comm]

theorem without_eq_self {id : String} {tasks : List (Task ω)} (free : ∀ t ∈ tasks, t.id ≠ id) :
    without id tasks = tasks :=
  List.filter_eq_self.mpr fun t member => by simpa using free t member

theorem without_enlist_self {id : String} {t : Task ω} (named : t.id = id)
    (tasks : List (Task ω)) : without id (enlist (·.due) t tasks) = without id tasks := by
  induction tasks with
  | nil => exact without_cons_self named []
  | cons u rest ih =>
    simp only [enlist]
    split
    · by_cases same : u.id = id
      · rw [without_cons_self same, without_cons_self same, ih]
      · rw [without_cons same, without_cons same, ih]
    · exact without_cons_self named _

/-- In front of a list of later tasks a task is enlisted first. -/
theorem enlist_of_lt {t : Task ω} {tasks : List (Task ω)} (later : ∀ u ∈ tasks, t.due < u.due) :
    enlist (·.due) t tasks = t :: tasks := by
  cases tasks with
  | nil => rfl
  | cons u rest =>
    have first := later u List.mem_cons_self
    simp only [enlist]
    exact if_neg (by omega)

/-- Where a task goes in a sorted list does not depend on tasks that are taken out of it. -/
theorem without_enlist {id : String} {t : Task ω} (other : t.id ≠ id) {tasks : List (Task ω)}
    (sorted : tasks.Pairwise (·.due ≤ ·.due)) :
    without id (enlist (·.due) t tasks) = enlist (·.due) t (without id tasks) := by
  induction tasks with
  | nil => exact without_cons other []
  | cons u rest ih =>
    obtain ⟨first, others⟩ := List.pairwise_cons.mp sorted
    by_cases early : u.due ≤ t.due
    · simp only [enlist, early, ↓reduceIte]
      by_cases same : u.id = id
      · rw [without_cons_self same, without_cons_self same, ih others]
      · rw [without_cons same, without_cons same, ih others]
        simp only [enlist, early, ↓reduceIte]
    · have later : ∀ v ∈ without id (u :: rest), t.due < v.due := by
        intro v member
        rcases List.mem_cons.mp (mem_without.mp member).1 with rfl | inside
        · omega
        · have behind := first v inside
          omega
      simp only [enlist, early, ↓reduceIte]
      rw [without_cons other, enlist_of_lt later]

end Agenda

/-! ### Every well-formed heap is an agenda -/

namespace Heap

/-- The entries of a well-formed heap can be listed in order: no two have the same number. -/
theorem WellFormed.represents {h : Heap ω} (wf : h.WellFormed) : ∃ a, h.Represents a := by
  let earlier (x y : Entry ω) : Bool := !y.before x
  let es := h.slots.toList.mergeSort earlier
  have perm : es.Perm h.slots.toList := List.mergeSort_perm _ _
  have transitive : ∀ x y z, earlier x y = true → earlier y z = true → earlier x z = true := by
    intro x y z
    simp only [earlier, Bool.not_eq_true', ← Bool.not_eq_true, Entry.before_iff]
    omega
  have total : ∀ x y, (earlier x y || earlier y x) = true := by
    intro x y
    simp only [earlier, Bool.or_eq_true, Bool.not_eq_true', ← Bool.not_eq_true, Entry.before_iff]
    omega
  have ordered : es.Pairwise (earlier · · = true) :=
    List.pairwise_mergeSort transitive total h.slots.toList
  have numbers : es.Pairwise (·.seq ≠ ·.seq) := by
    have once : (es.map (·.seq)).Nodup := (perm.map (·.seq)).nodup_iff.mpr wf.stamped.distinct
    exact List.pairwise_map.mp once
  refine ⟨⟨es.map (·.task), h.tasks⟩, wf, rfl, es, perm, ?_, rfl⟩
  refine ordered.imp₂ (fun x y earlier_ different => ?_) numbers
  simp only [earlier, Bool.not_eq_true', ← Bool.not_eq_true, Entry.before_iff] at earlier_
  rw [Entry.before_iff]
  omega

end Heap

/-! ### Outlines -/

/-- The tasks of a queue in order of leaving, the ids in flight, and whether it is closed. -/
@[ext]
structure Outline (ω : Type) where
  agenda : List (Task ω) := []
  flying : Std.ExtTreeSet String := ∅
  closed : Bool := false

namespace Outline

variable {o p : Outline ω} {id : String}

def find? (o : Outline ω) (id : String) : Option (Task ω) := o.agenda.find? (·.id == id)

/-- A task becomes the only one of its id, behind everything that is due no later. -/
def enter (o : Outline ω) (t : Task ω) : Outline ω :=
  { o with
    agenda := enlist (·.due) t (Agenda.without t.id o.agenda)
    flying := o.flying.erase t.id }

def forget (o : Outline ω) (id : String) : Outline ω :=
  { o with agenda := Agenda.without id o.agenda, flying := o.flying.erase id }

/-- One look of a consumer. -/
def look (o : Outline ω) (now : Int) : Outline ω :=
  match o.agenda with
  | [] => o
  | t :: rest =>
    if o.closed || now < t.due then o
    else { o with agenda := rest, flying := o.flying.insert t.id }

def after (o : Outline ω) : Queue.Call ω → Outline ω
  | .push t => if o.closed || (o.find? t.id).isSome then o else o.enter t
  | .upsert t => if o.closed then o else o.enter (((o.find? t.id).getD t).dueAt t.due)
  | .update id due => if o.closed then o else (o.find? id).elim o fun t => o.enter (t.dueAt due)
  | .remove id => o.forget id
  | .requeue t => if o.closed || !o.flying.contains t.id then o else o.enter t
  | .close => { closed := true }
  | .look now => o.look now

/-- Calls other than `close` leave a queue as open as it was. -/
theorem closed_after {c : Queue.Call ω} (kept : c ≠ .close) : (o.after c).closed = o.closed := by
  cases c with
  | push t | upsert t | requeue t =>
    simp only [after]
    split <;> rfl
  | update id due =>
    simp only [after]
    split
    · rfl
    · cases o.find? id <;> rfl
  | remove id => rfl
  | close => exact absurd rfl kept
  | look now =>
    simp only [after, look]
    split
    · rfl
    · split <;> rfl

theorem mem_erase {ids : Std.ExtTreeSet String} {other : String} :
    other ∈ ids.erase id ↔ id ≠ other ∧ other ∈ ids := by
  simp [Std.ExtTreeSet.mem_erase]

theorem mem_insert {ids : Std.ExtTreeSet String} {other : String} :
    other ∈ ids.insert id ↔ id = other ∨ other ∈ ids := by
  simp [Std.ExtTreeSet.mem_insert]

theorem erase_erase (ids : Std.ExtTreeSet String) (id : String) :
    (ids.erase id).erase id = ids.erase id :=
  Std.ExtTreeSet.ext_mem fun other => by simp

theorem erase_comm (ids : Std.ExtTreeSet String) (first second : String) :
    (ids.erase first).erase second = (ids.erase second).erase first :=
  Std.ExtTreeSet.ext_mem fun other => by
    simp only [mem_erase]
    tauto

/-- What the outline said about an id does not matter once a task is entered under it. -/
theorem enter_forget {t : Task ω} (named : t.id = id) : (o.forget id).enter t = o.enter t := by
  subst named
  simp only [enter, forget, Agenda.without_without, erase_erase]

theorem forget_enter {t : Task ω} (named : t.id = id) : (o.enter t).forget id = o.forget id := by
  subst named
  simp only [enter, forget, Agenda.without_enlist_self, Agenda.without_without, erase_erase]

theorem forget_enter_of_ne {t : Task ω} (other : t.id ≠ id)
    (sorted : o.agenda.Pairwise (·.due ≤ ·.due)) :
    (o.enter t).forget id = (o.forget id).enter t := by
  have still : (Agenda.without t.id o.agenda).Pairwise (·.due ≤ ·.due) := sorted.filter _
  simp only [enter, forget]
  rw [Agenda.without_enlist other still, Agenda.without_comm, erase_comm]

theorem forget_forget : (o.forget id).forget id = o.forget id := by
  simp only [forget, Agenda.without_without, erase_erase]

theorem contains_forget_of_ne {other : String} (different : other ≠ id) :
    (o.forget id).flying.contains other = o.flying.contains other := by
  simp [forget, Std.ExtTreeSet.contains_erase, different.symm]

/-- Forgetting the id that is taken undoes the taking. -/
theorem forget_look_self {now : Int} {t : Task ω} {rest : List (Task ω)}
    (first : o.agenda = t :: rest) (named : t.id = id) : (o.look now).forget id = o.forget id := by
  subst named
  simp only [look, first]
  split
  · rfl
  · have marks : (o.flying.insert t.id).erase t.id = o.flying.erase t.id :=
      Std.ExtTreeSet.ext_mem fun other => by
        simp only [mem_erase, mem_insert]
        tauto
    simp only [forget, first, Agenda.without_cons_self, marks]

theorem forget_look_of_ne {now : Int} {t : Task ω} {rest : List (Task ω)}
    (first : o.agenda = t :: rest) (other : t.id ≠ id) :
    (o.look now).forget id = (o.forget id).look now := by
  have shown : (o.forget id).agenda = t :: Agenda.without id rest := by
    rw [forget, first]
    exact Agenda.without_cons other rest
  have marks : (o.flying.insert t.id).erase id = (o.flying.erase id).insert t.id :=
    Std.ExtTreeSet.ext_mem fun x => by
      simp only [mem_erase, mem_insert]
      grind
  have same : (o.forget id).closed = o.closed := rfl
  simp only [look, first, shown, same]
  split
  · rfl
  · simp only [forget, marks]

end Outline

namespace Queue

variable {q r : Queue ω}

def outline (q : Queue ω) : Outline ω := ⟨q.heap.popAll, q.inFlight, q.closed⟩

theorem Sound.represents (sound : q.Sound) :
    ∃ a, q.heap.Represents a ∧ a.tasks = q.outline.agenda := by
  obtain ⟨a, represents⟩ := sound.heap.represents
  exact ⟨a, represents, represents.popAll.symm⟩

theorem Sound.sorted (sound : q.Sound) : q.outline.agenda.Pairwise (·.due ≤ ·.due) := by
  obtain ⟨a, represents, agenda⟩ := sound.represents
  exact agenda ▸ represents.sorted

theorem Sound.mem_agenda (sound : q.Sound) (t : Task ω) :
    t ∈ q.outline.agenda ↔ t ∈ q.heap.tasks := by
  obtain ⟨a, represents, agenda⟩ := sound.represents
  rw [← agenda, ← represents.holds.shelf.mem_iff, represents.shelf]

theorem Sound.outline_find? (sound : q.Sound) (id : String) :
    q.outline.find? id = q.find? id := by
  obtain ⟨a, represents, agenda⟩ := sound.represents
  have perm : q.heap.tasks.Perm q.outline.agenda := by
    rw [← agenda, ← represents.shelf]
    exact represents.holds.shelf
  exact (sound.heap.indexed.find?_eq perm id).symm

theorem Sound.peek_eq (sound : q.Sound) : q.heap.peek = q.outline.agenda.head? := by
  obtain ⟨a, represents, agenda⟩ := sound.represents
  exact agenda ▸ represents.peek_eq

theorem Sound.agenda_free (sound : q.Sound) {id : String} (free : q.find? id = none) :
    Agenda.without id q.outline.agenda = q.outline.agenda :=
  Agenda.without_eq_self fun t member named => by
    rw [sound.find?_eq_some_iff.mpr ⟨(sound.mem_agenda t).mp member, named⟩] at free
    cases free

/-- A queued id is not in flight, so it has no mark to lose. -/
theorem Sound.erase_queued (sound : q.Sound) {t : Task ω} {id : String}
    (found : q.find? id = some t) : q.inFlight.erase id = q.inFlight :=
  Std.ExtTreeSet.ext_mem fun other => by
    refine Outline.mem_erase.trans ⟨And.right, fun flying => ⟨?_, flying⟩⟩
    rintro rfl
    rw [sound.apart id flying] at found
    cases found

theorem Sound.outline_place (sound : q.Sound) {t : Task ω} (free : q.find? t.id = none) :
    (q.place t).outline = q.outline.enter t := by
  obtain ⟨a, represents, agenda⟩ := sound.represents
  have added := (represents.insert ((sound.position_eq_none_iff t.id).mpr free)).popAll
  refine Outline.ext ?_ rfl rfl
  rw [Outline.enter, sound.agenda_free free, ← agenda]
  exact added

theorem Sound.outline_rekey (sound : q.Sound) {id : String} {pos : Nat} {old : Task ω} (due : Int)
    (found : q.heap.position id = some pos) (there : q.find? id = some old) :
    (q.rekey pos due).outline = q.outline.enter (old.dueAt due) := by
  obtain ⟨a, represents, agenda⟩ := sound.represents
  obtain ⟨e, he, named⟩ := (sound.heap.indexed id pos).mp found
  have same : old = e.task := by
    have stored : e.task ∈ q.heap.tasks := (Heap.mem_tasks_iff q.heap _).mpr ⟨pos, e, he, rfl⟩
    rw [sound.find?_eq_some_iff.mpr ⟨stored, named⟩] at there
    exact (Option.some.inj there).symm
  have moved := (represents.updateKey he due).popAll
  subst same
  refine Outline.ext ?_ ?_ rfl
  · simp only [Outline.enter, ← agenda]
    exact moved
  · have marks := sound.erase_queued there
    rw [← named] at marks
    exact marks.symm

theorem Sound.outline_take (sound : q.Sound) {t : Task ω} (head : q.heap.peek = some t) :
    q.outline.agenda = t :: (q.take t).outline.agenda := by
  obtain ⟨a, represents, agenda⟩ := sound.represents
  obtain ⟨answer, a', next, tail⟩ := represents.popMin
  have rest : (q.take t).outline.agenda = q.outline.agenda.tail := by
    rw [← agenda, ← tail]
    exact next.popAll
  rw [rest]
  rw [sound.peek_eq] at head
  exact (List.cons_head?_tail head).symm

theorem Sound.outline_remove (sound : q.Sound) (id : String) :
    (q.remove id).1.outline = q.outline.forget id := by
  obtain ⟨a, represents, agenda⟩ := sound.represents
  cases found : q.heap.position id with
  | none =>
    have free := (sound.position_eq_none_iff id).mp found
    simp only [Queue.remove, found, outline, Outline.forget]
    congr 1
    exact (sound.agenda_free free).symm
  | some pos =>
    obtain ⟨e, he, rfl⟩ := (sound.heap.indexed id pos).mp found
    have stored : e.task ∈ q.heap.tasks := (Heap.mem_tasks_iff q.heap _).mpr ⟨pos, e, he, rfl⟩
    have there := sound.find?_eq_some_iff.mpr ⟨stored, rfl⟩
    have removed := (represents.removeAt he).popAll
    simp only [Queue.remove, found, outline, Outline.forget, removed, sound.erase_queued there]
    rw [agenda]
    rfl

theorem Sound.outline_close (sound : q.Sound) : q.close.1.outline = { closed := true } := by
  obtain ⟨closed, empty, _, none_⟩ := close_queue q
  have gone : q.close.1.outline.agenda = [] :=
    List.eq_nil_iff_forall_not_mem.mpr fun t member => by
      have inside := (sound.close.mem_agenda t).mp member
      rw [empty] at inside
      cases inside
  have marks : q.close.1.inFlight = ∅ := rfl
  simp only [outline] at gone ⊢
  rw [gone, marks, closed]

/-- A call does to the outline of a queue what it does to the queue. -/
theorem Sound.outline_after (sound : q.Sound) (c : Call ω) :
    (q.after c).outline = q.outline.after c := by
  have closed_ : q.outline.closed = q.closed := rfl
  have flying_ : q.outline.flying = q.inFlight := rfl
  cases c with
  | push t =>
    simp only [Outline.after, sound.outline_find?, closed_]
    cases pushed : q.push t with
    | error why =>
      have refused : (q.closed || (q.find? t.id).isSome) = true := by
        rw [← sound.contains_eq]
        unfold push at pushed
        grind
      simp only [after, pushed, accept, refused, ↓reduceIte]
    | ok e =>
      obtain ⟨open_, free, rfl⟩ := push_ok sound pushed
      simp only [after, pushed, accept, open_, free, Option.isSome_none, Bool.or_self,
        Bool.false_eq_true, ↓reduceIte]
      exact sound.outline_place free
  | upsert t =>
    simp only [Outline.after, sound.outline_find?, closed_]
    cases added : q.upsert t with
    | error why =>
      have refused : q.closed = true := by
        unfold upsert at added
        grind
      simp only [after, added, accept, refused, ↓reduceIte]
    | ok e =>
      obtain ⟨open_, ⟨free, rfl⟩ | ⟨pos, found, rfl⟩⟩ := upsert_ok sound added
      · simp only [after, added, accept, open_, free, Bool.false_eq_true, ↓reduceIte]
        exact sound.outline_place free
      · obtain ⟨_, old, there, _⟩ := sound.rekey t.due found
        simp only [after, added, accept, open_, there, Bool.false_eq_true, ↓reduceIte]
        exact sound.outline_rekey t.due found there
  | update id due =>
    simp only [Outline.after, sound.outline_find?, closed_]
    cases moved : q.update id due with
    | error why =>
      have refused : q.closed = true ∨ q.find? id = none := by
        rw [← sound.position_eq_none_iff]
        unfold update at moved
        grind
      rcases refused with closed | absent
      · simp only [after, moved, accept, closed, ↓reduceIte]
      · simp only [after, moved, accept, absent, Option.elim_none, ite_self]
    | ok e =>
      obtain ⟨open_, pos, found, rfl⟩ := update_ok moved
      obtain ⟨_, old, there, _⟩ := sound.rekey due found
      simp only [after, moved, accept, open_, there, Bool.false_eq_true, ↓reduceIte,
        Option.elim_some]
      exact sound.outline_rekey due found there
  | remove id => exact sound.outline_remove id
  | requeue t =>
    simp only [Outline.after, closed_, flying_]
    cases returned : q.requeue t with
    | error why =>
      simp only [after, returned, accept, requeue_error returned, Bool.true_or, ↓reduceIte]
    | ok e =>
      obtain ⟨open_, ⟨absent, rfl⟩ | ⟨flying, free, rfl⟩⟩ := requeue_ok sound returned
      · rw [Std.ExtTreeSet.mem_iff_contains, Bool.not_eq_true] at absent
        simp only [after, returned, accept, absent, Bool.not_false, Bool.or_true, ↓reduceIte]
      · rw [Std.ExtTreeSet.mem_iff_contains] at flying
        simp only [after, returned, accept, open_, flying, Bool.not_true, Bool.or_self,
          Bool.false_eq_true, ↓reduceIte]
        exact sound.outline_place free
  | close => exact sound.outline_close
  | look now =>
    have top := sound.peek_eq
    simp only [Outline.after, Outline.look, closed_]
    cases looked : q.glance now with
    | closed =>
      have closed := glance_closed.mp looked
      simp only [after, looked, closed, Bool.true_or, ↓reduceIte]
      split <;> rfl
    | sleep wakeAt =>
      obtain ⟨open_, _, later⟩ := glance_sleep sound looked
      simp only [after, looked]
      split
      next => rfl
      next t rest listed =>
        rw [listed] at top
        have notDue := later t top
        simp [notDue]
    | taken t rest =>
      obtain ⟨open_, head, due, rfl⟩ := glance_taken sound looked
      have listed := sound.outline_take head
      have notLater : ¬ now < t.due := by omega
      simp only [after, looked, listed, open_, notLater, decide_false, Bool.or_self,
        Bool.false_eq_true, ↓reduceIte]
      exact Outline.ext rfl rfl open_

/-- Whatever is called, queues of one outline stay of one outline. -/
theorem Sound.outline_run (sound : q.Sound) (calls : List (Call ω)) :
    (q.run calls).outline = calls.foldl Outline.after q.outline := by
  induction calls generalizing q with
  | nil => rfl
  | cons c rest ih =>
    have next := ih ((sound.change c).sound sound)
    rw [sound.outline_after] at next
    exact next

end Queue

end Vigil
