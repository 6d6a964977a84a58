import Vigil.Proofs.Queue.Outline

/-!
# Adding a task, or moving the one that is there

A queue is given a task and, if the id is queued already, moves the queued task to the new due time.
It does so in one step. The longer way takes two: add the task, and only if it is refused because
its id is queued, move the queued one. If nobody comes between the two steps, both ways leave the
same entries in the same slots, wake the same consumers and answer the same
(`upsert_eq_pushOrUpdate`).

What becomes of a row of such calls for one id is told by the outline of the queue: entering a task
takes whatever was entered under its id before out again (`Outline.enter_enter`).
-/
namespace Vigil

variable {ω : Type}

namespace Agenda

/-- Where a task is put in a sorted list: behind everything that is due no later. -/
theorem exists_enlist (t : Task ω) {tasks : List (Task ω)}
    (sorted : tasks.Pairwise (·.due ≤ ·.due)) :
    ∃ ahead behind, enlist (·.due) t tasks = ahead ++ t :: behind ∧ ahead ++ behind = tasks ∧
      (∀ u ∈ ahead, u.due ≤ t.due) ∧ ∀ u ∈ behind, t.due < u.due := by
  induction tasks with
  | nil => exact ⟨[], [], rfl, rfl, nofun, nofun⟩
  | cons u rest ih =>
    obtain ⟨first, others⟩ := List.pairwise_cons.mp sorted
    by_cases early : u.due ≤ t.due
    · obtain ⟨ahead, behind, listed, same, soon, late⟩ := ih others
      refine ⟨u :: ahead, behind, ?_, by rw [List.cons_append, same], ?_, late⟩
      · simp only [enlist, early, ↓reduceIte, listed, List.cons_append]
      · exact List.forall_mem_cons.mpr ⟨early, soon⟩
    · have later : ∀ v ∈ u :: rest, t.due < v.due := by
        intro v member
        rcases List.mem_cons.mp member with rfl | inside
        · omega
        · have no_sooner := first v inside
          omega
      exact ⟨[], u :: rest, enlist_of_lt later, rfl, nofun, later⟩

theorem find?_enlist {t : Task ω} {tasks : List (Task ω)} (free : ∀ u ∈ tasks, u.id ≠ t.id) :
    (enlist (·.due) t tasks).find? (·.id == t.id) = some t := by
  induction tasks with
  | nil => simp [enlist]
  | cons u rest ih =>
    obtain ⟨other, others⟩ := List.forall_mem_cons.mp free
    simp only [enlist]
    split
    · rw [List.find?_cons_of_neg (by simpa using other), ih others]
    · exact List.find?_cons_of_pos (by simp)

end Agenda

namespace Outline

variable {o : Outline ω}

theorem find?_enter (o : Outline ω) (t : Task ω) : (o.enter t).find? t.id = some t :=
  Agenda.find?_enlist fun _ member => (Agenda.mem_without.mp member).2

/-- The task that is entered last under an id is the one that counts. -/
theorem enter_enter {t u : Task ω} (named : u.id = t.id) : (o.enter t).enter u = o.enter u := by
  simp only [enter, named, Agenda.without_enlist_self rfl, Agenda.without_without, erase_erase]

/-- The record that stands for an id after it was upserted: the queued one, if there is one. -/
def standing (o : Outline ω) (t : Task ω) : Task ω := (o.find? t.id).getD t

theorem id_standing (o : Outline ω) (t : Task ω) : (o.standing t).id = t.id := by
  unfold standing
  cases found : o.find? t.id with
  | none => rfl
  | some old => exact by simpa using List.find?_some found

theorem after_upsert (open_ : o.closed = false) (t : Task ω) :
    o.after (.upsert t) = o.enter ((o.standing t).dueAt t.due) := by
  simp only [after, open_, Bool.false_eq_true, ↓reduceIte, standing]

/-- A row of upserts of one id keeps the first record and the last due time. -/
theorem foldl_upsert (open_ : o.closed = false) (first : Task ω) (others : List (Task ω))
    (named : ∀ t ∈ others, t.id = first.id) :
    ((first :: others).map Queue.Call.upsert).foldl after o =
      o.enter ((o.standing first).dueAt (others.getLastD first).due) := by
  induction others generalizing o first with
  | nil => exact after_upsert open_ first
  | cons second rest ih =>
    obtain ⟨same, alike⟩ := List.forall_mem_cons.mp named
    let entered : Task ω := (o.standing first).dueAt first.due
    have id_entered : entered.id = second.id := (o.id_standing first).trans same.symm
    have once : o.after (.upsert first) = o.enter entered := after_upsert open_ first
    have found : (o.enter entered).standing second = entered := by
      rw [standing, ← id_entered, find?_enter]
      rfl
    have rest_ := ih (o := o.enter entered) open_ second fun t member =>
      (alike t member).trans same.symm
    rw [List.map_cons, List.foldl_cons, once, rest_, found, List.getLastD_cons]
    exact enter_enter rfl

end Outline

namespace Queue

variable {q : Queue ω}

/-- An upsert leaves the queue open and its id queued. -/
theorem Sound.after_upsert (sound : q.Sound) (open_ : q.closed = false) (t : Task ω) :
    (q.after (.upsert t)).Sound ∧ (q.after (.upsert t)).closed = false ∧
      (q.after (.upsert t)).contains t.id = true := by
  have sound' := (sound.change (.upsert t)).sound sound
  have outline := sound.outline_after (.upsert t)
  rw [Outline.after_upsert open_] at outline
  refine ⟨sound', (congrArg Outline.closed outline).trans open_, ?_⟩
  rw [sound'.contains_eq, ← sound'.outline_find?, outline]
  have found := q.outline.find?_enter ((q.outline.standing t).dueAt t.due)
  have named : ((q.outline.standing t).dueAt t.due).id = t.id := q.outline.id_standing t
  rw [named] at found
  rw [found]
  rfl

end Queue

namespace Station

/-- Call the queue: what was accepted takes effect on the queue and on the consumers. -/
def perform {α : Type} (s : Station ω) :
    Except SchedulingError (Queue.Effect ω α) → Station ω × Except SchedulingError α
  | .ok e => (s.apply e, .ok e.answer)
  | .error why => (s, .error why)

def push (s : Station ω) (t : Task ω) : Station ω × Except SchedulingError Unit :=
  s.perform (s.queue.push t)

def update (s : Station ω) (id : String) (due : Int) : Station ω × Except SchedulingError Unit :=
  s.perform (s.queue.update id due)

def upsert (s : Station ω) (t : Task ω) : Station ω × Except SchedulingError Bool :=
  s.perform (s.queue.upsert t)

/-- Add a task. If it is refused as a duplicate, move the queued task of its id. -/
def pushOrUpdate (s : Station ω) (t : Task ω) : Station ω × Except SchedulingError Bool :=
  match s.push t with
  | (pushed, .ok ()) => (pushed, .ok true)
  | (refused, .error (.duplicateTask _)) =>
    let (moved, answer) := refused.update t.id t.due
    (moved, answer.map fun _ => false)
  | (refused, .error why) => (refused, .error why)

/-- Upsert one task after the other. -/
def upsertAll (s : Station ω) : List (Task ω) → Station ω × List (Except SchedulingError Bool)
  | [] => (s, [])
  | t :: rest =>
    let (s, answer) := s.upsert t
    let (s, answers) := s.upsertAll rest
    (s, answer :: answers)

variable {s : Station ω}

/-- Nobody comes between the two steps, so the id that was queued at the push is so at the update. -/
theorem upsert_eq (s : Station ω) (t : Task ω) : s.upsert t = s.pushOrUpdate t := by
  by_cases closed : s.queue.closed = true
  · have upserted : s.queue.upsert t = .error .queueClosed := by simp [Queue.upsert, closed]
    have pushed : s.queue.push t = .error .queueClosed := by simp [Queue.push, closed]
    simp only [upsert, pushOrUpdate, push, upserted, pushed, perform]
  · cases found : s.queue.heap.position t.id with
    | none =>
      let wakes := (s.queue.heap.insert t).2 == 0
      have upserted : s.queue.upsert t = .ok ⟨s.queue.place t, true, wakes⟩ := by
        simp only [Queue.upsert, if_neg closed, found]
        rfl
      have pushed : s.queue.push t = .ok ⟨s.queue.place t, (), wakes⟩ := by
        simp only [Queue.push, Queue.contains, if_neg closed, found, Option.isSome_none,
          Bool.false_eq_true, ↓reduceIte]
        rfl
      simp only [upsert, pushOrUpdate, push, upserted, pushed, perform]
      rfl
    | some pos =>
      let wakes := pos == 0 || (s.queue.heap.updateKey pos t.due).2 == some 0
      have upserted : s.queue.upsert t = .ok ⟨s.queue.rekey pos t.due, false, wakes⟩ := by
        simp only [Queue.upsert, if_neg closed, found]
        rfl
      have refused : s.queue.push t = .error (.duplicateTask t.id) := by
        simp [Queue.push, Queue.contains, closed, found]
      have updated : s.queue.update t.id t.due = .ok ⟨s.queue.rekey pos t.due, (), wakes⟩ := by
        simp only [Queue.update, if_neg closed, found]
        rfl
      simp only [upsert, pushOrUpdate, push, update, upserted, refused, updated, perform, Except.map]
      rfl

theorem upsert_true_iff (s : Station ω) (t : Task ω) :
    (s.upsert t).2 = .ok true ↔ (s.push t).2 = .ok () := by
  rw [upsert_eq, pushOrUpdate]
  split
  next pushed added => simp [added]
  next refused id duplicate =>
    cases moved : (refused.update t.id t.due).2 <;> simp [duplicate, moved, Except.map]
  next refused why _ failed => simp [failed]

theorem upsert_queue (s : Station ω) (t : Task ω) :
    (s.upsert t).1.queue = s.queue.after (.upsert t) := by
  simp only [upsert, Queue.after]
  cases s.queue.upsert t <;> rfl

theorem upsert_answer (open_ : s.queue.closed = false) (t : Task ω) :
    (s.upsert t).2 = .ok (!s.queue.contains t.id) := by
  simp only [upsert, Queue.upsert, Queue.contains, open_, Bool.false_eq_true, ↓reduceIte]
  cases s.queue.heap.position t.id <;> rfl

theorem upsertAll_queue (s : Station ω) (tasks : List (Task ω)) :
    (s.upsertAll tasks).1.queue = s.queue.run (tasks.map .upsert) := by
  induction tasks generalizing s with
  | nil => rfl
  | cons t rest ih =>
    simp only [upsertAll, ih, upsert_queue]
    rfl

/-- An id that is queued is not queued a second time. -/
theorem upsertAll_answers (sound : s.queue.Sound) (open_ : s.queue.closed = false) {id : String}
    (queued : s.queue.contains id = true) {tasks : List (Task ω)}
    (named : ∀ t ∈ tasks, t.id = id) :
    (s.upsertAll tasks).2 = tasks.map fun _ => .ok false := by
  induction tasks generalizing s with
  | nil => rfl
  | cons t rest ih =>
    obtain ⟨rfl, others⟩ := List.forall_mem_cons.mp named
    obtain ⟨sound', open', queued'⟩ := sound.after_upsert open_ t
    rw [← upsert_queue] at sound' open' queued'
    have answer := upsert_answer open_ t
    rw [queued] at answer
    simp only [upsertAll, answer, ih sound' open' queued' others, List.map_cons, Bool.not_true]

/-- Whatever happened at a queue, and whoever stands there. Upserting a task does what pushing it
does, and where it is refused as a duplicate then updating its due time: to the entries, slot by
slot and with their order among equal due times, to the ids in flight, to the consumers, whom it
wakes or not, and in its answer, which on a closed queue is the same refusal. It answers `true`
exactly if the push succeeds.

A row of upserts of one id at an open queue queues it unless it is queued, and never again. It ends
with one entry of the id, which has the record that stood for it at the beginning, or that of the
first of them, and the last due time. The entry stands behind all that are due no later; the others
stand as they did. -/
theorem upsert_eq_pushOrUpdate {s : Station ω} (reached : Reached s) :
    (∀ t, s.upsert t = s.pushOrUpdate t ∧
      ((s.upsert t).2 = .ok true ↔ (s.push t).2 = .ok ()) ∧
      (s.queue.closed = true → s.upsert t = (s, .error .queueClosed))) ∧
    ∀ (first : Task ω) (others : List (Task ω)), (∀ t ∈ others, t.id = first.id) →
      s.queue.closed = false →
        let last := others.getLastD first
        let entry := ((s.queue.find? first.id).getD first).dueAt last.due
        let after := s.upsertAll (first :: others)
        after.2 = .ok (!s.queue.contains first.id) :: others.map (fun _ => .ok false) ∧
          after.1.queue.copies first.id = 1 ∧ after.1.queue.find? first.id = some entry ∧
          first.id ∉ after.1.queue.inFlight ∧
          ∃ ahead behind, after.1.queue.heap.popAll = ahead ++ entry :: behind ∧
            ahead ++ behind = s.queue.heap.popAll.filter (·.id ≠ first.id) ∧
            (∀ t ∈ ahead, t.due ≤ last.due) ∧ ∀ t ∈ behind, last.due < t.due := by
  have sound := reached.alert.sound
  refine ⟨fun t => ⟨upsert_eq s t, upsert_true_iff s t, ?_⟩, ?_⟩
  · intro closed
    simp only [upsert, Queue.upsert, closed, ↓reduceIte, perform]
  · intro first others named open_ last entry after
    obtain ⟨sound', open', queued⟩ := sound.after_upsert open_ first
    have answers : after.2 = .ok (!s.queue.contains first.id) :: others.map fun _ => .ok false := by
      rw [← upsert_queue] at sound' open' queued
      simp only [after, upsertAll, upsert_answer open_, upsertAll_answers sound' open' queued named]
    have ran : after.1.queue = s.queue.run ((first :: others).map .upsert) := s.upsertAll_queue _
    have settled : after.1.queue.Sound := ran ▸ sound.run _
    have stands : entry = (s.queue.outline.standing first).dueAt last.due := by
      simp only [entry, Outline.standing, sound.outline_find?]
    have id_entry : entry.id = first.id := stands ▸ s.queue.outline.id_standing first
    have outline : after.1.queue.outline = s.queue.outline.enter entry := by
      rw [ran, sound.outline_run, Outline.foldl_upsert open_ first others named, stands]
    have found : after.1.queue.find? first.id = some entry := by
      rw [← settled.outline_find?, outline, ← id_entry]
      exact Outline.find?_enter _ entry
    have once : after.1.queue.copies first.id = 1 := by
      rw [settled.copies_eq, found]
      rfl
    have unclaimed : first.id ∉ after.1.queue.inFlight := by
      intro flying
      rw [settled.apart _ flying] at found
      cases found
    have agenda : after.1.queue.heap.popAll =
        enlist (·.due) entry (Agenda.without first.id s.queue.heap.popAll) := by
      have listed := congrArg Outline.agenda outline
      rw [Outline.enter, id_entry] at listed
      exact listed
    have sorted : (Agenda.without first.id s.queue.heap.popAll).Pairwise (·.due ≤ ·.due) :=
      sound.sorted.filter _
    obtain ⟨ahead, behind, parted, rest, sooner, later⟩ := Agenda.exists_enlist entry sorted
    exact ⟨answers, once, found, unclaimed, ahead, behind, agenda.trans parted, rest, sooner, later⟩

/-- Somebody waits for two tasks that are due at 5 ms. The first is upserted twice, to 9 ms and back
again: it is queued once, and now stands behind the other. -/
theorem tied_task_upserted_twice :
    ∃ s : Station Unit, s.consumers = [{ token := "a", wakeAt := some 5000000, woken := false }] ∧
      s.queue.heap.popAll.map (·.id) = ["x", "y"] ∧
      let late : Task Unit := { id := "x", due := 9000000, interval := 1000000, work := () }
      let soon : Task Unit := { id := "x", due := 5000000, interval := 1000000, work := () }
      s.upsert late = s.pushOrUpdate late ∧
        (s.upsertAll [late, soon]).2 = [.ok false, .ok false] ∧
        (s.upsertAll [late, soon]).1.queue.copies "x" = 1 ∧
        (s.upsertAll [late, soon]).1.queue.find? "x" = some soon ∧
        (s.upsertAll [late, soon]).1.queue.heap.popAll.map (·.id) = ["y", "x"] := by
  let x : Task Unit := { id := "x", due := 5000000, interval := 1000000, work := () }
  let y : Task Unit := { id := "y", due := 5000000, interval := 1000000, work := () }
  let late : Task Unit := { id := "x", due := 9000000, interval := 1000000, work := () }
  have new : Reached ({ now := 0 } : Station Unit) := .fresh 0
  have first := new.alert.sound.push_free (t := x) (by decide +kernel) (by decide +kernel)
  have one := new.step (.push x first)
  have second := one.alert.sound.push_free (t := y) (by decide +kernel) (by decide +kernel)
  have two := ((one.step (.push y second)).step (.join "a")).settle.1
  obtain ⟨same, rows⟩ := upsert_eq_pushOrUpdate two
  obtain ⟨answers, once, found, _⟩ := rows late [x] (by simp [late, x]) (by decide +kernel)
  refine ⟨_, by decide +kernel, by decide +kernel, (same late).1, ?_, once, ?_, by decide +kernel⟩
  · exact answers.trans (by decide +kernel)
  · exact found.trans (by decide +kernel)

end Station

end Vigil
