import Mathlib.Algebra.BigOperators.Group.Finset.Basic
import Mathlib.Algebra.Ring.Nat
import Vigil.Proofs.Queue.Diary

/-!
# Entries of a queue are conserved

What was put into a queue under an id was taken out by one consumer, taken out by a removal, thrown
away by a close, or is still there. The books are kept per id and without subtraction: each thing
booked moves as many entries into the queue as out of it and its rest (`Booked.conserves`), and a
whole diary adds these equations up.
-/
namespace Vigil

variable {ω : Type}

namespace Queue

namespace Receipt

/-- Whether an entry was put in under the id. -/
def inserts (id : String) (r : Receipt ω) : Bool := r.inserted?.any (·.id == id)

/-- Whether a consumer left with an entry of the id. -/
def pops (id : String) : Receipt ω → Bool
  | .popped t => t.id == id
  | _ => false

/-- Whether a removal took a queued entry of the id. -/
def withdraws (id : String) : Receipt ω → Bool
  | .removed other true => other == id
  | _ => false

/-- How many entries of the id a close threw away. -/
def discards (id : String) : Receipt ω → Nat
  | .closed discarded _ => (discarded.map (·.id)).count id
  | _ => 0

end Receipt

/-- The entries of the id that went out of the queue, on whatever way. -/
def outgoings (id : String) (receipts : List (Receipt ω)) : Nat :=
  receipts.countP (·.pops id) + receipts.countP (·.withdraws id) +
    (receipts.map (·.discards id)).sum

theorem outgoings_append (id : String) (first second : List (Receipt ω)) :
    outgoings id (first ++ second) = outgoings id first + outgoings id second := by
  simp only [outgoings, List.countP_append, List.map_append, List.sum_append]
  omega

theorem Sound.copies_place {q : Queue ω} (sound : q.Sound) {t : Task ω} (open_ : q.closed = false)
    (free : q.find? t.id = none) (id : String) :
    (q.place t).copies id = q.copies id + if t.id = id then 1 else 0 := by
  obtain ⟨after, finds⟩ := sound.place open_ free
  rw [after.copies_eq, sound.copies_eq, finds]
  split
  next same => simp [← same, free]
  next => rfl

theorem Sound.copies_rekey {q : Queue ω} (sound : q.Sound) {id : String} {pos : Nat} (due : Int)
    (found : q.heap.position id = some pos) (other : String) :
    (q.rekey pos due).copies other = q.copies other := by
  obtain ⟨after, old, there, finds⟩ := sound.rekey due found
  rw [after.copies_eq, sound.copies_eq, finds]
  split
  next same => simp [← same, there]
  next => rfl

theorem Sound.copies_remove {q : Queue ω} (sound : q.Sound) (id other : String) :
    (q.remove id).1.copies other + (if q.contains id = true ∧ id = other then 1 else 0) =
      q.copies other := by
  have gone := sound.remove id
  rw [gone.sound.copies_eq, sound.copies_eq, gone.finds, sound.contains_eq]
  by_cases same : id = other
  · subst same
    simp
  · simp [same]

theorem Sound.copies_take {q : Queue ω} (sound : q.Sound) {t : Task ω} (open_ : q.closed = false)
    (head : q.heap.peek = some t) (id : String) :
    (q.take t).copies id + (if t.id = id then 1 else 0) = q.copies id := by
  obtain ⟨_, after, there, finds⟩ := sound.take open_ head
  rw [after.copies_eq, sound.copies_eq, finds]
  split
  next same => simp [← same, there]
  next => rfl

/-- Whatever is booked moves entries into the queue and out of it, and makes or loses none. -/
theorem Booked.conserves {q r : Queue ω} (sound : q.Sound) {receipt : Option (Receipt ω)}
    (booked : q.Booked receipt r) (id : String) :
    receipt.toList.countP (·.inserts id) + q.copies id =
      outgoings id receipt.toList + r.copies id := by
  cases booked with
  | none => rfl
  | refused t => rfl
  | @placed receipt t open_ free kind =>
    have grown := sound.copies_place open_ free id
    have inserted : receipt.inserts id = (t.id == id) := by
      rcases kind with rfl | rfl | rfl <;> rfl
    have kept : outgoings id [receipt] = 0 := by
      rcases kind with rfl | rfl | rfl <;> rfl
    simp only [Option.toList_some, List.countP_singleton, inserted, kept, beq_iff_eq]
    omega
  | @rekeyed receipt other pos due found kind =>
    have same := sound.copies_rekey due found id
    have inserted : receipt.inserts id = false := by
      rcases kind with rfl | ⟨t, rfl, rfl⟩ <;> rfl
    have kept : outgoings id [receipt] = 0 := by
      rcases kind with rfl | ⟨t, rfl, rfl⟩ <;> rfl
    simp only [Option.toList_some, List.countP_singleton, inserted, kept, Bool.false_eq_true,
      ↓reduceIte]
    omega
  | removed other =>
    have shrunk := sound.copies_remove other id
    have withdrawn : (Receipt.removed other (q.contains other) : Receipt ω).withdraws id =
        decide (q.contains other = true ∧ other = id) := by
      cases there : q.contains other <;> simp [Receipt.withdraws, beq_eq_decide]
    have others : (Receipt.removed other (q.contains other) : Receipt ω).inserts id = false ∧
        (Receipt.removed other (q.contains other) : Receipt ω).pops id = false := ⟨rfl, rfl⟩
    simp only [Option.toList_some, outgoings, List.countP_singleton, withdrawn, others,
      List.map_singleton, Receipt.discards, List.sum_singleton, decide_eq_true_eq,
      Bool.false_eq_true, ↓reduceIte]
    omega
  | @taken t open_ head =>
    have shrunk := sound.copies_take open_ head id
    simp only [Option.toList_some, outgoings, List.countP_singleton, Receipt.inserts,
      Receipt.inserted?, Option.any_none, Receipt.pops, Receipt.withdraws, List.map_singleton,
      Receipt.discards, List.sum_singleton, beq_iff_eq, Bool.false_eq_true, ↓reduceIte]
    omega
  | closed =>
    have empty : q.close.1.copies id = 0 := by
      rw [copies, (close_queue q).2.1]
      rfl
    have all : (Receipt.closed q.heap.drain.2 q.close.2).discards id = q.copies id := rfl
    simp only [Option.toList_some, outgoings, List.countP_singleton, Receipt.inserts,
      Receipt.inserted?, Option.any_none, Receipt.pops, Receipt.withdraws, List.map_singleton,
      all, List.sum_singleton, Bool.false_eq_true, ↓reduceIte]
    omega

/-- A close answers the number of entries it throws away. -/
theorem Booked.close_answer {q r : Queue ω} {discarded : List (Task ω)} {count : Nat}
    (booked : q.Booked (some (.closed discarded count)) r) : count = discarded.length := by
  generalize answered : Receipt.closed discarded count = receipt at booked
  cases booked with
  | placed _ _ kind => rcases kind with rfl | rfl | rfl <;> cases answered
  | rekeyed _ kind => rcases kind with rfl | ⟨t, _, rfl⟩ <;> cases answered
  | closed =>
    cases answered
    rfl
  | _ => cases answered

end Queue

namespace Diary

open Queue

/-- Whatever was done at a queue, by however many consumers and callers: for every id, the accepted
insertions are as many as the pops that gave it, the removals that took a queued entry of it, the
entries of it that a close threw away and the one that may still be queued. And a close answers the
number of entries it throws away, over all ids. -/
theorem entries_conserved {d : Diary ω} (reached : d.Reached) :
    (∀ id, d.receipts.countP (·.inserts id) =
        d.receipts.countP (·.pops id) + d.receipts.countP (·.withdraws id) +
          (d.receipts.map (·.discards id)).sum +
            if d.station.queue.contains id then 1 else 0) ∧
      ∀ discarded count, Receipt.closed discarded count ∈ d.receipts →
        count = ∑ id ∈ (discarded.map (·.id)).toFinset,
          (Receipt.closed discarded count).discards id := by
  constructor
  · intro id
    have balance : d.receipts.countP (·.inserts id) =
        outgoings id d.receipts + d.station.queue.copies id := by
      refine reached.keeps (P := fun q h =>
        h.countP (·.inserts id) = outgoings id h + q.copies id) rfl ?_
      intro q r receipt h sound booked before
      have moved := booked.conserves sound id
      rw [outgoings_append, List.countP_append]
      omega
    rw [balance, outgoings, reached.sound.copies_eq, reached.sound.contains_eq]
  · intro discarded count noted
    have answer : count = discarded.length := by
      refine reached.keeps (P := fun _ h =>
        Receipt.closed discarded count ∈ h → count = discarded.length) (by simp) ?_ noted
      intro q r receipt h sound booked before noted
      rcases List.mem_append.mp noted with new | old
      · rw [Option.mem_toList] at new
        subst new
        exact booked.close_answer
      · exact before old
    rw [answer]
    simp only [Receipt.discards]
    rw [List.sum_toFinset_count_eq_length, List.length_map]

/-- Two consumers race for a task; the one that gets it hands it back. Another task is put in,
re-keyed and removed, and the queue is closed over the first. -/
theorem raced_task_conserved :
    ∃ d : Diary Unit, d.receipts.countP (·.inserts "x") = 2 ∧
      d.receipts.countP (·.pops "x") = 1 ∧ d.receipts.countP (·.withdraws "x") = 0 ∧
        (d.receipts.map (·.discards "x")).sum = 1 ∧ d.station.queue.contains "x" = false ∧
          d.receipts.countP (·.inserts "y") = 1 ∧ d.receipts.countP (·.withdraws "y") = 1 := by
  let x : Task Unit := { id := "x", due := 0, interval := 1000000, work := () }
  let y : Task Unit := { id := "y", due := 3000000, interval := 1000000, work := () }
  let d : Diary Unit := ({} : Diary Unit).run
    [.join "a", .join "b", .push x, .poll 1, .poll 0, .requeue (x.dueAt 1000000), .upsert y,
      .upsert (y.dueAt 2000000), .remove "y", .close]
  have reached : d.Reached := (Reached.fresh 0).run _
  have popped : d.receipts.countP (·.pops "x") = 1 := by decide +kernel
  have withdrawn : d.receipts.countP (·.withdraws "x") = 0 := by decide +kernel
  have discarded : (d.receipts.map (·.discards "x")).sum = 1 := by decide +kernel
  have gone : d.station.queue.contains "x" = false := by decide +kernel
  have inserted := (entries_conserved reached).1 "x"
  rw [popped, withdrawn, discarded, gone] at inserted
  exact ⟨d, inserted, popped, withdrawn, discarded, gone, by decide +kernel, by decide +kernel⟩

end Diary

end Vigil
