import Mathlib.Data.List.Nodup
import Vigil.Proofs.Queue.Diary

/-!
# Tasks leave a queue on time and in order

The heap breaks ties by sequence numbers, which no caller sees. What callers see is who put in or
re-keyed what, and when: the sequence number of a queued task counts the keyings up to the last one
of its id (`Dated`), so the order of the heap is the order of due times and then of keyings.
-/
namespace Vigil

variable {ω : Type}

namespace Queue

/-- The ids whose tasks were put in or re-keyed, the newest first. -/
def keyings (receipts : List (Receipt ω)) : List String := receipts.filterMap Receipt.keyed?

/-- `t` is due before `u`, or at the same time and was put in or re-keyed before `u` was. -/
def Precedes (receipts : List (Receipt ω)) (t u : Task ω) : Prop :=
  t.due < u.due ∨
    t.due = u.due ∧ (keyings receipts).idxOf u.id < (keyings receipts).idxOf t.id

/-- The sequence number of a queued task is the number of keyings before the last one of its id. -/
def Dated (q : Queue ω) (receipts : List (Receipt ω)) : Prop :=
  ∀ e ∈ q.heap.slots.toList,
    e.seq + (keyings receipts).idxOf e.task.id + 1 = q.heap.nextSeq

namespace Dated

variable {q r : Queue ω} {receipts : List (Receipt ω)}

/-- Fewer entries under the same counter. -/
theorem fewer (dated : Dated q receipts) (next : r.heap.nextSeq = q.heap.nextSeq)
    (less : ∀ e ∈ r.heap.slots.toList, e ∈ q.heap.slots.toList) : Dated r receipts := by
  intro e member
  rw [next]
  exact dated e (less e member)

/-- One entry is stamped, and its id is noted as the newest. -/
theorem stamp (dated : Dated q receipts) {t : Task ω} {rest : List (Heap.Entry ω)}
    {receipt : Receipt ω} (keyed : receipt.keyed? = some t.id)
    (next : r.heap.nextSeq = q.heap.nextSeq + 1)
    (entries : r.heap.slots.toList.Perm ({ task := t, seq := q.heap.nextSeq } :: rest))
    (kept : ∀ e ∈ rest, e ∈ q.heap.slots.toList) (others : ∀ e ∈ rest, e.task.id ≠ t.id) :
    Dated r (receipt :: receipts) := by
  have newest : keyings (receipt :: receipts) = t.id :: keyings receipts :=
    List.filterMap_cons_some keyed
  intro e member
  rw [newest, next]
  rcases List.mem_cons.mp (entries.mem_iff.mp member) with rfl | old
  · rw [List.idxOf_cons_self]
  · rw [List.idxOf_cons_ne _ (others e old).symm, ← dated e (kept e old)]
    omega

end Dated

theorem Sound.dated_place {q : Queue ω} (sound : q.Sound) {t : Task ω}
    (free : q.find? t.id = none) {receipt : Receipt ω} {receipts : List (Receipt ω)}
    (keyed : receipt.keyed? = some t.id) (dated : Dated q receipts) :
    Dated (q.place t) (receipt :: receipts) := by
  refine dated.stamp keyed (Heap.insert_nextSeq q.heap t) (Heap.insert_perm q.heap t)
    (fun e member => member) ?_
  intro e member same
  have queued : e.task ∈ q.heap.tasks := List.mem_map_of_mem member
  rw [sound.find?_eq_some_iff.mpr ⟨queued, same⟩] at free
  cases free

theorem Sound.dated_rekey {q : Queue ω} (sound : q.Sound) {id : String} {pos : Nat} (due : Int)
    (found : q.heap.position id = some pos) {receipt : Receipt ω} {receipts : List (Receipt ω)}
    (keyed : receipt.keyed? = some id) (dated : Dated q receipts) :
    Dated (q.rekey pos due) (receipt :: receipts) := by
  obtain ⟨e, he, rfl⟩ := (sound.heap.indexed id pos).mp found
  obtain ⟨rest, old, new⟩ := Heap.updateKey_perm he due
  refine dated.stamp (t := e.task.dueAt due) keyed (Heap.updateKey_nextSeq q.heap pos due) new
    (fun other member => old.mem_iff.mpr (List.mem_cons_of_mem e member)) ?_
  intro other member same
  have ids : (q.heap.tasks.map (·.id)).Perm ((e :: rest).map (·.task.id)) := by
    simpa [Heap.tasks, Function.comp_def] using old.map (·.task.id)
  have once := (List.nodup_cons.mp (ids.nodup_iff.mp sound.heap.indexed.nodup_ids)).1
  exact once (List.mem_map.mpr ⟨other, member, same⟩)

theorem mem_slots_removeAt {h : Heap ω} {pos : Nat} {e : Heap.Entry ω}
    (member : e ∈ (h.removeAt pos).1.slots.toList) : e ∈ h.slots.toList := by
  cases he : h.slots[pos]? with
  | none =>
    rw [Heap.removeAt_missing he] at member
    exact member
  | some removed => exact (Heap.removeAt_perm he).mem_iff.mpr (List.mem_cons_of_mem _ member)

/-- Whatever is booked keeps the stamps. -/
theorem Dated.booked {q r : Queue ω} (sound : q.Sound) {receipt : Option (Receipt ω)}
    {receipts : List (Receipt ω)} (booked : q.Booked receipt r) (dated : Dated q receipts) :
    Dated r (receipt.toList ++ receipts) := by
  cases booked with
  | none => exact dated
  | refused t => exact dated
  | @placed receipt t open_ free kind =>
    refine sound.dated_place free ?_ dated
    rcases kind with rfl | rfl | rfl <;> rfl
  | @rekeyed receipt id pos due found kind =>
    refine sound.dated_rekey due found ?_ dated
    rcases kind with rfl | ⟨t, rfl, rfl⟩ <;> rfl
  | removed id =>
    have less : Dated (q.remove id).1 receipts := by
      simp only [Queue.remove]
      split
      next pos found =>
        exact dated.fewer (Heap.removeAt_nextSeq q.heap pos) fun e => mem_slots_removeAt
      next => exact dated
    exact less
  | @taken t open_ head =>
    have less : Dated (q.take t) receipts :=
      dated.fewer (Heap.removeAt_nextSeq q.heap 0) fun e => mem_slots_removeAt
    exact less
  | closed =>
    intro e member
    simp [Queue.close, Heap.drain] at member

/-- The root of a dated heap comes before everything else that is queued. -/
theorem Dated.precedes {q : Queue ω} {receipts : List (Receipt ω)} (dated : Dated q receipts)
    (sound : q.Sound) {t u : Task ω} (head : q.heap.peek = some t) (queued : u ∈ q.heap.tasks)
    (other : t.id ≠ u.id) : Precedes receipts t u := by
  obtain ⟨root, hroot, rfl⟩ := (Heap.peek_eq_some_iff q.heap t).mp head
  obtain ⟨pos, e, he, rfl⟩ := (Heap.mem_tasks_iff q.heap u).mp queued
  have first := (Heap.Entry.le_iff root e).mp (sound.heap.ordered.root_le hroot he)
  have stamps := dated root (Array.mem_toList_iff.mpr (Array.mem_of_getElem? hroot))
  have stamps' := dated e (Array.mem_toList_iff.mpr (Array.mem_of_getElem? he))
  have apart : root.seq ≠ e.seq := by
    intro same
    have one := List.inj_on_of_nodup_map sound.heap.stamped.distinct
      (Array.mem_toList_iff.mpr (Array.mem_of_getElem? hroot))
      (Array.mem_toList_iff.mpr (Array.mem_of_getElem? he)) same
    exact other (congrArg (·.task.id) one)
  rw [Precedes]
  omega

/-! ### What stays queued -/

/-- Whether the receipt is of something that takes the queued task of this id away or moves it. -/
def Receipt.unsettles (id : String) : Receipt ω → Bool
  | .pushed t | .upserted t _ | .requeued t true | .popped t => t.id == id
  | .updated other _ | .removed other true => other == id
  | .requeued _ false | .removed _ false => false
  | .closed .. => true

/-- Nothing else takes or moves a queued task. -/
theorem Booked.find?_eq {q r : Queue ω} (sound : q.Sound) {receipt : Option (Receipt ω)}
    (booked : q.Booked receipt r) {id : String} {x : Task ω} (queued : q.find? id = some x)
    (settled : ∀ known ∈ receipt, known.unsettles id = false) : r.find? id = some x := by
  cases booked with
  | none | refused => exact queued
  | @placed receipt t open_ free kind =>
    rw [(sound.place open_ free).2]
    split
    next same =>
      rw [same, queued] at free
      cases free
    next => exact queued
  | @rekeyed receipt other pos due found kind =>
    obtain ⟨_, old, _, finds⟩ := sound.rekey due found
    have apart : other ≠ id := by
      rcases kind with rfl | ⟨t, rfl, rfl⟩ <;> simpa [Receipt.unsettles] using settled _ rfl
    rw [finds, if_neg apart]
    exact queued
  | removed other =>
    rw [(sound.remove other).finds]
    split
    next same =>
      subst same
      have there : q.contains other = true := by
        rw [sound.contains_eq, queued]
        rfl
      simpa [Receipt.unsettles, there] using settled _ rfl
    next => exact queued
  | @taken t open_ head =>
    have apart : t.id ≠ id := by simpa [Receipt.unsettles] using settled _ rfl
    rw [(sound.take open_ head).2.2.2, if_neg apart]
    exact queued
  | closed => simpa [Receipt.unsettles] using settled _ rfl

end Queue

namespace Diary

open Queue

/-- A diary is only ever added to. -/
theorem exists_news (d : Diary ω) (acts : List (Station.Act ω)) :
    ∃ news, (d.run acts).receipts = news ++ d.receipts := by
  induction acts generalizing d with
  | nil => exact ⟨[], rfl⟩
  | cons a rest ih =>
    obtain ⟨news, grown⟩ := ih (d.step a)
    exact ⟨news ++ (d.station.act a).2.toList, by rw [run_cons, grown, step, List.append_assoc]⟩

theorem Reached.find?_step {d : Diary ω} (reached : d.Reached) (a : Station.Act ω) {id : String}
    {x : Task ω} (queued : d.station.queue.find? id = some x)
    (settled : ∀ known ∈ (d.station.act a).2, known.unsettles id = false) :
    (d.step a).station.queue.find? id = some x := by
  rcases d.station.act_queue a with ⟨queue, _⟩ | ⟨c, queue, receipt⟩
  · rw [Diary.step, queue]
    exact queued
  · rw [receipt] at settled
    rw [Diary.step, queue]
    exact (reached.sound.booked c).find?_eq reached.sound queued settled

theorem Reached.find?_run {d : Diary ω} (reached : d.Reached) {acts : List (Station.Act ω)}
    {news : List (Receipt ω)} (grown : (d.run acts).receipts = news ++ d.receipts) {id : String}
    {x : Task ω} (queued : d.station.queue.find? id = some x)
    (settled : ∀ known ∈ news, known.unsettles id = false) :
    (d.run acts).station.queue.find? id = some x := by
  induction acts generalizing d news with
  | nil => exact queued
  | cons a rest ih =>
    obtain ⟨later, grown'⟩ := (d.step a).exists_news rest
    have parts : news = later ++ (d.station.act a).2.toList := by
      rw [run_cons, grown', Diary.step, ← List.append_assoc] at grown
      exact (List.append_cancel_right grown).symm
    subst parts
    refine ih (reached.step a) grown' (reached.find?_step a queued ?_) ?_
    · intro known noted
      exact settled known (List.mem_append_right _ (Option.mem_toList.mpr noted))
    · intro known noted
      exact settled known (List.mem_append_left _ noted)

theorem Reached.dated {d : Diary ω} (reached : d.Reached) : Dated d.station.queue d.receipts :=
  reached.keeps (by intro e member; simp at member) fun sound booked dated =>
    dated.booked sound booked

/-- A consumer leaves with the head of an open queue. -/
theorem poll_taken {s : Station ω} (sound : s.queue.Sound) {c : Consumer} {t : Task ω}
    (left : (s.poll c).2 = .inr (.task t)) :
    s.queue.closed = false ∧ s.queue.heap.peek = some t ∧ t.due ≤ s.now ∧
      (s.poll c).1 = s.queue.take t := by
  simp only [Station.poll] at left ⊢
  split
  next gone =>
    rw [if_pos gone] at left
    cases left
  next kept =>
    rw [if_neg kept] at left
    cases looked : s.queue.glance s.now with
    | closed =>
      rw [looked] at left
      cases left
    | sleep wakeAt =>
      rw [looked] at left
      cases left
    | taken task rest =>
      rw [looked] at left
      cases left
      obtain ⟨open_, head, due, rfl⟩ := glance_taken sound looked
      exact ⟨open_, head, due, rfl⟩

/-- Whatever was done at a queue, a consumer that leaves with a task leaves with one that was queued
and is due, and everything that stays queued is due later, or at the same time and was put in or
re-keyed later. So whatever is done while a task `x` stays where it is in the queue, and whoever
slept on what, nobody leaves with a task that comes after `x`. -/
theorem popped_in_order {d : Diary ω} (reached : d.Reached) :
    (∀ (c : Consumer) (t : Task ω), (d.station.poll c).2 = .inr (.task t) →
      t ∈ d.station.queue.heap.tasks ∧ t.due ≤ d.station.now ∧
        ∀ u ∈ (d.station.poll c).1.heap.tasks, Precedes d.receipts t u) ∧
      ∀ x ∈ d.station.queue.heap.tasks, ∀ (acts : List (Station.Act ω)) (news : List (Receipt ω)),
        (d.run acts).receipts = news ++ d.receipts →
          (∀ known ∈ news, known.unsettles x.id = false) →
            x ∈ (d.run acts).station.queue.heap.tasks ∧
              ∀ (c : Consumer) (t : Task ω), ((d.run acts).station.poll c).2 = .inr (.task t) →
                t = x ∨ Precedes (d.run acts).receipts t x := by
  constructor
  · intro c t left
    obtain ⟨open_, head, due, rest⟩ := poll_taken reached.sound left
    obtain ⟨_, after, there, finds⟩ := reached.sound.take open_ head
    refine ⟨Heap.mem_tasks_of_peek head, due, ?_⟩
    intro u stays
    rw [rest] at stays
    have found := after.find?_eq_some_iff.mpr ⟨stays, rfl⟩
    rw [finds] at found
    split at found
    · cases found
    next other =>
      have queued := (reached.sound.find?_eq_some_iff.mp found).1
      exact reached.dated.precedes reached.sound head queued other
  · intro x queued acts news grown settled
    have later := reached.run acts
    have found := reached.find?_run grown
      (reached.sound.find?_eq_some_iff.mpr ⟨queued, rfl⟩) settled
    have stays := (later.sound.find?_eq_some_iff.mp found).1
    refine ⟨stays, ?_⟩
    intro c t left
    obtain ⟨open_, head, _, _⟩ := poll_taken later.sound left
    by_cases same : t.id = x.id
    · left
      have first := later.sound.find?_eq_some_iff.mpr ⟨Heap.mem_tasks_of_peek head, same⟩
      rw [found] at first
      exact (Option.some.inj first).symm
    · right
      exact later.dated.precedes later.sound head stays same

/-- A consumer sleeps on a task due in 10 ms, one due in 5 ms is put in, and 5 ms later the consumer
leaves with that one. -/
theorem late_push_overtakes :
    ∃ (d : Diary Unit) (early late : Task Unit) (c : Consumer), early.id = "b" ∧ late.id = "a" ∧
      d.station.now = 5000000 ∧ d.station.consumers = [c] ∧ c.wakeAt = some late.due ∧
        (d.station.poll c).2 = .inr (.task early) ∧ early.due ≤ d.station.now ∧
          (d.station.poll c).1.heap.tasks = [late] ∧ Precedes d.receipts early late := by
  let late : Task Unit := { id := "a", due := 10000000, interval := 1000000, work := () }
  let early : Task Unit := { id := "b", due := 5000000, interval := 1000000, work := () }
  let d : Diary Unit := ({} : Diary Unit).run
    [.join "c", .push late, .poll 0, .push early, .pass 5000000]
  let c : Consumer := { token := "c", wakeAt := some 10000000, woken := true }
  have reached : d.Reached := (Reached.fresh 0).run _
  have left : (d.station.poll c).2 = .inr (.task early) := by decide +kernel
  have rest : (d.station.poll c).1.heap.tasks = [late] := by decide +kernel
  obtain ⟨_, due, first⟩ := (popped_in_order reached).1 c early left
  refine ⟨d, early, late, c, rfl, rfl, by decide +kernel, by decide +kernel, rfl, left, due, rest,
    first late ?_⟩
  rw [rest]
  exact List.mem_singleton_self late

end Diary

end Vigil
