import Vigil.Proofs.Queue.Calls

/-!
# What was done at a queue, and what those who did it were told

A queue with its consumers, and the receipts of all that was accepted there: what was put in and
re-keyed, what was taken out and by whom. Everything that can happen at a station is an act, and
every row of acts leaves a diary. Refused calls leave no receipt.
-/
namespace Vigil

variable {ω α : Type}

namespace Queue

/-- What a caller learns from a call that was not refused. -/
inductive Receipt (ω : Type) where
  | pushed (task : Task ω)
  /-- Whether the task was added; else the queued one of its id was re-keyed. -/
  | upserted (task : Task ω) (added : Bool)
  | updated (id : String) (due : Int)
  /-- Whether a queued task was taken out. -/
  | removed (id : String) (queued : Bool)
  | requeued (task : Task ω) (accepted : Bool)
  /-- A consumer left with the task. -/
  | popped (task : Task ω)
  /-- The tasks that were thrown away, and the number that was answered. -/
  | closed (discarded : List (Task ω)) (count : Nat)

def receipt (q : Queue ω) : Call ω → Option (Receipt ω)
  | .push t => (q.push t).toOption.map fun _ => .pushed t
  | .upsert t => (q.upsert t).toOption.map fun e => .upserted t e.answer
  | .update id due => (q.update id due).toOption.map fun _ => .updated id due
  | .remove id => some (.removed id (q.contains id))
  | .requeue t => (q.requeue t).toOption.map fun e => .requeued t e.answer
  | .close => some (.closed q.heap.drain.2 q.close.2)
  | .look now =>
    match q.glance now with
    | .taken t _ => some (.popped t)
    | _ => none

namespace Receipt

/-- The task that was put in. -/
def inserted? : Receipt ω → Option (Task ω)
  | .pushed t | .upserted t true | .requeued t true => some t
  | _ => none

/-- The id whose task was put in or re-keyed. -/
def keyed? : Receipt ω → Option String
  | .pushed t | .upserted t _ | .requeued t true => some t.id
  | .updated id _ => some id
  | _ => none

end Receipt

/-- What a call does to a sound queue, with the receipt. -/
inductive Booked (q : Queue ω) : Option (Receipt ω) → Queue ω → Prop where
  | none : q.Booked none q
  | refused (t : Task ω) : q.Booked (some (.requeued t false)) q
  | placed {r : Receipt ω} {t : Task ω} (open_ : q.closed = false) (free : q.find? t.id = none)
      (kind : r = .pushed t ∨ r = .upserted t true ∨ r = .requeued t true) :
      q.Booked (some r) (q.place t)
  | rekeyed {r : Receipt ω} {id : String} {pos : Nat} {due : Int}
      (found : q.heap.position id = some pos)
      (kind : r = .updated id due ∨ ∃ t : Task ω, t.id = id ∧ r = .upserted t false) :
      q.Booked (some r) (q.rekey pos due)
  | removed (id : String) : q.Booked (some (.removed id (q.contains id))) (q.remove id).1
  | taken {t : Task ω} (open_ : q.closed = false) (head : q.heap.peek = some t) :
      q.Booked (some (.popped t)) (q.take t)
  | closed : q.Booked (some (.closed q.heap.drain.2 q.close.2)) q.close.1

theorem Sound.booked {q : Queue ω} (sound : q.Sound) (c : Call ω) :
    q.Booked (q.receipt c) (q.after c) := by
  cases c with
  | push t =>
    simp only [receipt, after]
    cases pushed : q.push t with
    | error why => exact .none
    | ok e =>
      obtain ⟨open_, free, rfl⟩ := push_ok sound pushed
      exact .placed open_ free (.inl rfl)
  | upsert t =>
    simp only [receipt, after]
    cases added : q.upsert t with
    | error why => exact .none
    | ok e =>
      obtain ⟨open_, ⟨free, rfl⟩ | ⟨pos, found, rfl⟩⟩ := upsert_ok sound added
      · exact .placed open_ free (.inr (.inl rfl))
      · exact .rekeyed found (.inr ⟨t, rfl, rfl⟩)
  | update id due =>
    simp only [receipt, after]
    cases moved : q.update id due with
    | error why => exact .none
    | ok e =>
      obtain ⟨_, pos, found, rfl⟩ := update_ok moved
      exact .rekeyed found (.inl rfl)
  | remove id => exact .removed id
  | requeue t =>
    simp only [receipt, after]
    cases returned : q.requeue t with
    | error why => exact .none
    | ok e =>
      obtain ⟨open_, ⟨_, rfl⟩ | ⟨_, free, rfl⟩⟩ := requeue_ok sound returned
      · exact .refused t
      · exact .placed open_ free (.inr (.inr rfl))
  | close => exact .closed
  | look now =>
    simp only [receipt, after]
    cases looked : q.glance now with
    | closed => exact .none
    | sleep wakeAt => exact .none
    | taken t rest =>
      obtain ⟨open_, head, _, rfl⟩ := glance_taken sound looked
      exact .taken open_ head

theorem Booked.sound {q r : Queue ω} {receipt : Option (Receipt ω)} (booked : q.Booked receipt r)
    (sound : q.Sound) : r.Sound := by
  cases booked with
  | none | refused => exact sound
  | placed open_ free _ => exact (sound.place open_ free).1
  | rekeyed found _ => exact (sound.rekey _ found).1
  | removed id => exact (sound.remove id).sound
  | taken open_ head => exact (sound.take open_ head).2.1
  | closed => exact sound.close

end Queue

namespace Station

/-- Something that can happen at a station. -/
inductive Act (ω : Type) where
  | push (t : Task ω)
  | upsert (t : Task ω)
  | update (id : String) (due : Int)
  | remove (id : String)
  | requeue (t : Task ω)
  | close
  | join (token : String)
  | cancel (token : String)
  | pass (duration : Nat)
  /-- The consumer in this place is woken for no reason. -/
  | stir (place : Nat)
  /-- The consumer in this place runs, if it can. -/
  | poll (place : Nat)

/-- A refused call changes nothing. -/
def accept (s : Station ω) : Except SchedulingError (Queue.Effect ω α) → Station ω
  | .ok e => s.apply e
  | .error _ => s

/-- The receipt of a consumer that runs. -/
def delivered (s : Station ω) (c : Consumer) : Option (Queue.Receipt ω) :=
  match (s.poll c).2 with
  | .inr (.task t) => some (.popped t)
  | _ => none

def act (s : Station ω) : Act ω → Station ω × Option (Queue.Receipt ω)
  | .push t => (s.accept (s.queue.push t), s.queue.receipt (.push t))
  | .upsert t => (s.accept (s.queue.upsert t), s.queue.receipt (.upsert t))
  | .update id due => (s.accept (s.queue.update id due), s.queue.receipt (.update id due))
  | .remove id =>
    (s.apply ⟨(s.queue.remove id).1, (s.queue.remove id).2, false⟩, s.queue.receipt (.remove id))
  | .requeue t => (s.accept (s.queue.requeue t), s.queue.receipt (.requeue t))
  | .close => (s.close.1, s.queue.receipt .close)
  | .join token => (s.join token, none)
  | .cancel token => (s.cancel token, none)
  | .pass duration => ({ s with now := s.now + duration }, none)
  | .stir place =>
    ({ s with consumers := s.consumers.modify place fun c => { c with woken := true } }, none)
  | .poll place =>
    match s.consumers[place]? with
    | none => (s, none)
    | some c =>
      if s.runnable c then
        (s.polled (s.consumers.take place) c (s.consumers.drop (place + 1)), s.delivered c)
      else (s, none)

section

variable (s : Station ω)

theorem accept_queue (answer : Except SchedulingError (Queue.Effect ω α)) :
    (s.accept answer).queue = s.queue.accept answer := by
  cases answer <;> rfl

theorem accept_step {answer : Except SchedulingError (Queue.Effect ω α)}
    (move : ∀ e, answer = .ok e → s.Step (s.apply e)) :
    s.Step (s.accept answer) ∨ s.accept answer = s := by
  cases answer with
  | error why => exact .inr rfl
  | ok e => exact .inl (move e rfl)

theorem polled_receipt (before after : List Consumer) (c : Consumer) :
    (s.polled before c after).queue = s.queue ∧ s.delivered c = none ∨
      (s.polled before c after).queue = s.queue.after (.look s.now) ∧
        s.delivered c = s.queue.receipt (.look s.now) := by
  by_cases gone : s.cancelled.contains c.token = true
  · left
    simp only [polled, delivered, poll, gone, ↓reduceIte, and_self]
  · right
    simp only [polled, delivered, poll, gone, Bool.false_eq_true, ↓reduceIte, Queue.after,
      Queue.receipt]
    cases s.queue.glance s.now <;> exact ⟨rfl, rfl⟩

/-- An act is a call of the queue with its receipt, or leaves the queue alone. -/
theorem act_queue (a : Act ω) :
    (s.act a).1.queue = s.queue ∧ (s.act a).2 = none ∨
      ∃ c, (s.act a).1.queue = s.queue.after c ∧ (s.act a).2 = s.queue.receipt c := by
  cases a with
  | push t => exact .inr ⟨.push t, s.accept_queue _, rfl⟩
  | upsert t => exact .inr ⟨.upsert t, s.accept_queue _, rfl⟩
  | update id due => exact .inr ⟨.update id due, s.accept_queue _, rfl⟩
  | remove id => exact .inr ⟨.remove id, rfl, rfl⟩
  | requeue t => exact .inr ⟨.requeue t, s.accept_queue _, rfl⟩
  | close => exact .inr ⟨.close, rfl, rfl⟩
  | join | cancel | pass | stir => exact .inl ⟨rfl, rfl⟩
  | poll place =>
    simp only [act]
    split
    next => exact .inl ⟨rfl, rfl⟩
    next c present =>
      split
      next able =>
        rcases s.polled_receipt (s.consumers.take place) (s.consumers.drop (place + 1)) c with
          still | looked
        · exact .inl still
        · exact .inr ⟨_, looked⟩
      next => exact .inl ⟨rfl, rfl⟩

theorem take_drop_of_getElem? {place : Nat} {c : Consumer} (present : s.consumers[place]? = some c) :
    s.consumers = s.consumers.take place ++ c :: s.consumers.drop (place + 1) := by
  obtain ⟨bound, rfl⟩ := List.getElem?_eq_some_iff.mp present
  rw [← List.drop_eq_getElem_cons bound, List.take_append_drop]

theorem act_step (a : Act ω) : s.Step (s.act a).1 ∨ (s.act a).1 = s := by
  cases a with
  | push t => exact s.accept_step fun e success => .push t success
  | upsert t => exact s.accept_step fun e success => .upsert t success
  | update id due => exact s.accept_step fun e success => .update id due success
  | remove id => exact .inl (.remove id)
  | requeue t => exact s.accept_step fun e success => .requeue t success
  | close => exact .inl .close
  | join token => exact .inl (.join token)
  | cancel token => exact .inl (.cancel token)
  | pass duration => exact .inl (.pass (by omega))
  | stir place =>
    cases present : s.consumers[place]? with
    | none =>
      right
      have same : s.consumers.modify place (fun c => { c with woken := true }) = s.consumers :=
        List.modify_eq_self (List.getElem?_eq_none_iff.mp present)
      simp only [act, same]
    | some c =>
      left
      have placed := s.take_drop_of_getElem? present
      have woken : s.consumers.modify place (fun c => { c with woken := true }) =
          s.consumers.take place ++ { c with woken := true } :: s.consumers.drop (place + 1) := by
        obtain ⟨bound, rfl⟩ := List.getElem?_eq_some_iff.mp present
        rw [List.modify_eq_take_cons_drop bound]
      simp only [act, woken]
      exact .stir placed
  | poll place =>
    simp only [act]
    split
    next => exact .inr rfl
    next c present =>
      split
      next able => exact .inl (.poll (s.take_drop_of_getElem? present) able)
      next => exact .inr rfl

end

/-- Every step is an act. -/
theorem Step.exists_act {s s' : Station ω} (move : s.Step s') : ∃ a, (s.act a).1 = s' := by
  have place : ∀ (before after : List Consumer) (c : Consumer),
      (before ++ c :: after)[before.length]? = some c := by simp
  cases move with
  | push t success => exact ⟨.push t, by simp only [act, success, accept]⟩
  | upsert t success => exact ⟨.upsert t, by simp only [act, success, accept]⟩
  | update id due success => exact ⟨.update id due, by simp only [act, success, accept]⟩
  | remove id => exact ⟨.remove id, rfl⟩
  | requeue t success => exact ⟨.requeue t, by simp only [act, success, accept]⟩
  | close => exact ⟨.close, rfl⟩
  | join token => exact ⟨.join token, rfl⟩
  | cancel token => exact ⟨.cancel token, rfl⟩
  | @pass now later =>
    refine ⟨.pass (now - s.now).toNat, ?_⟩
    simp only [act]
    congr 1
    omega
  | @stir before after c present =>
    refine ⟨.stir before.length, ?_⟩
    simp [act, present, List.modify_eq_take_cons_drop]
  | @poll before after c present able =>
    refine ⟨.poll before.length, ?_⟩
    simp [act, present, able]

end Station

/-- A station, and the receipts of all that was done there, the newest first. -/
structure Diary (ω : Type) where
  station : Station ω := {}
  receipts : List (Queue.Receipt ω) := []

namespace Diary

def step (d : Diary ω) (a : Station.Act ω) : Diary ω where
  station := (d.station.act a).1
  receipts := (d.station.act a).2.toList ++ d.receipts

def run (d : Diary ω) (acts : List (Station.Act ω)) : Diary ω := acts.foldl step d

theorem run_cons (d : Diary ω) (a : Station.Act ω) (rest : List (Station.Act ω)) :
    d.run (a :: rest) = (d.step a).run rest := rfl

theorem run_append (d : Diary ω) (first second : List (Station.Act ω)) :
    d.run (first ++ second) = (d.run first).run second :=
  List.foldl_append

/-- The diaries of a new queue, whatever its clock shows at the start. -/
inductive Reached : Diary ω → Prop where
  | fresh (now : Int) : Reached { station := { now } }
  | step {d : Diary ω} (reached : Reached d) (a : Station.Act ω) : Reached (d.step a)

theorem Reached.run {d : Diary ω} (reached : Reached d) (acts : List (Station.Act ω)) :
    Reached (d.run acts) := by
  induction acts generalizing d with
  | nil => exact reached
  | cons a rest ih => exact ih (reached.step a)

theorem Reached.station {d : Diary ω} (reached : Reached d) : Station.Reached d.station := by
  induction reached with
  | fresh now => exact .fresh now
  | @step d _ a ih =>
    rcases d.station.act_step a with move | same
    · exact ih.step move
    · rw [Diary.step, same]
      exact ih

/-- Every station has a diary. -/
theorem exists_reached {s : Station ω} (reached : Station.Reached s) :
    ∃ d : Diary ω, d.Reached ∧ d.station = s := by
  induction reached with
  | fresh now => exact ⟨_, .fresh now, rfl⟩
  | step _ move ih =>
    obtain ⟨d, before, rfl⟩ := ih
    obtain ⟨a, done⟩ := move.exists_act
    exact ⟨d.step a, before.step a, done⟩

theorem Reached.sound {d : Diary ω} (reached : Reached d) : d.station.queue.Sound :=
  reached.station.alert.sound

/-- What holds of a new queue without receipts, and is kept by whatever is booked, holds of every
diary. -/
theorem Reached.keeps {P : Queue ω → List (Queue.Receipt ω) → Prop} (initial : P {} [])
    (booking : ∀ {q r : Queue ω} {receipt h}, q.Sound → q.Booked receipt r → P q h →
      P r (receipt.toList ++ h)) {d : Diary ω} (reached : Reached d) :
    P d.station.queue d.receipts := by
  induction reached with
  | fresh now => exact initial
  | @step d before a ih =>
    simp only [Diary.step]
    rcases d.station.act_queue a with ⟨queue, none_⟩ | ⟨c, queue, receipt⟩
    · rw [queue, none_]
      exact ih
    · rw [queue, receipt]
      exact booking before.sound (before.sound.booked c) ih

/-! ### Letting everybody run -/

/-- The receipts of what consumers leave with, the newest first. -/
def leavings (outcomes : List (Station.Outcome ω)) : List (Queue.Receipt ω) :=
  (outcomes.filterMap fun
    | .task t => some (.popped t)
    | .refused _ => none).reverse

theorem leavings_append (first second : List (Station.Outcome ω)) :
    leavings (first ++ second) = leavings second ++ leavings first := by
  simp [leavings]

/-- `Station.run` lets the consumers run one by one. -/
theorem exists_run_run {s : Station ω} {done waiting : List Consumer} (empty : s.consumers = [])
    (receipts : List (Queue.Receipt ω)) :
    ∃ acts, ({ station := { s with consumers := done ++ waiting }, receipts } : Diary ω).run acts =
      { station := { (s.run waiting).1 with consumers := done ++ (s.run waiting).1.consumers }
        receipts := leavings (s.run waiting).2 ++ receipts } := by
  induction waiting generalizing s done receipts with
  | nil => exact ⟨[], by simp [Station.run, empty, Diary.run, leavings]⟩
  | cons c rest ih =>
    let crowd : Station ω := { s with consumers := done ++ c :: rest }
    have present : crowd.consumers[done.length]? = some c := by simp [crowd]
    have same : crowd.runnable c = s.runnable c := rfl
    have looked : crowd.poll c = s.poll c := rfl
    simp only [Station.run]
    split
    next able =>
      have first : ({ station := crowd, receipts } : Diary ω).step (.poll done.length) =
          { station := crowd.polled done c rest
            receipts := (crowd.delivered c).toList ++ receipts } := by
        simp only [Diary.step, Station.act, present, same, able, ↓reduceIte]
        simp [crowd]
      simp only [Station.polled, Station.delivered, looked] at first
      split
      next queue blocked left =>
        rw [left] at first
        obtain ⟨acts, ran⟩ := @ih { s with queue } (done ++ [blocked]) empty receipts
        refine ⟨.poll done.length :: acts, ?_⟩
        simp only [List.append_assoc, List.singleton_append] at ran
        rw [run_cons, first]
        exact ran
      next queue outcome left =>
        rw [left] at first
        obtain ⟨acts, ran⟩ := @ih { s with queue } done empty
          (leavings [outcome] ++ receipts)
        have noted : (match (Sum.inr outcome : Consumer ⊕ Station.Outcome ω) with
            | .inr (.task t) => some (Queue.Receipt.popped t)
            | _ => none).toList = leavings [outcome] := by
          cases outcome <;> rfl
        refine ⟨.poll done.length :: acts, ?_⟩
        rw [run_cons, first, ← List.singleton_append, leavings_append, List.append_assoc, ← ran]
        simp only [noted, crowd]
    next unable =>
      obtain ⟨acts, ran⟩ := @ih s (done ++ [c]) empty receipts
      simp only [List.append_assoc, List.singleton_append] at ran
      exact ⟨acts, ran⟩

/-- What consumers leave with when all who can run do so stands in the diary. -/
theorem exists_run_settle (d : Diary ω) :
    ∃ acts, d.run acts =
      { station := d.station.settle.1
        receipts := leavings (d.station.settle.2.map (·.2)) ++ d.receipts } := by
  obtain ⟨acts, ran⟩ := @exists_run_run _ { d.station with consumers := [] } []
    d.station.consumers rfl d.receipts
  refine ⟨acts, ?_⟩
  simp only [Station.settle, List.map_map, Function.comp_def, List.map_id']
  simpa using ran

/-- So does what they leave with while the clock moves on. -/
theorem exists_run_advanceTo (d : Diary ω) {target : Int} (later : d.station.now ≤ target) :
    ∃ acts, d.run acts =
      { station := (d.station.advanceTo target).1
        receipts := leavings ((d.station.advanceTo target).2.map (·.2)) ++ d.receipts } := by
  obtain ⟨s, receipts⟩ := d
  -- Time passes up to the next timer, and then everybody runs.
  have stop : ∀ (s : Station ω) (receipts : List (Queue.Receipt ω)) (t : Int), s.now ≤ t →
      ∃ acts, ({ station := s, receipts } : Diary ω).run acts =
        { station := ({ s with now := t } : Station ω).settle.1
          receipts := leavings (({ s with now := t } : Station ω).settle.2.map (·.2)) ++
            receipts } := by
    intro s receipts t later
    obtain ⟨acts, ran⟩ := exists_run_settle { station := { s with now := t }, receipts }
    refine ⟨.pass (t - s.now).toNat :: acts, ?_⟩
    rw [run_cons, ← ran]
    have moved : s.now + ((t - s.now).toNat : Int) = t := by omega
    simp only [step, Station.act, moved, Option.toList, List.nil_append]
  dsimp only at later ⊢
  fun_induction Station.advanceTo s target generalizing receipts with
  | case1 s idle => exact stop s receipts target later
  | case2 s t timer due reached final ih =>
    obtain ⟨first, ran⟩ := stop s receipts t
      (Int.le_of_lt (Station.now_lt_nextTimer timer))
    obtain ⟨acts, rest⟩ := ih _ (by simpa only [reached, Station.settle_now] using due)
    refine ⟨first ++ acts, ?_⟩
    rw [run_append, ran, rest]
    simp only [List.map_append, leavings_append, List.append_assoc, final, reached]
  | case3 s t timer far => exact stop s receipts target later

end Diary

end Vigil
