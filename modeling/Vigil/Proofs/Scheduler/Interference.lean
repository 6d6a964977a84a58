import Mathlib.Data.List.ReduceOption
import Vigil.Proofs.Scheduler.Progress

/-!
# Queues do not interfere

What is seen of a queue is what is seen of it without the others. A script and its rest without the
calls about other queues go in lockstep, order by order (`Mirrors.play`), and so do a run and what
stays of it without the moves of others (`Chronicle.frames_sifted`). Events do not name their queue,
so executions are told apart by their executors, of which no two queues share one.
-/
namespace Vigil

open Queue

variable {ω : Type}

namespace Scheduler

/-- The order is about one of these queues, or about none in particular. -/
def Order.within (p : String → Bool) : Order ω → Bool
  | .call name _ => p name
  | _ => true

/-- What clients bring by the order under a name has the property that goes with it. -/
def Order.Brings (P : String → ω × Nat → Prop) : Order ω → Prop
  | .call name asked => ∀ t, asked.task? = some t → P name t.record
  | _ => True

/-- After each order, and at each instant at which the clock stops, all that can run comes to an
end. -/
def Completes (plan : Task ω → Execution) : Scheduler ω → List (Order ω) → Prop
  | _, [] => True
  | s, order :: rest =>
    (∀ duration, order = .advance duration → s.Rests plan (s.now + duration)) ∧
      (s.obey plan order).scheduler.ready = [] ∧ (s.obey plan order).scheduler.Completes plan rest

/-- What is seen of one queue and of the executions of its tasks. -/
structure Aspect (ω : Type) where
  answer : Answer
  events : List (Int × Event ω)
  queue : Option (Queue ω)
  now : Int

def Frame.aspect (owner : ω → String) (name : String) (f : Frame ω) : Aspect ω where
  answer := f.answer
  events := f.events.filter (·.2.seen owner (· == name))
  queue := f.scheduler.queue? name
  now := f.scheduler.now

variable {p : String → Bool} {s m : Scheduler ω} {owner : ω → String}

/-! ### Scripts -/

theorem Arises.obey {P : String → ω × Nat → Prop} (arises : s.Arises P) (plan : Task ω → Execution)
    {order : Order ω} (brings : order.Brings P) : (s.obey plan order).scheduler.Arises P := by
  cases order with
  | call name call => exact (arises.serve brings).settle plan
  | cancel => exact arises.cancel.settle plan
  | shutdown => exact arises.shutdown.settle plan
  | advance duration => exact arises.advanceTo plan (by omega)

/-- An order that stays is obeyed in both alike. -/
theorem Mirrors.obey_inside (mirrors : Mirrors p s m) (plan : Task ω → Execution)
    (arises : s.Arises (Belongs owner)) (idle : s.ready = []) {order : Order ω}
    (brings : order.Brings (Belongs owner)) (inside : order.within p = true)
    (rests : ∀ duration, order = .advance duration → s.Rests plan (s.now + duration))
    (rest : (s.obey plan order).scheduler.ready = []) :
    Mirrors p (s.obey plan order).scheduler (m.obey plan order).scheduler ∧
      (m.obey plan order).answer = (s.obey plan order).answer ∧
        (m.obey plan order).events.filter (·.2.seen owner p) =
          (s.obey plan order).events.filter (·.2.seen owner p) := by
  have clock := mirrors.now
  cases order with
  | call name call =>
    obtain ⟨served, answer, reports⟩ := mirrors.serve_inside inside call
    obtain ⟨settled, seen⟩ := served.settle plan (arises.serve brings) rest
    refine ⟨settled, answer, ?_⟩
    simp only [Scheduler.obey, filter_timed, List.filter_append, reports, seen, clock]
  | cancel =>
    obtain ⟨settled, seen⟩ := mirrors.cancel.settle plan arises.cancel rest
    refine ⟨settled, rfl, ?_⟩
    simp only [Scheduler.obey, filter_timed, seen, clock]
  | shutdown =>
    obtain ⟨settled, seen⟩ := mirrors.shutdown.settle plan arises.shutdown rest
    refine ⟨settled, rfl, ?_⟩
    simp only [Scheduler.obey, filter_timed, List.filter_append, unseen_notices, seen, clock]
  | advance duration =>
    have level : Mirrors p s { m with now := s.now } := by
      rw [with_now clock]
      exact mirrors
    obtain ⟨moved, seen⟩ := Mirrors.advanceTo plan (rests duration rfl) level (Int.le_of_eq clock)
      arises idle (by omega) rest
    simp only [Scheduler.obey, clock]
    exact ⟨moved, trivial, seen⟩

/-- An order about a queue outside is not seen. -/
theorem Mirrors.obey_outside (mirrors : Mirrors p s m) (plan : Task ω → Execution)
    (arises : s.Arises (Belongs owner)) (idle : s.ready = []) {order : Order ω}
    (brings : order.Brings (Belongs owner)) (outside : order.within p = false)
    (rest : (s.obey plan order).scheduler.ready = []) :
    Mirrors p (s.obey plan order).scheduler m ∧
      (s.obey plan order).events.filter (·.2.seen owner p) = [] := by
  cases order with
  | cancel | shutdown | advance => cases outside
  | call name call =>
    have served := mirrors.serve_outside outside call
    obtain ⟨settled, seen⟩ := served.settle plan (arises.serve brings) rest
    rw [settle_of_idle plan (mirrors.idle idle)] at settled seen
    refine ⟨settled, ?_⟩
    simp only [Scheduler.obey, filter_timed, List.filter_append, unseen_notices, ← seen]
    rfl

theorem Mirrors.aspect {name : String} {f g : Frame ω}
    (mirrors : Mirrors (· == name) f.scheduler g.scheduler) (answer : g.answer = f.answer)
    (events : g.events.filter (·.2.seen owner (· == name)) =
      f.events.filter (·.2.seen owner (· == name))) :
    g.aspect owner name = f.aspect owner name := by
  have inside : (name == name) = true := beq_self_eq_true name
  have queue : g.scheduler.queue? name = f.scheduler.queue? name := by
    have same := congrArg (fun x : Scheduler ω => x.queue? name) mirrors.same
    simpa only [queue?_within, inside, ↓reduceIte] using same
  simp only [Frame.aspect, answer, events, queue, mirrors.now]

/-- A script, and what stays of it if the calls about other queues are deleted. -/
theorem Mirrors.play {name : String} (mirrors : Mirrors (· == name) s m)
    (plan : Task ω → Execution) (arises : s.Arises (Belongs owner)) (idle : s.ready = [])
    {script : List (Order ω)} (brings : ∀ order ∈ script, order.Brings (Belongs owner))
    (completes : s.Completes plan script) :
    (((script.zip (s.play plan script)).filter (·.1.within (· == name))).map
        (·.2.aspect owner name) =
      (m.play plan (script.filter (·.within (· == name)))).map (·.aspect owner name)) ∧
    ∀ x ∈ script.zip (s.play plan script), x.1.within (· == name) = false →
      (x.2.aspect owner name).events = [] := by
  induction script generalizing s m with
  | nil => exact ⟨rfl, List.forall_mem_nil _⟩
  | cons order rest ih =>
    obtain ⟨first, others⟩ := List.forall_mem_cons.mp brings
    obtain ⟨rests, idle', completes'⟩ := completes
    have arises' := arises.obey plan first
    cases inside : order.within (· == name) with
    | true =>
      obtain ⟨after, answer, events⟩ :=
        mirrors.obey_inside plan arises idle first inside rests idle'
      obtain ⟨views, silent⟩ := ih after arises' idle' others completes'
      have seen := after.aspect answer events
      simp only [Scheduler.play, List.zip_cons_cons, List.filter_cons, inside, ↓reduceIte,
        List.map_cons, views, seen, true_and]
      refine List.forall_mem_cons.mpr ⟨fun outside => ?_, silent⟩
      cases inside.symm.trans outside
    | false =>
      obtain ⟨after, unseen⟩ := mirrors.obey_outside plan arises idle first inside idle'
      obtain ⟨views, silent⟩ := ih after arises' idle' others completes'
      simp only [Scheduler.play, List.zip_cons_cons, List.filter_cons, inside, Bool.false_eq_true,
        ↓reduceIte, views, true_and]
      exact List.forall_mem_cons.mpr ⟨fun _ => unseen, silent⟩

/-- A script in which no task is due again at once comes to an end. -/
theorem Arises.completes (arises : s.Arises Lasts) (plan : Task ω → Execution)
    {script : List (Order ω)} (brings : ∀ order ∈ script, order.Brings Lasts) :
    s.Completes plan script := by
  induction script generalizing s with
  | nil => trivial
  | cons order rest ih =>
    obtain ⟨first, others⟩ := List.forall_mem_cons.mp brings
    refine ⟨?_, ?_, ih (arises.obey plan first) others⟩
    · rintro duration rfl
      exact (arises.rests plan (by omega)).1
    · cases order with
      | call name call => exact (arises.serve first).settle_idle plan
      | cancel => exact arises.cancel.settle_idle plan
      | shutdown => exact arises.shutdown.settle_idle plan
      | advance duration => exact (arises.rests plan (by omega)).2

end Scheduler

/-! ### Moves -/

namespace Chronicle

variable {p : String → Bool} {owner : ω → String} {c d : Chronicle ω}

/-- What a move is to the queues inside, if it is about one of them or about none in particular: a
job of theirs stands where it would stand without the jobs of others. -/
def sift (c : Chronicle ω) (p : String → Bool) : Move ω → Option (Move ω)
  | .client name call => if p name then some (.client name call) else none
  | .take name => if p name then some (.take name) else none
  | .work plan place =>
    match c.scheduler.ready[place]? with
    | none => none
    | some job =>
      if p job.queue then some (.work plan (c.scheduler.placeWithin p place)) else none
  | move => some move

def sifted (c : Chronicle ω) (p : String → Bool) : List (Move ω) → List (Option (Move ω))
  | [] => []
  | move :: rest => c.sift p move :: (c.step move).sifted p rest

open Scheduler in
/-- A move that stays is made in both alike. -/
theorem step_inside (owner : ω → String) (mirrors : Mirrors p c.scheduler d.scheduler)
    {move move' : Move ω} (inside : c.sift p move = some move') :
    Mirrors p (c.step move).scheduler (d.step move').scheduler ∧
      (d.frame move').answer = (c.frame move).answer ∧
        (d.emits move').filter (·.seen owner p) = (c.emits move).filter (·.seen owner p) := by
  cases move with
  | client name call =>
    simp only [sift] at inside
    split at inside
    next known =>
      cases inside
      obtain ⟨served, answer, reports⟩ := mirrors.serve_inside known call
      exact ⟨served, answer, by simp only [emits, reports]⟩
    next => cases inside
  | cancel =>
    cases inside
    exact ⟨mirrors.cancel, rfl, rfl⟩
  | shutdown =>
    cases inside
    exact ⟨mirrors.shutdown, rfl, by simp only [emits, unseen_notices]⟩
  | take name =>
    simp only [sift] at inside
    split at inside
    next known =>
      cases inside
      obtain ⟨both, after⟩ := mirrors.takeOne_inside known
      cases took : c.scheduler.takeOne? name with
      | none =>
        cases took' : d.scheduler.takeOne? name with
        | none => simpa only [Chronicle.step, frame, emits, took, took', and_self, and_true]
        | some => simp [took, took'] at both
      | some x =>
        cases took' : d.scheduler.takeOne? name with
        | none => simp [took, took'] at both
        | some y =>
          obtain ⟨state, same⟩ := after x y took took'
          simp only [Chronicle.step, frame, emits, took, took', same, and_self, and_true]
          exact state
    next => cases inside
  | work plan place =>
    simp only [sift] at inside
    split at inside
    next => cases inside
    next job found =>
      split at inside
      next known =>
        cases inside
        obtain ⟨job', found', same, left⟩ := mirrors.take_inside found known
        obtain ⟨after, events⟩ := left.perform_inside plan known same
        simp only [Chronicle.step, frame, emits, found, found', events, and_self, and_true]
        exact after
      next => cases inside
  | wait duration =>
    cases inside
    have clock := mirrors.now
    refine ⟨?_, rfl, rfl⟩
    simp only [Chronicle.step, clock]
    exact mirrors.reach _

open Scheduler in
/-- A move about queues outside is not seen. -/
theorem step_outside (mirrors : Mirrors p c.scheduler d.scheduler) {move : Move ω}
    (arises : c.scheduler.Arises (Belongs owner)) (outside : c.sift p move = none) :
    Mirrors p (c.step move).scheduler d.scheduler ∧
      (c.emits move).filter (·.seen owner p) = [] := by
  cases move with
  | cancel | shutdown | wait => cases outside
  | client name call =>
    have unknown : p name = false := by simpa [sift] using outside
    exact ⟨mirrors.serve_outside unknown call, unseen_notices owner p _⟩
  | take name =>
    have unknown : p name = false := by simpa [sift] using outside
    cases took : c.scheduler.takeOne? name with
    | none =>
      simp only [Chronicle.step, emits, took]
      exact ⟨mirrors, rfl⟩
    | some x =>
      simp only [Chronicle.step, emits, took]
      exact ⟨mirrors.of_same (takeOne?_outside unknown took), rfl⟩
  | work plan place =>
    cases found : c.scheduler.ready[place]? with
    | none =>
      simp only [Chronicle.step, emits, found]
      exact ⟨mirrors, rfl⟩
    | some job =>
      have unknown : p job.queue = false := by simpa [sift, found] using outside
      have member := List.mem_of_getElem? found
      simp only [Chronicle.step, emits, found]
      exact ⟨(mirrors.take_outside found unknown).perform_outside plan unknown,
        unseen_perform plan unknown fun k t duty => arises.owed member duty⟩

open Scheduler in
/-- A run, and what stays of it if the moves about other queues are deleted. -/
theorem frames_sifted {name : String} (mirrors : Mirrors (· == name) c.scheduler d.scheduler)
    (reached : c.Reached) (bears : Bears (Belongs owner) c) {moves : List (Move ω)}
    (brings : ∀ move ∈ moves, move.Brings (Belongs owner)) :
    ((((c.sifted (· == name) moves).zip (c.frames moves)).filter (·.1.isSome)).map
        (·.2.aspect owner name) =
      (d.frames (c.sifted (· == name) moves).reduceOption).map (·.aspect owner name)) ∧
    ∀ x ∈ (c.sifted (· == name) moves).zip (c.frames moves), x.1 = none →
      (x.2.aspect owner name).events = [] := by
  induction moves generalizing c d with
  | nil => exact ⟨rfl, List.forall_mem_nil _⟩
  | cons move rest ih =>
    obtain ⟨first, others⟩ := List.forall_mem_cons.mp brings
    have reached' := reached.step move
    have bears' := bears.step reached first
    cases sifted_ : c.sift (· == name) move with
    | some move' =>
      obtain ⟨after, answer, emitted⟩ := step_inside owner mirrors sifted_
      have events : (d.frame move').events.filter (·.2.seen owner (· == name)) =
          (c.frame move).events.filter (·.2.seen owner (· == name)) := by
        simp only [frame, filter_timed, emitted, mirrors.now]
      have seen := after.aspect (f := c.frame move) (g := d.frame move') answer events
      obtain ⟨views, silent⟩ := ih after reached' bears' others
      simp only [sifted, sifted_, frames, List.zip_cons_cons, List.filter_cons, Option.isSome_some,
        ↓reduceIte, List.map_cons, List.reduceOption_cons_of_some, views, seen, true_and]
      exact List.forall_mem_cons.mpr ⟨fun gone => absurd gone (Option.some_ne_none _), silent⟩
    | none =>
      obtain ⟨after, unseen⟩ := step_outside mirrors ⟨c, reached, bears, rfl⟩ sifted_
      obtain ⟨views, silent⟩ := ih after reached' bears' others
      simp only [sifted, sifted_, frames, List.zip_cons_cons, List.filter_cons, Option.isSome_none,
        Bool.false_eq_true, ↓reduceIte, List.reduceOption_cons_of_none, views, true_and]
      refine List.forall_mem_cons.mpr ⟨fun _ => ?_, silent⟩
      simp only [Frame.aspect, frame, filter_timed, unseen, List.map_nil]

end Chronicle

namespace Scheduler

theorem mirrors_fresh (p : String → Bool) (config : Config) (now : Int) :
    Mirrors (ω := ω) p { config, now } { config, now } := ⟨rfl, rfl, rfl, rfl⟩

/-- Queues do not interfere. Let every executor be registered with one queue only, which `owner`
knows, and take any queue name; ids may be used in as many queues as one likes. If all calls about
other names are deleted from a script, while time steps, cancellation and shutdown stay, then each
order that stays is seen as before: its answer, the executions of the queue's tasks that begin and
end, when and in which order, and the queue afterwards with all that it holds; and nothing of the
queue was seen in the orders that are deleted. The script must come to an end after each order, and
does so if no interval is zero. The same is true of every run, whether or not it comes to an end:
from any interleaving, the moves of clients, loops and executions of other queues may be deleted. -/
theorem queues_do_not_interfere (config : Config) (now : Int) (owner : ω → String)
    (name : String) :
    let fresh : Scheduler ω := { config, now }
    (∀ plan script, (∀ order ∈ script, order.Brings (Belongs owner)) →
      fresh.Completes plan script →
        let frames := script.zip (fresh.play plan script)
        ((frames.filter (·.1.within (· == name))).map (·.2.aspect owner name) =
          (fresh.play plan (script.filter (·.within (· == name)))).map (·.aspect owner name)) ∧
        ∀ x ∈ frames, x.1.within (· == name) = false → (x.2.aspect owner name).events = []) ∧
    (∀ plan script, (∀ order ∈ script, order.Brings Lasts) → fresh.Completes plan script) ∧
    ∀ moves, (∀ move ∈ moves, move.Brings (Belongs owner)) →
      let c : Chronicle ω := { scheduler := fresh }
      let frames := (c.sifted (· == name) moves).zip (c.frames moves)
      ((frames.filter (·.1.isSome)).map (·.2.aspect owner name) =
        (c.frames (c.sifted (· == name) moves).reduceOption).map (·.aspect owner name)) ∧
      ∀ x ∈ frames, x.1 = none → (x.2.aspect owner name).events = [] := by
  intro fresh
  have mirrors : Mirrors (· == name) fresh fresh := mirrors_fresh _ config now
  have arises (P : String → ω × Nat → Prop) : fresh.Arises P :=
    ⟨{ scheduler := fresh }, .fresh config now, Chronicle.bears_fresh P config now, rfl⟩
  refine ⟨?_, ?_, ?_⟩
  · intro plan script brings completes
    exact mirrors.play plan (arises _) rfl brings completes
  · intro plan script brings
    exact (arises Lasts).completes plan brings
  · intro moves brings c
    exact Chronicle.frames_sifted (c := c) (d := c) mirrors (.fresh config now)
      (Chronicle.bears_fresh _ config now) brings

/-- Two queues have a task of the same id each. What is seen of the first is what it does alone: it
is executed at once, and again one interval after it was done. -/
theorem same_id_in_two_queues :
    ∃ (script : List (Order String)) (moves : List (Move String)) (plan : Task String → Execution),
      (∀ order ∈ script, order.Brings (Belongs id)) ∧ (∀ order ∈ script, order.Brings Lasts) ∧
      ({} : Scheduler String).Completes plan script ∧ (∀ move ∈ moves, move.Brings (Belongs id)) ∧
      (((script.zip (({} : Scheduler String).play plan script)).filter
          (·.1.within (· == "a"))).map (·.2.aspect id "a") =
        (({} : Scheduler String).play plan (script.filter (·.within (· == "a")))).map
          (·.aspect id "a")) ∧
      ((((({} : Chronicle String).sifted (· == "a") moves).zip
          (({} : Chronicle String).frames moves)).filter (·.1.isSome)).map (·.2.aspect id "a") =
        (({} : Chronicle String).frames
          (({} : Chronicle String).sifted (· == "a") moves).reduceOption).map (·.aspect id "a")) ∧
      ((({} : Scheduler String).play plan (script.filter (·.within (· == "a")))).map
          fun f => (f.aspect id "a").events.map fun e => (e.1, e.2.task?.map (·.run))) =
        [[], [(0, some 0)], [(100000000, some 0), (1100000000, some 1), (1200000000, some 1)], [],
          []] ∧
      (({} : Chronicle String).sifted (· == "a") moves).map (·.isSome) =
        [true, false, false, true, false, true, false, true] := by
  let task (work : String) : Task String :=
    { id := "job", due := 0, interval := Duration.ofSeconds 1, work }
  let plan (t : Task String) : Execution :=
    { length := some (Duration.ofMillis (if t.work = "a" then 100 else 300)) }
  let script : List (Order String) :=
    [.call "a" .addQueue, .call "b" .addQueue, .call "b" (.register (task "b")),
      .call "a" (.register (task "a")), .advance (Duration.ofMillis 1500),
      .call "b" (.remove "job"), .cancel, .shutdown]
  let moves : List (Move String) :=
    [.client "a" .addQueue, .client "b" .addQueue, .client "b" (.register (task "b")),
      .client "a" (.register (task "a")), .work plan 1, .work plan 0, .work plan 0, .work plan 0]
  have owned : ∀ order ∈ script, order.Brings (Belongs id) := by
    simp [script, Order.Brings, Call.task?, Belongs, Task.record, task]
  have lasts : ∀ order ∈ script, order.Brings Lasts := by
    simp [script, Order.Brings, Call.task?, Lasts, Task.record, task, Duration.ofSeconds]
  have owned' : ∀ move ∈ moves, move.Brings (Belongs id) := by
    simp [moves, Move.Brings, Call.task?, Belongs, Task.record, task]
  obtain ⟨scripts, ends, runs⟩ := queues_do_not_interfere {} 0 id "a"
  have completes := ends plan script lasts
  refine ⟨script, moves, plan, owned, lasts, completes, owned',
    (scripts plan script owned completes).1, (runs moves owned').1, ?_, ?_⟩
  · decide +kernel
  · decide +kernel

end Scheduler

end Vigil
