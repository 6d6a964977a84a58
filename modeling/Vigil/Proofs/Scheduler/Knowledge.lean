import Vigil.Proofs.Scheduler.Provenance
import Vigil.Proofs.Scheduler.Registry

/-!
# Which ids the queue of a name knows

The queue that is registered under a name comes to know an id only if a client brings a task of
that id to that name (`Reached.knows_step`). Queues may be closed, removed and added anew, loops may
look and executions hand back: all that makes nothing known.
-/
namespace Vigil

open Queue

variable {ω : Type}

namespace Scheduler

/-- The queue registered under this name knows the id. -/
def Knows (s : Scheduler ω) (name id : String) : Prop := ∃ q, s.queue? name = some q ∧ q.Knows id

variable {s s' : Scheduler ω} {name other id : String}

theorem Knows.congr (same : s'.queue? name = s.queue? name) : s'.Knows name id ↔ s.Knows name id := by
  simp only [Knows, same]

theorem isSome_queue? (s : Scheduler ω) (name : String) :
    (s.queue? name).isSome ↔ name ∈ s.titles := by
  simp [queue?, line?, titles]

/-- Taking a line out puts no queue in place. -/
theorem queue?_detach (line : Line ω) {q : Queue ω} (there : (s.detach line).queue? name = some q) :
    s.queue? name = some q := by
  have left : (s.detach line).queue? = fun other => if line.name = other then none else s.queue? other :=
    congrArg Books.queue? (detach_books s line fun _ => [])
  simp only [left] at there
  split at there
  · cases there
  · exact there

theorem queue?_foldl_detach (lines : List (Line ω)) {q : Queue ω}
    (there : (lines.foldl detach s).queue? name = some q) : s.queue? name = some q := by
  induction lines generalizing s with
  | nil => exact there
  | cons line rest ih => exact queue?_detach line (ih there)

/-- Turning queues over makes nothing known, where no name is given to a new one. -/
theorem Turns.knows (turns : Turns name s s') (titles : s'.titles = s.titles)
    (sound : ∀ q, s.queue? name = some q → q.Sound) (known : s'.Knows name id) : s.Knows name id := by
  obtain ⟨r, there, inside⟩ := known
  have registered : (s.queue? name).isSome :=
    (isSome_queue? s name).mpr (titles ▸ (isSome_queue? s' name).mp (Option.isSome_of_eq_some there))
  obtain ⟨q, here⟩ := Option.isSome_iff_exists.mp registered
  obtain ⟨r', there', turned⟩ := turns q here
  cases there.symm.trans there'
  exact ⟨q, here, ((turned.keeps (sound q here)).2.2 id).mp inside⟩

theorem Call.not_adds_asks {call : Call ω} (spared : ∀ t, call.task? = some t → t.id ≠ id) :
    ∀ c ∈ call.asks, ¬ c.Adds id := by
  cases call with
  | register t | push t => simpa [Call.asks, Queue.Call.Adds] using spared t rfl
  | update t => simpa [Call.asks, Queue.Call.Adds] using spared t rfl
  | _ => simp [Call.asks, Queue.Call.Adds]

theorem Served.knows {call : Call ω} (served : Served s other call s')
    (sound : ∀ q, s.queue? other = some q → q.Sound)
    (spared : other = name → ∀ t, call.task? = some t → t.id ≠ id) (known : s'.Knows name id) :
    s.Knows name id := by
  obtain ⟨r, there, inside⟩ := known
  cases served with
  | refused => exact ⟨r, there, inside⟩
  | added free =>
    have asked : (s.addQueue other).answer = true := by simp [addQueue, free]
    have grown : (s.addQueue other).scheduler.queue? = _ :=
      congrArg Books.queue? (addQueue_books s other (fun _ => []) asked)
    simp only [addQueue, free, Option.isSome_none, Bool.false_eq_true, ↓reduceIte] at grown
    rw [grown] at there
    by_cases same : other = name
    · cases (if_pos same).symm.trans there
      exact absurd inside (not_knows_empty id)
    · exact ⟨r, (if_neg same).symm.trans there, inside⟩
  | detached => exact ⟨r, queue?_detach _ there, inside⟩
  | @put call q wakes here heard =>
    rw [queue?_putQueue here] at there
    by_cases same : other = name
    · cases (if_pos same).symm.trans there
      refine ⟨q, same ▸ here, ?_⟩
      by_contra unknown
      exact (sound q here).not_knows_run unknown (Call.not_adds_asks (spared same)) inside
    · exact ⟨r, (if_neg same).symm.trans there, inside⟩

/-- A removed id is not known. -/
theorem not_knows_remove (sound : ∀ q, s.queue? name = some q → q.Sound) (id : String) :
    ¬ (s.remove name id).scheduler.Knows name id := by
  rintro ⟨r, there, inside⟩
  simp only [remove] at there
  split at there
  next gone =>
    rw [gone] at there
    cases there
  next q here =>
    rw [queue?_putQueue here] at there
    cases (if_pos rfl).symm.trans there
    exact (((sound q here).remove id).knows id |>.mp inside).1 rfl

theorem titles_takeOne? {t : Task ω} (sound : ∀ q, s.queue? other = some q → q.Sound)
    (took : s.takeOne? other = some (s', t)) : s'.titles = s.titles := by
  obtain ⟨line, _, _, _, _, rfl⟩ := takeOne?_took sound took
  exact s.titles_modifyLine other (f := fun l => { l with queue := line.queue.take _ }) fun _ => rfl

end Scheduler

/-- A client brings a task of this id to this name. -/
def Move.Gives (name id : String) : Move ω → Prop
  | .client other call => other = name ∧ ∃ t, call.task? = some t ∧ t.id = id
  | _ => False

namespace Chronicle

variable {c : Chronicle ω} {name id : String}

theorem Reached.knows_step (reached : Reached c) {move : Move ω} (spared : ¬ move.Gives name id)
    (known : (c.step move).scheduler.Knows name id) : c.scheduler.Knows name id := by
  have sound : ∀ n q, c.scheduler.queue? n = some q → q.Sound := fun _ => reached.sound
  cases move with
  | client other call =>
    refine (Scheduler.serve_served (sound other) call).knows (sound other) ?_ known
    exact fun same t about named => spared ⟨same, t, about, named⟩
  | cancel =>
    exact (Scheduler.Knows.congr (congrFun (Scheduler.queue?_cancel _) name)).mp known
  | shutdown =>
    obtain ⟨q, there, inside⟩ := known
    have before : c.scheduler.cancel.queue? name = some q := Scheduler.queue?_foldl_detach _ there
    exact ⟨q, (congrFun (Scheduler.queue?_cancel _) name).symm.trans before, inside⟩
  | take other =>
    simp only [Chronicle.step] at known
    split at known
    · exact known
    next took =>
      exact (Scheduler.turns_takeOne took).knows (Scheduler.titles_takeOne? (sound other) took)
        (sound name) known
  | work plan place =>
    simp only [Chronicle.step] at known
    split at known
    · exact known
    next job found =>
      let s := { c.scheduler with ready := c.scheduler.ready.eraseIdx place }
      exact (Scheduler.turns_perform plan s job name).knows
        (Scheduler.titles_perform (s := s) sound plan job) (sound name) known
  | wait duration =>
    exact (Scheduler.Knows.congr (congrFun (Scheduler.queue?_reach _ _) name)).mp known

/-- What a move makes of the scheduler does not depend on the histories. -/
theorem step_scheduler (c : Chronicle ω) (move : Move ω) :
    (c.step move).scheduler = (step { scheduler := c.scheduler } move).scheduler := by
  cases move with
  | client | cancel | shutdown | wait => rfl
  | take name =>
    simp only [step]
    split <;> rfl
  | work plan place =>
    simp only [step]
    split <;> rfl

end Chronicle

namespace Scheduler

def moved (s : Scheduler ω) (move : Move ω) : Scheduler ω :=
  (Chronicle.step { scheduler := s } move).scheduler

/-- The scheduler is that of a moment of some run. -/
def Occurs (s : Scheduler ω) : Prop := ∃ c : Chronicle ω, c.Reached ∧ c.scheduler = s

variable {s : Scheduler ω} {name id : String}

theorem Occurs.moved (occurs : s.Occurs) (move : Move ω) : (s.moved move).Occurs := by
  obtain ⟨c, reached, rfl⟩ := occurs
  exact ⟨c.step move, reached.step move, c.step_scheduler move⟩

theorem Occurs.sound (occurs : s.Occurs) {q : Queue ω} (here : s.queue? name = some q) :
    q.Sound := by
  obtain ⟨c, reached, rfl⟩ := occurs
  exact reached.sound q here

theorem Occurs.distinct (occurs : s.Occurs) : s.titles.Nodup := by
  obtain ⟨c, reached, rfl⟩ := occurs
  exact reached.distinct

theorem Occurs.knows_moved (occurs : s.Occurs) (move : Move ω) (spared : ¬ move.Gives name id)
    (known : (s.moved move).Knows name id) : s.Knows name id := by
  obtain ⟨c, reached, rfl⟩ := occurs
  rw [Scheduler.moved, ← c.step_scheduler] at known
  exact reached.knows_step spared known

/-- A client who brings a task makes its id known, and no other. -/
theorem Occurs.knows_serve (occurs : s.Occurs) (call : Call ω) {t : Task ω}
    (about : call.task? = some t) (known : (s.serve name call).Knows name id) :
    t.id = id ∨ s.Knows name id := by
  by_cases same : t.id = id
  · exact .inl same
  · refine .inr (occurs.knows_moved (.client name call) ?_ known)
    rintro ⟨_, u, about', named⟩
    cases about.symm.trans about'
    exact same named

theorem Occurs.knows_remove (occurs : s.Occurs) {other : String}
    (known : (s.remove name other).scheduler.Knows name id) : other ≠ id ∧ s.Knows name id := by
  have sound : ∀ q, s.queue? name = some q → q.Sound := fun _ => occurs.sound
  constructor
  · rintro rfl
    exact not_knows_remove sound _ known
  · refine occurs.knows_moved (.client name (.remove other)) ?_ known
    rintro ⟨_, t, none_, _⟩
    cases none_

end Scheduler

end Vigil
