import Vigil.Proofs.Queue.Invariant

/-!
# The history of a queue

A queue remembers of its executions only which ids are in flight. Its history, the newest deed
first, remembers more: which execution took an id last, and which record was installed for it.
A history is faithful to a queue (`Faithful`) if an id is in flight exactly while an execution
holds a claim on it, and if what is queued or claimed carries the record the history expects.
The expected record is the newest one installed, unless a handler whose claim had passed to a later
execution brought back its own (`intruder`).
-/
namespace Vigil

variable {ω : Type}

/-- What the executions of a task do and how often; the due time is not part of it. -/
def Task.record (t : Task ω) : ω × Nat := (t.work, t.interval)

theorem Task.record_nextRun {t next : Task ω} {completed : Int}
    (again : t.nextRun? completed = some next) : next.id = t.id ∧ next.record = t.record := by
  obtain ⟨id, _, interval, work, _⟩ := Task.nextRun?_eq_some again
  refine ⟨id, ?_⟩
  simp only [Task.record, interval, work]

namespace Queue

/-- Something that was done to the queue of some name. Tickets tell executions apart. -/
inductive Deed (ω : Type) where
  /-- The name was given to a new, empty queue. -/
  | opened
  /-- A task was queued under an id that was not queued. -/
  | installed (task : Task ω)
  /-- The queued task of an id was given a new due time. -/
  | rekeyed (id : String) (due : Int)
  | removed (id : String)
  | taken (ticket : Nat) (task : Task ω)
  /-- An execution handed its task back, and the queue accepted it or not. -/
  | returned (ticket : Nat) (task : Task ω) (accepted : Bool)
  /-- An execution ended too late for its next due time to be represented. -/
  | lost (ticket : Nat) (task : Task ω)
  | closed
  deriving DecidableEq

/-- The execution that took the id last, and its task, unless the id was installed, removed or
handed back since. -/
def claim (id : String) : List (Deed ω) → Option (Nat × Task ω)
  | [] => none
  | .opened :: _ => none
  | .installed t :: h => if t.id = id then none else claim id h
  | .rekeyed .. :: h => claim id h
  | .removed other :: h => if other = id then none else claim id h
  | .taken k t :: h => if t.id = id then some (k, t) else claim id h
  | .returned _ t accepted :: h => if accepted = true ∧ t.id = id then none else claim id h
  | .lost .. :: h => claim id h
  | .closed :: _ => none

/-- The ticket of the execution that holds the claim. -/
def holder (id : String) (h : List (Deed ω)) : Option Nat := (claim id h).map (·.1)

/-- The most recent execution of an id, and the task it took. -/
def lastTaken (id : String) : List (Deed ω) → Option (Nat × Task ω)
  | [] => none
  | .opened :: _ => none
  | .taken k t :: h => if t.id = id then some (k, t) else lastTaken id h
  | _ :: h => lastTaken id h

/-- The record installed last, if the id was not removed since. -/
def newest (id : String) : List (Deed ω) → Option (ω × Nat)
  | [] => none
  | .opened :: _ => none
  | .installed t :: h => if t.id = id then some t.record else newest id h
  | .removed other :: h => if other = id then none else newest id h
  | _ :: h => newest id h

/-- The record that was accepted last from an execution other than the holder of the claim, if the
id was neither installed nor removed since. -/
def intruder (id : String) : List (Deed ω) → Option (ω × Nat)
  | [] => none
  | .opened :: _ => none
  | .installed t :: h => if t.id = id then none else intruder id h
  | .removed other :: h => if other = id then none else intruder id h
  | .returned k t accepted :: h =>
    if accepted = true ∧ t.id = id ∧ holder id h ≠ some k then some t.record else intruder id h
  | _ :: h => intruder id h

/-- The record the next execution of the id is to be made with. -/
def current (id : String) (h : List (Deed ω)) : Option (ω × Nat) :=
  (intruder id h).or (newest id h)

/-- Whether the last thing a client did about the id was to register or replace it. -/
def standing (id : String) : List (Deed ω) → Bool
  | [] => false
  | .opened :: _ => false
  | .installed t :: h => t.id = id || standing id h
  | .rekeyed other _ :: h => other = id || standing id h
  | .removed other :: h => other ≠ id && standing id h
  | _ :: h => standing id h

theorem lastTaken_of_claim {id : String} {x : Nat × Task ω} {h : List (Deed ω)}
    (claimed : claim id h = some x) : lastTaken id h = some x := by
  induction h with
  | nil => cases claimed
  | cons d h ih =>
    cases d <;> simp only [claim, lastTaken] at claimed ⊢ <;> grind

/-- The deed is what the history before it calls for: an execution is made with the expected
record, and a hand-back is accepted exactly if somebody holds a claim on its id. -/
def Fits (earlier : List (Deed ω)) : Deed ω → Prop
  | .taken _ t => current t.id earlier = some t.record
  | .returned _ t accepted => accepted = true ↔ (claim t.id earlier).isSome
  | _ => True

def Honest (h : List (Deed ω)) : Prop := ∀ d earlier, d :: earlier <:+ h → Fits earlier d

theorem honest_nil : Honest ([] : List (Deed ω)) := by
  intro d earlier suffix
  cases List.eq_nil_of_suffix_nil suffix

theorem Honest.of_suffix {h h' : List (Deed ω)} (honest : Honest h) (older : h' <:+ h) :
    Honest h' :=
  fun d earlier suffix => honest d earlier (suffix.trans older)

theorem Honest.cons {h : List (Deed ω)} (honest : Honest h) {d : Deed ω} (fits : Fits h d) :
    Honest (d :: h) := by
  intro other earlier suffix
  rcases List.suffix_cons_iff.mp suffix with same | inner
  · cases same
    exact fits
  · exact honest other earlier inner

/-! ### What a history says about its queue -/

structure Faithful (q : Queue ω) (h : List (Deed ω)) : Prop where
  sound : q.Sound
  flying : ∀ id, id ∈ q.inFlight ↔ (claim id h).isSome
  queued : ∀ id t, q.find? id = some t → current id h = some t.record
  held : ∀ id k t, claim id h = some (k, t) → t.id = id ∧ current id h = some t.record
  standing : q.closed = false → ∀ id, standing id h = true →
    (q.find? id).isSome ∨ (claim id h).isSome

theorem faithful_opened (h : List (Deed ω)) : Faithful ({} : Queue ω) (.opened :: h) := by
  refine ⟨sound_empty, ?_, ?_, ?_, ?_⟩
  · intro id
    simp [claim]
  · intro id t found
    simp [find?, Heap.position] at found
  · intro id k t claimed
    cases claimed
  · intro _ id stands
    cases stands

section

variable {q : Queue ω} {h : List (Deed ω)} {t : Task ω}

theorem Faithful.install (faithful : Faithful q h) (open_ : q.closed = false)
    (free : q.find? t.id = none) : Faithful (q.place t) (.installed t :: h) := by
  obtain ⟨sound, finds⟩ := faithful.sound.place open_ free
  have expected : ∀ id, current id (.installed t :: h) =
      if t.id = id then some t.record else current id h := by
    intro id
    simp only [current, intruder, newest]
    split <;> rfl
  refine ⟨sound, ?_, ?_, ?_, ?_⟩
  · intro id
    rw [mem_inFlight_place, faithful.flying, claim]
    split <;> simp_all
  · intro id u found
    rw [finds] at found
    rw [expected]
    split at found
    next here =>
      cases found
      rw [if_pos here]
    next other =>
      rw [if_neg other]
      exact faithful.queued id u found
  · intro id k u claimed
    rw [expected]
    simp only [claim] at claimed
    split at claimed
    · cases claimed
    next other =>
      rw [if_neg other]
      exact faithful.held id k u claimed
  · intro _ id stands
    rw [finds, claim]
    split
    next => exact Or.inl rfl
    next other =>
      simp only [Queue.standing, other, decide_false, Bool.false_or] at stands
      exact faithful.standing open_ id stands

theorem Faithful.rekey (faithful : Faithful q h) {id : String} {pos : Nat} (due : Int)
    (found : q.heap.position id = some pos) :
    Faithful (q.rekey pos due) (.rekeyed id due :: h) := by
  obtain ⟨sound, old, there, finds⟩ := faithful.sound.rekey due found
  refine ⟨sound, faithful.flying, ?_, faithful.held, ?_⟩
  · intro other u moved
    rw [finds] at moved
    split at moved
    next same =>
      subst same
      cases moved
      exact faithful.queued id old there
    next => exact faithful.queued other u moved
  · intro open_ other stands
    rw [finds]
    split
    next => exact Or.inl rfl
    next different =>
      simp only [Queue.standing, different, decide_false, Bool.false_or] at stands
      exact faithful.standing open_ other stands

theorem Faithful.remove (faithful : Faithful q h) (id : String) :
    Faithful (q.remove id).1 (.removed id :: h) := by
  obtain ⟨sound, same, finds, flying, _⟩ := faithful.sound.remove id
  have expected : ∀ other, current other (.removed id :: h) =
      if id = other then none else current other h := by
    intro other
    simp only [current, intruder, newest]
    split <;> rfl
  refine ⟨sound, ?_, ?_, ?_, ?_⟩
  · intro other
    rw [flying, faithful.flying, claim]
    split <;> simp_all
  · intro other u found
    rw [finds] at found
    rw [expected]
    split at found
    · cases found
    next different =>
      rw [if_neg different]
      exact faithful.queued other u found
  · intro other k u claimed
    simp only [claim] at claimed
    rw [expected]
    split at claimed
    · cases claimed
    next different =>
      rw [if_neg different]
      exact faithful.held other k u claimed
  · intro open_ other stands
    simp only [Queue.standing, Bool.and_eq_true, decide_eq_true_eq] at stands
    rw [finds, claim, if_neg stands.1, if_neg stands.1]
    exact faithful.standing (same ▸ open_) other stands.2

theorem Faithful.take (faithful : Faithful q h) (k : Nat) (open_ : q.closed = false)
    (head : q.heap.peek = some t) :
    Faithful (q.take t) (.taken k t :: h) ∧ Fits h (.taken k t) := by
  obtain ⟨_, sound, there, finds⟩ := faithful.sound.take open_ head
  have fits : current t.id h = some t.record := faithful.queued t.id t there
  refine ⟨⟨sound, ?_, ?_, ?_, ?_⟩, fits⟩
  · intro id
    rw [mem_inFlight_take, faithful.flying, claim]
    split <;> simp_all
  · intro id u found
    rw [finds] at found
    split at found
    · cases found
    · exact faithful.queued id u found
  · intro id n u claimed
    simp only [claim] at claimed
    split at claimed
    next same =>
      cases claimed
      exact ⟨same, same ▸ fits⟩
    next => exact faithful.held id n u claimed
  · intro _ id stands
    rw [finds, claim]
    split
    · exact Or.inr rfl
    · exact faithful.standing open_ id stands

/-- After an accepted hand-back the record it brought is the expected one, be it the holder's, which
was expected before, or an intruder's. -/
theorem Faithful.current_returned (faithful : Faithful q h) {k : Nat}
    (own : ∀ u, claim t.id h = some (k, u) → u = t) (other : String) :
    current other (.returned k t true :: h) =
      if t.id = other then some t.record else current other h := by
  simp only [current, intruder, newest, true_and]
  split
  next both => rw [if_pos both.1, Option.some_or]
  next neither =>
    split
    next here =>
      subst here
      have mine : holder t.id h = some k := by
        by_contra other
        exact neither ⟨rfl, other⟩
      obtain ⟨⟨n, u⟩, first, rfl⟩ := Option.map_eq_some_iff.mp mine
      have took := own u first
      subst took
      exact (faithful.held u.id n u first).2
    next => rfl

/-- An accepted hand-back queues the next run of the task, whoever brings it. An execution that
holds the claim itself has to be the one that took the task. -/
theorem Faithful.giveBack (faithful : Faithful q h) {k : Nat} {next : Task ω}
    (open_ : q.closed = false) (id : next.id = t.id) (same : next.record = t.record)
    (flying : t.id ∈ q.inFlight)
    (own : ∀ u, claim t.id h = some (k, u) → u = t) :
    Faithful (q.place next) (.returned k t true :: h) ∧ Fits h (.returned k t true) := by
  have free : q.find? next.id = none := by
    rw [id]
    exact faithful.sound.apart t.id flying
  have claimed := (faithful.flying t.id).mp flying
  obtain ⟨sound, finds⟩ := faithful.sound.place open_ free
  have expected := faithful.current_returned own
  refine ⟨⟨sound, ?_, ?_, ?_, ?_⟩, by simp [Fits, claimed]⟩
  · intro other
    rw [mem_inFlight_place, faithful.flying, claim, id]
    split <;> simp_all
  · intro other u found
    rw [finds, id] at found
    rw [expected]
    split at found
    next here =>
      cases found
      rw [if_pos here, same]
    next different =>
      rw [if_neg different]
      exact faithful.queued other u found
  · intro other n u held
    simp only [claim, true_and] at held
    split at held
    · cases held
    next different =>
      rw [expected, if_neg different]
      exact faithful.held other n u held
  · intro _ other stands
    rw [finds, claim, id]
    simp only [true_and]
    split
    · exact Or.inl rfl
    · exact faithful.standing open_ other stands

theorem Faithful.refuse (faithful : Faithful q h) {k : Nat} (absent : t.id ∉ q.inFlight) :
    Faithful q (.returned k t false :: h) ∧ Fits h (.returned k t false) := by
  have unclaimed : ¬ (claim t.id h).isSome := fun claimed =>
    absent ((faithful.flying t.id).mpr claimed)
  refine ⟨⟨faithful.sound, ?_, ?_, ?_, ?_⟩, by simp [Fits, unclaimed]⟩
  · simpa [claim] using faithful.flying
  · simpa [current, intruder, newest] using faithful.queued
  · simpa [claim, current, intruder, newest] using faithful.held
  · simpa [claim, Queue.standing] using faithful.standing

/-- An execution that is lost leaves its claim behind. -/
theorem Faithful.lose (faithful : Faithful q h) (k : Nat) (t : Task ω) :
    Faithful q (.lost k t :: h) :=
  ⟨faithful.sound, faithful.flying, faithful.queued, faithful.held, faithful.standing⟩

theorem Faithful.close (faithful : Faithful q h) : Faithful q.close.1 (.closed :: h) := by
  obtain ⟨closed, _, gone, empty⟩ := close_queue q
  refine ⟨faithful.sound.close, ?_, ?_, ?_, ?_⟩
  · intro id
    simp [claim, empty id]
  · intro id u found
    rw [gone] at found
    cases found
  · intro id k u claimed
    cases claimed
  · intro open_
    rw [closed] at open_
    cases open_

end

end Queue

end Vigil
