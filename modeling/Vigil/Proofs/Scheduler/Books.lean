import Vigil.Proofs.Queue.History

/-!
# Books: queues, histories and the executions that still owe a hand-back

What matters of a scheduler for the fate of its tasks: the registered queues with their histories,
and the executions under way, each with its ticket. The invariant (`Kept`) ties the three together.
Every history is honest and faithful to its queue, an execution that holds a claim is the one that
took the task, and the claim of an execution ends only with its hand-back, or with its loss.
-/
namespace Vigil

open Queue

variable {ω : Type}

structure Books (ω : Type) where
  queue? : String → Option (Queue ω)
  /-- The execution with this ticket took the task from the queue of this name, and has not handed
  it back yet. -/
  owes : String → Nat → Task ω → Prop
  dispatched : Nat
  trail : String → List (Deed ω)

/-- Add deeds to the history of a name, the newest first. -/
def noted (trail : String → List (Deed ω)) (name : String) (deeds : List (Deed ω))
    (other : String) : List (Deed ω) :=
  if name = other then deeds ++ trail other else trail other

theorem noted_self (trail : String → List (Deed ω)) (name : String) (deeds : List (Deed ω)) :
    noted trail name deeds name = deeds ++ trail name := if_pos rfl

theorem noted_nil (trail : String → List (Deed ω)) (name : String) :
    noted trail name [] = trail := by
  funext other
  simp [noted]

theorem noted_noted (trail : String → List (Deed ω)) (name : String) (older newer : List (Deed ω)) :
    noted (noted trail name older) name newer = noted trail name (newer ++ older) := by
  funext other
  by_cases here : name = other
  · simp [noted, here]
  · simp [noted, here]

theorem mem_noted {trail : String → List (Deed ω)} {other : String} {d : Deed ω}
    (member : d ∈ trail other) (name : String) (deeds : List (Deed ω)) :
    d ∈ noted trail name deeds other := by
  unfold noted
  split
  · exact List.mem_append_right _ member
  · exact member

namespace Books

/-- Put a queue in place under a name, and note what was done to it. -/
def put (b : Books ω) (name : String) (q : Queue ω) (deeds : List (Deed ω)) : Books ω :=
  { b with
    queue? := fun other => if name = other then some q else b.queue? other
    trail := noted b.trail name deeds }

theorem replace_same {b : Books ω} {name : String} {q : Queue ω} (here : b.queue? name = some q) :
    (fun other => if name = other then some q else b.queue? other) = b.queue? := by
  funext other
  split
  next at_ => rw [← at_, here]
  next => rfl

theorem put_same {b : Books ω} {name : String} {q : Queue ω} (here : b.queue? name = some q)
    (deeds : List (Deed ω)) :
    b.put name q deeds = { b with trail := noted b.trail name deeds } := by
  simp only [put, replace_same here]

theorem put_put (b : Books ω) (name : String) (q r : Queue ω) (older newer : List (Deed ω)) :
    (b.put name q older).put name r newer = b.put name r (newer ++ older) := by
  have queues : ∀ other,
      (if name = other then some r else if name = other then some q else b.queue? other) =
        if name = other then some r else b.queue? other := by
    intro other
    split <;> rfl
  simp only [put, noted_noted, queues]

structure Kept (b : Books ω) : Prop where
  faithful : ∀ name q, b.queue? name = some q → Faithful q (b.trail name)
  honest : ∀ name, Honest (b.trail name)
  numbered : ∀ name k t, b.owes name k t → k < b.dispatched
  claimed : ∀ name id k t, claim id (b.trail name) = some (k, t) → k < b.dispatched
  own : ∀ name k t u, b.owes name k t → claim t.id (b.trail name) = some (k, u) → u = t
  owed : ∀ name q id k t, b.queue? name = some q → claim id (b.trail name) = some (k, t) →
    b.owes name k t ∨ .lost k t ∈ b.trail name

def blank : Books ω where
  queue? _ := none
  owes _ _ _ := False
  dispatched := 0
  trail _ := []

theorem kept_blank : (blank : Books ω).Kept := by
  refine ⟨?_, fun _ => honest_nil, ?_, ?_, ?_, ?_⟩
  · intro name q found
    cases found
  · intro name k t owes
    cases owes
  · intro name id k t claimed
    cases claimed
  · intro name k t u owes
    cases owes
  · intro name q id k t found
    cases found

/-- Queues may go. -/
theorem Kept.forget {b : Books ω} (kept : b.Kept) {queue? : String → Option (Queue ω)}
    (fewer : ∀ name q, queue? name = some q → b.queue? name = some q) :
    ({ b with queue? } : Books ω).Kept :=
  ⟨fun name q found => kept.faithful name q (fewer name q found), kept.honest, kept.numbered,
    kept.claimed, kept.own,
    fun name q id k t found => kept.owed name q id k t (fewer name q found)⟩

theorem Kept.faithful_put {b : Books ω} (kept : b.Kept) {name : String} {q : Queue ω}
    {deeds : List (Deed ω)} (faithful : Faithful q (deeds ++ b.trail name)) (other : String)
    (r : Queue ω) (found : (b.put name q deeds).queue? other = some r) :
    Faithful r ((b.put name q deeds).trail other) := by
  simp only [Books.put, noted] at found ⊢
  split at found
  next here =>
    subst here
    cases found
    rw [if_pos rfl]
    exact faithful
  next there =>
    rw [if_neg there]
    exact kept.faithful other r found

theorem Kept.honest_put {b : Books ω} (kept : b.Kept) {name : String} {deeds : List (Deed ω)}
    (honest : Honest (deeds ++ b.trail name)) (q : Queue ω) (other : String) :
    Honest ((b.put name q deeds).trail other) := by
  simp only [Books.put, noted]
  split
  next here =>
    subst here
    exact honest
  next => exact kept.honest other

/-- A client acts on a queue. No claim begins by that. -/
theorem Kept.put {b : Books ω} (kept : b.Kept) {name : String} {q : Queue ω} {deeds : List (Deed ω)}
    (faithful : Faithful q (deeds ++ b.trail name)) (honest : Honest (deeds ++ b.trail name))
    (fewer : ∀ id x, claim id (deeds ++ b.trail name) = some x →
      (b.queue? name).isSome ∧ claim id (b.trail name) = some x) : (b.put name q deeds).Kept := by
  have before : ∀ other id x, claim id (noted b.trail name deeds other) = some x →
      claim id (b.trail other) = some x := by
    intro other id x found
    unfold noted at found
    split at found
    next here =>
      subst here
      exact (fewer id x found).2
    next => exact found
  refine ⟨kept.faithful_put faithful, kept.honest_put honest q, kept.numbered, ?_, ?_, ?_⟩
  · intro other id k t found
    exact kept.claimed other id k t (before other id _ found)
  · intro other k t u owes found
    exact kept.own other k t u owes (before other t.id _ found)
  · intro other r id k t found claimed
    have old := before other id _ claimed
    have there : ∃ r, b.queue? other = some r := by
      simp only [Books.put] at found
      split at found
      next here =>
        subst here
        simp only [Books.put, noted_self] at claimed
        exact Option.isSome_iff_exists.mp (fewer id _ claimed).1
      next => exact ⟨r, found⟩
    obtain ⟨r', present⟩ := there
    rcases kept.owed other r' id k t present old with owes | lost
    · exact Or.inl owes
    · exact Or.inr (mem_noted lost name deeds)

/-- The first task of a queue goes to a new execution. -/
def hand (b : Books ω) (name : String) (q : Queue ω) (t : Task ω) : Books ω :=
  { b.put name (q.take t) [.taken b.dispatched t] with
    owes := fun other k u => b.owes other k u ∨ other = name ∧ k = b.dispatched ∧ u = t
    dispatched := b.dispatched + 1 }

theorem Kept.hand {b : Books ω} (kept : b.Kept) {name : String} {q : Queue ω} {t : Task ω}
    (here : b.queue? name = some q) (open_ : q.closed = false) (head : q.heap.peek = some t) :
    (b.hand name q t).Kept := by
  obtain ⟨faithful, fits⟩ := (kept.faithful name q here).take b.dispatched open_ head
  have honest := (kept.honest name).cons fits
  -- a claim is old, or it is the one that begins here
  have cases_ : ∀ other id k u, claim id ((b.hand name q t).trail other) = some (k, u) →
      claim id (b.trail other) = some (k, u) ∨ other = name ∧ k = b.dispatched ∧ u = t := by
    intro other id k u found
    simp only [Books.hand, Books.put, noted] at found
    split at found
    next same =>
      simp only [List.singleton_append, claim] at found
      split at found
      · cases found
        exact Or.inr ⟨same.symm, rfl, rfl⟩
      · exact Or.inl found
    next => exact Or.inl found
  refine ⟨kept.faithful_put faithful, kept.honest_put honest (q.take t), ?_, ?_, ?_, ?_⟩
  · intro other k u owes
    rcases owes with old | ⟨_, rfl, _⟩
    · exact Nat.lt_succ_of_lt (kept.numbered other k u old)
    · exact Nat.lt_succ_self _
  · intro other id k u found
    rcases cases_ other id k u found with old | ⟨_, rfl, _⟩
    · exact Nat.lt_succ_of_lt (kept.claimed other id k u old)
    · exact Nat.lt_succ_self _
  · intro other k u v owes found
    rcases cases_ other u.id k v found with old | ⟨same, number, rfl⟩
    · rcases owes with mine | ⟨_, number, _⟩
      · exact kept.own other k u v mine old
      · have below := kept.claimed other u.id k v old
        omega
    · rcases owes with mine | ⟨_, _, same⟩
      · have below := kept.numbered other k u mine
        omega
      · exact same.symm
  · intro other r id k u found claimed
    rcases cases_ other id k u claimed with old | new
    · have there : ∃ r, b.queue? other = some r := by
        simp only [Books.hand, Books.put] at found
        split at found
        next same => exact ⟨q, same ▸ here⟩
        next => exact ⟨r, found⟩
      obtain ⟨r', present⟩ := there
      rcases kept.owed other r' id k u present old with owes | lost
      · exact Or.inl (Or.inl owes)
      · exact Or.inr (mem_noted lost name _)
    · exact Or.inl (Or.inr new)

/-- The deeds of handing tasks over in order, the newest first. -/
def takings (tasks : List (Task ω)) (ticket : Nat) : List (Deed ω) :=
  ((tasks.zipIdx ticket).map fun (t, k) => .taken k t).reverse

theorem takings_cons (t : Task ω) (rest : List (Task ω)) (ticket : Nat) :
    takings (t :: rest) ticket = takings rest (ticket + 1) ++ [.taken ticket t] := by
  simp [takings, List.zipIdx_cons]

/-- The tasks go to new executions, in order, and leave the queue `q` behind. -/
def handAll (b : Books ω) (name : String) (q : Queue ω) (tasks : List (Task ω)) : Books ω where
  queue? other := if name = other then some q else b.queue? other
  owes other k u := b.owes other k u ∨ other = name ∧ (u, k) ∈ tasks.zipIdx b.dispatched
  dispatched := b.dispatched + tasks.length
  trail := noted b.trail name (takings tasks b.dispatched)

theorem handAll_nil {b : Books ω} {name : String} {q : Queue ω} (here : b.queue? name = some q) :
    b.handAll name q [] = b := by
  simp [handAll, replace_same here, takings, noted_nil]

theorem handAll_cons (b : Books ω) (name : String) (q after : Queue ω) (t : Task ω)
    (rest : List (Task ω)) :
    b.handAll name after (t :: rest) = (b.hand name q t).handAll name after rest := by
  have queues : ∀ other, (if name = other then some after else b.queue? other) =
      if name = other then some after
      else if name = other then some (q.take t) else b.queue? other := by
    intro other
    split <;> rfl
  have duties : ∀ other k u,
      (b.owes other k u ∨ other = name ∧ (u, k) ∈ (t :: rest).zipIdx b.dispatched) =
      ((b.owes other k u ∨ other = name ∧ k = b.dispatched ∧ u = t) ∨
        other = name ∧ (u, k) ∈ rest.zipIdx (b.dispatched + 1)) := by
    intro other k u
    simp only [List.zipIdx_cons, List.mem_cons, Prod.mk.injEq, eq_iff_iff]
    tauto
  simp only [handAll, hand, put, takings_cons, noted_noted, queues, duties, List.length_cons,
    Nat.add_assoc, Nat.add_comm 1]

/-- A dispatch loop hands every due task over. -/
theorem Kept.takeDue {b : Books ω} (kept : b.Kept) {name : String} {q : Queue ω}
    (here : b.queue? name = some q) (now : Int) :
    (b.handAll name (q.takeDue now).1 (q.takeDue now).2.1).Kept := by
  fun_induction Queue.takeDue q now generalizing b with
  | case1 q looked => rwa [handAll_nil here]
  | case2 q wakeAt looked => rwa [handAll_nil here]
  | case3 q t rest looked after tasks last eq ih =>
    obtain ⟨open_, head, _, rfl⟩ := glance_taken (kept.faithful name q here).sound looked
    have first := kept.hand here open_ head
    have there : (b.hand name q t).queue? name = some (q.take t) := if_pos rfl
    have final := ih first there
    rw [eq, ← handAll_cons] at final
    exact final

/-- A duty is dropped: nobody holds a claim by it, or the execution is known to be lost. -/
theorem Kept.dismiss {b : Books ω} (kept : b.Kept) {name : String} {k : Nat} {t : Task ω}
    {owes : String → Nat → Task ω → Prop} (fewer : ∀ n j u, owes n j u → b.owes n j u)
    (others : ∀ n j u, b.owes n j u → owes n j u ∨ n = name ∧ j = k ∧ u = t)
    (done : ∀ q, b.queue? name = some q → claim t.id (b.trail name) = some (k, t) →
      .lost k t ∈ b.trail name) : ({ b with owes } : Books ω).Kept := by
  refine ⟨kept.faithful, kept.honest, ?_, kept.claimed, ?_, ?_⟩
  · intro n j u owed
    exact kept.numbered n j u (fewer n j u owed)
  · intro n j u v owed
    exact kept.own n j u v (fewer n j u owed)
  · intro n q id j u found held
    rcases kept.owed n q id j u found held with owed | lost
    · rcases others n j u owed with still | ⟨rfl, rfl, rfl⟩
      · exact Or.inl still
      · obtain ⟨rfl, _⟩ := (kept.faithful n q found).held id j u held
        exact Or.inr (done q found held)
    · exact Or.inr lost

/-- An execution is over at the time `now` and hands its task back to the queue of the name it came
from, whichever queue that is by then. -/
def handBack (b : Books ω) (now : Int) (name : String) (k : Nat) (t : Task ω) : Books ω :=
  match b.queue? name with
  | none => b
  | some q =>
    match t.nextRun? now with
    | none => b.put name q [.lost k t]
    | some next =>
      match q.requeue next with
      | .error _ => b
      | .ok e => b.put name e.queue [.returned k t e.answer]

theorem handBack_owes (b : Books ω) (owes : String → Nat → Task ω → Prop) (now : Int)
    (name : String) (k : Nat) (t : Task ω) :
    ({ b with owes } : Books ω).handBack now name k t = { b.handBack now name k t with owes } := by
  unfold handBack
  simp only
  split
  · rfl
  · split
    · rfl
    · split <;> rfl

/-- An execution is over, and the queue its task came from is told. -/
theorem Kept.discharge {b : Books ω} (kept : b.Kept) {name : String} {k : Nat} {t : Task ω}
    {q q' : Queue ω} {d : Deed ω} (here : b.queue? name = some q)
    (faithful : Faithful q' (d :: b.trail name)) (fits : Fits (b.trail name) d)
    (older : ∀ id x, claim id (d :: b.trail name) = some x → claim id (b.trail name) = some x)
    (done : claim t.id (d :: b.trail name) = some (k, t) → .lost k t ∈ d :: b.trail name)
    {owes : String → Nat → Task ω → Prop} (fewer : ∀ n j u, owes n j u → b.owes n j u)
    (others : ∀ n j u, b.owes n j u → owes n j u ∨ n = name ∧ j = k ∧ u = t) :
    ({ b.put name q' [d] with owes } : Books ω).Kept := by
  have told : (b.put name q' [d]).Kept := by
    refine kept.put faithful ((kept.honest name).cons fits) ?_
    intro id x found
    exact ⟨Option.isSome_of_eq_some here, older id x found⟩
  refine told.dismiss fewer others ?_
  simp only [Books.put, noted_self, List.singleton_append]
  exact fun _ _ => done

theorem Kept.handBack {b : Books ω} (kept : b.Kept) (now : Int) {name : String} {k : Nat}
    {t : Task ω} (mine : b.owes name k t) {owes : String → Nat → Task ω → Prop}
    (fewer : ∀ n j u, owes n j u → b.owes n j u)
    (others : ∀ n j u, b.owes n j u → owes n j u ∨ n = name ∧ j = k ∧ u = t) :
    (({ b with owes } : Books ω).handBack now name k t).Kept := by
  rw [handBack_owes]
  unfold Books.handBack
  split
  next gone =>
    refine kept.dismiss fewer others ?_
    intro q found
    rw [gone] at found
    cases found
  next q here =>
    have faithful := kept.faithful name q here
    split
    next late =>
      refine kept.discharge here (faithful.lose k t) trivial ?_ ?_ fewer others
      · exact fun id x found => found
      · exact fun _ => List.mem_cons_self
    next next again =>
      obtain ⟨id, same⟩ := Task.record_nextRun again
      split
      next why refused =>
        refine kept.dismiss fewer others ?_
        intro r _ held
        have flying := (faithful.flying t.id).mpr (Option.isSome_of_eq_some held)
        exact absurd flying ((faithful.sound.emptied (requeue_error refused)).2 t.id)
      next e success =>
        obtain ⟨open_, ⟨absent, rfl⟩ | ⟨flying, _, rfl⟩⟩ := requeue_ok faithful.sound success
        · rw [id] at absent
          obtain ⟨faithful', fits⟩ := faithful.refuse (k := k) absent
          refine kept.discharge here faithful' fits ?_ ?_ fewer others
          · intro other x found
            simpa [claim] using found
          · intro held
            simp only [claim, Bool.false_eq_true, false_and, ↓reduceIte] at held
            exact absurd ((faithful.flying t.id).mpr (Option.isSome_of_eq_some held)) absent
        · rw [id] at flying
          obtain ⟨faithful', fits⟩ := faithful.giveBack open_ id same flying
            (fun u held => kept.own name k t u mine held)
          refine kept.discharge here faithful' fits ?_ ?_ fewer others
          · intro other x found
            simp only [claim, true_and] at found
            split at found
            · cases found
            · exact found
          · intro held
            simp [claim] at held

/-! ### Clients -/

theorem Kept.opened {b : Books ω} (kept : b.Kept) (name : String) :
    (b.put name {} [.opened]).Kept := by
  refine kept.put (faithful_opened _) ((kept.honest name).cons trivial) ?_
  intro id x found
  cases found

section

variable {b : Books ω} {name : String} {q : Queue ω}

theorem Kept.closed (kept : b.Kept) (here : b.queue? name = some q) :
    (b.put name q.close.1 [.closed]).Kept := by
  refine kept.put (kept.faithful name q here).close ((kept.honest name).cons trivial) ?_
  intro id x found
  cases found

theorem Kept.removed (kept : b.Kept) (here : b.queue? name = some q) (id : String) :
    (b.put name (q.remove id).1 [.removed id]).Kept := by
  refine kept.put ((kept.faithful name q here).remove id) ((kept.honest name).cons trivial) ?_
  intro other x found
  simp only [List.singleton_append, claim] at found
  split at found
  · cases found
  · exact ⟨Option.isSome_of_eq_some here, found⟩

theorem Kept.installed (kept : b.Kept) (here : b.queue? name = some q) {t : Task ω}
    (open_ : q.closed = false) (free : q.find? t.id = none) :
    (b.put name (q.place t) [.installed t]).Kept := by
  refine kept.put ((kept.faithful name q here).install open_ free)
    ((kept.honest name).cons trivial) ?_
  intro other x found
  simp only [List.singleton_append, claim] at found
  split at found
  · cases found
  · exact ⟨Option.isSome_of_eq_some here, found⟩

theorem Kept.rekeyed (kept : b.Kept) (here : b.queue? name = some q) {id : String} {pos : Nat}
    (due : Int) (found : q.heap.position id = some pos) :
    (b.put name (q.rekey pos due) [.rekeyed id due]).Kept := by
  refine kept.put ((kept.faithful name q here).rekey due found)
    ((kept.honest name).cons trivial) ?_
  intro other x claimed
  exact ⟨Option.isSome_of_eq_some here, claimed⟩

/-! ### What the books say of a task that clients want -/

/-- An id that stands is queued once, or its last execution still owes it, and never both. -/
theorem Kept.retained (kept : b.Kept) (here : b.queue? name = some q) (open_ : q.closed = false)
    {id : String} (stands : standing id (b.trail name) = true)
    (unlost : ∀ k t, t.id = id → .lost k t ∉ b.trail name) :
    q.copies id = 1 ∧ id ∉ q.inFlight ∨
      q.copies id = 0 ∧ id ∈ q.inFlight ∧
        ∃ k t, t.id = id ∧ lastTaken id (b.trail name) = some (k, t) ∧ b.owes name k t := by
  have faithful := kept.faithful name q here
  have count := faithful.sound.copies_eq id
  cases found : q.find? id with
  | some t =>
    left
    rw [found] at count
    refine ⟨count, ?_⟩
    intro flying
    rw [faithful.sound.apart id flying] at found
    cases found
  | none =>
    right
    rw [found] at count
    rcases faithful.standing open_ id stands with queued | claimed
    · rw [found] at queued
      cases queued
    · refine ⟨count, (faithful.flying id).mpr claimed, ?_⟩
      obtain ⟨⟨k, t⟩, held⟩ := Option.isSome_iff_exists.mp claimed
      obtain ⟨named, _⟩ := faithful.held id k t held
      refine ⟨k, t, named, lastTaken_of_claim held, ?_⟩
      rcases kept.owed name q id k t here held with owes | lost
      · exact owes
      · exact absurd lost (unlost k t named)

end

end Books

end Vigil
