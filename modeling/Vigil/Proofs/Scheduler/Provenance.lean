import Vigil.Proofs.Scheduler.Tickets

/-!
# Where records come from

A record comes to a queue with the task that a client gives it, and to the queue of another name
only if a client brings it there. So what is true of each record that clients bring under a name is
true of every task of that name, in its history and under way (`Bears.run`).
-/
namespace Vigil

open Queue

variable {ω : Type}

namespace Queue

/-- The task that the deed is about, if that is known whole. -/
def Deed.task? : Deed ω → Option (Task ω)
  | .installed t | .taken _ t | .returned _ t _ | .lost _ t => some t
  | _ => none

/-- What an id is to be executed with next is the record of some task of the history. -/
theorem exists_task_of_current {id : String} {h : List (Deed ω)} {r : ω × Nat}
    (expected : current id h = some r) : ∃ d ∈ h, ∃ t, d.task? = some t ∧ t.record = r := by
  induction h with
  | nil => cases expected
  | cons d h ih =>
    have keep (before : current id h = some r) :
        ∃ e ∈ d :: h, ∃ t, e.task? = some t ∧ t.record = r := by
      obtain ⟨e, member, found⟩ := ih before
      exact ⟨e, List.mem_cons_of_mem d member, found⟩
    cases d with
    | opened => cases expected
    | installed t =>
      simp only [current, intruder, newest] at expected
      split at expected
      next here =>
        cases expected
        exact ⟨_, List.mem_cons_self, t, rfl, rfl⟩
      next other => exact keep expected
    | removed other =>
      simp only [current, intruder, newest] at expected
      split at expected
      next here => cases expected
      next different => exact keep expected
    | returned k t accepted =>
      simp only [current, intruder, newest] at expected
      split at expected
      next brought =>
        cases expected
        exact ⟨_, List.mem_cons_self, t, rfl, rfl⟩
      next => exact keep expected
    | taken | rekeyed | lost | closed => exact keep expected

end Queue

namespace Scheduler

/-- The task that a client brings. -/
def Call.task? : Call ω → Option (Task ω)
  | .register t | .update t | .push t => some t
  | _ => none

theorem task?_serving (s : Scheduler ω) (name : String) (call : Call ω) :
    ∀ d ∈ s.serving name call, d.task? = none ∨ d.task? = call.task? := by
  cases call with
  | addQueue =>
    simp only [serving]
    split <;> simp [Deed.task?]
  | removeQueue => exact List.forall_mem_nil _
  | closeQueue =>
    simp only [serving]
    split <;> simp [Deed.task?]
  | register t =>
    simp only [serving, registering]
    split
    · simp
    · split
      · simp
      · split <;> simp [Deed.task?, Call.task?]
  | update t =>
    simp only [serving, updating]
    split
    · simp
    · split <;> simp [Deed.task?, Call.task?]
  | remove id =>
    simp only [serving]
    split <;> simp [Deed.task?]
  | push t =>
    simp only [serving, pushing]
    split
    · simp
    · split <;> simp [Deed.task?, Call.task?]

/-- What jobs do is done by executions. -/
theorem signed_doing (plan : Task ω → Execution) (s : Scheduler ω) (job : Job ω) :
    ∀ d ∈ (s.doing plan job).2, d.ticket? ≠ none := by
  have back (name : String) (k : Nat) (t : Task ω) :
      ∀ d ∈ s.returning name k t, d.ticket? ≠ none := by
    unfold returning
    split
    · exact List.forall_mem_nil _
    · split
      · simp [Deed.ticket?]
      · split <;> simp [Deed.ticket?]
  cases job with
  | dispatch name =>
    simp only [doing, handing]
    split
    · exact List.forall_mem_nil _
    · split
      · exact List.forall_mem_nil _
      · intro d member
        obtain ⟨x, _, rfl⟩ := List.mem_map.mp (List.mem_reverse.mp member)
        exact Option.some_ne_none x.2
  | retire | release => exact List.forall_mem_nil _
  | finish r | expire r => exact back r.queue r.ticket r.task
  | start name k t =>
    simp only [doing]
    split
    · exact back name k t
    · exact List.forall_mem_nil _

end Scheduler

/-- What clients bring under a name has the property that goes with it. -/
def Move.Brings (P : String → ω × Nat → Prop) : Move ω → Prop
  | .client name call => ∀ t, call.task? = some t → P name t.record
  | _ => True

namespace Chronicle

variable {c : Chronicle ω} {P : String → ω × Nat → Prop}

/-- Every task of a name has the property that goes with it. -/
structure Bears (P : String → ω × Nat → Prop) (c : Chronicle ω) : Prop where
  deeds : ∀ name, ∀ d ∈ c.trail name, ∀ t, d.task? = some t → P name t.record
  duties : ∀ name k t, (name, k, t) ∈ c.scheduler.duties → P name t.record

theorem bears_fresh (P : String → ω × Nat → Prop) (config : Scheduler.Config) (now : Int) :
    Bears P { scheduler := { config, now } } :=
  ⟨fun _ => List.forall_mem_nil _, fun _ _ _ member => by cases member⟩

/-- Only the client who brings a task installs it. -/
theorem installed_step {move : Move ω} (brings : move.Brings P) {name : String} {t : Task ω}
    (member : .installed t ∈ (c.step move).trail name) :
    .installed t ∈ c.trail name ∨ P name t.record := by
  have new {other : String} {deeds : List (Deed ω)}
      (inside : .installed t ∈ noted c.trail other deeds name) :
      .installed t ∈ c.trail name ∨ name = other ∧ .installed t ∈ deeds := by
    unfold noted at inside
    split at inside
    next same => exact (List.mem_append.mp inside).symm.imp_right fun new => ⟨same.symm, new⟩
    next => exact .inl inside
  cases move with
  | client other call =>
    refine (new member).imp_right ?_
    rintro ⟨rfl, served⟩
    rcases c.scheduler.task?_serving name call _ served with none_ | same
    · cases none_
    · exact brings t same.symm
  | cancel | shutdown | wait => exact .inl member
  | take other =>
    simp only [Chronicle.step] at member
    split at member
    · exact .inl member
    · refine (new member).imp_right ?_
      rintro ⟨_, taken⟩
      cases List.mem_singleton.mp taken
  | work plan place =>
    simp only [Chronicle.step] at member
    split at member
    · exact .inl member
    · refine (new member).imp_right ?_
      rintro ⟨_, done⟩
      exact absurd rfl (Scheduler.signed_doing plan _ _ _ done)

/-- Only an execution that is under way hands its task back, or loses it. -/
theorem handed_step (reached : Reached c) {move : Move ω} {name : String} {k : Nat} {t : Task ω}
    {d : Deed ω} (back : d = .lost k t ∨ ∃ accepted, d = .returned k t accepted)
    (member : d ∈ (c.step move).trail name) :
    d ∈ c.trail name ∨ (name, k, t) ∈ c.scheduler.duties := by
  obtain ⟨other, deeds, trail, entered⟩ := entered_step reached move
  have about : d.task? = some t ∧ d.ticket? = some k ∧ ∀ j u, d ≠ .taken j u := by
    rcases back with rfl | ⟨accepted, rfl⟩ <;> simp [Deed.task?, Deed.ticket?]
  obtain ⟨task, ticket, kept⟩ := about
  rw [trail, noted] at member
  split at member
  next same =>
    subst same
    refine (List.mem_append.mp member).symm.imp_right fun new => ?_
    cases entered with
    | unsigned nobody =>
      rw [nobody d new] at ticket
      cases ticket
    | taken =>
      obtain ⟨x, _, rfl⟩ := List.mem_map.mp (List.mem_reverse.mp new)
      exact absurd rfl (kept x.2 x.1)
    | @handed j u e owes signed =>
      cases List.mem_singleton.mp new
      have same : d.task? = some u ∧ d.ticket? = some j := by
        rcases signed with rfl | ⟨accepted, rfl⟩ <;> exact ⟨rfl, rfl⟩
      cases task.symm.trans same.1
      cases ticket.symm.trans same.2
      exact owes
  next => exact .inl member

/-- An execution is under way since its task was taken. -/
theorem duties_step (reached : Reached c) {move : Move ω} {name : String} {k : Nat} {t : Task ω}
    (owes : (name, k, t) ∈ (c.step move).scheduler.duties) :
    (name, k, t) ∈ c.scheduler.duties ∨ .taken k t ∈ (c.step move).trail name := by
  obtain ⟨other, deeds, trail, entered⟩ := entered_step reached move
  cases entered with
  | unsigned _ fewer => exact .inl (fewer _ owes)
  | handed _ _ fewer => exact .inl (fewer _ owes)
  | taken tasks grown =>
    refine (grown _ owes).imp_right ?_
    rintro ⟨u, j, inside, same⟩
    obtain ⟨rfl, rfl, rfl⟩ : name = other ∧ k = j ∧ t = u := by simpa using same
    rw [trail, noted_self]
    exact List.mem_append_left _ (mem_takings.mpr inside)

theorem Bears.step (bears : Bears P c) (reached : Reached c) {move : Move ω}
    (brings : move.Brings P) : Bears P (c.step move) := by
  have honest : ∀ name, Honest ((c.step move).trail name) := (reached.step move).kept.honest
  -- along the history, as what is taken depends on what is older
  have known : ∀ name h, h <:+ (c.step move).trail name →
      ∀ d ∈ h, ∀ t, d.task? = some t → P name t.record := by
    intro name h
    induction h with
    | nil => exact fun _ => List.forall_mem_nil _
    | cons d h ih =>
      intro suffix
      have before := ih ((List.suffix_cons d h).trans suffix)
      refine List.forall_mem_cons.mpr ⟨fun t about => ?_, before⟩
      have member : d ∈ (c.step move).trail name := suffix.subset List.mem_cons_self
      have old (inside : d ∈ c.trail name) : P name t.record := bears.deeds name d inside t about
      cases d with
      | opened | rekeyed | removed | closed => cases about
      | installed u =>
        cases about
        exact (installed_step brings member).elim old id
      | taken k u =>
        cases about
        obtain ⟨e, inside, v, same, record⟩ := exists_task_of_current (honest name _ _ suffix)
        exact record ▸ before e inside v same
      | returned k u accepted =>
        cases about
        exact (handed_step reached (.inr ⟨accepted, rfl⟩) member).elim old (bears.duties name k t)
      | lost k u =>
        cases about
        exact (handed_step reached (.inl rfl) member).elim old (bears.duties name k t)
  refine ⟨fun name => known name _ (List.suffix_refl _), fun name k t owes => ?_⟩
  rcases duties_step reached owes with before | taken
  · exact bears.duties name k t before
  · exact known name _ (List.suffix_refl _) _ taken t rfl

theorem Bears.run (bears : Bears P c) (reached : Reached c) {moves : List (Move ω)}
    (brings : ∀ move ∈ moves, move.Brings P) : Bears P (c.run moves) := by
  induction moves generalizing c with
  | nil => exact bears
  | cons move rest ih =>
    obtain ⟨first, others⟩ := List.forall_mem_cons.mp brings
    exact ih (bears.step reached first) (reached.step move) others

end Chronicle

end Vigil
