import Vigil.Proofs.Scheduler.Supersession
import Vigil.Proofs.Scheduler.Tickets

/-!
# Queues that follow each other under one name

An execution knows the name of the queue that it took its task from, not the queue. If that queue
was removed and the name given to a new one, the new queue is asked to take the task back, and it
knows ids in flight only. So a stale execution is refused unless the same id is executing in the new
queue; where it is, the new queue takes the stale task and the claim of its own execution is gone.
That is the only way in: any other task of the queue has the record of a task that was installed in
it (`Honest.origin`).
-/
namespace Vigil

open Queue

variable {ω : Type}

namespace Queue

/-- What was done to the queue that has the name now. -/
def since : List (Deed ω) → List (Deed ω)
  | [] => []
  | .opened :: _ => []
  | d :: h => d :: since h

/-- The execution with this ticket took its task from the queue that has the name now. -/
def tookSince (k : Nat) (h : List (Deed ω)) : Bool :=
  (since h).any fun
    | .taken j _ => j == k
    | _ => false

/-- Tasks that the queue accepted from executions that had taken them from an earlier one. -/
def strays : List (Deed ω) → List (Task ω)
  | [] => []
  | .opened :: _ => []
  | .returned k t accepted :: h => if accepted && !tookSince k h then t :: strays h else strays h
  | _ :: h => strays h

/-- The record is that of a task that was installed under this id since the queue was opened, or of
a stray. -/
def Origin (id : String) (r : ω × Nat) (h : List (Deed ω)) : Prop :=
  (∃ t, .installed t ∈ since h ∧ t.id = id ∧ t.record = r) ∨
    ∃ t ∈ strays h, t.id = id ∧ t.record = r

/-- A hand-back comes with the task that was taken under its ticket. -/
def Truthful (h : List (Deed ω)) : Prop :=
  ∀ k t accepted earlier, .returned k t accepted :: earlier <:+ h →
    ∀ u, .taken k u ∈ earlier → u = t

section

variable {h : List (Deed ω)} {id : String} {k : Nat} {t : Task ω}

theorem mem_of_mem_since {d : Deed ω} (member : d ∈ since h) : d ∈ h := by
  induction h with
  | nil => cases member
  | cons x h ih =>
    cases x with
    | opened => cases member
    | _ =>
      rcases List.mem_cons.mp member with rfl | inside
      · exact List.mem_cons_self
      · exact List.mem_cons_of_mem _ (ih inside)

theorem tookSince_iff : tookSince k h = true ↔ ∃ t, .taken k t ∈ since h := by
  simp only [tookSince, List.any_eq_true]
  constructor
  · rintro ⟨d, member, named⟩
    cases d with
    | taken j t =>
      have same : j = k := by simpa using named
      exact ⟨t, same ▸ member⟩
    | _ => cases named
  · rintro ⟨t, member⟩
    exact ⟨_, member, by simp⟩

/-- Claims are of executions of the queue that has the name now. -/
theorem taken_of_claim {x : Nat × Task ω} (claimed : claim id h = some x) :
    x.2.id = id ∧ .taken x.1 x.2 ∈ since h := by
  induction h with
  | nil => cases claimed
  | cons d h ih => cases d <;> simp only [claim, since] at claimed ⊢ <;> grind

theorem Origin.cons {r : ω × Nat} (origin : Origin id r h) {d : Deed ω} (on : d ≠ .opened) :
    Origin id r (d :: h) := by
  have recent : since (d :: h) = d :: since h := by
    cases d with
    | opened => exact absurd rfl on
    | _ => rfl
  rcases origin with ⟨t, member, rest⟩ | ⟨t, member, rest⟩
  · exact .inl ⟨t, recent ▸ List.mem_cons_of_mem d member, rest⟩
  · refine .inr ⟨t, ?_, rest⟩
    cases d with
    | opened => exact absurd rfl on
    | returned =>
      simp only [strays]
      split
      · exact List.mem_cons_of_mem _ member
      · exact member
    | _ => exact member

/-- What an id is to be executed with next, and what anything was executed with, came in by an
installation or with a stray. -/
theorem Honest.origin (honest : Honest h) (truthful : Truthful h) :
    (∀ id r, current id h = some r → Origin id r h) ∧
      ∀ k t, .taken k t ∈ since h → Origin t.id t.record h := by
  induction h with
  | nil => exact ⟨fun id r expected => (nomatch expected), fun k t member => (nomatch member)⟩
  | cons d h ih =>
    have older : h <:+ d :: h := List.suffix_cons d h
    obtain ⟨next, made⟩ := ih (honest.of_suffix older)
      fun k t accepted earlier suffix => truthful k t accepted earlier (suffix.trans older)
    -- a deed that changes nothing for the id and takes nothing
    have keep (on : d ≠ .opened) {id : String} {r : ω × Nat} (expected : current id h = some r) :
        Origin id r (d :: h) := (next id r expected).cons on
    have old (on : d ≠ .opened) {k : Nat} {t : Task ω} (member : .taken k t ∈ since h) :
        Origin t.id t.record (d :: h) := (made k t member).cons on
    cases d with
    | opened => exact ⟨fun id r expected => (nomatch expected), fun k t member => (nomatch member)⟩
    | installed t =>
      refine ⟨fun id r expected => ?_,
        fun k u member => old (by simp) (by simpa [since] using member)⟩
      simp only [current, intruder, newest] at expected
      split at expected
      next here =>
        cases expected
        exact .inl ⟨t, List.mem_cons_self, here, rfl⟩
      next other => exact keep (by simp) expected
    | removed other =>
      refine ⟨fun id r expected => ?_,
        fun k u member => old (by simp) (by simpa [since] using member)⟩
      simp only [current, intruder, newest] at expected
      split at expected
      · cases expected
      · exact keep (by simp) expected
    | taken k t =>
      refine ⟨fun id r expected => keep (by simp) expected, fun j u member => ?_⟩
      rcases List.mem_cons.mp member with same | inside
      · cases same
        exact keep (by simp) (honest (.taken k t) h (List.suffix_refl _))
      · exact old (by simp) inside
    | returned k t accepted =>
      refine ⟨fun id r expected => ?_,
        fun j u member => old (by simp) (by simpa [since] using member)⟩
      simp only [current, intruder, newest] at expected
      split at expected
      next foreign =>
        obtain ⟨rfl, rfl, _⟩ := foreign
        cases expected
        cases took : tookSince k h with
        | true =>
          obtain ⟨u, member⟩ := tookSince_iff.mp took
          have same := truthful k t true h (List.suffix_refl _) u (mem_of_mem_since member)
          exact same ▸ old (by simp) member
        | false => exact .inr ⟨t, by simp [strays, took], rfl, rfl⟩
      next => exact keep (by simp) expected
    | rekeyed | lost | closed =>
      exact ⟨fun id r expected => keep (by simp) expected,
        fun k u member => old (by simp) (by simpa [since] using member)⟩

end

end Queue

namespace Scheduler

/-- A queue that refuses a task is left as it was. -/
theorem queue?_refused {s : Scheduler ω} {name : String} {k j : Nat} {t u : Task ω}
    (sound : ∀ q, s.queue? name = some q → q.Sound)
    (refused : s.returning name k t = [.returned j u false]) :
    (s.reschedule name t).1.queue? = s.queue? := by
  unfold returning at refused
  unfold reschedule
  cases here : s.queue? name with
  | none => simp only [here] at refused; cases refused
  | some q =>
    cases again : t.nextRun? s.now with
    | none => simp only [here, again] at refused; cases refused
    | some next =>
      simp only [here, again] at refused
      cases success : q.requeue next with
      | error why => rw [success] at refused; cases refused
      | ok e =>
        rw [success] at refused
        simp only [success]
        rw [queue?_putQueue here]
        obtain ⟨_, ⟨_, rfl⟩ | ⟨_, _, rfl⟩⟩ := requeue_ok (sound q here) success
        · exact Books.replace_same (b := s.books fun _ => []) here
        · cases refused

end Scheduler

namespace Chronicle

variable {c : Chronicle ω} {name : String}

theorem noted_eq_cons {trail : String → List (Deed ω)} {other : String} {deeds : List (Deed ω)}
    {d : Deed ω} (grown : noted trail other deeds name = d :: trail name) :
    other = name ∧ deeds = [d] := by
  unfold noted at grown
  split at grown
  next same =>
    exact ⟨same, List.append_cancel_right (grown.trans (List.singleton_append).symm)⟩
  next => exact absurd (congrArg List.length grown) (by simp)

/-- A move that ends with a refusal leaves all queues alone. -/
theorem queue?_step_refused (reached : Reached c) {move : Move ω} {k : Nat} {t : Task ω}
    (refused : (c.step move).trail name = .returned k t false :: c.trail name) :
    (c.step move).scheduler.queue? = c.scheduler.queue? := by
  cases move with
  | client other call =>
    obtain ⟨rfl, served⟩ := noted_eq_cons refused
    have unsigned := Scheduler.unsigned_serving c.scheduler other call (.returned k t false)
      (served ▸ List.mem_singleton.mpr rfl)
    cases unsigned
  | cancel | shutdown | wait =>
    exact absurd (congrArg List.length refused) (by simp [Chronicle.step])
  | take other =>
    simp only [Chronicle.step] at refused ⊢
    split at refused
    · rfl
    · obtain ⟨_, taken⟩ := noted_eq_cons refused
      cases taken
  | work plan place =>
    simp only [Chronicle.step] at refused ⊢
    split at refused
    · rfl
    next job found =>
      obtain ⟨rfl, done⟩ := noted_eq_cons refused
      generalize sDef : ({ c.scheduler with ready := c.scheduler.ready.eraseIdx place } :
        Scheduler ω) = s at done ⊢
      have queues : s.queue? = c.scheduler.queue? := by rw [← sDef]; rfl
      have sound : ∀ n q, s.queue? n = some q → q.Sound := by
        rw [queues]
        exact fun n q here => reached.sound q here
      have back (s' : Scheduler ω) {n : String} {j : Nat} {u : Task ω}
          (same : s'.queue? = s.queue?) (returned : s'.returning n j u = [.returned k t false]) :
          (s'.reschedule n u).1.queue? = c.scheduler.queue? := by
        have sound' : ∀ q, s'.queue? n = some q → q.Sound := by
          rw [same]
          exact sound n
        exact (Scheduler.queue?_refused sound' returned).trans (same.trans queues)
      cases job with
      | dispatch n =>
        have member : .returned k t false ∈ s.handing n := by
          have done : s.handing n = [.returned k t false] := done
          rw [done]
          exact List.mem_singleton.mpr rfl
        simp only [Scheduler.handing] at member
        split at member
        · cases member
        · split at member
          · cases member
          · exact absurd member not_returned_mem_takings
      | retire | release => exact queues
      | finish r => exact back s rfl done
      | expire r => exact back { s with ready := s.ready ++ [.release r] } rfl done
      | start n j u =>
        let r : Run ω := { queue := n, ticket := j, task := u, since := s.now, plan := plan u }
        have past : s.overAtOnce r = true ∧ s.returning n j u = [.returned k t false] := by
          by_cases now : s.overAtOnce r = true
          · exact ⟨now, (if_pos now).symm.trans done⟩
          · cases (if_neg now).symm.trans done
        obtain ⟨atOnce, returned⟩ := past
        change (s.launch r).1.queue? = c.scheduler.queue?
        unfold Scheduler.launch
        split
        next => exact back s rfl returned
        next on =>
          split
          next => exact back { s with ready := s.ready ++ [.release r] } rfl returned
          next stays => simp [Scheduler.overAtOnce, on, stays] at atOnce

/-- For every run and every name of a queue. An execution that took its task from an earlier queue
of the name is refused exactly if the id is not in flight, and if it is in flight then in an
execution of the queue that has the name now. What is refused changes no queue. Whatever the queue
holds, or will get back from its own executions, has the record of a task that was installed in it,
or of one that it accepted from an earlier queue's execution. -/
theorem stale_return_accepted_iff (reached : Reached c) (name : String) :
    (∀ k t accepted earlier, .returned k t accepted :: earlier <:+ c.trail name →
      tookSince k earlier = false →
      (accepted = true ↔ (claim t.id earlier).isSome) ∧
        ∀ j u, claim t.id earlier = some (j, u) →
          j ≠ k ∧ u.id = t.id ∧ .taken j u ∈ since earlier) ∧
    (∀ move k t, (c.step move).trail name = .returned k t false :: c.trail name →
      (c.step move).scheduler.queue? = c.scheduler.queue?) ∧
    (∀ q, c.scheduler.queue? name = some q → ∀ id t,
      (q.find? id = some t ∨ ∃ k, claim id (c.trail name) = some (k, t)) →
        Origin id t.record (c.trail name)) := by
  have honest : Honest (c.trail name) := reached.kept.honest name
  refine ⟨?_, fun move k t refused => queue?_step_refused reached refused, ?_⟩
  · intro k t accepted earlier suffix stale
    refine ⟨honest.accepted_iff suffix, fun j u claimed => ?_⟩
    obtain ⟨named, taken⟩ := taken_of_claim claimed
    refine ⟨?_, named, taken⟩
    rintro rfl
    rw [tookSince_iff.mpr ⟨u, taken⟩] at stale
    cases stale
  · intro q here id t holds
    have faithful := reached.kept.faithful name q here
    refine (honest.origin (reached.signed.signed name)).1 id t.record ?_
    rcases holds with queued | ⟨k, claimed⟩
    · exact faithful.queued id t queued
    · exact (faithful.held id k t claimed).2

/-! ### A task that comes back from a removed queue -/

/-- An execution of the old record runs for 100 ms. Meanwhile its queue is removed, a new one gets
the name, and a new record is registered there under the id and executed for 5 s. -/
def reusing : List (Move String) :=
  [.client "q" .addQueue, .client "q" (.register (record "old")), .work (lasting 0) 0,
    .work (lasting 100) 0, .client "q" .removeQueue, .work (lasting 0) 0, .client "q" .addQueue,
    .client "q" (.register (record "new")), .work (lasting 0) 0, .work (lasting 5000) 0,
    .wait (Duration.ofMillis 100), .work (lasting 0) 0]

theorem reached_reusing : Reached (({} : Chronicle String).run reusing) :=
  Reached.run (.fresh {} 0) reusing

theorem trail_reusing : (({} : Chronicle String).run reusing).trail "q" =
    [.returned 0 (record "old") true, .taken 1 (record "new"), .installed (record "new"), .opened,
      .taken 0 (record "old"), .installed (record "old"), .opened] := by
  decide +kernel

/-- The new queue accepts it, because its own execution of the id holds a claim. -/
theorem stale_return_beside_claim :
    ∃ earlier, .returned 0 (record "old") true :: earlier <:+
        (({} : Chronicle String).run reusing).trail "q" ∧ tookSince 0 earlier = false ∧
      (claim "a" earlier).isSome ∧ ∀ j u, claim "a" earlier = some (j, u) →
        j ≠ 0 ∧ u.id = "a" ∧ .taken j u ∈ since earlier := by
  obtain ⟨returns, _, _⟩ := stale_return_accepted_iff reached_reusing "q"
  have last := List.suffix_refl ((({} : Chronicle String).run reusing).trail "q")
  nth_rewrite 1 [trail_reusing] at last
  have stale : tookSince 0 [.taken 1 (record "new"), .installed (record "new"), .opened,
      .taken 0 (record "old"), .installed (record "old"), .opened] = false := by decide +kernel
  obtain ⟨accepted, claimed⟩ := returns 0 _ true _ last stale
  exact ⟨_, last, stale, accepted.mp rfl, claimed⟩

/-- It is not so that a queue refuses the tasks of an earlier one of its name, and holds what was
installed in it: in the end the new queue has the old record, which was never installed there. -/
theorem removed_queue_task_returns :
    (¬ ∀ c : Chronicle String, c.Reached → ∀ name k t accepted earlier,
      .returned k t accepted :: earlier <:+ c.trail name → tookSince k earlier = false →
        accepted = false) ∧
    ¬ ∀ c : Chronicle String, c.Reached → ∀ name q, c.scheduler.queue? name = some q →
      ∀ id t, q.find? id = some t → ∃ u, .installed u ∈ since (c.trail name) ∧ u.id = id ∧
        u.record = t.record := by
  constructor
  · intro law
    have last := List.suffix_refl ((({} : Chronicle String).run reusing).trail "q")
    nth_rewrite 1 [trail_reusing] at last
    cases law _ reached_reusing "q" 0 _ true _ last (by decide +kernel)
  · intro law
    have queued : ((({} : Chronicle String).run reusing).scheduler.queue? "q").bind
        (fun q => (q.find? "a").map Task.record) = some (record "old").record := by
      decide +kernel
    obtain ⟨q, here, inside⟩ := Option.bind_eq_some_iff.mp queued
    obtain ⟨t, found, old⟩ := Option.map_eq_some_iff.mp inside
    obtain ⟨u, installed, _, same⟩ := law _ reached_reusing "q" q here "a" t found
    have recent : since ((({} : Chronicle String).run reusing).trail "q") =
        [.returned 0 (record "old") true, .taken 1 (record "new"), .installed (record "new")] := by
      rw [trail_reusing]
      rfl
    rw [recent] at installed
    have new : u = record "new" := by simpa using installed
    rw [new, old] at same
    revert same
    decide

end Chronicle

end Vigil
