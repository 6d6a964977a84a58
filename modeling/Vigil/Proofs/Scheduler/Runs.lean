import Vigil.Proofs.Scheduler.Chronicle
import Vigil.Proofs.Scheduler.Views

/-!
# The books stay in order

Every call, every job and every movement of the clock keeps the invariant of the books, with the
histories it writes; so the books of every chronicle are in order (`Reached.kept`).
-/
namespace Vigil

open Queue

variable {ω : Type}

namespace Scheduler

variable {s : Scheduler ω} {trail : String → List (Deed ω)}

theorem kept_register (kept : (s.books trail).Kept) (name : String) (t : Task ω) :
    ((s.register name t).scheduler.books (noted trail name (s.registering name t))).Kept := by
  unfold register registering
  cases here : s.queue? name with
  | none => simpa only [noted_nil] using kept
  | some q =>
    cases success : q.upsert t with
    | error why => simpa only [success, noted_nil] using kept
    | ok e =>
      simp only [success]
      rw [putQueue_books here]
      obtain ⟨open_, ⟨free, rfl⟩ | ⟨pos, found, rfl⟩⟩ :=
        upsert_ok (kept.faithful name q here).sound success
      · exact kept.installed here open_ free
      · exact kept.rekeyed here t.due found

theorem kept_update (kept : (s.books trail).Kept) (name : String) (t : Task ω) :
    ((s.update name t).scheduler.books (noted trail name (s.updating name t))).Kept := by
  unfold update updating
  cases here : s.queue? name with
  | none => simpa only [noted_nil] using kept
  | some q =>
    have cleared := kept.removed here t.id
    cases success : (q.remove t.id).1.push t with
    | error why =>
      simp only [success]
      rwa [putQueue_books here]
    | ok e =>
      simp only [success]
      have there : ((s.books trail).put name (q.remove t.id).1 [.removed t.id]).queue? name =
          some (q.remove t.id).1 := if_pos rfl
      obtain ⟨open_, free, rfl⟩ := push_ok (cleared.faithful name _ there).sound success
      have twice := cleared.installed there open_ free
      rw [Books.put_put] at twice
      rw [putQueue_books here]
      exact twice

theorem kept_push (kept : (s.books trail).Kept) (name : String) (t : Task ω) :
    ((s.push name t).books (noted trail name (s.pushing name t))).Kept := by
  unfold push pushing
  cases here : s.queue? name with
  | none => simpa only [noted_nil] using kept
  | some q =>
    cases success : q.push t with
    | error why => simpa only [success, noted_nil] using kept
    | ok e =>
      simp only [success]
      rw [putQueue_books here]
      obtain ⟨open_, free, rfl⟩ := push_ok (kept.faithful name q here).sound success
      exact kept.installed here open_ free

theorem kept_remove (kept : (s.books trail).Kept) (name id : String) :
    ((s.remove name id).scheduler.books (noted trail name
      (if (s.queue? name).isSome then [.removed id] else []))).Kept := by
  unfold remove
  cases here : s.queue? name with
  | none => simpa [noted_nil] using kept
  | some q =>
    simp only [Option.isSome_some, ↓reduceIte]
    rw [putQueue_books here]
    exact kept.removed here id

theorem kept_addQueue (kept : (s.books trail).Kept) (name : String) :
    ((s.addQueue name).scheduler.books (noted trail name
      (if (s.addQueue name).answer then [.opened] else []))).Kept := by
  split
  next added =>
    rw [addQueue_books s name trail added]
    exact kept.opened name
  next refused =>
    have same : (s.addQueue name).scheduler = s := by
      unfold addQueue at refused ⊢
      split
      · rfl
      next free =>
        rw [if_neg free] at refused
        exact absurd rfl refused
    rw [same, noted_nil]
    exact kept

theorem kept_closeQueue (kept : (s.books trail).Kept) (name : String) :
    ((s.closeQueue name).scheduler.books (noted trail name
      (if (s.closeQueue name).answer.isSome then [.closed] else []))).Kept := by
  unfold closeQueue
  cases here : s.queue? name with
  | none => simpa [noted_nil] using kept
  | some q =>
    simp only [Option.isSome_some, ↓reduceIte]
    rw [putQueue_books here]
    exact kept.closed here

theorem kept_detach (kept : (s.books trail).Kept) (line : Line ω) :
    ((s.detach line).books trail).Kept := by
  rw [detach_books]
  refine kept.forget ?_
  intro name q found
  split at found
  · cases found
  · exact found

theorem kept_removeQueue (kept : (s.books trail).Kept) (name : String) :
    ((s.removeQueue name).scheduler.books trail).Kept := by
  unfold removeQueue
  split
  · exact kept
  next line _ => exact kept_detach kept line

theorem cancel_books (s : Scheduler ω) (trail : String → List (Deed ω)) :
    s.cancel.books trail = s.books trail :=
  foldl_wake_books _ { s with stopping := true } trail

theorem kept_shutdown (kept : (s.books trail).Kept) :
    (s.shutdown.scheduler.books trail).Kept := by
  have detached : ∀ (lines : List (Line ω)) (s : Scheduler ω), (s.books trail).Kept →
      ((lines.foldl detach s).books trail).Kept := by
    intro lines
    induction lines with
    | nil => exact fun s kept => kept
    | cons line rest ih => exact fun s kept => ih _ (kept_detach kept line)
  refine detached _ _ ?_
  rw [cancel_books]
  exact kept

theorem kept_serve (kept : (s.books trail).Kept) (name : String) (call : Call ω) :
    ((s.serve name call).books (noted trail name (s.serving name call))).Kept := by
  cases call with
  | addQueue => exact kept_addQueue kept name
  | removeQueue =>
    simp only [serve, serving, noted_nil]
    exact kept_removeQueue kept name
  | closeQueue => exact kept_closeQueue kept name
  | register task => exact kept_register kept name task
  | update task => exact kept_update kept name task
  | remove id => exact kept_remove kept name id
  | push task => exact kept_push kept name task

/-! ### Jobs -/

theorem reschedule_books (s : Scheduler ω) (name : String) (k : Nat) (t : Task ω)
    (trail : String → List (Deed ω)) :
    (s.reschedule name t).1.books (noted trail name (s.returning name k t)) =
      (s.books trail).handBack s.now name k t := by
  have queues : (s.books trail).queue? name = s.queue? name := rfl
  unfold reschedule returning Books.handBack
  rw [queues]
  cases here : s.queue? name with
  | none =>
    rw [noted_nil]
    split <;> rfl
  | some q =>
    cases again : t.nextRun? s.now with
    | none =>
      have same : (s.books trail).queue? name = some q := here
      simp only [Books.put_same same]
      rfl
    | some next =>
      cases done : q.requeue next with
      | error why => simp only [done, noted_nil]
      | ok e =>
        simp only [done]
        exact putQueue_books here e.queue e.wakes _

/-- A job of an execution that is over: it is taken out of the line and the task goes back. -/
theorem kept_reschedule (kept : (s.books trail).Kept) {n : Nat} {job : Job ω} {name : String}
    {k : Nat} {t : Task ω} (found : s.ready[n]? = some job) (duty : job.duty = some (name, k, t))
    {s' : Scheduler ω} (rest : s'.books trail =
      ({ s with ready := s.ready.eraseIdx n } : Scheduler ω).books trail) :
    ((s'.reschedule name t).1.books (noted trail name (s'.returning name k t))).Kept := by
  have perm := duties_eraseIdx found
  rw [duty, Option.toList_some] at perm
  rw [reschedule_books, rest]
  refine kept.handBack s'.now ?_ ?_ ?_
  · exact perm.mem_iff.mpr (by simp)
  · intro n' j u owes
    exact perm.mem_iff.mpr (List.mem_append_right _ owes)
  · intro n' j u owes
    rcases List.mem_append.mp (perm.mem_iff.mp owes) with here | still
    · right
      simpa using here
    · exact Or.inl still

theorem kept_handAll {s' : Scheduler ω} {name : String} {q : Queue ω} {tasks : List (Task ω)}
    (queues : s'.queue? = fun other => if name = other then some q else s.queue? other)
    (ready : s'.ready = s.ready ++ (tasks.zipIdx s.dispatched).map fun (t, k) => .start name k t)
    (running : s'.running = s.running) (number : s'.dispatched = s.dispatched + tasks.length)
    (kept : ((s.books trail).handAll name q tasks).Kept) :
    (s'.books (noted trail name (Books.takings tasks s.dispatched))).Kept := by
  rw [handAll_books queues ready running number]
  exact kept

theorem kept_dispatch (kept : (s.books trail).Kept) (name : String) :
    ((s.dispatch name).1.books (noted trail name (s.handing name))).Kept := by
  unfold dispatch handing
  cases here : s.line? name with
  | none => simpa only [noted_nil] using kept
  | some line =>
    have queue : s.queue? name = some line.queue := by rw [queue?, here]; rfl
    have ended : (s.modifyLine name fun l => { l with loop := .ended }).queue? = s.queue? :=
      queue?_modifyLine s name (f := fun l => { l with loop := .ended }) (fun _ => rfl)
        (fun _ => rfl)
    have left :
        (s.modifyLine name fun l => { l with loop := .ended }).books trail = s.books trail :=
      books_congr s _ ended rfl (fun _ => .rfl) trail
    by_cases stopping : s.stopping = true
    · simp only [stopping, ↓reduceIte, noted_nil]
      rwa [left]
    · simp only [stopping, Bool.false_eq_true, ↓reduceIte]
      split
      next refused =>
        have none_ := takeDue_closed (kept.faithful name _ queue).sound (congrArg (·.2.2) refused)
        simp only [none_, Books.takings, List.zipIdx_nil, List.map_nil, List.reverse_nil, noted_nil]
        rwa [left]
      next q tasks wakeAt took =>
        have after := kept.takeDue queue s.now
        have queues :
            (s.modifyLine name fun l => { l with queue := q, loop := .blocked wakeAt }).queue? =
              fun other => if name = other then some q else s.queue? other :=
          queue?_replaceQueue here (f := fun l => { l with queue := q, loop := .blocked wakeAt })
            (fun _ => rfl) (fun _ => rfl)
        rw [took] at after ⊢
        exact kept_handAll queues rfl rfl rfl after

theorem kept_takeOne (kept : (s.books trail).Kept) {name : String} {s' : Scheduler ω} {t : Task ω}
    (took : s.takeOne? name = some (s', t)) :
    (s'.books (noted trail name [.taken s.dispatched t])).Kept := by
  unfold takeOne? at took
  split at took
  · cases took
  next line here =>
    have queue : s.queue? name = some line.queue := by rw [queue?, here]; rfl
    split at took
    · cases took
    · split at took
      next task rest looked =>
        cases took
        obtain ⟨open_, head, _, rfl⟩ := glance_taken (kept.faithful name _ queue).sound looked
        let after : Scheduler ω :=
          { s.modifyLine name fun l => { l with queue := line.queue.take t } with
            ready := s.ready ++ [.start name s.dispatched t]
            dispatched := s.dispatched + 1 }
        have queues : after.queue? =
            fun other => if name = other then some (line.queue.take t) else s.queue? other :=
          queue?_replaceQueue here (f := fun l => { l with queue := line.queue.take t })
            (fun _ => rfl) (fun _ => rfl)
        have handed : ((s.books trail).hand name line.queue t).Kept := kept.hand queue open_ head
        have one : ((s.books trail).hand name line.queue t).queue? name =
            some (line.queue.take t) :=
          if_pos rfl
        rw [← Books.handAll_nil one, ← Books.handAll_cons] at handed
        have final : (after.books (noted trail name (Books.takings [t] s.dispatched))).Kept :=
          kept_handAll queues rfl rfl rfl handed
        exact final
      next => cases took

/-- An execution that begins is over at once, or joins those that are under way. -/
theorem kept_start (kept : (s.books trail).Kept) (plan : Task ω → Execution) {n : Nat}
    {name : String} {k : Nat} {t : Task ω} (found : s.ready[n]? = some (.start name k t)) :
    let s' : Scheduler ω := { s with ready := s.ready.eraseIdx n }
    ((s'.start plan name k t).1.books (noted trail (s'.doing plan (.start name k t)).1
      (s'.doing plan (.start name k t)).2)).Kept := by
  intro s'
  have perm := duties_eraseIdx found
  simp only [doing, start, overAtOnce]
  split
  next past =>
    simp only [past, Bool.true_or, ↓reduceIte]
    exact kept_reschedule kept found rfl rfl
  next on =>
    split
    next past =>
      simp only [past, Bool.or_true, ↓reduceIte]
      exact kept_reschedule kept found rfl (release_books s' _ trail)
    next stays =>
      rw [Bool.not_eq_true] at on stays
      simp only [on, stays, Bool.or_self, Bool.false_eq_true, ↓reduceIte, noted_nil]
      let r : Run ω := { queue := name, ticket := k, task := t, since := s'.now, plan := plan t }
      let after : Scheduler ω := { s' with running := s'.running ++ [r] }
      have same : ∀ x, x ∈ after.duties ↔ x ∈ s.duties := by
        intro x
        have started : x ∈ after.duties ↔ x = r.duty ∨ x ∈ s'.duties := mem_duties_start s' r x
        rw [started, perm.mem_iff]
        simp [Job.duty, Run.duty, r, s']
      have running : after.books trail = s.books trail := books_congr s after rfl rfl same trail
      rw [running]
      exact kept

theorem kept_perform (kept : (s.books trail).Kept) (plan : Task ω → Execution) {n : Nat}
    {job : Job ω} (found : s.ready[n]? = some job) :
    let s' : Scheduler ω := { s with ready := s.ready.eraseIdx n }
    ((s'.perform plan job).1.books
      (noted trail (s'.doing plan job).1 (s'.doing plan job).2)).Kept := by
  intro s'
  have perm := duties_eraseIdx found
  -- a job that is no execution's leaves the executions alone
  have idle : job.duty = none → s'.books trail = s.books trail := by
    intro none_
    rw [none_] at perm
    have same : ∀ x, x ∈ s'.duties ↔ x ∈ s.duties := fun x => perm.symm.mem_iff
    exact books_congr s s' rfl rfl same trail
  cases job with
  | dispatch name =>
    refine kept_dispatch ?_ name
    rw [idle rfl]
    exact kept
  | retire name fresh =>
    simp only [perform, doing, noted_nil]
    rw [idle rfl]
    exact kept
  | release r =>
    simp only [perform, doing, noted_nil]
    rw [idle rfl]
    exact kept
  | finish r => exact kept_reschedule kept found rfl rfl
  | expire r =>
    exact kept_reschedule kept found rfl (release_books s' r trail)
  | start name k t => exact kept_start kept plan found

end Scheduler

namespace Chronicle

/-- Queues, histories and executions agree. -/
def Kept (c : Chronicle ω) : Prop := (c.scheduler.books c.trail).Kept

variable {c : Chronicle ω}

theorem Kept.step (kept : c.Kept) (move : Move ω) : (c.step move).Kept := by
  cases move with
  | client name call => exact Scheduler.kept_serve kept name call
  | cancel =>
    simp only [Kept, Chronicle.step, Scheduler.cancel_books]
    exact kept
  | shutdown => exact Scheduler.kept_shutdown kept
  | take name =>
    simp only [Chronicle.step]
    split
    · exact kept
    next s task took => exact Scheduler.kept_takeOne kept took
  | work plan place =>
    simp only [Chronicle.step]
    split
    · exact kept
    next job found => exact Scheduler.kept_perform kept plan found
  | wait duration =>
    simp only [Kept, Chronicle.step, Scheduler.reach_books]
    exact kept

theorem Reached.kept (reached : Reached c) : c.Kept := by
  induction reached with
  | fresh config now =>
    rw [Kept, Scheduler.books_fresh]
    exact Books.kept_blank
  | step _ move ih => exact ih.step move

end Chronicle

end Vigil
