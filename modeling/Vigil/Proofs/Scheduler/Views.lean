import Vigil.Proofs.Scheduler.Books
import Vigil.Scheduler.Clock

/-!
# The books of a scheduler

What each function of a scheduler does to its books. Waking a loop, moving the clock and all that
concerns the loops themselves leave them alone.
-/
namespace Vigil

open Queue

variable {ω : Type}

/-- The queue, the ticket and the task of an execution. -/
def Run.duty (r : Run ω) : String × Nat × Task ω := (r.queue, r.ticket, r.task)

/-- The execution whose hand-back is still to come when this job is done or has yet to be done. -/
def Job.duty : Job ω → Option (String × Nat × Task ω)
  | .start q k t => some (q, k, t)
  | .finish r | .expire r => some r.duty
  | _ => none

namespace Scheduler

/-- The executions that have not handed their tasks back. -/
def duties (s : Scheduler ω) : List (String × Nat × Task ω) :=
  s.ready.filterMap Job.duty ++ s.running.map Run.duty

def books (s : Scheduler ω) (trail : String → List (Deed ω)) : Books ω where
  queue? := s.queue?
  owes name k t := (name, k, t) ∈ s.duties
  dispatched := s.dispatched
  trail := trail

variable {s : Scheduler ω} {name : String} {trail : String → List (Deed ω)}

/-! ### Lines -/

theorem line?_modifyLine (s : Scheduler ω) (name : String) {f : Line ω → Line ω}
    (keeps : ∀ l, (f l).name = l.name) (other : String) :
    (s.modifyLine name f).line? other =
      if name = other then (s.line? other).map f else s.line? other := by
  have same : ∀ l : Line ω, ((fun l : Line ω => l.name == other) ∘
      fun l => if l.name == name then f l else l) l = (l.name == other) := by
    intro l
    simp only [Function.comp_apply]
    split
    · rw [keeps]
    · rfl
  simp only [line?, modifyLine, List.find?_map]
  rw [funext same]
  cases found : s.lines.find? (·.name == other) with
  | none => simp
  | some l =>
    have named : l.name = other := by simpa using List.find?_some found
    simp only [Option.map_some, named, beq_iff_eq, eq_comm (a := other)]
    split <;> rfl

theorem queue?_modifyLine (s : Scheduler ω) (name : String) {f : Line ω → Line ω}
    (keeps : ∀ l, (f l).name = l.name) (same : ∀ l, (f l).queue = l.queue) :
    (s.modifyLine name f).queue? = s.queue? := by
  funext other
  simp only [queue?, line?_modifyLine s name keeps]
  split
  · rw [Option.map_map]
    congr 1
    funext l
    exact same l
  · rfl

theorem queue?_replaceQueue {line : Line ω} (here : s.line? name = some line) {f : Line ω → Line ω}
    (keeps : ∀ l, (f l).name = l.name) {q : Queue ω} (placed : ∀ l, (f l).queue = q) :
    (s.modifyLine name f).queue? =
      fun other => if name = other then some q else s.queue? other := by
  funext other
  simp only [queue?, line?_modifyLine s name keeps]
  split
  next same =>
    rw [← same, here]
    exact congrArg some (placed line)
  next => rfl

theorem wake_books (s : Scheduler ω) (name : String) (trail : String → List (Deed ω)) :
    (s.wake name).books trail = s.books trail := by
  have queues : (s.modifyLine name fun l => { l with loop := .runnable }).queue? = s.queue? :=
    queue?_modifyLine s name (fun _ => rfl) (fun _ => rfl)
  unfold wake
  split
  next =>
    simp only [books, duties, List.filterMap_append, List.filterMap_cons, Job.duty,
      List.filterMap_nil, List.append_nil]
    rw [← queues]
    rfl
  next => rfl

theorem foldl_wake_books (names : List String) (s : Scheduler ω) (trail : String → List (Deed ω)) :
    (names.foldl wake s).books trail = s.books trail := by
  induction names generalizing s with
  | nil => rfl
  | cons name rest ih => rw [List.foldl_cons, ih, wake_books]

theorem putQueue_books {old : Queue ω} (here : s.queue? name = some old) (q : Queue ω)
    (wakes : Bool) (deeds : List (Deed ω)) :
    (s.putQueue name q wakes).books (noted trail name deeds) =
      (s.books trail).put name q deeds := by
  obtain ⟨line, found, _⟩ := Option.map_eq_some_iff.mp here
  have queues : (s.modifyLine name fun l => { l with queue := q }).queue? =
      fun other => if name = other then some q else s.queue? other :=
    queue?_replaceQueue found (f := fun l => { l with queue := q }) (fun _ => rfl) (fun _ => rfl)
  have placed : (s.modifyLine name fun l => { l with queue := q }).books (noted trail name deeds) =
      (s.books trail).put name q deeds := by
    simp only [books, Books.put, queues]
    rfl
  unfold putQueue
  split
  next => rw [wake_books, placed]
  next => exact placed

/-! ### Clients -/

theorem addQueue_books (s : Scheduler ω) (name : String) (trail : String → List (Deed ω))
    (added : (s.addQueue name).answer = true) :
    (s.addQueue name).scheduler.books (noted trail name [.opened]) =
      (s.books trail).put name {} [.opened] := by
  unfold addQueue at added ⊢
  split at added
  next => cases added
  next free =>
    rw [if_neg free]
    let grown : Scheduler ω :=
      { s with lines := s.lines ++ [{ name }], ready := s.ready ++ [.dispatch name] }
    have queues : ∀ other, grown.queue? other =
        if name = other then some {} else s.queue? other := by
      intro other
      simp only [Option.not_isSome_iff_eq_none] at free
      simp only [grown, queue?, line?, List.find?_append] at free ⊢
      split
      next same =>
        rw [← same, free]
        simp
      next different => simp [different]
    have duties_ : grown.duties = s.duties := by simp [grown, duties, Job.duty]
    change grown.books _ = _
    simp only [books, Books.put, funext queues, duties_]
    rfl

theorem filterMap_duty_map {f : Job ω → Job ω} (same : ∀ job, (f job).duty = job.duty)
    (jobs : List (Job ω)) : (jobs.map f).filterMap Job.duty = jobs.filterMap Job.duty := by
  rw [List.filterMap_map]
  congr 1
  funext job
  exact same job

theorem detach_books (s : Scheduler ω) (line : Line ω) (trail : String → List (Deed ω)) :
    (s.detach line).books trail =
      { s.books trail with
        queue? := fun other => if line.name = other then none else s.queue? other } := by
  have kept : ∀ ready, ({ s with lines := s.lines.filter (·.name != line.name), ready } :
      Scheduler ω).queue? = fun other => if line.name = other then none else s.queue? other := by
    intro ready
    funext other
    simp only [queue?, line?, List.find?_filter]
    split
    next same =>
      subst same
      simp
    next different =>
      congr 2
      funext l
      by_cases here : l.name = other
      · simp [here, Ne.symm different]
      · simp [here]
  unfold detach
  split <;> simp only [books, duties, kept, List.filterMap_append, List.filterMap_cons,
    Job.duty, List.filterMap_nil, List.append_nil]
  all_goals
    rw [filterMap_duty_map]
    intro job
    cases job with
    | dispatch q =>
      simp only
      split <;> rfl
    | _ => rfl

/-! ### Jobs -/

theorem books_congr (s s' : Scheduler ω) (queues : s'.queue? = s.queue?)
    (number : s'.dispatched = s.dispatched) (same : ∀ x, x ∈ s'.duties ↔ x ∈ s.duties)
    (trail : String → List (Deed ω)) : s'.books trail = s.books trail := by
  simp only [books, queues, number, same]

theorem duties_eraseIdx {n : Nat} {job : Job ω} (found : s.ready[n]? = some job) :
    s.duties.Perm
      (job.duty.toList ++ ({ s with ready := s.ready.eraseIdx n } : Scheduler ω).duties) := by
  obtain ⟨bound, rfl⟩ := List.getElem?_eq_some_iff.mp found
  have jobs := ((List.getElem_cons_eraseIdx_perm bound).filterMap Job.duty).symm
  have split : (s.ready[n] :: s.ready.eraseIdx n).filterMap Job.duty =
      s.ready[n].duty.toList ++ (s.ready.eraseIdx n).filterMap Job.duty := by
    rw [List.filterMap_cons]
    split
    next none_ => simp [none_]
    next x some_ => simp [some_]
  rw [split] at jobs
  simp only [duties, ← List.append_assoc]
  exact jobs.append_right _

/-- Tasks that leave a queue become jobs, numbered in order. -/
theorem handAll_books {s' : Scheduler ω} {q : Queue ω} {tasks : List (Task ω)}
    (queues : s'.queue? = fun other => if name = other then some q else s.queue? other)
    (ready : s'.ready = s.ready ++ (tasks.zipIdx s.dispatched).map fun (t, k) => .start name k t)
    (running : s'.running = s.running) (number : s'.dispatched = s.dispatched + tasks.length) :
    s'.books (noted trail name (Books.takings tasks s.dispatched)) =
      (s.books trail).handAll name q tasks := by
  have started : ∀ l : List (Task ω × Nat),
      (l.map fun (t, k) => Job.start name k t).filterMap Job.duty =
        l.map fun (t, k) => (name, k, t) := by
    intro l
    rw [List.filterMap_map, ← List.filterMap_eq_map]
    rfl
  have duties_ : ∀ other k u, ((other, k, u) ∈ s'.duties) =
      ((other, k, u) ∈ s.duties ∨ other = name ∧ (u, k) ∈ tasks.zipIdx s.dispatched) := by
    intro other k u
    simp only [duties, ready, running, List.filterMap_append, started, List.mem_append,
      List.mem_map, Prod.mk.injEq, Prod.exists, eq_iff_iff]
    constructor
    · rintro ((old | ⟨t, n, inside, rfl, rfl, rfl⟩) | old)
      · exact Or.inl (Or.inl old)
      · exact Or.inr ⟨rfl, inside⟩
      · exact Or.inl (Or.inr old)
    · rintro ((old | old) | ⟨rfl, inside⟩)
      · exact Or.inl (Or.inl old)
      · exact Or.inr old
      · exact Or.inl (Or.inr ⟨u, k, inside, rfl, rfl, rfl⟩)
  simp only [books, Books.handAll, queues, number, duties_]

/-- Telling the watchers of an execution is no part of its duty. -/
theorem release_books (s : Scheduler ω) (r : Run ω) (trail : String → List (Deed ω)) :
    ({ s with ready := s.ready ++ [.release r] } : Scheduler ω).books trail = s.books trail := by
  let telling : Scheduler ω := { s with ready := s.ready ++ [.release r] }
  have same : ∀ x, x ∈ telling.duties ↔ x ∈ s.duties := by
    intro x
    simp [telling, duties, Job.duty]
  exact books_congr s telling rfl rfl same trail

theorem mem_duties_start (s : Scheduler ω) (r : Run ω) (x : String × Nat × Task ω) :
    x ∈ ({ s with running := s.running ++ [r] } : Scheduler ω).duties ↔
      x = r.duty ∨ x ∈ s.duties := by
  simp only [duties, List.map_append, List.map_cons, List.map_nil, List.mem_append,
    List.mem_singleton]
  tauto

theorem duty_overJob (r : Run ω) (limit : Option Nat) : (r.overJob limit).duty = some r.duty := by
  unfold Run.overJob
  split <;> rfl

/-- Executions that are over wait in the ready line instead. -/
theorem over_books (s : Scheduler ω) (limit : Option Nat) (ended : Run ω → Bool)
    (trail : String → List (Deed ω)) :
    ({ s with
      running := s.running.filter (!ended ·)
      ready := s.ready ++ (s.running.filter ended).map (·.overJob limit) } :
        Scheduler ω).books trail = s.books trail := by
  let after : Scheduler ω :=
    { s with
      running := s.running.filter (!ended ·)
      ready := s.ready ++ (s.running.filter ended).map (·.overJob limit) }
  have same : ∀ x, x ∈ after.duties ↔ x ∈ s.duties := by
    intro x
    simp only [after, duties, List.filterMap_append, List.filterMap_map, List.mem_append,
      List.mem_filterMap, List.mem_map, List.mem_filter, Function.comp_apply, duty_overJob,
      Option.some.injEq]
    constructor
    · rintro ((ready | ⟨r, ⟨member, _⟩, past⟩) | ⟨r, ⟨member, _⟩, running⟩)
      · exact Or.inl ready
      · exact Or.inr ⟨r, member, past⟩
      · exact Or.inr ⟨r, member, running⟩
    · rintro (ready | ⟨r, member, duty⟩)
      · exact Or.inl (Or.inl ready)
      · cases past : ended r with
        | true => exact Or.inl (Or.inr ⟨r, ⟨member, past⟩, duty⟩)
        | false => exact Or.inr ⟨r, ⟨member, by simp [past]⟩, duty⟩
  exact books_congr s after rfl rfl same trail

theorem reach_books (s : Scheduler ω) (now : Int) (trail : String → List (Deed ω)) :
    (s.reach now).books trail = s.books trail :=
  (over_books _ _ _ trail).trans (foldl_wake_books _ { s with now } trail)

theorem books_fresh (config : Config) (now : Int) :
    ({ config, now } : Scheduler ω).books (fun _ => []) = Books.blank := by
  simp [books, Books.blank, duties]
  rfl

end Scheduler

end Vigil
