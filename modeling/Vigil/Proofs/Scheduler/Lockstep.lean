import Vigil.Proofs.Scheduler.Enclosure
import Vigil.Proofs.Scheduler.Provenance
import Vigil.Proofs.Scheduler.Timers

/-!
# A scheduler and its mirror

A mirror of a scheduler within some names is the same to the queues inside and has no others
(`Mirrors`). Whatever is done about a queue inside is done in the mirror as well, whatever is done
about another leaves the mirror as it is; so the two go in lockstep, though the clock of the mirror
stops less often, and whoever knows the executors of the queues inside sees the same in both.
-/
namespace Vigil

open Queue

variable {ω : Type}

namespace Scheduler

variable {p : String → Bool} {s m : Scheduler ω} {name : String}

/-- Nothing of a queue outside the names is there. -/
structure Confined (s : Scheduler ω) (p : String → Bool) : Prop where
  lines : (s.within fun name => !p name).lines = []
  ready : (s.within fun name => !p name).ready = []
  running : (s.within fun name => !p name).running = []

theorem Confined.of_same {s' : Scheduler ω} (confined : s.Confined p)
    (same : (s'.within fun name => !p name) = s.within fun name => !p name) : s'.Confined p := by
  obtain ⟨lines, ready, running⟩ := confined
  rw [← same] at lines ready running
  exact ⟨lines, ready, running⟩

/-- The mirror `m` is the same to the queues inside, and has no others. -/
structure Mirrors (p : String → Bool) (s m : Scheduler ω) : Prop where
  same : m.within p = s.within p
  confined : m.Confined p

theorem Mirrors.of_same {s' : Scheduler ω} (mirrors : Mirrors p s m)
    (same : s'.within p = s.within p) : Mirrors p s' m :=
  ⟨mirrors.same.trans same.symm, mirrors.confined⟩

theorem Mirrors.now (mirrors : Mirrors p s m) : m.now = s.now := by
  have same := congrArg Scheduler.now mirrors.same
  exact same

/-! ### What clients do -/

theorem Mirrors.serve_inside (mirrors : Mirrors p s m) (inside : p name = true) (call : Call ω) :
    Mirrors p (s.serve name call) (m.serve name call) ∧ m.answer name call = s.answer name call ∧
      m.reports name call = s.reports name call := by
  obtain ⟨state, answer, reports⟩ := serve_within inside s call
  obtain ⟨state', answer', reports'⟩ := serve_within inside m call
  rw [mirrors.same] at state' answer' reports'
  have unseen : (!p name) = false := by rw [inside]; rfl
  refine ⟨⟨state'.symm.trans state, ?_⟩, answer'.symm.trans answer, reports'.symm.trans reports⟩
  exact mirrors.confined.of_same
    (serve_outside (p := fun name => !p name) unseen m call)

theorem Mirrors.serve_outside (mirrors : Mirrors p s m) (outside : p name = false)
    (call : Call ω) : Mirrors p (s.serve name call) m :=
  mirrors.of_same (Scheduler.serve_outside outside s call)

theorem Confined.cancel (confined : s.Confined p) : s.cancel.Confined p := by
  obtain ⟨lines, ready, running⟩ := confined
  have still : (s.within fun name => !p name).cancel =
      { s.within fun name => !p name with stopping := true } := by
    simp only [Scheduler.cancel, lines, List.reverse_nil, List.map_nil, List.foldl_nil]
  rw [← cancel_within] at still
  constructor <;> rw [still] <;> assumption

theorem Confined.shutdown (confined : s.Confined p) : s.shutdown.scheduler.Confined p := by
  obtain ⟨lines, ready, running⟩ := confined.cancel
  have still : (s.cancel.lines.foldl detach s.cancel).within (fun name => !p name) =
      s.cancel.within fun name => !p name := by
    rw [foldl_detach_within]
    have none_ : s.cancel.lines.filter (fun l => !p l.name) = [] := lines
    rw [none_, List.foldl_nil]
  exact confined.cancel.of_same still

theorem Confined.reach (confined : s.Confined p) (now : Int) : (s.reach now).Confined p := by
  obtain ⟨lines, ready, running⟩ := confined
  have still : (s.within fun name => !p name).reach now =
      { s.within fun name => !p name with now } := by
    simp [reach_eq, roused, conclude, lines, ready, running]
  rw [← reach_within] at still
  constructor <;> rw [still] <;> assumption

theorem Mirrors.cancel (mirrors : Mirrors p s m) : Mirrors p s.cancel m.cancel :=
  ⟨by rw [cancel_within, cancel_within, mirrors.same], mirrors.confined.cancel⟩

theorem Mirrors.shutdown (mirrors : Mirrors p s m) :
    Mirrors p s.shutdown.scheduler m.shutdown.scheduler :=
  ⟨by rw [shutdown_within, shutdown_within, mirrors.same], mirrors.confined.shutdown⟩

/-! ### Jobs -/

theorem filter_map_eraseIdx {α β : Type} {p : α → Bool} {f : α → β} {l : List α} {place : Nat}
    {a : α} (found : l[place]? = some a) (inside : p a = true) :
    ((l.filter p).map f)[(l.take place).countP p]? = some (f a) ∧
      ((l.eraseIdx place).filter p).map f =
        ((l.filter p).map f).eraseIdx ((l.take place).countP p) := by
  obtain ⟨bound, rfl⟩ := List.getElem?_eq_some_iff.mp found
  have parts : l = l.take place ++ l[place] :: l.drop (place + 1) := by simp
  have whole : (l.filter p).map f = ((l.take place).filter p).map f ++
      f l[place] :: ((l.drop (place + 1)).filter p).map f := by
    conv_lhs => rw [parts, List.filter_append, List.filter_cons_of_pos inside]
    simp
  have length : (l.take place).countP p = (((l.take place).filter p).map f).length := by
    rw [List.length_map, List.countP_eq_length_filter]
  rw [whole, length, List.eraseIdx_eq_take_drop_succ]
  constructor
  · simp
  · rw [List.eraseIdx_append_of_length_le (Nat.le_refl _)]
    simp

/-- The place in the mirror's line of the job in this place. -/
def placeWithin (s : Scheduler ω) (p : String → Bool) (place : Nat) : Nat :=
  (s.ready.take place).countP (p ·.queue)

theorem Confined.ready_eq (confined : m.Confined p) :
    (m.within p).ready = m.ready.map .unnumbered := by
  have all : m.ready.filter (p ·.queue) = m.ready := by
    refine List.filter_eq_self.mpr fun job member => ?_
    have others : m.ready.filter (fun job => !p job.queue) = [] :=
      List.map_eq_nil_iff.mp confined.ready
    simpa using List.filter_eq_nil_iff.mp others job member
  rw [within, all]

theorem Mirrors.idle (mirrors : Mirrors p s m) (idle : s.ready = []) : m.ready = [] := by
  have none_ : (m.within p).ready = [] := by
    rw [mirrors.same, within, idle]
    rfl
  rw [mirrors.confined.ready_eq] at none_
  exact List.map_eq_nil_iff.mp none_

/-- A job for a queue inside is in the mirror's line as well. -/
theorem Mirrors.take_inside (mirrors : Mirrors p s m) {place : Nat} {job : Job ω}
    (found : s.ready[place]? = some job) (inside : p job.queue = true) :
    ∃ job', m.ready[s.placeWithin p place]? = some job' ∧ job'.unnumbered = job.unnumbered ∧
      Mirrors p { s with ready := s.ready.eraseIdx place }
        { m with ready := m.ready.eraseIdx (s.placeWithin p place) } := by
  obtain ⟨there, left⟩ :=
    filter_map_eraseIdx (p := fun job : Job ω => p job.queue) (f := Job.unnumbered) found inside
  have ready : m.ready.map Job.unnumbered = (s.ready.filter (p ·.queue)).map .unnumbered := by
    rw [← mirrors.confined.ready_eq, mirrors.same]
    rfl
  rw [← ready] at there left
  rw [List.getElem?_map] at there
  obtain ⟨job', here, same⟩ := Option.map_eq_some_iff.mp there
  let rest : List (Job ω) := m.ready.eraseIdx (s.placeWithin p place)
  have confined : ({ m with ready := rest } : Scheduler ω).Confined p := by
    refine ⟨mirrors.confined.lines, ?_, mirrors.confined.running⟩
    have others := List.map_eq_nil_iff.mp mirrors.confined.ready
    refine List.map_eq_nil_iff.mpr (List.filter_eq_nil_iff.mpr fun job member => ?_)
    exact List.filter_eq_nil_iff.mp others job (List.mem_of_mem_eraseIdx member)
  refine ⟨job', here, same, ⟨?_, confined⟩⟩
  have line : (({ m with ready := rest } : Scheduler ω).within p).ready =
      (({ s with ready := s.ready.eraseIdx place } : Scheduler ω).within p).ready := by
    rw [confined.ready_eq]
    exact (List.eraseIdx_map ..).symm.trans left.symm
  have parts (x : Scheduler ω) (ready : List (Job ω)) : ({ x with ready } : Scheduler ω).within p =
      { x.within p with ready := (({ x with ready } : Scheduler ω).within p).ready } := rfl
  rw [parts m, parts s, line, mirrors.same]

theorem Mirrors.take_outside (mirrors : Mirrors p s m) {place : Nat} {job : Job ω}
    (found : s.ready[place]? = some job) (outside : p job.queue = false) :
    Mirrors p { s with ready := s.ready.eraseIdx place } m := by
  obtain ⟨before, after, whole, left⟩ := exists_filter_eraseIdx (p ·.queue) found
  rw [List.filter_singleton, outside, cond_false, List.append_nil] at whole
  refine mirrors.of_same ?_
  simp only [within, left, whole]

/-- A job for a queue inside, done in both. -/
theorem Mirrors.perform_inside (mirrors : Mirrors p s m) (plan : Task ω → Execution)
    {job job' : Job ω} (inside : p job.queue = true) (same : job'.unnumbered = job.unnumbered) :
    Mirrors p (s.perform plan job).1 (m.perform plan job').1 ∧
      (m.perform plan job').2 = (s.perform plan job).2 := by
  have inside' : p job'.queue = true := by
    rw [← job'.queue_unnumbered, same, job.queue_unnumbered]
    exact inside
  have unseen : (!p job'.queue) = false := by rw [inside']; rfl
  obtain ⟨state, events⟩ := perform_within plan s inside
  obtain ⟨state', events'⟩ := perform_within plan m inside'
  rw [mirrors.same, same] at state' events'
  refine ⟨⟨state'.symm.trans state, ?_⟩, events'.symm.trans events⟩
  exact mirrors.confined.of_same
    (perform_outside (p := fun name => !p name) plan m unseen)

theorem Mirrors.perform_outside (mirrors : Mirrors p s m) (plan : Task ω → Execution) {job : Job ω}
    (outside : p job.queue = false) : Mirrors p (s.perform plan job).1 m :=
  mirrors.of_same (Scheduler.perform_outside plan s outside)

/-- A dispatch loop inside takes one task in both, or in neither. -/
theorem Mirrors.takeOne_inside (mirrors : Mirrors p s m) (inside : p name = true) :
    ((m.takeOne? name).isSome = (s.takeOne? name).isSome) ∧
      ∀ x y, s.takeOne? name = some x → m.takeOne? name = some y →
        Mirrors p x.1 y.1 ∧ y.2 = x.2 := by
  have alike : (m.takeOne? name).map (fun x => (x.1.within p, x.2)) =
      (s.takeOne? name).map fun x => (x.1.within p, x.2) := by
    rw [← takeOne?_within inside m, mirrors.same, takeOne?_within inside]
  refine ⟨by simpa using congrArg Option.isSome alike, fun x y took took' => ?_⟩
  rw [took, took'] at alike
  obtain ⟨state, same⟩ := Prod.mk.inj (Option.some.inj alike)
  have unseen : (!p name) = false := by rw [inside]; rfl
  refine ⟨⟨state, mirrors.confined.of_same ?_⟩, same⟩
  exact takeOne?_outside (p := fun name => !p name) unseen took'

/-! ### What is left to do -/

theorem foldr_filter_add {α : Type} (p : α → Bool) (f : α → Nat) (l : List α) :
    l.foldr (fun a n => f a + n) 0 = (l.filter p).foldr (fun a n => f a + n) 0 +
      (l.filter (!p ·)).foldr (fun a n => f a + n) 0 := by
  induction l with
  | nil => rfl
  | cons a rest ih =>
    simp only [List.foldr_cons, List.filter_cons, ih]
    cases p a <;> simp <;> omega

/-- What is left to do is left to do for the queues inside and for the others. -/
theorem workload_within (s : Scheduler ω) (p : String → Bool) :
    s.workload = (s.within p).workload + (s.within fun name => !p name).workload := by
  have weights (job : Job ω) : weight job.unnumbered = weight job := by cases job <;> rfl
  have jobs := foldr_filter_add (p ·.queue) weight s.ready
  have lines := foldr_filter_add (p ·.name) (dueCount s.now) s.lines
  simp only [workload, within, List.foldr_map, weights, jobs, lines]
  omega

theorem Mirrors.workload (mirrors : Mirrors p s m) :
    s.workload = m.workload + (s.within fun name => !p name).workload := by
  have nothing : (m.within fun name => !p name).workload = 0 := by
    simp [Scheduler.workload, mirrors.confined.lines, mirrors.confined.ready]
  have parts := m.workload_within p
  rw [nothing, mirrors.same] at parts
  rw [s.workload_within p, parts, Nat.add_zero]

/-! ### What is seen of executions -/

end Scheduler

/-- The task whose execution the event is the start or the end of. -/
def Event.task? : Event ω → Option (Task ω)
  | .started t | .ended t _ | .dropped t => some t
  | _ => none

/-- The event is the start or the end of an execution for whoever owns some of the executors. -/
def Event.seen (owner : ω → String) (p : String → Bool) (e : Event ω) : Bool :=
  e.task?.any fun t => p (owner t.work)

namespace Scheduler

variable {p : String → Bool} {s m : Scheduler ω} {owner : ω → String}

theorem unseen_notices (owner : ω → String) (p : String → Bool) (notices : List Notice) :
    (notices.map Event.notice).filter (·.seen owner p) = [] := by
  rw [List.filter_eq_nil_iff]
  intro e member
  obtain ⟨n, _, rfl⟩ := List.mem_map.mp member
  exact Bool.false_ne_true

/-- Executions begin and end in the jobs that owe it. -/
theorem duty_of_task? (plan : Task ω → Execution) (s : Scheduler ω) (job : Job ω) :
    ∀ e ∈ (s.perform plan job).2, ∀ t, e.task? = some t →
      ∃ k, job.duty = some (job.queue, k, t) := by
  have notices (notices : List Notice) (t : Task ω) :
      ∀ e ∈ notices.map Event.notice, e.task? ≠ some t := by
    intro e member
    obtain ⟨n, _, rfl⟩ := List.mem_map.mp member
    intro about
    cases about
  have finished (r : Run ω) (t : Task ω) : ∀ e ∈ (s.finish r).2, e.task? = some t → r.task = t := by
    refine List.forall_mem_cons.mpr ⟨Option.some.inj, List.forall_mem_cons.mpr ⟨?_, ?_⟩⟩
    · intro about
      cases about
    · exact fun e member about => absurd about (notices _ t e member)
  have expired (r : Run ω) (t : Task ω) : ∀ e ∈ (s.expire r).2, e.task? = some t → r.task = t := by
    refine List.forall_mem_cons.mpr ⟨Option.some.inj, List.forall_mem_cons.mpr ⟨?_, ?_⟩⟩
    · intro about
      cases about
    · exact fun e member about => absurd about (notices _ t e member)
  intro e member t about
  cases job with
  | dispatch name =>
    obtain ⟨n, rfl⟩ := dispatch_notices s name e member
    cases about
  | retire name fresh =>
    have told : ∃ l : List Notice, s.retire name fresh = l.map Event.notice := by
      refine ⟨(if fresh then [.loopStarted name] else []) ++
        [.loopStopped name (if s.stopping then .cancelled else .queueClosed)], ?_⟩
      cases fresh <;> rfl
    obtain ⟨l, same⟩ := told
    exact absurd about (notices l t e (same ▸ member))
  | release r =>
    cases List.mem_singleton.mp member
    cases about
  | finish r => exact ⟨r.ticket, by rw [← finished r t e member about]; rfl⟩
  | expire r => exact ⟨r.ticket, by rw [← expired r t e member about]; rfl⟩
  | start name k u =>
    let r : Run ω := { queue := name, ticket := k, task := u, since := s.now, plan := plan u }
    have launched : ∀ e ∈ (s.launch r).2, e.task? = some t → u = t :=
      launch_induction s r (finished r t) (expired r t) (List.forall_mem_nil _)
    refine ⟨k, ?_⟩
    rcases List.mem_cons.mp member with rfl | inside
    · cases about
      rfl
    · rw [← launched e inside about]
      rfl

/-- A job for a queue outside is not seen by the owner of the executors inside. -/
theorem unseen_perform (plan : Task ω → Execution) {job : Job ω} (outside : p job.queue = false)
    (owned : ∀ k t, job.duty = some (job.queue, k, t) → owner t.work = job.queue) :
    (s.perform plan job).2.filter (·.seen owner p) = [] := by
  rw [List.filter_eq_nil_iff]
  intro e member
  cases about : e.task? with
  | none => simp [Event.seen, about]
  | some t =>
    obtain ⟨k, duty⟩ := duty_of_task? plan s job e member t about
    simp [Event.seen, about, owned k t duty, outside]

/-! ### Schedulers of runs -/

/-- The scheduler of a moment of some run, in which every task of a name has the property that goes
with it. -/
def Arises (P : String → ω × Nat → Prop) (s : Scheduler ω) : Prop :=
  ∃ c : Chronicle ω, c.Reached ∧ Chronicle.Bears P c ∧ c.scheduler = s

namespace Arises

variable {P : String → ω × Nat → Prop}

theorem of_step {c : Chronicle ω} (reached : c.Reached) (bears : Chronicle.Bears P c)
    (move : Move ω) (brings : move.Brings P) : (c.step move).scheduler.Arises P :=
  ⟨c.step move, reached.step move, bears.step reached brings, rfl⟩

theorem serve (arises : s.Arises P) {name : String} {call : Call ω}
    (brings : ∀ t, call.task? = some t → P name t.record) : (s.serve name call).Arises P := by
  obtain ⟨c, reached, bears, rfl⟩ := arises
  exact of_step reached bears (.client name call) brings

theorem cancel (arises : s.Arises P) : s.cancel.Arises P := by
  obtain ⟨c, reached, bears, rfl⟩ := arises
  exact of_step reached bears .cancel trivial

theorem shutdown (arises : s.Arises P) : s.shutdown.scheduler.Arises P := by
  obtain ⟨c, reached, bears, rfl⟩ := arises
  exact of_step reached bears .shutdown trivial

theorem reach (arises : s.Arises P) {now : Int} (later : s.now ≤ now) : (s.reach now).Arises P := by
  obtain ⟨c, reached, bears, rfl⟩ := arises
  have waited := of_step reached bears (.wait (now - c.scheduler.now).toNat) trivial
  have clock : c.scheduler.now + (now - c.scheduler.now).toNat = now := by omega
  rw [Chronicle.step, clock] at waited
  exact waited

theorem perform (arises : s.Arises P) (plan : Task ω → Execution) {place : Nat} {job : Job ω}
    (found : s.ready[place]? = some job) :
    (({ s with ready := s.ready.eraseIdx place } : Scheduler ω).perform plan job).1.Arises P := by
  obtain ⟨c, reached, bears, rfl⟩ := arises
  have worked := of_step reached bears (.work plan place) trivial
  simp only [Chronicle.step, found] at worked
  exact worked

theorem next (arises : s.Arises P) (plan : Task ω → Execution) {job : Job ω} {rest : List (Job ω)}
    (ready : s.ready = job :: rest) :
    (({ s with ready := rest } : Scheduler ω).perform plan job).1.Arises P := by
  have found : s.ready[0]? = some job := by rw [ready]; rfl
  have worked := arises.perform plan found
  rw [ready, List.eraseIdx_cons_zero] at worked
  exact worked

theorem settle (arises : s.Arises P) (plan : Task ω → Execution) : (s.settle plan).1.Arises P := by
  fun_induction Scheduler.settle plan s with
  | case1 => exact arises
  | case2 s job rest ready next less final ih => exact ih (arises.next plan ready)
  | case3 s job rest ready next last => exact arises.next plan ready

theorem owed (arises : s.Arises P) {job : Job ω} (member : job ∈ s.ready) {name : String} {k : Nat}
    {t : Task ω} (duty : job.duty = some (name, k, t)) : P name t.record := by
  obtain ⟨c, reached, bears, rfl⟩ := arises
  refine bears.duties name k t (List.mem_append_left _ ?_)
  exact List.mem_filterMap.mpr ⟨job, member, duty⟩

end Arises

/-- The executor belongs to the queue of this name. -/
def Belongs (owner : ω → String) (name : String) (record : ω × Nat) : Prop := owner record.1 = name

/-! ### All that can be done at once -/

theorem Mirrors.next_inside (mirrors : Mirrors p s m) (plan : Task ω → Execution) {job : Job ω}
    {rest : List (Job ω)} (ready : s.ready = job :: rest) (inside : p job.queue = true) :
    ∃ job' rest', m.ready = job' :: rest' ∧
      Mirrors p (({ s with ready := rest } : Scheduler ω).perform plan job).1
        (({ m with ready := rest' } : Scheduler ω).perform plan job').1 ∧
      (({ m with ready := rest' } : Scheduler ω).perform plan job').2 =
        (({ s with ready := rest } : Scheduler ω).perform plan job).2 := by
  have found : s.ready[0]? = some job := by rw [ready]; rfl
  obtain ⟨job', there, same, left⟩ := mirrors.take_inside found inside
  have first : s.placeWithin p 0 = 0 := by simp [placeWithin]
  rw [first] at there left
  cases ready' : m.ready with
  | nil =>
    rw [ready'] at there
    cases there
  | cons job'' rest' =>
    rw [ready'] at there left
    cases there
    rw [ready, List.eraseIdx_cons_zero, List.eraseIdx_cons_zero] at left
    exact ⟨job', rest', rfl, left.perform_inside plan inside same⟩

/-- A job for a queue outside is done in the scheduler only, and nobody inside sees it. -/
theorem Mirrors.next_outside (mirrors : Mirrors p s m) (plan : Task ω → Execution)
    (arises : s.Arises (Belongs owner)) {job : Job ω} {rest : List (Job ω)}
    (ready : s.ready = job :: rest) (outside : p job.queue = false) :
    Mirrors p (({ s with ready := rest } : Scheduler ω).perform plan job).1 m ∧
      (({ s with ready := rest } : Scheduler ω).perform plan job).2.filter (·.seen owner p) =
        [] := by
  have found : s.ready[0]? = some job := by rw [ready]; rfl
  have left := mirrors.take_outside found outside
  rw [ready, List.eraseIdx_cons_zero] at left
  refine ⟨left.perform_outside plan outside, unseen_perform plan outside fun k t duty => ?_⟩
  exact arises.owed (ready ▸ List.mem_cons_self) duty

theorem settle_of_idle (plan : Task ω → Execution) (idle : s.ready = []) :
    s.settle plan = (s, []) := by
  rw [Scheduler.settle]
  simp only [idle]

/-- A job for a queue inside takes as much off what is left to do in both. -/
theorem Mirrors.workload_inside (mirrors : Mirrors p s m) (plan : Task ω → Execution) {job : Job ω}
    {rest : List (Job ω)} (ready : s.ready = job :: rest) (inside : p job.queue = true)
    {m' : Scheduler ω}
    (after : Mirrors p (({ s with ready := rest } : Scheduler ω).perform plan job).1 m') :
    (({ s with ready := rest } : Scheduler ω).perform plan job).1.workload < s.workload ↔
      m'.workload < m.workload := by
  have unseen : (!p job.queue) = false := by rw [inside]; rfl
  have others : (({ s with ready := rest } : Scheduler ω).perform plan job).1.within
      (fun name => !p name) = s.within fun name => !p name := by
    rw [Scheduler.perform_outside (p := fun name => !p name) plan _ unseen]
    simp only [within, ready, List.filter_cons, unseen, Bool.false_eq_true, ↓reduceIte]
  rw [mirrors.workload, after.workload, others]
  omega

/-- What is done in the mirror at once is what is done for the queues inside, if all comes to an
end: a row of jobs that is broken off may leave some for the queues inside. -/
theorem Mirrors.settle (mirrors : Mirrors p s m) (plan : Task ω → Execution)
    (arises : s.Arises (Belongs owner)) (rest : (s.settle plan).1.ready = []) :
    Mirrors p (s.settle plan).1 (m.settle plan).1 ∧
      (m.settle plan).2.filter (·.seen owner p) = (s.settle plan).2.filter (·.seen owner p) := by
  revert m
  -- along the jobs of the scheduler; the mirror does a job for each of those inside
  fun_induction Scheduler.settle plan s with
  | case1 s none_ =>
    intro m mirrors
    rw [settle_of_idle plan (mirrors.idle none_)]
    exact ⟨mirrors, rfl⟩
  | case2 s job others ready next less final ih =>
    intro m mirrors
    have arises' := arises.next plan ready
    cases inside : p job.queue with
    | true =>
      obtain ⟨job', others', ready', after, same⟩ := mirrors.next_inside plan ready inside
      have less' := (mirrors.workload_inside plan ready inside after).mp less
      obtain ⟨last, seen⟩ := ih arises' rest after
      rw [Scheduler.settle]
      simp only [ready', less', ↓reduceIte]
      exact ⟨last, by rw [List.filter_append, List.filter_append, seen, same]⟩
    | false =>
      obtain ⟨after, unseen⟩ := mirrors.next_outside plan arises ready inside
      obtain ⟨last, seen⟩ := ih arises' rest after
      exact ⟨last, by rw [List.filter_append, unseen, List.nil_append, seen]⟩
  | case3 s job others ready next last =>
    intro m mirrors
    cases inside : p job.queue with
    | true =>
      obtain ⟨job', others', ready', after, same⟩ := mirrors.next_inside plan ready inside
      have last' := mt (mirrors.workload_inside plan ready inside after).mpr last
      rw [Scheduler.settle]
      simp only [ready', last', ↓reduceIte]
      exact ⟨after, by rw [same]⟩
    | false =>
      obtain ⟨after, unseen⟩ := mirrors.next_outside plan arises ready inside
      rw [settle_of_idle plan (after.idle rest)]
      exact ⟨after, unseen.symm⟩

/-! ### Timers -/

theorem Armed.of_within {timer : Int} (armed : (s.within p).Armed timer) : s.Armed timer := by
  rcases armed with ⟨line, present, rest⟩ | ⟨r, running, ends⟩
  · exact .inl ⟨line, (List.mem_filter.mp present).1, rest⟩
  · obtain ⟨original, inside, rfl⟩ := List.mem_map.mp running
    exact .inr ⟨original, (List.mem_filter.mp inside).1, ends⟩

theorem Confined.armed (confined : m.Confined p) {timer : Int} (armed : m.Armed timer) :
    (m.within p).Armed timer := by
  rcases armed with ⟨line, present, rest⟩ | ⟨r, running, ends⟩
  · have inside := List.filter_eq_nil_iff.mp confined.lines line present
    exact .inl ⟨line, List.mem_filter.mpr ⟨present, by simpa using inside⟩, rest⟩
  · have others := List.map_eq_nil_iff.mp confined.running
    have inside := List.filter_eq_nil_iff.mp others r running
    refine .inr ⟨r.unnumbered, List.mem_map.mpr ⟨r, List.mem_filter.mpr ⟨running, ?_⟩, rfl⟩, ends⟩
    simpa using inside

/-- The timers of the mirror are timers of the scheduler. -/
theorem Mirrors.armed (mirrors : Mirrors p s m) {timer : Int} (armed : m.Armed timer) :
    s.Armed timer := by
  have inside := mirrors.confined.armed armed
  rw [mirrors.same] at inside
  exact inside.of_within

/-! ### The clock -/

theorem Mirrors.reach (mirrors : Mirrors p s m) (now : Int) :
    Mirrors p (s.reach now) (m.reach now) :=
  ⟨by rw [reach_within, reach_within, mirrors.same], mirrors.confined.reach now⟩

theorem Arises.ahead {P : String → ω × Nat → Prop} (arises : s.Arises P) {timer : Int}
    (armed : s.Armed timer) : s.now < timer := by
  obtain ⟨c, reached, _, rfl⟩ := arises
  exact reached.ahead armed

theorem Arises.advanceTo {P : String → ω × Nat → Prop} (arises : s.Arises P)
    (plan : Task ω → Execution) {target : Int} (later : s.now ≤ target) :
    (s.advanceTo plan target).1.Arises P := by
  fun_induction Scheduler.advanceTo plan s target with
  | case1 s stop timer => exact (arises.reach later).settle plan
  | case2 s stop t timer before reached final ih =>
    have on : s.now ≤ t := Int.le_of_lt (now_lt_nextTimer timer)
    refine ih ((arises.reach on).settle plan) ?_
    rw [settle_now, reach_now]
    exact before
  | case3 s stop t timer after => exact (arises.reach later).settle plan

theorem filter_timed (owner : ω → String) (p : String → Bool) (t : Int) (events : List (Event ω)) :
    (events.map (t, ·)).filter (·.2.seen owner p) =
      (events.filter (·.seen owner p)).map (t, ·) := by
  rw [List.filter_map]
  rfl

theorem with_now {t : Int} (clock : s.now = t) : { s with now := t } = s := by
  subst clock
  rfl

/-! A mirror whose clock lags behind is one for the scheduler once its clock is set. -/

/-- No timer of the mirror is before the next one of the scheduler. -/
theorem Mirrors.exists_nextTimer (mirrors : Mirrors p s { m with now := s.now })
    {P : String → ω × Nat → Prop} (arises : s.Arises P) {timer : Int} (armed : m.Armed timer) :
    ∃ t, s.nextTimer = some t ∧ t ≤ timer :=
  nextTimer_le (mirrors.armed armed) (arises.ahead (mirrors.armed armed))

/-- Where the clock of the scheduler stops for a timer of others, the mirror goes on sleeping. -/
theorem Mirrors.sleeps (mirrors : Mirrors p s { m with now := s.now }) (behind : m.now ≤ s.now)
    {P : String → ω × Nat → Prop} (arises : s.Arises P) {t : Int} (timer : s.nextTimer = some t)
    (later : m.nextTimer ≠ some t) : ∀ timer, m.Armed timer → t < timer := by
  intro timer' armed
  obtain ⟨t', first, early⟩ := mirrors.exists_nextTimer arises armed
  cases timer.symm.trans first
  refine Int.lt_iff_le_and_ne.mpr ⟨early, fun same => later ?_⟩
  subst same
  have on : m.now < t := Int.lt_of_le_of_lt behind (now_lt_nextTimer timer)
  obtain ⟨t', second, early'⟩ := nextTimer_le armed on
  obtain ⟨t'', first', late⟩ := mirrors.exists_nextTimer arises (armed_of_nextTimer second)
  cases timer.symm.trans first'
  rwa [Int.le_antisymm early' late] at second

/-- The clock of a mirror goes to an instant as that of the scheduler does, though it may stop less
often. -/
theorem Mirrors.advanceTo (plan : Task ω → Execution) {target : Int} (rests : s.Rests plan target)
    (mirrors : Mirrors p s { m with now := s.now }) (behind : m.now ≤ s.now)
    (arises : s.Arises (Belongs owner)) (idle : s.ready = []) (later : s.now ≤ target)
    (rest : (s.advanceTo plan target).1.ready = []) :
    Mirrors p (s.advanceTo plan target).1 (m.advanceTo plan target).1 ∧
      (m.advanceTo plan target).2.filter (·.2.seen owner p) =
        (s.advanceTo plan target).2.filter (·.2.seen owner p) := by
  induction rests generalizing m with
  | @last s timer =>
    have timer' : ∀ t, m.nextTimer = some t → target < t := by
      intro t first
      obtain ⟨t', first', before⟩ := mirrors.exists_nextTimer arises (armed_of_nextTimer first)
      exact Int.lt_of_lt_of_le (timer t' first') before
    rw [advanceTo_last plan timer] at rest ⊢
    rw [advanceTo_last plan timer']
    have reached : Mirrors p (s.reach target) (m.reach target) := mirrors.reach target
    obtain ⟨settled, seen⟩ := reached.settle plan (arises.reach later) rest
    exact ⟨settled, by rw [filter_timed, filter_timed, seen]⟩
  | @stop s t timer before rest' on ih =>
    have still := Int.le_of_lt (now_lt_nextTimer timer)
    have arises' := (arises.reach still).settle plan
    have clock : ((s.reach t).settle plan).1.now = t := by rw [settle_now, reach_now]
    have before' : ((s.reach t).settle plan).1.now ≤ target :=
      Int.le_trans (Int.le_of_eq clock) before
    have reached : Mirrors p (s.reach t) (m.reach t) := mirrors.reach t
    rw [advanceTo_stop plan timer before] at rest ⊢
    by_cases first : m.nextTimer = some t
    · -- both stop
      obtain ⟨settled, seen⟩ := reached.settle plan (arises.reach still) rest'
      have clock' : ((m.reach t).settle plan).1.now = t := by rw [settle_now, reach_now]
      rw [← with_now (clock'.trans clock.symm)] at settled
      have behind' := Int.le_of_eq (clock'.trans clock.symm)
      obtain ⟨final, seen'⟩ := ih settled behind' arises' rest' before' rest
      rw [advanceTo_stop plan first before]
      refine ⟨final, ?_⟩
      rw [List.filter_append, List.filter_append, filter_timed, filter_timed, seen, seen']
    · -- the mirror stays behind
      rw [reach_quiet (mirrors.sleeps behind arises timer first)] at reached
      obtain ⟨settled, seen⟩ := reached.settle plan (arises.reach still) rest'
      have idle' : m.ready = [] := mirrors.idle idle
      rw [settle_of_idle (s := { m with now := t }) plan idle'] at settled seen
      have lagging : Mirrors p ((s.reach t).settle plan).1
          { m with now := ((s.reach t).settle plan).1.now } := by
        rw [clock]
        exact settled
      have behind' : m.now ≤ ((s.reach t).settle plan).1.now := by omega
      obtain ⟨final, seen'⟩ := ih lagging behind' arises' rest' before' rest
      refine ⟨final, ?_⟩
      rw [List.filter_append, filter_timed, ← seen, seen']
      rfl

end Scheduler

end Vigil
