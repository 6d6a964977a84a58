import Vigil.Orchestrator
import Vigil.Proofs.MonitorId
import Vigil.Proofs.Pipeline.Ledger
import Vigil.Proofs.Scheduler.Upkeep

/-!
# Calls of a service under way

Any number of calls of a service may be under way at once. One at a time holds the lock of the
monitors, from its first look at them to its end; the steps it has left are those in which it
touches the recorder, the queue or the monitors (`Stage`). A deletion gives the lock back once the
monitor is struck off, and does the rest without (`Parting`). Between any two steps the scheduler,
the recorder and clients of other queues do what they like. A call that nothing comes between does
what the service's function for it does (`register_alone` and its siblings).
-/
namespace Vigil

/-- The move is not a client's at the queue of this name, which it neither closes nor removes, and
the recorder is told nothing but results. -/
def Pipeline.Move.Spares (name : String) : Pipeline.Move → Prop
  | .client other _ => other ≠ name
  | .shutdown | .track _ | .forget _ => False
  | _ => True

theorem Pipeline.Move.Internal.spares {move : Pipeline.Move} (internal : move.Internal)
    (name : String) : move.Spares name := by
  cases move <;> first | exact internal.elim | exact trivial

/-- The recorder is told nothing but results. -/
def Pipeline.Move.Quiet : Pipeline.Move → Prop
  | .track _ | .forget _ => False
  | _ => True

theorem Pipeline.Move.Spares.quiet {move : Pipeline.Move} {name : String}
    (spares : move.Spares name) : move.Quiet := by
  cases move <;> first | exact trivial | exact spares.elim

namespace Scheduler

variable {ω : Type}

/-- Whether `push` queues the task. -/
def accepts (s : Scheduler ω) (name : String) (t : Task ω) : Bool :=
  (s.queue? name).any fun q => (q.push t).isOk

theorem push_refused {s : Scheduler ω} {name : String} {t : Task ω}
    (refused : s.accepts name t = false) : s.push name t = s := by
  unfold push
  split
  next => rfl
  next q here =>
    split
    next => rfl
    next success =>
      simp only [accepts, here, Option.any_some, success] at refused
      cases refused

theorem register_refused {s : Scheduler ω} {name : String} {t : Task ω}
    (refused : (s.register name t).answer.isOk = false) : (s.register name t).scheduler = s := by
  unfold register at refused ⊢
  split
  next => rfl
  next q here =>
    simp only [here] at refused
    split
    next => rfl
    next success =>
      simp only [success] at refused
      cases refused

theorem modifyLine_modifyLine (s : Scheduler ω) (name : String) (f g : Line ω → Line ω)
    (keeps : ∀ l, (f l).name = l.name) :
    (s.modifyLine name f).modifyLine name g = s.modifyLine name (g ∘ f) := by
  simp only [modifyLine, List.map_map]
  congr 1
  refine List.map_congr_left fun l _ => ?_
  simp only [Function.comp_apply]
  split
  next same => rw [keeps, if_pos same]
  next other => rfl

theorem putQueue_putQueue (s : Scheduler ω) (name : String) (first second : Queue ω)
    (wakes : Bool) :
    (s.putQueue name first false).putQueue name second wakes = s.putQueue name second wakes := by
  have twice : (s.modifyLine name fun l => { l with queue := first }).modifyLine name
      (fun l => { l with queue := second }) = s.modifyLine name fun l => { l with queue := second } :=
    modifyLine_modifyLine s name _ _ fun _ => rfl
  simp only [putQueue, Bool.false_eq_true, ↓reduceIte, twice]

/-- Replacing a record is a removal and then an insertion. -/
theorem push_remove (s : Scheduler ω) (name : String) (t : Task ω) :
    ((s.remove name t.id).scheduler).push name t = (s.update name t).scheduler ∧
      (s.remove name t.id).scheduler.accepts name t = (s.update name t).answer.isOk := by
  simp only [remove, update]
  cases here : s.queue? name with
  | none =>
    have none_ : s.push name t = s := by simp only [push, here]
    refine ⟨none_, ?_⟩
    simp only [accepts, here]
    rfl
  | some q =>
    have there : (s.putQueue name (q.remove t.id).1 false).queue? name = some (q.remove t.id).1 := by
      rw [queue?_putQueue here]
      exact if_pos rfl
    simp only [push, accepts, there]
    cases pushed : (q.remove t.id).1.push t with
    | error why =>
      refine ⟨rfl, ?_⟩
      simp [pushed, Except.isOk, Except.toBool]
    | ok e =>
      refine ⟨putQueue_putQueue s name _ _ _, ?_⟩
      simp [pushed, Except.isOk, Except.toBool]

end Scheduler

namespace Service

@[simp] theorem putRecorder_scheduler (s : Service) (r : Recorder) :
    (s.putRecorder r).scheduler = s.scheduler := rfl

@[simp] theorem putRecorder_queue (s : Service) (r : Recorder) :
    (s.putRecorder r).queue = s.queue := rfl

/-- A call that changes monitors. The stamp of a registration is taken before the lock, so it may
be an old one. -/
inductive Call where
  | register (id : MonitorId) (stamp : Nat) (r : Request)
  | modify (id : MonitorId) (c : Changes)
  | toggle (id : MonitorId)
  | delete (id : MonitorId)

/-- The next step of the call that holds the lock, and the monitor it is about to store. -/
inductive Stage where
  | tracking (m : Monitor)
  | registering (m : Monitor) (t : Task Monitor)
  /-- The task was refused. -/
  | untracking (m : Monitor)
  | storing (m : Monitor)
  | clearing (m : Monitor) (t : Task Monitor)
  | pushing (m : Monitor) (t : Task Monitor)
  | enabling (m : Monitor) (t : Task Monitor)
  | disabling (m : Monitor)
  | replacing (m : Monitor)
  deriving DecidableEq

/-- The next step of a deletion. -/
inductive Parting where
  | unscheduling (id : MonitorId)
  | forgetting (id : MonitorId)
  deriving DecidableEq

def Stage.monitor : Stage → Monitor
  | .tracking m | .registering m _ | .untracking m | .storing m | .clearing m _ | .pushing m _
  | .enabling m _ | .disabling m | .replacing m => m

def Parting.id : Parting → MonitorId
  | .unscheduling id | .forgetting id => id

/-- A service and the calls under way at it. -/
structure Traffic where
  service : Service
  /-- The call that holds the lock. -/
  holder : Option Stage := none
  /-- Deletions that have given the lock back. -/
  leaving : List Parting := []

namespace Traffic

/-- A call takes the lock, which is free. If the monitor does not exist or would not be valid the
call ends there. The task is built before anything is touched. -/
def enter (t : Traffic) : Call → Traffic
  | .register id stamp r =>
    let m := Monitor.ofRequest id stamp r
    match Validation.checkMonitor m with
    | .error _ => t
    | .ok _ => { t with holder := some (.tracking m) }
  | .modify id c =>
    match t.service.find? id with
    | none => t
    | some old =>
      let m := old.apply t.service.stamp c
      match Validation.checkMonitor m with
      | .error _ => t
      | .ok _ =>
        { t with
          holder := some (if m.enabled then .clearing m (m.task t.service.now) else .replacing m) }
  | .toggle id =>
    match t.service.find? id with
    | none => t
    | some old =>
      let m := { old with enabled := !old.enabled, updatedAt := t.service.stamp }
      { t with
        holder := some (if m.enabled then .enabling m (m.task t.service.now) else .disabling m) }
  | .delete id =>
    match t.service.find? id with
    | none => t
    | some _ =>
      { t with service := t.service.strike id, leaving := .unscheduling id :: t.leaving }

/-- The next step of the call that holds the lock. -/
def proceed (t : Traffic) : Traffic :=
  let s := t.service
  match t.holder with
  | none => t
  | some (.tracking m) =>
    { t with
      service := s.putRecorder (s.recorder.track m.id)
      holder := some (if m.enabled then .registering m (m.task s.now) else .storing m) }
  | some (.registering m task) =>
    let reply := s.scheduler.register s.queue task
    { t with
      service := s.putScheduler reply.scheduler
      holder := some (if reply.answer.isOk then .storing m else .untracking m) }
  | some (.untracking m) => { t with service := s.forget m.id, holder := none }
  | some (.storing m) =>
    { t with service := { s with monitors := s.monitors ++ [m] }.tick, holder := none }
  | some (.clearing m task) => { t with service := s.unschedule m.id, holder := some (.pushing m task) }
  | some (.pushing m task) =>
    { t with
      service := s.putScheduler (s.scheduler.push s.queue task)
      holder := if s.scheduler.accepts s.queue task then some (.replacing m) else none }
  | some (.enabling m task) =>
    let reply := s.scheduler.register s.queue task
    { t with
      service := s.putScheduler reply.scheduler
      holder := if reply.answer.isOk then some (.replacing m) else none }
  | some (.disabling m) => { t with service := s.unschedule m.id, holder := some (.replacing m) }
  | some (.replacing m) => { t with service := (s.replace m).tick, holder := none }

/-- The next step of the deletion in this place. -/
def part (t : Traffic) (place : Nat) : Traffic :=
  match t.leaving[place]? with
  | none => t
  | some (.unscheduling id) =>
    { t with
      service := t.service.unschedule id
      leaving := t.leaving.set place (.forgetting id) }
  | some (.forgetting id) =>
    { t with service := t.service.forget id, leaving := t.leaving.eraseIdx place }

/-- The pipeline goes on by itself. -/
def undergo (c : Pipeline.Checks) (t : Traffic) (move : Pipeline.Move) : Traffic :=
  let ledger : Pipeline.Ledger := { pipeline := t.service.pipeline }
  { t with service := { t.service with pipeline := (ledger.step c move).pipeline } }

/-- No monitor has the identity of a registration, and none that is being deleted. -/
def Fresh (t : Traffic) : Call → Prop
  | .register id _ _ => id.Proper ∧ t.service.find? id = none ∧ ∀ p ∈ t.leaving, p.id ≠ id
  | _ => True

instance (t : Traffic) (call : Call) : Decidable (t.Fresh call) :=
  match call with
  | .register .. => inferInstanceAs (Decidable (_ ∧ _ ∧ _))
  | .modify .. | .toggle _ | .delete _ => .isTrue trivial

/-- One step of a call, of the pipeline, or of a client that triggers checks. -/
inductive Step (t : Traffic) : Traffic → Prop where
  | enter (call : Call) (free : t.holder = none) (fresh : t.Fresh call) : Step t (t.enter call)
  | proceed : Step t t.proceed
  | part (place : Nat) : Step t (t.part place)
  | undergo (c : Pipeline.Checks) (move : Pipeline.Move) (spares : move.Spares t.service.queue) :
      Step t (t.undergo c move)
  | report (r : CheckResult) : Step t { t with service := t.service.report r }

/-- What a new service with a new queue can come to. -/
inductive Reached : Traffic → Prop where
  | fresh {s : Service} (none_ : s.monitors = []) (queue : s.scheduler.queue? s.queue = some {})
      (untracked : s.recorder.entries = ∅) : Reached { service := s }
  | step {t t' : Traffic} (reached : Reached t) (move : t.Step t') : Reached t'

/-! ### Calls that nothing comes between -/

section

variable {t : Traffic}

theorem register_alone (free : t.holder = none) (id : MonitorId) (r : Request) :
    (t.enter (.register id t.service.stamp r)).proceed.proceed.proceed =
      { t with service := (t.service.register id r).1 } := by
  obtain ⟨s, holder, leaving⟩ := t
  cases free
  let m := Monitor.ofRequest id s.stamp r
  cases valid : Validation.checkMonitor m with
  | error defect => simp only [enter, Service.register, m, valid, proceed]
  | ok _ =>
    cases on : m.enabled with
    | false =>
      simp only [enter, Service.register, m, valid, proceed, on, Bool.false_eq_true, ↓reduceIte]
      rfl
    | true =>
      cases asked : (s.scheduler.register s.queue (m.task s.now)).answer with
      | error why | ok _ =>
        simp only [m] at asked valid on
        simp only [enter, Service.register, valid, proceed, on, ↓reduceIte, putRecorder_scheduler,
          putRecorder_queue, asked, Except.isOk, Except.toBool,
          Bool.false_eq_true]
        rfl

theorem modify_alone (free : t.holder = none) (id : MonitorId) (c : Changes) :
    (t.enter (.modify id c)).proceed.proceed.proceed =
      { t with service := (t.service.modify id c).1 } := by
  obtain ⟨s, holder, leaving⟩ := t
  cases free
  cases found : s.find? id with
  | none => simp only [enter, Service.modify, found, proceed]
  | some old =>
    cases valid : Validation.checkMonitor (old.apply s.stamp c) with
    | error defect => simp only [enter, Service.modify, found, valid, proceed]
    | ok _ =>
      cases on : (old.apply s.stamp c).enabled with
      | false =>
        simp only [enter, Service.modify, found, valid, proceed, on, Bool.false_eq_true, ↓reduceIte]
      | true =>
        let m := old.apply s.stamp c
        have split := s.scheduler.push_remove s.queue (m.task s.now)
        have pushed : (s.unschedule m.id).scheduler.push s.queue (m.task s.now) =
            (s.scheduler.update s.queue (m.task s.now)).scheduler := split.1
        have accepted : (s.unschedule m.id).scheduler.accepts s.queue (m.task s.now) =
            (s.scheduler.update s.queue (m.task s.now)).answer.isOk := split.2
        have same : (s.unschedule m.id).queue = s.queue := rfl
        cases asked : (s.scheduler.update s.queue (m.task s.now)).answer with
        | error why | ok _ =>
          rw [asked] at accepted
          simp only [m] at asked accepted pushed same
          simp only [enter, Service.modify, found, valid, proceed, on, ↓reduceIte, asked, same,
            pushed, accepted, Except.isOk, Except.toBool, Bool.false_eq_true]
          rfl

theorem toggle_alone (free : t.holder = none) (id : MonitorId) :
    (t.enter (.toggle id)).proceed.proceed.proceed =
      { t with service := (t.service.toggle id).1 } := by
  obtain ⟨s, holder, leaving⟩ := t
  cases free
  cases found : s.find? id with
  | none => simp only [enter, Service.toggle, found, proceed]
  | some old =>
    have named : old.id = id := by simpa using List.find?_some found
    cases on : old.enabled with
    | true =>
      simp only [enter, Service.toggle, found, proceed, on, Bool.not_true, Bool.false_eq_true,
        ↓reduceIte, named]
    | false =>
      let m : Monitor := { old with enabled := true, updatedAt := s.stamp }
      cases asked : (s.scheduler.register s.queue (m.task s.now)).answer with
      | error why | ok _ =>
        simp only [m] at asked
        simp only [enter, Service.toggle, found, proceed, on, Bool.not_false, Bool.false_eq_true,
          ↓reduceIte, asked, Except.isOk, Except.toBool]

theorem delete_alone (id : MonitorId) (stored : (t.service.find? id).isSome) :
    ((t.enter (.delete id)).part 0).part 0 = { t with service := (t.service.delete id).1 } := by
  obtain ⟨old, found⟩ := Option.isSome_iff_exists.mp stored
  simp only [enter, Service.delete, found, part, List.getElem?_cons_zero, List.set_cons_zero,
    List.eraseIdx_zero, List.tail_cons]

theorem Reached.register (reached : Reached t) (free : t.holder = none) (id : MonitorId)
    (r : Request) (fresh : t.Fresh (.register id t.service.stamp r)) :
    Reached { t with service := (t.service.register id r).1 } := by
  rw [← register_alone free]
  exact (((reached.step (.enter _ free fresh)).step .proceed).step .proceed).step .proceed

theorem Reached.modify (reached : Reached t) (free : t.holder = none) (id : MonitorId)
    (c : Changes) : Reached { t with service := (t.service.modify id c).1 } := by
  rw [← modify_alone free]
  exact (((reached.step (.enter (.modify id c) free trivial)).step .proceed).step .proceed).step .proceed

theorem Reached.toggle (reached : Reached t) (free : t.holder = none) (id : MonitorId) :
    Reached { t with service := (t.service.toggle id).1 } := by
  rw [← toggle_alone free]
  exact (((reached.step (.enter (.toggle id) free trivial)).step .proceed).step .proceed).step .proceed

theorem Reached.delete (reached : Reached t) (free : t.holder = none) (id : MonitorId) :
    Reached { t with service := (t.service.delete id).1 } := by
  cases found : t.service.find? id with
  | none =>
    have same : (t.service.delete id).1 = t.service := by simp only [Service.delete, found]
    rwa [same]
  | some old =>
    rw [← delete_alone id (Option.isSome_of_eq_some found)]
    exact ((reached.step (.enter (.delete id) free trivial)).step (.part 0)).step (.part 0)

/-! ### The clock-driven service -/

theorem step_pipeline {c : Pipeline.Checks} {l l' : Pipeline.Ledger}
    (same : l.pipeline = l'.pipeline) (move : Pipeline.Move) :
    (l.step c move).pipeline = (l'.step c move).pipeline := by
  cases move with
  | take name =>
    simp only [Pipeline.Ledger.step, same]
    split
    · exact same
    · simp only [Pipeline.Ledger.withScheduler, same]
  | work place =>
    simp only [Pipeline.Ledger.step, same]
    split
    · exact same
    · rfl
  | _ =>
    simp only [Pipeline.Ledger.step, Pipeline.Ledger.withScheduler, Pipeline.Ledger.withRecorder,
      same]

theorem Reached.run {c : Pipeline.Checks} (reached : Reached t) {l : Pipeline.Ledger}
    (same : l.pipeline = t.service.pipeline) {moves : List Pipeline.Move}
    (internal : ∀ move ∈ moves, move.Internal) :
    Reached { t with service := { t.service with pipeline := (l.run c moves).pipeline } } := by
  induction moves generalizing t l with
  | nil =>
    simp only [Pipeline.Ledger.run, List.foldl_nil, same]
    exact reached
  | cons move rest ih =>
    obtain ⟨first, others⟩ := List.forall_mem_cons.mp internal
    have moved := reached.step (.undergo c move (first.spares _))
    exact ih moved (step_pipeline same move) others

theorem Reached.advanceTo {c : Pipeline.Checks} (reached : Reached t) {target : Int}
    (later : t.service.now ≤ target) :
    Reached { t with service := t.service.advanceTo c target } := by
  let l : Pipeline.Ledger := { pipeline := t.service.pipeline }
  obtain ⟨moves, internal, done⟩ := l.exists_run_advanceTo (c := c) later
  have ran := reached.run (c := c) (l := l) rfl internal
  rw [done] at ran
  exact ran

theorem reached_ofConfig {c : Config} {o : Orchestrator} (built : Orchestrator.ofConfig c = .ok o) :
    Reached { service := o.service } := by
  unfold Orchestrator.ofConfig at built
  cases timeout : Validation.checkTimeout c.checking.timeout with
  | error defect =>
    rw [timeout] at built
    cases built
  | ok _ =>
    rw [timeout] at built
    cases built
    refine .fresh rfl ?_ rfl
    simp [Service.scheduler, Scheduler.addQueue, Scheduler.queue?, Scheduler.line?]

end

end Traffic

end Service

end Vigil
