import Vigil.Proofs.Scheduler.Lockstep
import Vigil.Proofs.Service.Session
import Vigil.Proofs.Service.Tracking

/-!
# Only acceptable monitors are stored and checked

A monitor is looked at once, as a whole, when a call would store it: a change that is acceptable by
itself may not fit the rest of the monitor. Copies of it are made from then on, in the task that is
handed to the queue, in executions, and for clients who trigger a check, and all of them are copies
of a monitor that was acceptable (`Sound.run`). Its interval is a day at most, so as long as the
clock has a day left every instant that a task is due at exists.
-/
namespace Vigil

open Pipeline (Checks)

/-- A monitor with a name, a target of the form its check type asks for, and an interval between ten
seconds and a day. -/
structure Monitor.Acceptable (m : Monitor) : Prop where
  name : Text.allBlank m.name = false
  target : Validation.checkTarget m.target m.checkType = .ok ()
  interval : 10 ≤ m.interval ∧ m.interval ≤ 86400

theorem Validation.checkMonitor_eq_ok {m : Monitor} : checkMonitor m = .ok () ↔ m.Acceptable := by
  have name : checkName m.name = .ok () ↔ Text.allBlank m.name = false := by
    cases blank : Text.allBlank m.name <;> simp [checkName, blank]
  have interval : checkInterval m.interval = .ok () ↔ 10 ≤ m.interval ∧ m.interval ≤ 86400 := by
    simp only [checkInterval, minInterval, maxInterval]
    by_cases short : m.interval < 10
    · simp [short, Nat.not_le_of_lt short]
    · by_cases long : 86400 < m.interval
      · simp [short, long, Nat.not_le_of_lt long]
      · simp [short, long, Nat.le_of_not_lt short, Nat.le_of_not_lt long]
  constructor
  · intro valid
    unfold checkMonitor at valid
    cases named : checkName m.name with
    | error defect =>
      rw [named] at valid
      cases valid
    | ok _ =>
      cases aimed : checkTarget m.target m.checkType with
      | error defect =>
        rw [named, aimed] at valid
        cases valid
      | ok _ =>
        rw [named, aimed] at valid
        exact ⟨name.mp named, aimed, interval.mp valid⟩
  · rintro ⟨named, aimed, bounded⟩
    unfold checkMonitor
    rw [name.mpr named, aimed, interval.mpr bounded]
    rfl

/-- Whether it is enabled does not matter. -/
theorem Monitor.Acceptable.switch {m : Monitor} (acceptable : m.Acceptable) (enabled : Bool)
    (stamp : Nat) : ({ m with enabled, updatedAt := stamp } : Monitor).Acceptable :=
  ⟨acceptable.name, acceptable.target, acceptable.interval⟩

/-- A day from now there is still an instant. -/
def Instant.Ahead (now : Int) : Prop := now + Duration.ofSeconds 86400 ≤ Instant.latest

theorem Monitor.Acceptable.period_le {m : Monitor} (acceptable : m.Acceptable) :
    m.period ≤ Duration.ofSeconds 86400 :=
  Nat.mul_le_mul_right _ acceptable.interval.2

/-- The first task of an acceptable monitor can be made. -/
theorem Monitor.Acceptable.first? {m : Monitor} (acceptable : m.Acceptable) {now : Int}
    (ahead : Instant.Ahead now) :
    Task.first? m.taskId m.period m now m.checkType.executor = some (m.task now) := by
  have short := acceptable.period_le
  unfold Instant.Ahead at ahead
  exact Monitor.first?_eq_task (by omega)

/-- A task that checks an acceptable monitor, as often as the monitor says. -/
structure Task.Fit (t : Task Monitor) : Prop where
  acceptable : t.work.Acceptable
  interval : t.interval = t.work.period

/-- The next task of an acceptable monitor can be made. -/
theorem Task.Fit.nextRun? {t : Task Monitor} (fit : t.Fit) {now : Int}
    (ahead : Instant.Ahead now) : (t.nextRun? now).isSome := by
  have short := fit.acceptable.period_le
  unfold Instant.Ahead at ahead
  have exists_ : now + t.interval ≤ Instant.latest := by
    rw [fit.interval]
    omega
  simp [Task.nextRun?, Instant.after?, exists_]

namespace Scheduler

variable {ω : Type} {s : Scheduler ω} {P : String → ω × Nat → Prop}

theorem Arises.moved (arises : s.Arises P) {move : Move ω} (brings : move.Brings P) :
    (s.moved move).Arises P := by
  obtain ⟨c, reached, bears, rfl⟩ := arises
  rw [Scheduler.moved, ← c.step_scheduler]
  exact of_step reached bears move brings

/-- What is queued has the property that goes with the name of the queue. -/
theorem Arises.queued (arises : s.Arises P) {name id : String} {q : Queue ω} {t : Task ω}
    (here : s.queue? name = some q) (found : q.find? id = some t) : P name t.record := by
  obtain ⟨c, reached, bears, rfl⟩ := arises
  have current := (reached.kept.faithful name q here).queued id t found
  obtain ⟨d, member, u, about, same⟩ := Queue.exists_task_of_current current
  exact same ▸ bears.deeds name d member u about

theorem Arises.executing (arises : s.Arises P) {name : String} {k : Nat} {t : Task ω}
    (owes : (name, k, t) ∈ s.duties) : P name t.record := by
  obtain ⟨c, reached, bears, rfl⟩ := arises
  exact bears.duties name k t owes

end Scheduler

namespace Service

/-- Under the name of the service's queue there are acceptable monitors only, each with its own
interval. -/
def Checkable (queue name : String) (record : Monitor × Nat) : Prop :=
  name = queue → record.1.Acceptable ∧ record.2 = record.1.period

theorem Checkable.fit {queue : String} {t : Task Monitor}
    (checkable : Checkable queue queue t.record) : t.Fit :=
  ⟨(checkable rfl).1, (checkable rfl).2⟩

theorem checkable_task {m : Monitor} (acceptable : m.Acceptable) (queue name : String) (now : Int) :
    Checkable queue name (m.task now).record :=
  fun _ => ⟨acceptable, rfl⟩

namespace Traffic

/-- Every copy of a monitor is acceptable. -/
structure Sound (t : Traffic) : Prop where
  stored : ∀ m ∈ t.service.monitors, m.Acceptable
  held : ∀ stage ∈ t.holder, stage.monitor.Acceptable ∧
    ∀ u ∈ stage.task?, ∃ now, u = stage.monitor.task now
  tasks : t.service.scheduler.Arises (Checkable t.service.queue)

variable {t : Traffic}

/-- Results are of no consequence. -/
theorem Sound.of_bare (sound : t.Sound) {t' : Traffic} (same : t'.bare = t.bare) : t'.Sound := by
  have bare : t.bare.Sound := ⟨sound.stored, sound.held, sound.tasks⟩
  rw [← same] at bare
  exact ⟨bare.stored, bare.held, bare.tasks⟩

theorem Sound.found (sound : t.Sound) {id : MonitorId} {m : Monitor}
    (stored : t.service.find? id = some m) : m.Acceptable :=
  sound.stored m (List.mem_of_find?_eq_some stored)

/-- The call that holds the lock is about this acceptable monitor, whose task it may have. -/
theorem Sound.hold (sound : t.Sound) {stage : Stage} (acceptable : stage.monitor.Acceptable)
    (task : ∀ u ∈ stage.task?, ∃ now, u = stage.monitor.task now) :
    Sound { t with holder := some stage } :=
  ⟨sound.stored, by rintro _ ⟨⟩; exact ⟨acceptable, task⟩, sound.tasks⟩

theorem Sound.release (sound : t.Sound) : Sound { t with holder := none } :=
  ⟨sound.stored, by rintro _ ⟨⟩, sound.tasks⟩

theorem Sound.enter (sound : t.Sound) (call : Call) : (t.enter call).Sound := by
  cases call with
  | register id stamp r =>
    simp only [Traffic.enter]
    split
    next => exact sound
    next valid =>
      exact sound.hold (Validation.checkMonitor_eq_ok.mp valid) (by rintro _ ⟨⟩)
  | modify id c =>
    simp only [Traffic.enter]
    split
    next => exact sound
    next old stored =>
      cases valid : Validation.checkMonitor (old.apply t.service.stamp c) with
      | error defect => exact sound
      | ok _ =>
        have acceptable := Validation.checkMonitor_eq_ok.mp valid
        dsimp only
        split
        · refine sound.hold ?_ ?_
          · exact acceptable
          · exact fun u about => ⟨_, (Option.mem_some_iff.mp about).symm⟩
        · refine sound.hold ?_ ?_
          · exact acceptable
          · rintro _ ⟨⟩
  | toggle id =>
    simp only [Traffic.enter]
    split
    next => exact sound
    next old stored =>
      have acceptable := (sound.found stored).switch (!old.enabled) t.service.stamp
      split
      · refine sound.hold ?_ ?_
        · exact acceptable
        · exact fun u about => ⟨_, (Option.mem_some_iff.mp about).symm⟩
      · refine sound.hold ?_ ?_
        · exact acceptable
        · rintro _ ⟨⟩
  | delete id =>
    simp only [Traffic.enter]
    split
    next => exact sound
    next =>
      exact ⟨fun m member => sound.stored m (List.mem_filter.mp member).1, sound.held, sound.tasks⟩

/-- The scheduler did something that brought the queue an acceptable monitor's task at most. -/
theorem Sound.reschedule (sound : t.Sound) {scheduler : Scheduler Monitor}
    (tasks : scheduler.Arises (Checkable t.service.queue)) :
    Sound { t with service := t.service.putScheduler scheduler } :=
  ⟨sound.stored, sound.held, tasks⟩

theorem Sound.unschedule (sound : t.Sound) (id : MonitorId) :
    Sound { t with service := t.service.unschedule id } := by
  have removed : (t.service.scheduler.serve t.service.queue (.remove id.text)).Arises
      (Checkable t.service.queue) := sound.tasks.serve (by rintro _ ⟨⟩)
  exact sound.reschedule removed

/-- A client's call that brings the task of the call that holds the lock. -/
theorem Sound.bring (sound : t.Sound) {stage : Stage} (here : t.holder = some stage)
    {u : Task Monitor} (task : stage.task? = some u) {call : Scheduler.Call Monitor}
    (about : call.task? = some u) :
    Sound { t with
      service := t.service.putScheduler (t.service.scheduler.serve t.service.queue call) } := by
  refine sound.reschedule (sound.tasks.serve fun v brings => ?_)
  obtain ⟨acceptable, made⟩ := sound.held stage here
  obtain ⟨now, same⟩ := made u task
  rw [← Option.some.inj (about.symm.trans brings), same]
  exact checkable_task acceptable _ _ now

theorem Sound.proceed (sound : t.Sound) : t.proceed.Sound := by
  obtain ⟨s, holder, leaving⟩ := t
  cases holder with
  | none => exact sound
  | some stage =>
    obtain ⟨acceptable, task⟩ := sound.held stage rfl
    cases stage with
    | tracking m =>
      have tracked : Sound
          { service := s.putRecorder (s.recorder.track m.id), holder := some (.tracking m), leaving } :=
        ⟨sound.stored, sound.held, sound.tasks⟩
      simp only [Traffic.proceed]
      split
      · exact tracked.hold acceptable fun u about => ⟨_, (Option.mem_some_iff.mp about).symm⟩
      · exact tracked.hold acceptable (by rintro _ ⟨⟩)
    | registering m u =>
      have asked := sound.bring rfl rfl (rfl : (Scheduler.Call.register u).task? = some u)
      simp only [Traffic.proceed]
      split
      · exact asked.hold acceptable (by rintro _ ⟨⟩)
      · exact asked.hold acceptable (by rintro _ ⟨⟩)
    | untracking m => exact ⟨sound.stored, by rintro _ ⟨⟩, sound.tasks⟩
    | storing m =>
      refine ⟨?_, by rintro _ ⟨⟩, sound.tasks⟩
      exact List.forall_mem_append.mpr ⟨sound.stored, List.forall_mem_singleton.mpr acceptable⟩
    | clearing m u => exact (sound.unschedule m.id).hold acceptable task
    | pushing m u =>
      have asked := sound.bring rfl rfl (rfl : (Scheduler.Call.push u).task? = some u)
      simp only [Traffic.proceed]
      split
      · exact asked.hold acceptable (by rintro _ ⟨⟩)
      · exact asked.release
    | enabling m u =>
      have asked := sound.bring rfl rfl (rfl : (Scheduler.Call.register u).task? = some u)
      simp only [Traffic.proceed]
      split
      · exact asked.hold acceptable (by rintro _ ⟨⟩)
      · exact asked.release
    | disabling m => exact (sound.unschedule m.id).hold acceptable (by rintro _ ⟨⟩)
    | replacing m =>
      refine ⟨fun n member => ?_, by rintro _ ⟨⟩, sound.tasks⟩
      obtain ⟨old, was, rfl⟩ := List.mem_map.mp member
      split
      · exact acceptable
      · exact sound.stored old was

theorem Sound.miss (sound : t.Sound) : t.miss.Sound := by
  obtain ⟨s, holder, leaving⟩ := t
  cases holder with
  | none => exact sound
  | some stage =>
    obtain ⟨acceptable, task⟩ := sound.held stage rfl
    cases stage with
    | registering m u | disabling m => exact sound.hold acceptable (by rintro _ ⟨⟩)
    | clearing m u | pushing m u | enabling m u => exact sound.release
    | _ => exact sound

theorem Sound.part (sound : t.Sound) (place : Nat) : (t.part place).Sound := by
  unfold Traffic.part
  split
  next => exact sound
  next id _ =>
    have removed := sound.unschedule id
    exact ⟨removed.stored, removed.held, removed.tasks⟩
  next => exact ⟨sound.stored, sound.held, sound.tasks⟩

/-- The task is one that the call that holds the lock has already, or it is the monitor's, made
now. -/
def Makes (t : Traffic) (stage : Stage) : Prop :=
  ∀ u ∈ stage.task?, t.holder.bind Stage.task? = some u ∨ u = stage.monitor.task t.service.now

theorem makes_held {stage : Stage} (here : t.holder = some stage) : t.Makes stage := by
  intro u about
  rw [here]
  exact .inl about

theorem makes_none {stage : Stage} (none_ : stage.task? = none) : t.Makes stage := by
  intro u about
  rw [none_] at about
  cases about

theorem makes_now {stage : Stage} (task : stage.task? = some (stage.monitor.task t.service.now)) :
    t.Makes stage :=
  fun _ about => .inr (Option.some.inj (about.symm.trans task))

theorem makes_enter (t : Traffic) (call : Call) :
    ∀ stage ∈ (t.enter call).holder, t.Makes stage := by
  intro stage here
  cases call with
  | register id stamp r =>
    simp only [Traffic.enter] at here
    split at here
    · exact makes_held here
    · cases here
      exact makes_none rfl
  | modify id c =>
    simp only [Traffic.enter] at here
    split at here
    next => exact makes_held here
    next old _ =>
      cases valid : Validation.checkMonitor (old.apply t.service.stamp c) with
      | error defect =>
        simp only [valid] at here
        exact makes_held here
      | ok _ =>
        simp only [valid, Option.mem_some_iff] at here
        split at here
        · subst here
          exact makes_now rfl
        · subst here
          exact makes_none rfl
  | toggle id =>
    simp only [Traffic.enter] at here
    split at here
    next => exact makes_held here
    next old _ =>
      simp only [Option.mem_some_iff] at here
      split at here
      · subst here
        exact makes_now rfl
      · subst here
        exact makes_none rfl
  | delete id =>
    simp only [Traffic.enter] at here
    split at here <;> exact makes_held here

theorem makes_proceed (t : Traffic) : ∀ stage ∈ t.proceed.holder, t.Makes stage := by
  obtain ⟨s, holder, leaving⟩ := t
  intro stage here
  cases holder with
  | none => cases here
  | some held =>
    cases held with
    | tracking m =>
      simp only [Traffic.proceed, Option.mem_some_iff] at here
      split at here
      · subst here
        exact makes_now rfl
      · subst here
        exact makes_none rfl
    | clearing m u =>
      cases here
      exact fun v about => .inl about
    | registering m u =>
      simp only [Traffic.proceed, Option.mem_some_iff] at here
      split at here <;> (subst here; exact makes_none rfl)
    | pushing m u | enabling m u =>
      simp only [Traffic.proceed] at here
      split at here
      · cases here
        exact makes_none rfl
      · cases here
    | disabling m =>
      cases here
      exact makes_none rfl
    | untracking m | storing m | replacing m => cases here

theorem makes_miss (t : Traffic) : ∀ stage ∈ t.miss.holder, t.Makes stage := by
  obtain ⟨s, holder, leaving⟩ := t
  intro stage here
  cases holder with
  | none => cases here
  | some held =>
    cases held with
    | registering m u | disabling m =>
      cases here
      exact makes_none rfl
    | clearing m u | pushing m u | enabling m u => cases here
    | _ => exact makes_held here

theorem brings_of_foreign {queue : String} {move : Pipeline.Move} (foreign : move.Foreign queue)
    {c : Checks} {part : Vigil.Move Monitor} (about : move.scheduling? c = some part) :
    part.Brings (Checkable queue) := by
  cases move with
  | client name call =>
    cases about
    intro u brings same
    cases (foreign same).symm.trans brings
  | record | track | forget => cases about
  | _ =>
    cases about
    trivial

theorem Sound.undergo (sound : t.Sound) (c : Checks) {move : Pipeline.Move}
    (foreign : move.Foreign t.service.queue) : (t.undergo c move).Sound := by
  refine ⟨sound.stored, sound.held, ?_⟩
  have moved := Pipeline.Ledger.scheduler_step c { pipeline := t.service.pipeline } move
  simp only [Traffic.undergo, Service.scheduler] at moved ⊢
  rw [moved]
  cases about : move.scheduling? c with
  | none => exact sound.tasks
  | some part => exact sound.tasks.moved (brings_of_foreign foreign about)

end Traffic

end Service

namespace Session

/-- Nobody but the service brings a task to the queue of this name. -/
def Act.Foreign (queue : String) : Act → Prop
  | .undergo _ move => move.Foreign queue
  | _ => True

/-- Every copy of a monitor is acceptable, those that clients have under check included. -/
structure Sound (s : Session) : Prop where
  traffic : s.traffic.Sound
  checking : ∀ p ∈ s.checking, p.2.Acceptable

variable {s : Session}

theorem sound_fresh (config : Scheduler.Config) (now : Int) (capacity : Nat) (listening : Bool)
    (queue : String) : (fresh config now capacity listening queue).Sound where
  traffic :=
    { stored := List.forall_mem_nil _
      held := by rintro _ ⟨⟩
      tasks := ⟨_, .fresh config now, Chronicle.bears_fresh _ config now, rfl⟩ }
  checking := List.forall_mem_nil _

theorem take_checking (s : Session) : s.take.checking = s.checking := by
  unfold take
  split <;> rfl

theorem hear_checking (s : Session) : s.hear.checking = s.checking := by
  unfold hear
  generalize (s.channel.takeWhile (·.1)).length + 1 = n
  induction n generalizing s with
  | zero => rfl
  | succ n ih => exact (ih s.take).trans s.take_checking

theorem Sound.trigger (sound : s.Sound) (id : MonitorId) : (s.trigger id).Sound := by
  unfold Session.trigger
  split
  next m _ stored =>
    refine ⟨sound.traffic, List.forall_mem_append.mpr ⟨sound.checking, ?_⟩⟩
    exact List.forall_mem_singleton.mpr (sound.traffic.found stored)
  next => exact sound

theorem answer_checking (s : Session) (place threshold : Nat) (a : Answer) :
    ∀ p ∈ (s.answer place threshold a).checking, p ∈ s.checking := by
  unfold answer
  split
  next => exact fun _ member => member
  next =>
    split
    next => exact fun _ member => List.mem_of_mem_eraseIdx member
    next => exact fun _ member => List.mem_of_mem_eraseIdx member

theorem Sound.perform (sound : s.Sound) {act : Act} (foreign : act.Foreign s.service.queue) :
    (s.perform act).Sound := by
  cases act with
  | enter call =>
    simp only [Session.perform]
    split
    · exact ⟨sound.traffic.enter call, sound.checking⟩
    · exact sound
  | proceed => exact ⟨sound.traffic.proceed, sound.checking⟩
  | miss => exact ⟨sound.traffic.miss, sound.checking⟩
  | part place => exact ⟨sound.traffic.part place, sound.checking⟩
  | undergo c move =>
    simp only [Session.perform, Session.undergo]
    split
    · exact sound
    · exact ⟨sound.traffic.undergo c foreign, sound.checking⟩
  | hear => exact ⟨sound.traffic.of_bare s.bare_hear, s.hear_checking.symm ▸ sound.checking⟩
  | trigger id => exact sound.trigger id
  | answer place threshold a =>
    refine ⟨sound.traffic.of_bare (s.bare_answer place threshold a), fun p member => ?_⟩
    exact sound.checking p (s.answer_checking place threshold a p member)
  | hearAsked =>
    simp only [Session.perform]
    split
    · exact ⟨sound.traffic.of_bare s.bare_take, s.take_checking.symm ▸ sound.checking⟩
    · exact sound

theorem Sound.step (sound : s.Sound) {act : Act} (foreign : act.Foreign s.service.queue) :
    (s.step act).Sound :=
  step_induction sound (sound.perform foreign)

theorem Sound.run (sound : s.Sound) {acts : List Act}
    (foreign : ∀ act ∈ acts, act.Foreign s.service.queue) : (s.run acts).Sound := by
  induction acts generalizing s with
  | nil => exact sound
  | cons act rest ih =>
    obtain ⟨first, others⟩ := List.forall_mem_cons.mp foreign
    exact ih (sound.step first) (by rwa [step_queue])

/-- Whatever is done next, a task that is made for it is made now. -/
theorem makes_step (s : Session) (act : Act) :
    ∀ stage ∈ (s.step act).traffic.holder, s.traffic.Makes stage := by
  have of_bare {t : Service.Traffic} (same : t.bare = s.traffic.bare) :
      ∀ stage ∈ t.holder, s.traffic.Makes stage := by
    intro stage here
    have holder : t.holder = s.traffic.holder := congrArg (·.holder) same
    exact Service.Traffic.makes_held (holder ▸ here)
  have still : ∀ stage ∈ s.traffic.holder, s.traffic.Makes stage := of_bare rfl
  refine step_induction (motive := fun s' => ∀ stage ∈ s'.traffic.holder, s.traffic.Makes stage)
    still ?_
  cases act with
  | enter call =>
    simp only [perform]
    split
    · exact s.traffic.makes_enter call
    · exact still
  | proceed => exact s.traffic.makes_proceed
  | miss => exact s.traffic.makes_miss
  | part place =>
    have holder : (s.traffic.part place).holder = s.traffic.holder := by
      unfold Service.Traffic.part
      split <;> rfl
    exact holder.symm ▸ still
  | undergo c move =>
    simp only [perform, undergo]
    split <;> exact still
  | hear => exact of_bare s.bare_hear
  | trigger id => exact of_bare (s.bare_trigger id)
  | answer place threshold a => exact of_bare (s.bare_answer place threshold a)
  | hearAsked =>
    simp only [perform]
    split
    · exact of_bare s.bare_take
    · exact still

theorem run_queue (s : Session) (acts : List Act) :
    (s.run acts).service.queue = s.service.queue := by
  induction acts generalizing s with
  | nil => rfl
  | cons act rest ih => exact (ih (s.step act)).trans (s.step_queue act)

/-! ### Seeds -/

/-- A registration that nothing comes between. -/
def registering (id : MonitorId) (stamp : Nat) (r : Request) : List Act :=
  [.enter (.register id stamp r), .proceed, .proceed, .proceed]

theorem foreign_registering (queue : String) (id : MonitorId) (stamp : Nat) (r : Request) :
    ∀ act ∈ registering id stamp r, act.Foreign queue := by
  simp [registering, Act.Foreign]

theorem run_registering (s : Session) (free : s.traffic.holder = none) (id : MonitorId)
    (r : Request) :
    (s.run (registering id s.service.stamp r)).traffic =
      { s.traffic with service := (s.service.register id r).1 } := by
  refine Eq.trans ?_ (Service.Traffic.register_alone free id r)
  simp only [run, registering, List.foldl_cons, List.foldl_nil, step, hasRoom, sends, perform, free,
    Option.isNone_none, ↓reduceIte]
  rfl

/-- To load seeds is to register them in turn. -/
theorem exists_acts_registerAll (supply : Nat → MonitorId) (seeds : List Request) (s : Session)
    (free : s.traffic.holder = none) :
    ∃ acts, (∀ queue, ∀ act ∈ acts, act.Foreign queue) ∧
      (s.run acts).traffic =
        { s.traffic with service := (Orchestrator.registerAll supply s.service seeds).1 } := by
  induction seeds generalizing s with
  | nil => exact ⟨[], fun _ => List.forall_mem_nil _, rfl⟩
  | cons r rest ih =>
    let id := supply s.service.stamp
    let first := registering id s.service.stamp r
    have registered : (s.run first).traffic = _ := run_registering s free id r
    obtain ⟨acts, foreign, loaded⟩ := ih (s.run first) (by rw [registered]; exact free)
    refine ⟨first ++ acts, fun queue => ?_, ?_⟩
    · exact List.forall_mem_append.mpr ⟨foreign_registering queue _ _ _, foreign queue⟩
    · have appended : s.run (first ++ acts) = (s.run first).run acts := List.foldl_append
      rw [appended, loaded]
      simp only [service, registered]
      rfl

/-- For all sessions in which nobody else brings tasks to the service's queue. Every monitor that is
stored, that a call is about to store, or that a client has under check is acceptable; every task of
the queue and every one that is executing, be its queue still there or not, checks an acceptable
monitor at the monitor's own interval. So while the clock has a day left, an execution that ends
finds a next due time, and whatever is done next, a task that is made for it is the first one of its
monitor. To load seeds is nothing but such a session. -/
theorem run_acceptable (config : Scheduler.Config) (now : Int) (capacity : Nat) (listening : Bool)
    (queue : String) (acts : List Act) (foreign : ∀ act ∈ acts, act.Foreign queue) :
    let s := (fresh config now capacity listening queue).run acts
    (∀ m ∈ s.service.monitors, m.Acceptable) ∧
    (∀ stage ∈ s.traffic.holder, stage.monitor.Acceptable) ∧
    (∀ p ∈ s.checking, p.2.Acceptable) ∧
    (∀ q, s.service.scheduler.queue? queue = some q → ∀ id t, q.find? id = some t → t.Fit) ∧
    (∀ k t, (queue, k, t) ∈ s.service.scheduler.duties → t.Fit) ∧
    (Instant.Ahead s.service.now →
      (∀ k t, (queue, k, t) ∈ s.service.scheduler.duties → (t.nextRun? s.service.now).isSome) ∧
      ∀ act, act.Foreign queue → ∀ stage ∈ (s.step act).traffic.holder, ∀ u ∈ stage.task?,
        s.traffic.holder.bind Service.Stage.task? = some u ∨
          Task.first? stage.monitor.taskId stage.monitor.period stage.monitor s.service.now
            stage.monitor.checkType.executor = some u) ∧
    ∀ supply seeds, s.traffic.holder = none → ∃ more, (∀ act ∈ more, act.Foreign queue) ∧
      (s.run more).traffic =
        { s.traffic with service := (Orchestrator.registerAll supply s.service seeds).1 } := by
  intro s
  have named : s.service.queue = queue := run_queue ..
  have sound : s.Sound := (sound_fresh config now capacity listening queue).run foreign
  have tasks : s.service.scheduler.Arises (Service.Checkable queue) := named ▸ sound.traffic.tasks
  have executing : ∀ k t, (queue, k, t) ∈ s.service.scheduler.duties → t.Fit :=
    fun k t owes => (tasks.executing owes).fit
  refine ⟨sound.traffic.stored, fun stage here => (sound.traffic.held stage here).1,
    sound.checking, ?_, executing, ?_, ?_⟩
  · exact fun q here id t found => (tasks.queued here found).fit
  · intro ahead
    refine ⟨fun k t owes => (executing k t owes).nextRun? ahead, ?_⟩
    intro act harmless stage here u about
    refine (s.makes_step act stage here u about).imp_right ?_
    rintro rfl
    have next : (s.step act).Sound := sound.step (named.symm ▸ harmless)
    exact (next.traffic.held stage here).1.first? ahead
  · intro supply seeds free
    obtain ⟨more, harmless, loaded⟩ := exists_acts_registerAll supply seeds s free
    exact ⟨more, harmless queue, loaded⟩

/-- A monitor is given another target and another interval while its check is executing. -/
def modifiedWhileExecuting : List Act :=
  let c := Pipeline.Ledger.slow
  let r : Request := { name := "site", checkType := .tcp, target := "localhost:80", interval := 10 }
  let changes : Changes := { target := some "localhost:81", interval := some 20 }
  [.undergo c (.client "health" .addQueue), .undergo c (.work 0)] ++ registering ⟨1⟩ 0 r ++
    [.undergo c (.wait (Duration.ofSeconds 10)), .undergo c (.work 0), .undergo c (.work 0),
      .enter (.modify ⟨1⟩ changes), .proceed, .proceed, .proceed]

theorem foreign_modifiedWhileExecuting : ∀ act ∈ modifiedWhileExecuting, act.Foreign "health" := by
  simp [modifiedWhileExecuting, registering, Act.Foreign, Pipeline.Move.Foreign,
    Scheduler.Call.task?]

/-- Both copies are fit: the one that is executing and the one that is queued. -/
theorem executing_and_queued_fit :
    let s := (fresh {} 0 3 true "health").run modifiedWhileExecuting
    (∃ k t, ("health", k, t) ∈ s.service.scheduler.duties ∧ t.work.target = "localhost:80" ∧ t.Fit ∧
      (t.nextRun? s.service.now).isSome) ∧
      ∃ q t, s.service.scheduler.queue? "health" = some q ∧
        q.find? (MonitorId.text ⟨1⟩) = some t ∧ t.work.target = "localhost:81" ∧ t.Fit := by
  intro s
  obtain ⟨-, -, -, queued, executing, ahead, -⟩ :=
    run_acceptable {} 0 3 true "health" modifiedWhileExecuting foreign_modifiedWhileExecuting
  have under : s.service.scheduler.duties.map (fun d => (d.1, d.2.2.work.target)) =
      [("health", "localhost:80")] := by decide +kernel
  have waits : ((s.service.scheduler.queue? "health").bind (·.find? (MonitorId.text ⟨1⟩))).map
      (·.work.target) = some "localhost:81" := by decide +kernel
  obtain ⟨⟨name, k, t⟩, duties, kind⟩ := List.map_eq_singleton_iff.mp under
  obtain ⟨rfl, old⟩ := Prod.mk.inj kind
  have owes : ("health", k, t) ∈ s.service.scheduler.duties := duties ▸ List.mem_singleton_self _
  obtain ⟨u, found, new⟩ := Option.map_eq_some_iff.mp waits
  obtain ⟨q, here, there⟩ := Option.bind_eq_some_iff.mp found
  have soon : Instant.Ahead s.service.now := by
    unfold Instant.Ahead
    decide +kernel
  exact ⟨⟨k, t, owes, old, executing k t owes, (ahead soon).1 k t owes⟩,
    q, u, here, there, new, queued q here _ u there⟩

end Session

end Vigil
