import Vigil.Proofs.Check
import Vigil.Proofs.Recorder.History
import Vigil.Proofs.Scheduler.Script
import Vigil.Proofs.Service.Journal

/-!
# Sessions: calls, the schedule, and checks that clients trigger

A session is what happens at a service: its calls in their steps, the moves of its scheduler, the
recorder that takes one result after the other, and clients that have monitors checked. Beside the
state stands what came of it: what happened and when, what the recorder was told, and what clients
were told. Of every result it is noted whether a client asked for it.

The channel to the recorder has room for a number of results and never holds more
(`run_channel_le`). Who has one more to send waits until the recorder takes some, be it an execution
or a client.
-/
namespace Vigil

open Pipeline (Checks)

namespace Pipeline.Ledger

/-- What a move of the scheduler does to an open channel. -/
theorem step_inbox (c : Checks) (l : Ledger) {move : Pipeline.Move} {part : Vigil.Move Monitor}
    (about : move.scheduling? c = some part) (open_ : l.pipeline.inbox.isOpen = true) :
    (l.step c move).pipeline.inbox =
      { l.pipeline.inbox with
        waiting := l.pipeline.inbox.waiting ++
          (Chronicle.emits { scheduler := l.pipeline.scheduler } part).filterMap (verdict c) } := by
  have silent : ∀ notices : List Vigil.Notice,
      (notices.map Vigil.Event.notice).filterMap (verdict c) = [] := by
    intro notices
    simp [List.filterMap_map, Function.comp_def, verdict]
  cases move with
  | client name call =>
    cases about
    simp only [Chronicle.emits, silent, List.append_nil]
    rfl
  | shutdown =>
    cases about
    simp only [Chronicle.emits, silent, List.append_nil]
    rfl
  | cancel | wait =>
    cases about
    simp only [Chronicle.emits, List.filterMap_nil, List.append_nil]
    rfl
  | take name =>
    cases about
    simp only [Chronicle.emits, step]
    cases l.pipeline.scheduler.takeOne? name with
    | none => simp
    | some taken =>
      have dispatching := silent [.dispatching name taken.2.id]
      rw [List.map_singleton] at dispatching
      simp only [dispatching, List.append_nil]
      rfl
  | work place =>
    cases about
    simp only [Chronicle.emits, step]
    cases l.pipeline.scheduler.ready[place]? with
    | none => simp
    | some job =>
      refine (observe_inbox _ _ ?_ _).trans rfl
      exact open_
  | record | track | forget => cases about

end Pipeline.Ledger

namespace Service

/-! ### What does not depend on results -/

/-- A service without its recorder and the results on their way there. -/
def bare (s : Service) : Service :=
  { s with
    pipeline := { scheduler := s.pipeline.scheduler, inbox := { recorder := .ofCapacity 0 } } }

theorem bare_report (s : Service) (r : CheckResult) : (s.report r).bare = s.bare := by
  simp only [bare, report, Pipeline.send_scheduler]

theorem bare_hear (s : Service) : s.hear.bare = s.bare := by
  unfold hear
  split <;> rfl

/-- What the next step of the call that holds the lock tells the recorder. -/
def Stage.tells : Stage → List Recorder.Call
  | .tracking m => [.track m.id]
  | .untracking m => [.forget m.id]
  | _ => []

def Parting.tells : Parting → List Recorder.Call
  | .unscheduling _ => []
  | .forgetting id => [.forget id]

namespace Traffic

def bare (t : Traffic) : Traffic := { t with service := t.service.bare }

/-- What the next step tells the recorder. -/
def tells (t : Traffic) : List Recorder.Call := t.holder.elim [] Stage.tells

def partTells (t : Traffic) (place : Nat) : List Recorder.Call :=
  t.leaving[place]?.elim [] Parting.tells

theorem bare_enter (t : Traffic) (call : Call) :
    (t.enter call).bare = (t.bare.enter call).bare := by
  cases call with
  | register id stamp r =>
    simp only [enter]
    split <;> rfl
  | modify id c =>
    have same : t.bare.service.find? id = t.service.find? id := rfl
    have stamp : t.bare.service.stamp = t.service.stamp := rfl
    simp only [enter, same, stamp]
    split
    next => rfl
    next old _ => cases Validation.checkMonitor (old.apply t.service.stamp c) <;> rfl
  | toggle id | delete id =>
    have same : t.bare.service.find? id = t.service.find? id := rfl
    simp only [enter, same]
    split <;> rfl

theorem bare_proceed (t : Traffic) : t.proceed.bare = t.bare.proceed.bare := by
  obtain ⟨s, holder, leaving⟩ := t
  cases holder with
  | none => rfl
  | some stage => cases stage <;> rfl

theorem bare_miss (t : Traffic) : t.miss.bare = t.bare.miss.bare := by
  obtain ⟨s, holder, leaving⟩ := t
  cases holder with
  | none => rfl
  | some stage => cases stage <;> rfl

theorem bare_part (t : Traffic) (place : Nat) : (t.part place).bare = (t.bare.part place).bare := by
  have same : t.bare.leaving = t.leaving := rfl
  simp only [part, same]
  cases t.leaving[place]? with
  | none => rfl
  | some parting => cases parting <;> rfl

theorem bare_undergo (c : Checks) (t : Traffic) (move : Pipeline.Move) :
    (t.undergo c move).bare = (t.bare.undergo c move).bare := by
  simp only [bare, Service.bare, undergo, Pipeline.Ledger.scheduler_step]

/-- A call that takes the lock touches the monitors at most. -/
theorem enter_service (t : Traffic) (call : Call) :
    (t.enter call).service.pipeline = t.service.pipeline ∧
      (t.enter call).service.queue = t.service.queue := by
  cases call with
  | register id stamp r =>
    simp only [enter]
    split <;> exact ⟨rfl, rfl⟩
  | modify id c =>
    simp only [enter]
    split
    next => exact ⟨rfl, rfl⟩
    next old _ =>
      cases Validation.checkMonitor (old.apply t.service.stamp c) <;> exact ⟨rfl, rfl⟩
  | toggle id | delete id =>
    simp only [enter]
    split <;> exact ⟨rfl, rfl⟩

theorem proceed_inbox (t : Traffic) :
    t.proceed.service.pipeline.inbox =
      { t.service.pipeline.inbox with recorder := t.service.recorder.run t.tells } := by
  obtain ⟨s, holder, leaving⟩ := t
  cases holder with
  | none => rfl
  | some stage => cases stage <;> rfl

theorem part_inbox (t : Traffic) (place : Nat) :
    (t.part place).service.pipeline.inbox =
      { t.service.pipeline.inbox with
        recorder := t.service.recorder.run (t.partTells place) } := by
  simp only [part, partTells]
  cases t.leaving[place]? with
  | none => rfl
  | some parting => cases parting <;> rfl

theorem proceed_queue (t : Traffic) : t.proceed.service.queue = t.service.queue := by
  obtain ⟨s, holder, leaving⟩ := t
  cases holder with
  | none => rfl
  | some stage => cases stage <;> rfl

theorem part_queue (t : Traffic) (place : Nat) :
    (t.part place).service.queue = t.service.queue := by
  unfold part
  split <;> rfl

end Traffic

end Service

/-! ### Sessions -/

/-- What a recorder is told: a result that a client asked for, or anything else. -/
inductive Told where
  | plain (call : Recorder.Call)
  | asked (r : CheckResult)

namespace Told

def call : Told → Recorder.Call
  | plain call => call
  | asked r => .record r

def isAsked : Told → Bool
  | plain _ => false
  | asked _ => true

def asked? : Told → Option CheckResult
  | plain _ => none
  | asked r => some r

/-- What is told of a result that came through the channel. -/
def ofResult : Bool × CheckResult → Told
  | (true, r) => .asked r
  | (false, r) => .plain (.record r)

end Told

structure Session where
  traffic : Service.Traffic
  /-- The monitors that clients have under check, as they were found, with the ids they were asked
  for by. -/
  checking : List (MonitorId × Monitor) := []
  /-- The results that wait for the recorder, and whether a client asked for them. -/
  channel : List (Bool × CheckResult) := []
  /-- What the recorder was told, the oldest first. -/
  told : List Told := []
  /-- The results that clients were given, with the ids they were asked for by. -/
  answers : List (MonitorId × CheckResult) := []
  /-- What the scheduler did, with the times. -/
  events : List (Int × Event Monitor) := []

namespace Session

/-- One thing that can happen in a session. -/
inductive Act where
  /-- A call takes the lock, if it is free. -/
  | enter (call : Service.Call)
  | proceed
  | miss
  | part (place : Nat)
  /-- The scheduler moves; probes go as the checks say. -/
  | undergo (c : Checks) (move : Pipeline.Move)
  /-- The recorder takes results until it has one that nobody asked for. -/
  | hear
  /-- A client triggers a check; the monitor is looked up while nobody holds the lock. -/
  | trigger (id : MonitorId)
  /-- The probe that was triggered in this place is answered. -/
  | answer (place : Nat) (threshold : Nat) (a : Answer)
  /-- The recorder takes the next result, if a client asked for it. -/
  | hearAsked

/-- Whether this has nothing to do with triggered checks. -/
def Act.isPlain : Act → Bool
  | .trigger _ | .answer .. | .hearAsked => false
  | _ => true

/-- Whether this has to do with triggered checks or with results on their way to the recorder. -/
def Act.concernsResults : Act → Bool
  | .trigger _ | .answer .. | .hear | .hearAsked => true
  | _ => false

def service (s : Session) : Service := s.traffic.service

/-- The recorder takes the next result. -/
def take (s : Session) : Session :=
  match s.channel with
  | [] => s
  | result :: rest =>
    { s with
      traffic := { s.traffic with service := s.service.hear }
      channel := rest
      told := s.told ++ [.ofResult result] }

def hear (s : Session) : Session := take^[(s.channel.takeWhile (·.1)).length + 1] s

/-- The scheduler moves, if that is what the move is. -/
def undergo (s : Session) (c : Checks) (move : Pipeline.Move) : Session :=
  match move.scheduling? c with
  | none => s
  | some part =>
    let events := Chronicle.emits { scheduler := s.service.scheduler } part
    { s with
      traffic := s.traffic.undergo c move
      channel := s.channel ++ (events.filterMap (Pipeline.Ledger.verdict c)).map (false, ·)
      events := s.events ++ events.map (s.service.now, ·) }

def trigger (s : Session) (id : MonitorId) : Session :=
  match s.traffic.holder, s.service.find? id with
  | none, some m => { s with checking := s.checking ++ [(id, m)] }
  | _, _ => s

def answer (s : Session) (place threshold : Nat) (a : Answer) : Session :=
  match s.checking[place]? with
  | none => s
  | some (id, m) =>
    let left := { s with checking := s.checking.eraseIdx place }
    match Check.judge threshold m a with
    | none => left
    | some r =>
      { left with
        traffic := { s.traffic with service := s.service.report r }
        channel := s.channel ++ [(true, r)]
        answers := s.answers ++ [(id, r)] }

/-- Do an act, if there is room for what it sends. -/
def perform (s : Session) : Act → Session
  | .enter call =>
    if s.traffic.holder.isNone then { s with traffic := s.traffic.enter call } else s
  | .proceed =>
    { s with traffic := s.traffic.proceed, told := s.told ++ s.traffic.tells.map .plain }
  | .miss => { s with traffic := s.traffic.miss }
  | .part place =>
    { s with
      traffic := s.traffic.part place
      told := s.told ++ (s.traffic.partTells place).map .plain }
  | .undergo c move => s.undergo c move
  | .hear => s.hear
  | .trigger id => s.trigger id
  | .answer place threshold a => s.answer place threshold a
  | .hearAsked => if s.channel.head?.any (·.1) then s.take else s

/-- The results that an act sends. -/
def sends (s : Session) : Act → List CheckResult
  | .undergo c move =>
    match move.scheduling? c with
    | none => []
    | some part =>
      (Chronicle.emits { scheduler := s.service.scheduler } part).filterMap
        (Pipeline.Ledger.verdict c)
  | .answer place threshold a =>
    match s.checking[place]? with
    | none => []
    | some (_, m) => (Check.judge threshold m a).toList
  | _ => []

/-- Whether the channel takes what an act sends. An act that sends nothing does not mind. -/
def hasRoom (s : Session) (act : Act) : Bool :=
  match s.sends act with
  | [] => true
  | results => s.channel.length + results.length ≤ Inbox.capacity

/-- Who finds no room waits, and nothing is changed meanwhile: a check that has to wait is one that
takes longer. -/
def step (s : Session) (act : Act) : Session := if s.hasRoom act then s.perform act else s

def run (s : Session) (acts : List Act) : Session := acts.foldl step s

/-- Nobody ever has to wait for room in the channel. -/
def roomy (s : Session) : List Act → Bool
  | [] => true
  | act :: rest => s.hasRoom act && (s.step act).roomy rest

theorem step_induction {motive : Session → Prop} {s : Session} {act : Act} (waits : motive s)
    (does : motive (s.perform act)) : motive (s.step act) := by
  unfold step
  split
  · exact does
  · exact waits

theorem run_of_roomy {s : Session} {acts : List Act} (roomy : s.roomy acts = true) :
    s.run acts = acts.foldl perform s := by
  induction acts generalizing s with
  | nil => rfl
  | cons act rest ih =>
    obtain ⟨room, others⟩ := Bool.and_eq_true_iff.mp roomy
    have done : s.step act = s.perform act := if_pos room
    exact (ih others).trans (congrArg (rest.foldl perform ·) done)

/-- A session with a new service over a new scheduler. -/
def fresh (config : Scheduler.Config) (now : Int) (capacity : Nat) (listening : Bool)
    (queue : String) : Session where
  traffic :=
    { service :=
      { pipeline :=
          { scheduler := { config, now }
            inbox := { recorder := .ofCapacity capacity, listening } }
        queue } }

/-- A check that nothing comes between is what the service's own function does. -/
theorem trigger_alone (s : Session) (free : s.traffic.holder = none) (id : MonitorId)
    (threshold : Nat) (probe : Monitor → Answer) {m : Monitor}
    (stored : s.service.find? id = some m) :
    ((s.trigger id).answer s.checking.length threshold (probe m)).traffic =
        { s.traffic with service := (s.service.trigger id threshold probe).1 } ∧
      (s.service.trigger id threshold probe).2 = .ok (Check.judge threshold m (probe m)) := by
  obtain ⟨⟨service, holder, leaving⟩, checking, channel, told, answers, events⟩ := s
  cases free
  simp only [Session.service] at stored
  simp only [trigger, Session.service, stored, answer, Service.trigger,
    List.getElem?_concat_length]
  cases Check.judge threshold m (probe m) <;> exact ⟨rfl, rfl⟩

/-! ### Bookkeeping -/

/-- What the lists of a session say about its state. -/
structure Kept (capacity : Nat) (s : Session) : Prop where
  open_ : s.service.pipeline.inbox.isOpen = true
  waiting : s.service.pipeline.inbox.waiting = s.channel.map Prod.snd
  recorder : s.service.recorder = (Recorder.ofCapacity capacity).run (s.told.map Told.call)
  answers : s.told.filterMap Told.asked? ++ (s.channel.filter (·.1)).map Prod.snd =
    s.answers.map Prod.snd
  checking : ∀ p ∈ s.checking, p.2.id = p.1
  named : ∀ p ∈ s.answers, p.2.monitor = p.1

variable {capacity : Nat} {s : Session}

theorem kept_fresh (config : Scheduler.Config) (now : Int) (capacity : Nat) (listening : Bool)
    (queue : String) : (fresh config now capacity listening queue).Kept capacity :=
  ⟨rfl, rfl, rfl, rfl, List.forall_mem_nil _, List.forall_mem_nil _⟩

/-- A step of a call tells the recorder something, and leaves the channel alone. -/
theorem Kept.tell (kept : s.Kept capacity) {t : Service.Traffic} {calls : List Recorder.Call}
    (inbox : t.service.pipeline.inbox =
      { s.service.pipeline.inbox with recorder := s.service.recorder.run calls }) :
    Kept capacity { s with traffic := t, told := s.told ++ calls.map .plain } where
  open_ := (congrArg Inbox.isOpen inbox).trans kept.open_
  waiting := (congrArg Inbox.waiting inbox).trans kept.waiting
  recorder := by
    have same : t.service.recorder = s.service.recorder.run calls := congrArg Inbox.recorder inbox
    simp only [service] at same kept ⊢
    rw [same, show s.traffic.service.recorder = _ from kept.recorder]
    simp [Recorder.run, Function.comp_def, Told.call]
  answers := by
    have none_ : (calls.map Told.plain).filterMap Told.asked? = [] := by
      simp [List.filterMap_map, Function.comp_def, Told.asked?]
    rw [List.filterMap_append, none_, List.append_nil]
    exact kept.answers
  checking := kept.checking
  named := kept.named

theorem Kept.take (kept : s.Kept capacity) : s.take.Kept capacity := by
  unfold Session.take
  split
  next => exact kept
  next result rest waits =>
    have waiting : s.service.pipeline.inbox.waiting = result.2 :: rest.map Prod.snd := by
      rw [kept.waiting, waits, List.map_cons]
    have heard : s.service.hear.pipeline.inbox =
        { s.service.pipeline.inbox with
          recorder := (s.service.recorder.record result.2).1
          waiting := rest.map Prod.snd } := by
      simp only [Service.hear, waiting]
    have call : (Told.ofResult result).call = .record result.2 := by
      obtain ⟨_ | _, r⟩ := result <;> rfl
    refine ⟨(congrArg Inbox.isOpen heard).trans kept.open_, congrArg Inbox.waiting heard, ?_, ?_,
      kept.checking, kept.named⟩
    · have told : s.service.hear.recorder = (s.service.recorder.record result.2).1 :=
        congrArg Inbox.recorder heard
      simp only [service] at told ⊢
      rw [told, show s.traffic.service.recorder = _ from kept.recorder, List.map_append,
        List.map_singleton, call, Recorder.run_concat]
      rfl
    · rw [← kept.answers, waits]
      obtain ⟨_ | _, r⟩ := result <;> simp [Told.ofResult, Told.asked?]

theorem Kept.hear (kept : s.Kept capacity) : s.hear.Kept capacity := by
  unfold Session.hear
  generalize (s.channel.takeWhile (·.1)).length + 1 = n
  induction n generalizing s with
  | zero => exact kept
  | succ n ih => exact ih kept.take

theorem Kept.undergo (kept : s.Kept capacity) (c : Checks) (move : Pipeline.Move) :
    (s.undergo c move).Kept capacity := by
  unfold Session.undergo
  split
  next => exact kept
  next part about =>
    have inbox := Pipeline.Ledger.step_inbox c { pipeline := s.service.pipeline } about kept.open_
    refine ⟨(congrArg Inbox.isOpen inbox).trans kept.open_, (congrArg Inbox.waiting inbox).trans ?_,
      (congrArg Inbox.recorder inbox).trans kept.recorder, ?_, kept.checking, kept.named⟩
    · rw [kept.waiting, List.map_append, List.map_map]
      simp only [Function.comp_def, List.map_id']
      rfl
    · rw [List.filter_append, List.filter_map]
      simpa [Function.comp_def] using kept.answers

theorem Kept.trigger (kept : s.Kept capacity) (id : MonitorId) :
    (s.trigger id).Kept capacity := by
  unfold Session.trigger
  split
  next m _ found =>
    have named : m.id = id := by simpa using List.find?_some found
    refine ⟨kept.open_, kept.waiting, kept.recorder, kept.answers, ?_, kept.named⟩
    exact List.forall_mem_append.mpr ⟨kept.checking, List.forall_mem_singleton.mpr named⟩
  next => exact kept

theorem Kept.answer (kept : s.Kept capacity) (place threshold : Nat) (a : Answer) :
    (s.answer place threshold a).Kept capacity := by
  have left : ∀ p ∈ s.checking.eraseIdx place, p.2.id = p.1 :=
    fun p member => kept.checking p (List.mem_of_mem_eraseIdx member)
  unfold Session.answer
  split
  next => exact kept
  next id m found =>
    dsimp only
    split
    next => exact ⟨kept.open_, kept.waiting, kept.recorder, kept.answers, left, kept.named⟩
    next r judged =>
      have sent : (s.service.report r).pipeline.inbox =
          { s.service.pipeline.inbox with
            waiting := s.service.pipeline.inbox.waiting ++ [r] } := by
        simp [Service.report, Pipeline.send, Inbox.send?, kept.open_]
      have named : r.monitor = id :=
        (Check.judge_describes judged).monitor.trans
          (kept.checking _ (List.mem_of_getElem? found))
      refine ⟨(congrArg Inbox.isOpen sent).trans kept.open_,
        (congrArg Inbox.waiting sent).trans ?_, (congrArg Inbox.recorder sent).trans kept.recorder,
        ?_, left, List.forall_mem_append.mpr ⟨kept.named, List.forall_mem_singleton.mpr named⟩⟩
      · rw [kept.waiting, List.map_append, List.map_singleton]
      · rw [List.filter_append, List.map_append, List.map_append, ← List.append_assoc, kept.answers]
        rfl

theorem Kept.perform (kept : s.Kept capacity) (act : Act) : (s.perform act).Kept capacity := by
  cases act with
  | enter call =>
    simp only [Session.perform]
    split
    next =>
      have same := congrArg Pipeline.inbox (s.traffic.enter_service call).1
      exact ⟨(congrArg Inbox.isOpen same).trans kept.open_,
        (congrArg Inbox.waiting same).trans kept.waiting,
        (congrArg Inbox.recorder same).trans kept.recorder, kept.answers, kept.checking, kept.named⟩
    next => exact kept
  | proceed => exact kept.tell s.traffic.proceed_inbox
  | miss =>
    have same := congrArg (fun t => t.pipeline.inbox) s.traffic.miss_service
    exact ⟨(congrArg Inbox.isOpen same).trans kept.open_,
      (congrArg Inbox.waiting same).trans kept.waiting,
      (congrArg Inbox.recorder same).trans kept.recorder, kept.answers, kept.checking, kept.named⟩
  | part place => exact kept.tell (s.traffic.part_inbox place)
  | undergo c move => exact kept.undergo c move
  | hear => exact kept.hear
  | trigger id => exact kept.trigger id
  | answer place threshold a => exact kept.answer place threshold a
  | hearAsked =>
    simp only [Session.perform]
    split
    · exact kept.take
    · exact kept

theorem Kept.step (kept : s.Kept capacity) (act : Act) : (s.step act).Kept capacity :=
  step_induction kept (kept.perform act)

theorem Kept.run (kept : s.Kept capacity) (acts : List Act) : (s.run acts).Kept capacity := by
  induction acts generalizing s with
  | nil => exact kept
  | cons act rest ih => exact ih (kept.step act)

/-! ### Room in the channel -/

theorem take_channel (s : Session) : s.take.channel = s.channel.drop 1 := by
  unfold take
  split
  next none_ => rw [none_, List.drop_nil]
  next result rest waits => rw [waits, List.drop_succ_cons, List.drop_zero]

theorem hear_channel_le (s : Session) : s.hear.channel.length ≤ s.channel.length := by
  unfold hear
  generalize (s.channel.takeWhile (·.1)).length + 1 = n
  induction n generalizing s with
  | zero => exact Nat.le_refl _
  | succ n ih =>
    have first : s.take.channel.length ≤ s.channel.length := by
      rw [take_channel, List.length_drop]
      exact Nat.sub_le ..
    exact Nat.le_trans (ih s.take) first

theorem perform_channel_le (s : Session) (act : Act) :
    (s.perform act).channel.length ≤ s.channel.length + (s.sends act).length := by
  cases act with
  | enter call =>
    simp only [perform]
    split <;> exact Nat.le_refl _
  | proceed | miss | part => exact Nat.le_refl _
  | undergo c move =>
    simp only [perform, undergo, sends]
    split
    · exact Nat.le_refl _
    · simp
  | hear => exact s.hear_channel_le
  | trigger id =>
    simp only [perform, trigger]
    split <;> exact Nat.le_refl _
  | answer place threshold a =>
    simp only [perform, answer, sends]
    cases s.checking[place]? with
    | none => exact Nat.le_refl _
    | some asked =>
      simp only
      cases Check.judge threshold asked.2 a <;> simp
  | hearAsked =>
    simp only [perform]
    split
    · rw [take_channel, List.length_drop]
      exact Nat.le_trans (Nat.sub_le ..) (Nat.le_add_right ..)
    · exact Nat.le_refl _

theorem hasRoom_iff (s : Session) (act : Act) :
    s.hasRoom act = true ↔
      s.sends act = [] ∨ s.channel.length + (s.sends act).length ≤ Inbox.capacity := by
  unfold hasRoom
  cases s.sends act <;> simp

theorem step_channel_le (s : Session) (act : Act) (fits : s.channel.length ≤ Inbox.capacity) :
    (s.step act).channel.length ≤ Inbox.capacity := by
  unfold Session.step
  split
  next room =>
    have grown := s.perform_channel_le act
    rcases (s.hasRoom_iff act).mp room with silent | enough
    · rw [silent, List.length_nil] at grown
      exact Nat.le_trans grown fits
    · exact Nat.le_trans grown enough
  next => exact fits

/-- No more results wait than there is room for. -/
theorem run_channel_le {s : Session} (fits : s.channel.length ≤ Inbox.capacity) (acts : List Act) :
    (s.run acts).channel.length ≤ Inbox.capacity := by
  induction acts generalizing s with
  | nil => exact fits
  | cons act rest ih => exact ih (s.step_channel_le act fits)

/-! Results are of no consequence to calls. -/

theorem bare_take (s : Session) : s.take.traffic.bare = s.traffic.bare := by
  unfold take
  split
  next => rfl
  next => simp only [Service.Traffic.bare, service, Service.bare_hear]

theorem bare_hear (s : Session) : s.hear.traffic.bare = s.traffic.bare := by
  unfold hear
  generalize (s.channel.takeWhile (·.1)).length + 1 = n
  induction n generalizing s with
  | zero => rfl
  | succ n ih => exact (ih s.take).trans s.bare_take

theorem bare_trigger (s : Session) (id : MonitorId) :
    (s.trigger id).traffic.bare = s.traffic.bare := by
  unfold trigger
  split <;> rfl

theorem bare_answer (s : Session) (place threshold : Nat) (a : Answer) :
    (s.answer place threshold a).traffic.bare = s.traffic.bare := by
  unfold answer
  split
  next => rfl
  next =>
    split
    next => rfl
    next => simp only [Service.Traffic.bare, service, Service.bare_report]

/-- The service keeps its queue's name. -/
theorem perform_queue (s : Session) (act : Act) :
    (s.perform act).service.queue = s.service.queue := by
  have of_bare {t : Service.Traffic} (same : t.bare = s.traffic.bare) :
      t.service.queue = s.service.queue := congrArg (·.service.queue) same
  cases act with
  | enter call =>
    simp only [perform]
    split
    · exact (s.traffic.enter_service call).2
    · rfl
  | proceed => exact s.traffic.proceed_queue
  | miss => exact congrArg Service.queue s.traffic.miss_service
  | part place => exact s.traffic.part_queue place
  | undergo c move =>
    simp only [perform, undergo]
    split <;> rfl
  | hear => exact of_bare s.bare_hear
  | trigger id => exact of_bare (s.bare_trigger id)
  | answer place threshold a => exact of_bare (s.bare_answer place threshold a)
  | hearAsked =>
    simp only [perform]
    split
    · exact of_bare s.bare_take
    · rfl

theorem step_queue (s : Session) (act : Act) : (s.step act).service.queue = s.service.queue := by
  refine step_induction (motive := fun s' => s'.service.queue = s.service.queue) rfl ?_
  exact s.perform_queue act

end Session

end Vigil
