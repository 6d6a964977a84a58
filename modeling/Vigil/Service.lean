import Vigil.Pipeline
import Vigil.Validation
/-!
The service that manages monitors. It keeps them in the order of their creation and has the
scheduler and the recorder follow every change: an enabled monitor has one task in the service's
queue, and exactly the monitors that exist are tracked. A call that fails changes nothing.
-/

namespace Vigil

inductive ServiceError where
  | notFound (id : MonitorId)
  | invalidData (defect : Defect)
  | scheduling (why : SchedulingError)
  deriving DecidableEq, Repr

def ServiceError.message : ServiceError → String
  | notFound id => "monitor not found: " ++ id.text
  | invalidData defect => "invalid monitor data: " ++ defect.message
  | scheduling why => "scheduler error: " ++ why.message

structure Service where
  pipeline : Pipeline
  /-- The name of the queue that holds the tasks. -/
  queue : String
  /-- The oldest first; ids are unique. -/
  monitors : List Monitor := []
  /-- The stamp of the next change. -/
  stamp : Nat := 0

namespace Service

/-- What a call leads to. -/
abbrev Outcome (α : Type) := Service × Except ServiceError α

def scheduler (s : Service) : Scheduler Monitor := s.pipeline.scheduler

def recorder (s : Service) : Recorder := s.pipeline.inbox.recorder

def now (s : Service) : Int := s.scheduler.now

def putScheduler (s : Service) (scheduler : Scheduler Monitor) : Service :=
  { s with pipeline := { s.pipeline with scheduler } }

def putRecorder (s : Service) (recorder : Recorder) : Service :=
  { s with pipeline := { s.pipeline with inbox := { s.pipeline.inbox with recorder } } }

def find? (s : Service) (id : MonitorId) : Option Monitor := s.monitors.find? (·.id == id)

/-- Put a changed monitor in the place of the one with its id. -/
def replace (s : Service) (m : Monitor) : Service :=
  { s with monitors := s.monitors.map fun old => if old.id == m.id then m else old }

/-- Use up one stamp. -/
def tick (s : Service) : Service := { s with stamp := s.stamp + 1 }

/-- The monitors, the oldest first. -/
def list (s : Service) : List Monitor := s.monitors

def get (s : Service) (id : MonitorId) : Except ServiceError Monitor :=
  (s.find? id).elim (.error (.notFound id)) .ok

/-- Start to monitor an endpoint under a fresh id. -/
def register (s : Service) (id : MonitorId) (r : Request) : Outcome Monitor :=
  let m := Monitor.ofRequest id s.stamp r
  match Validation.checkMonitor m with
  | .error defect => (s, .error (.invalidData defect))
  | .ok _ =>
    let tracked := s.putRecorder (s.recorder.track id)
    let store (s : Service) : Outcome Monitor := ({ s with monitors := s.monitors ++ [m] }.tick, .ok m)
    if m.enabled then
      let reply := tracked.scheduler.register s.queue (m.task s.now)
      let asked := tracked.putScheduler reply.scheduler
      match reply.answer with
      | .error e => (asked.putRecorder (asked.recorder.forget id), .error (.scheduling e))
      | .ok _ => store asked
    else store tracked

/-- Change a monitor. If it is enabled its task is replaced, which starts its interval anew. -/
def modify (s : Service) (id : MonitorId) (c : Changes) : Outcome Monitor :=
  match s.find? id with
  | none => (s, .error (.notFound id))
  | some old =>
    let m := old.apply s.stamp c
    match Validation.checkMonitor m with
    | .error defect => (s, .error (.invalidData defect))
    | .ok _ =>
      if m.enabled then
        let reply := s.scheduler.update s.queue (m.task s.now)
        let asked := s.putScheduler reply.scheduler
        match reply.answer with
        | .error e => (asked, .error (.scheduling e))
        | .ok _ => ((asked.replace m).tick, .ok m)
      else ((s.replace m).tick, .ok m)

/-! Deleting a monitor takes three steps, between which others may act. -/

/-- Take a monitor off the list. -/
def strike (s : Service) (id : MonitorId) : Service :=
  { s with monitors := s.monitors.filter (·.id != id) }

/-- Take a monitor's task out of the queue. -/
def unschedule (s : Service) (id : MonitorId) : Service :=
  s.putScheduler (s.scheduler.remove s.queue id.text).scheduler

/-- Drop a monitor's results. -/
def forget (s : Service) (id : MonitorId) : Service := s.putRecorder (s.recorder.forget id)

def delete (s : Service) (id : MonitorId) : Outcome Unit :=
  match s.find? id with
  | none => (s, .error (.notFound id))
  | some _ => (((s.strike id).unschedule id).forget id, .ok ())

/-- Enable a disabled monitor, or the other way round. -/
def toggle (s : Service) (id : MonitorId) : Outcome Monitor :=
  match s.find? id with
  | none => (s, .error (.notFound id))
  | some old =>
    let m := { old with enabled := !old.enabled, updatedAt := s.stamp }
    if m.enabled then
      let reply := s.scheduler.register s.queue (m.task s.now)
      let asked := s.putScheduler reply.scheduler
      match reply.answer with
      | .error e => (asked, .error (.scheduling e))
      | .ok _ => ((asked.replace m).tick, .ok m)
    else (((s.unschedule id).replace m).tick, .ok m)

/-- Recent results of a monitor, the oldest first. -/
def history (s : Service) (id : MonitorId) : Except ServiceError (List CheckResult) :=
  (s.get id).map fun _ => s.recorder.history id

/-- Send a result the way of all results. -/
def report (s : Service) (r : CheckResult) : Service :=
  { s with pipeline := s.pipeline.send s.scheduler.ready.length r }

/-- Check a monitor now, outside of its schedule, and report the result. A check that breaks down
has none. -/
def trigger (s : Service) (id : MonitorId) (threshold : Nat) (probe : Monitor → Answer) :
    Outcome (Option CheckResult) :=
  match s.find? id with
  | none => (s, .error (.notFound id))
  | some m =>
    match Check.judge threshold m (probe m) with
    | none => (s, .ok none)
    | some r => (s.report r, .ok (some r))

/-- Let everything that can run do so. -/
def settle (c : Pipeline.Checks) (s : Service) : Service :=
  { s with pipeline := (s.pipeline.settle c).1 }

def advanceTo (c : Pipeline.Checks) (s : Service) (target : Int) : Service :=
  { s with pipeline := (s.pipeline.advanceTo c target).1 }

end Service

end Vigil
