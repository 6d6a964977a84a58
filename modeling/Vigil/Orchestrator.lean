import Vigil.Config
import Vigil.Service
/-!
The whole program: a service built from a configuration, the monitors that the configuration
lists, and the way it is stopped.
-/

namespace Vigil

structure Orchestrator where
  service : Service
  /-- Requests of the configuration that were not looked at yet. -/
  seeds : List Request

namespace Orchestrator

/-- Build a service from a configuration whose time limit for checks is acceptable. -/
def ofConfig (c : Config) : Except Defect Orchestrator := do
  Validation.checkTimeout c.checking.timeout
  let opened := ({ config := c.scheduling.schedulerConfig } : Scheduler Monitor).addQueue
    c.scheduling.queue
  let recorder := Recorder.ofCapacity c.retention.historyPerMonitor
  let pipeline : Pipeline :=
    { scheduler := opened.scheduler, inbox := ({ recorder } : Inbox).listen }
  return { service := { pipeline, queue := c.scheduling.queue }, seeds := c.monitors }

/-- Register requests in turn, passing over those that are refused. A monitor's id is what `supply`
has for the stamp of its creation. Answers how many were stored. -/
def registerAll (supply : Nat → MonitorId) (s : Service) : List Request → Service × Nat
  | [] => (s, 0)
  | r :: rest =>
    let (s', answer) := s.register (supply s.stamp) r
    let (final, count) := registerAll supply s' rest
    (final, count + if answer.isOk then 1 else 0)

/-- Register the monitors of the configuration. A second call finds none left. -/
def loadSeeds (supply : Nat → MonitorId) (o : Orchestrator) : Orchestrator × Nat :=
  let (service, count) := registerAll supply o.service o.seeds
  ({ service, seeds := [] }, count)

/-- Start to run: load what was not loaded yet. -/
def run (supply : Nat → MonitorId) (o : Orchestrator) : Orchestrator := (o.loadSeeds supply).1

/-- Stop dispatching for good, and then the recorder. -/
def stop (o : Orchestrator) : Orchestrator :=
  let pipeline := o.service.pipeline
  { o with service := { o.service with pipeline := { pipeline with
    scheduler := pipeline.scheduler.shutdown.scheduler
    inbox := pipeline.inbox.abort } } }

end Orchestrator

end Vigil
