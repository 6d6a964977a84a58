import Vigil.Main
import Vigil.Network
import Vigil.Proofs.Heap.Agenda
import Vigil.Proofs.Pipeline.Accounting
import Vigil.Proofs.Queue.Wakeup
import Vigil.Proofs.Scheduler.Retention
import Vigil.Proofs.Scheduler.Supersession
import Vigil.Queue.Station
import Vigil.Scheduler.Clock
import Vigil.Proofs.Heap.Access
import Vigil.Proofs.Queue.Calls
import Vigil.Proofs.Queue.Removal
import Vigil.Proofs.MonitorId
import Vigil.Proofs.Scheduler.Upkeep
import Vigil.Proofs.Service.Traffic
import Vigil.Proofs.Service.Mirror
import Vigil.Proofs.Queue.Order
import Vigil.Proofs.Queue.Conservation
import Vigil.Proofs.Scheduler.Outcomes
import Vigil.Proofs.Scheduler.FixedDelay
import Vigil.Proofs.Queue.Replacement
import Vigil.Proofs.Scheduler.Reuse
import Vigil.Proofs.Scheduler.Stopping
import Vigil.Proofs.Scheduler.Interference
import Vigil.Proofs.Queue.Upsert
import Vigil.Proofs.Scheduler.Knowledge
import Vigil.Proofs.Service.Journal
import Vigil.Proofs.Service.Tracking
import Vigil.Proofs.Service.Atomicity
import Vigil.Proofs.Config.RoundTrip
import Vigil.Proofs.Recorder.History
import Vigil.Proofs.Queue.Closing
import Vigil.Proofs.Queue.Refusal
import Vigil.Proofs.Scheduler.Calm
import Vigil.Proofs.Scheduler.Pace
import Vigil.Proofs.Check
import Vigil.Proofs.Service.Session
import Vigil.Proofs.Service.Triggers
import Vigil.Proofs.Service.Validity
import Vigil.Proofs.Service.Entitlement
import Vigil.Proofs.Service.Installation
import Vigil.Proofs.Validation
import Vigil.Proofs.Service.Families
import Vigil.Proofs.Config.Loading
import Vigil.Proofs.Config.Partial
import Vigil.Proofs.Service.Seeds
import Vigil.Proofs.Validation.Address
import Vigil.Proofs.Heap.Repair
import Vigil.Proofs.Queue.Settling
import Vigil.Proofs.Config.Spelling
