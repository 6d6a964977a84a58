import Vigil.CheckType
import Vigil.Data
import Vigil.MonitorId
import Vigil.Time
/-!
Monitored endpoints, requests for new ones, and changes to existing ones.
-/

namespace Vigil

/-- A request to monitor an endpoint; also an entry of the configuration's list of monitors. -/
structure Request where
  name : String
  checkType : CheckType
  target : String
  /-- In seconds. -/
  interval : Nat
  enabled : Bool := true
  deriving DecidableEq, Repr

/-- A partial change; what is `none` stays. -/
structure Changes where
  name : Option String := none
  checkType : Option CheckType := none
  target : Option String := none
  interval : Option Nat := none
  deriving DecidableEq, Repr

/-- A monitored endpoint. The stamps number the service's actions, so a monitor is older than
another exactly if it was created by an earlier action. -/
structure Monitor where
  id : MonitorId
  name : String
  checkType : CheckType
  /-- A URL, or `host:port` for TCP. -/
  target : String
  /-- In seconds. -/
  interval : Nat
  enabled : Bool
  createdAt : Nat
  updatedAt : Nat
  deriving DecidableEq, Repr

namespace CheckType

def ofData? (d : Dialect) (data : Data) : Option CheckType := (data.choice? d).bind ofKeyword?

end CheckType

namespace Request

def keys : List String := ["name", "check_type", "target", "interval_seconds", "enabled"]

def ofData? (d : Dialect) (data : Data) : Option Request :=
  match data.record? d keys with
  | some [name, checkType, target, interval, enabled] => do
    let name ← Data.required Data.text? name
    let checkType ← Data.required (CheckType.ofData? d) checkType
    let target ← Data.required Data.text? target
    let interval ← Data.required Data.nat? interval
    let enabled ← Data.defaulted true Data.bool? enabled
    some { name, checkType, target, interval, enabled }
  | _ => none

def toData (r : Request) : Data :=
  .table [("name", .text r.name), ("check_type", .text r.checkType.keyword),
    ("target", .text r.target), ("interval_seconds", .int r.interval), ("enabled", .bool r.enabled)]

end Request

namespace Changes

def keys : List String := ["name", "check_type", "target", "interval_seconds"]

/-- Fields that are missing in a table stay as they are; a list has to name all four. -/
def ofData? (d : Dialect) (data : Data) : Option Changes :=
  let complete : Bool := match data with
    | .list items => keys.length ≤ items.length
    | _ => true
  match data.record? d keys with
  | some [name, checkType, target, interval] =>
    if complete then do
      let name ← Data.defaulted none (Data.nullable? Data.text?) name
      let checkType ← Data.defaulted none (Data.nullable? (CheckType.ofData? d)) checkType
      let target ← Data.defaulted none (Data.nullable? Data.text?) target
      let interval ← Data.defaulted none (Data.nullable? Data.nat?) interval
      some { name, checkType, target, interval }
    else none
  | _ => none

end Changes

namespace Monitor

/-- A fresh monitor for a request. -/
def ofRequest (id : MonitorId) (stamp : Nat) (r : Request) : Monitor :=
  { id, name := r.name, checkType := r.checkType, target := r.target, interval := r.interval
    enabled := r.enabled, createdAt := stamp, updatedAt := stamp }

def apply (m : Monitor) (stamp : Nat) (c : Changes) : Monitor :=
  { m with
    name := c.name.getD m.name
    checkType := c.checkType.getD m.checkType
    target := c.target.getD m.target
    interval := c.interval.getD m.interval
    updatedAt := stamp }

/-- The time between two checks. -/
def period (m : Monitor) : Nat := Duration.ofSeconds m.interval

/-- The id of the task that checks the monitor. -/
def taskId (m : Monitor) : String := m.id.text

/-- Whether the monitor was changed since it was created. -/
def touched (m : Monitor) : Bool := m.updatedAt != m.createdAt

end Monitor

end Vigil
