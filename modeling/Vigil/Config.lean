import Vigil.Monitor
import Vigil.Scheduler.Basic
import Vigil.Toml.Document
/-!
The configuration: four sections of settings, each with defaults, and the monitors to start with.
It is read from any document and written as TOML, where options that are not set are left out.
-/

namespace Vigil

structure Logging where
  level : String := "info"
  /-- The format of log records; without one the environment decides. -/
  format : Option String := none
  deriving DecidableEq, Repr

structure Scheduling where
  queue : String := "health"
  /-- In milliseconds. -/
  retryBackoff : Nat := 500
  /-- In seconds. -/
  executionTimeout : Option Nat := none
  deriving DecidableEq, Repr

structure Checking where
  /-- In seconds. -/
  timeout : Nat := 5
  /-- The largest latency in milliseconds that is not degraded. -/
  degradedThreshold : Nat := 1000
  deriving DecidableEq, Repr

structure Retention where
  historyPerMonitor : Nat := 100
  deriving DecidableEq, Repr

structure Config where
  logging : Logging := {}
  scheduling : Scheduling := {}
  checking : Checking := {}
  retention : Retention := {}
  /-- Monitors to register at the start. -/
  monitors : List Request := []
  deriving DecidableEq, Repr

def Scheduling.schedulerConfig (s : Scheduling) : Scheduler.Config where
  retryBackoff := Duration.ofMillis s.retryBackoff
  executionTimeout := s.executionTimeout.map Duration.ofSeconds

/-! Reading -/

open Data (defaulted nullable?)

namespace Logging

def keys : List String := ["level", "format"]

def ofData? (d : Dialect) (data : Data) : Option Logging :=
  let default : Logging := {}
  match data.record? d keys with
  | some [level, format] => do
    let level ← defaulted default.level Data.text? level
    let format ← defaulted default.format (nullable? Data.text?) format
    some { level, format }
  | _ => none

end Logging

namespace Scheduling

def keys : List String := ["queue", "pop_retry_backoff_ms", "execution_timeout_seconds"]

def ofData? (d : Dialect) (data : Data) : Option Scheduling :=
  let default : Scheduling := {}
  match data.record? d keys with
  | some [queue, retryBackoff, executionTimeout] => do
    let queue ← defaulted default.queue Data.text? queue
    let retryBackoff ← defaulted default.retryBackoff Data.nat? retryBackoff
    let executionTimeout ← defaulted default.executionTimeout (nullable? Data.nat?) executionTimeout
    some { queue, retryBackoff, executionTimeout }
  | _ => none

end Scheduling

namespace Checking

def keys : List String := ["timeout_seconds", "degraded_threshold_ms"]

def ofData? (d : Dialect) (data : Data) : Option Checking :=
  let default : Checking := {}
  match data.record? d keys with
  | some [timeout, degradedThreshold] => do
    let timeout ← defaulted default.timeout Data.nat? timeout
    let degradedThreshold ← defaulted default.degradedThreshold Data.nat? degradedThreshold
    some { timeout, degradedThreshold }
  | _ => none

end Checking

namespace Retention

def keys : List String := ["history_per_monitor"]

def ofData? (d : Dialect) (data : Data) : Option Retention :=
  let default : Retention := {}
  match data.record? d keys with
  | some [historyPerMonitor] => do
    let historyPerMonitor ← defaulted default.historyPerMonitor Data.nat? historyPerMonitor
    some { historyPerMonitor }
  | _ => none

end Retention

namespace Config

def keys : List String := ["logging", "scheduler", "checker", "results", "monitors"]

def monitorsOf? (d : Dialect) (data : Data) : Option (List Request) :=
  data.list?.bind (·.mapM (Request.ofData? d))

def ofData? (d : Dialect) (data : Data) : Option Config :=
  match data.record? d keys with
  | some [logging, scheduling, checking, retention, monitors] => do
    let logging ← defaulted {} (Logging.ofData? d) logging
    let scheduling ← defaulted {} (Scheduling.ofData? d) scheduling
    let checking ← defaulted {} (Checking.ofData? d) checking
    let retention ← defaulted {} (Retention.ofData? d) retention
    let monitors ← defaulted [] (monitorsOf? d) monitors
    some { logging, scheduling, checking, retention, monitors }
  | _ => none

/-- Read a TOML document. -/
def read? (text : String) : Option Config := (Toml.read? text).bind (ofData? .toml)

/-! Writing -/

def optional {α β : Type} (key : String) (f : α → β) (value : Option α) : List (String × β) :=
  (value.map fun a => (key, f a)).toList

/-- The configuration as a value; what is not set is left out. -/
def toData (c : Config) : Data :=
  .table <|
    [("logging", .table (("level", .text c.logging.level) :: optional "format" .text c.logging.format)),
      ("scheduler", .table
        (("queue", .text c.scheduling.queue) ::
          ("pop_retry_backoff_ms", .int c.scheduling.retryBackoff) ::
          optional "execution_timeout_seconds" (fun n : Nat => .int n) c.scheduling.executionTimeout)),
      ("checker", .table
        [("timeout_seconds", .int c.checking.timeout),
          ("degraded_threshold_ms", .int c.checking.degradedThreshold)]),
      ("results", .table [("history_per_monitor", .int c.retention.historyPerMonitor)])] ++
    if c.monitors.isEmpty then [] else [("monitors", .list (c.monitors.map Request.toData))]

def requestSection (r : Request) : Toml.Section where
  name := "monitors"
  isItem := true
  fields := [("name", .text r.name), ("check_type", .text r.checkType.keyword),
    ("target", .text r.target), ("interval_seconds", .int r.interval), ("enabled", .bool r.enabled)]

/-- The sections of the written configuration. -/
def sections (c : Config) : List Toml.Section :=
  [{ name := "logging"
     fields := ("level", .text c.logging.level) :: optional "format" .text c.logging.format },
    { name := "scheduler"
      fields := ("queue", .text c.scheduling.queue) ::
        ("pop_retry_backoff_ms", .int c.scheduling.retryBackoff) ::
        optional "execution_timeout_seconds" .int c.scheduling.executionTimeout },
    { name := "checker"
      fields := [("timeout_seconds", .int c.checking.timeout),
        ("degraded_threshold_ms", .int c.checking.degradedThreshold)] },
    { name := "results"
      fields := [("history_per_monitor", .int c.retention.historyPerMonitor)] }] ++
  c.monitors.map requestSection

/-- The TOML text of the configuration, if its integers fit. -/
def write? (c : Config) : Option String := Toml.write? c.sections

/-! Showing -/

/-- The configuration for people to read. -/
def display (c : Config) : String :=
  let title (label : String) := "  " ++ label ++ "\n"
  let line (label value : String) := "    " ++ label ++ ": " ++ value ++ "\n"
  "Current Internal Configuration State:\n" ++
    title "Logging" ++
    line "Level" c.logging.level ++
    line "Format" (c.logging.format.getD "from environment") ++
    title "Scheduler" ++
    line "Queue" c.scheduling.queue ++
    line "Pop Retry Backoff (ms)" (toString c.scheduling.retryBackoff) ++
    line "Execution Timeout (s)" (c.scheduling.executionTimeout.elim "none" toString) ++
    title "Checker" ++
    line "Timeout (s)" (toString c.checking.timeout) ++
    line "Degraded Threshold (ms)" (toString c.checking.degradedThreshold) ++
    title "Results" ++
    line "History Per Monitor" (toString c.retention.historyPerMonitor) ++
    line "Seed Monitors" (toString c.monitors.length)

/-! The environment -/

/-- Variables of the environment that matter. -/
structure Environment where
  configHome : Option String := none
  home : Option String := none
  logLevel : Option String := none
  deriving DecidableEq, Repr

/-- A log level of the environment replaces the configured one unless it is blank. -/
def applyEnvironment (c : Config) (e : Environment) : Config :=
  match e.logLevel with
  | some level =>
    if Text.allBlank level then c else { c with logging := { c.logging with level } }
  | none => c

end Config

end Vigil
