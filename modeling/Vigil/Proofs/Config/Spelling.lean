import Vigil.Proofs.Config.RoundTrip
import Vigil.Proofs.Data

/-!
# Every spelling of a configuration is read as that configuration

A JSON value spells a configuration if it is a table or a list of its sections, each of which is a
table or a list of its settings, and of its monitors, which are spelled likewise and may be called by
any name of their check type. All spellings are read as the configuration they spell, and the value
that is written is one of them (`Config.spelled_toData`): what it leaves out is what absence stands
for.
-/
namespace Vigil

open Data (IsWord Field Record bool? nat? nullable? reads_of_eq text?)

/-! ### Values -/

namespace CheckType

/-- One of the names of the check type, alone or as the only key of a table, with no value. -/
inductive Spelled (t : CheckType) : Data → Prop where
  | name {s : String} (known : s ∈ t.keywords) : Spelled t (.text s)
  | key {s : String} (known : s ∈ t.keywords) : Spelled t (.table [(s, .null)])

theorem Spelled.ofData? {t : CheckType} {data : Data} (spelled : t.Spelled data) :
    CheckType.ofData? .json data = some t := by
  cases spelled with
  | name known => exact (t.mem_keywords_iff _).mp known
  | key known => exact (t.mem_keywords_iff _).mp known

theorem spelled_keyword (t : CheckType) : t.Spelled (.text t.keyword) :=
  .name ((t.mem_keywords_iff _).mpr t.ofKeyword?_keyword)

end CheckType

namespace Data

/-- An option, null if it is not set. -/
def orNull {α : Type} (f : α → Data) (value : Option α) : Data := value.elim .null f

theorem nullable?_orNull {α : Type} {f : α → Data} {read : Data → Option α} {value : Option α}
    (reads : ∀ a ∈ value, nullable? read (f a) = some (some a)) :
    nullable? read (orNull f value) = some value := by
  cases value with
  | none => rfl
  | some a => exact reads a rfl

theorem nullable?_nat {n : Nat} (fits : IsWord n) : nullable? nat? (.int n) = some (some n) := by
  rw [nullable?_int, nat?_ofNat fits, Option.map_some]

end Data

open Data (orNull)

/-! ### Requests -/

namespace Request

def fields (r : Request) : List Field :=
  [⟨"name", (· = .text r.name), False⟩, ⟨"check_type", r.checkType.Spelled, False⟩,
    ⟨"target", (· = .text r.target), False⟩, ⟨"interval_seconds", (· = .int r.interval), False⟩,
    ⟨"enabled", (· = .bool r.enabled), r.enabled = true⟩]

def Spelled (r : Request) : Data → Prop := Record r.fields

variable {r : Request}

theorem Spelled.ofData? {data : Data} (spelled : r.Spelled data) (fits : IsWord r.interval) :
    Request.ofData? .json data = some r := by
  have distinct : keys.Nodup := by decide
  obtain ⟨values, record, given⟩ := Record.record?_eq spelled distinct .json
  simp only [fields, List.forall₂_cons_left_iff, List.forall₂_nil_left_iff] at given
  obtain ⟨_, _, name, ⟨_, _, checkType, ⟨_, _, target, ⟨_, _, interval, ⟨_, _, enabled, rfl, rfl⟩,
    rfl⟩, rfl⟩, rfl⟩, rfl⟩ := given
  change data.record? .json keys = _ at record
  rw [Request.ofData?, record]
  dsimp only
  rw [name.required id (reads_of_eq text? rfl),
    checkType.required id fun _ => CheckType.Spelled.ofData?,
    target.required id (reads_of_eq text? rfl),
    interval.required id (reads_of_eq nat? (Data.nat?_ofNat fits)),
    enabled.defaulted id (reads_of_eq bool? rfl)]
  rfl

theorem spelled_toData (r : Request) : r.Spelled r.toData :=
  Data.Entries.record (.entry rfl (.entry r.checkType.spelled_keyword (.entry rfl (.entry rfl
    (.entry rfl .nil)))))

end Request

/-! ### Sections -/

namespace Logging

def fields (l : Logging) : List Field :=
  let default : Logging := {}
  [⟨"level", (· = .text l.level), l.level = default.level⟩,
    ⟨"format", (· = orNull .text l.format), l.format = default.format⟩]

def Spelled (l : Logging) : Data → Prop := Record l.fields

theorem Spelled.ofData? {l : Logging} {data : Data} (spelled : l.Spelled data) :
    Logging.ofData? .json data = some l := by
  have distinct : keys.Nodup := by decide
  obtain ⟨values, record, given⟩ := Record.record?_eq spelled distinct .json
  simp only [fields, List.forall₂_cons_left_iff, List.forall₂_nil_left_iff] at given
  obtain ⟨_, _, level, ⟨_, _, format, rfl, rfl⟩, rfl⟩ := given
  change data.record? .json keys = _ at record
  rw [Logging.ofData?, record]
  dsimp only
  rw [level.defaulted id (reads_of_eq text? rfl),
    format.defaulted id (reads_of_eq (nullable? text?) (Data.nullable?_orNull fun _ _ => rfl))]
  rfl

theorem spelled_toData (l : Logging) : l.Spelled l.toData := by
  obtain ⟨level, format⟩ := l
  cases format with
  | none => exact Data.Entries.record (.entry rfl (.gap rfl .nil))
  | some name => exact Data.Entries.record (.entry rfl (.entry rfl .nil))

end Logging

namespace Scheduling

def fields (s : Scheduling) : List Field :=
  let default : Scheduling := {}
  [⟨"queue", (· = .text s.queue), s.queue = default.queue⟩,
    ⟨"pop_retry_backoff_ms", (· = .int s.retryBackoff), s.retryBackoff = default.retryBackoff⟩,
    ⟨"execution_timeout_seconds", (· = orNull (fun n : Nat => .int n) s.executionTimeout),
      s.executionTimeout = default.executionTimeout⟩]

def Spelled (s : Scheduling) : Data → Prop := Record s.fields

theorem Spelled.ofData? {s : Scheduling} {data : Data} (spelled : s.Spelled data)
    (backoff : IsWord s.retryBackoff) (limit : ∀ n ∈ s.executionTimeout, IsWord n) :
    Scheduling.ofData? .json data = some s := by
  have distinct : keys.Nodup := by decide
  obtain ⟨values, record, given⟩ := Record.record?_eq spelled distinct .json
  simp only [fields, List.forall₂_cons_left_iff, List.forall₂_nil_left_iff] at given
  obtain ⟨_, _, queue, ⟨_, _, retryBackoff, ⟨_, _, executionTimeout, rfl, rfl⟩, rfl⟩, rfl⟩ := given
  change data.record? .json keys = _ at record
  have limited : ∀ n ∈ s.executionTimeout, nullable? nat? (.int (n : Nat)) = some (some n) :=
    fun n member => Data.nullable?_nat (limit n member)
  rw [Scheduling.ofData?, record]
  dsimp only
  rw [queue.defaulted id (reads_of_eq text? rfl),
    retryBackoff.defaulted id (reads_of_eq nat? (Data.nat?_ofNat backoff)),
    executionTimeout.defaulted id (reads_of_eq (nullable? nat?) (Data.nullable?_orNull limited))]
  rfl

theorem spelled_toData (s : Scheduling) : s.Spelled s.toData := by
  obtain ⟨queue, retryBackoff, executionTimeout⟩ := s
  cases executionTimeout with
  | none => exact Data.Entries.record (.entry rfl (.entry rfl (.gap rfl .nil)))
  | some n => exact Data.Entries.record (.entry rfl (.entry rfl (.entry rfl .nil)))

end Scheduling

namespace Checking

def fields (k : Checking) : List Field :=
  let default : Checking := {}
  [⟨"timeout_seconds", (· = .int k.timeout), k.timeout = default.timeout⟩,
    ⟨"degraded_threshold_ms", (· = .int k.degradedThreshold),
      k.degradedThreshold = default.degradedThreshold⟩]

def Spelled (k : Checking) : Data → Prop := Record k.fields

theorem Spelled.ofData? {k : Checking} {data : Data} (spelled : k.Spelled data)
    (timeout : IsWord k.timeout) (threshold : IsWord k.degradedThreshold) :
    Checking.ofData? .json data = some k := by
  have distinct : keys.Nodup := by decide
  obtain ⟨values, record, given⟩ := Record.record?_eq spelled distinct .json
  simp only [fields, List.forall₂_cons_left_iff, List.forall₂_nil_left_iff] at given
  obtain ⟨_, _, first, ⟨_, _, second, rfl, rfl⟩, rfl⟩ := given
  change data.record? .json keys = _ at record
  rw [Checking.ofData?, record]
  dsimp only
  rw [first.defaulted id (reads_of_eq nat? (Data.nat?_ofNat timeout)),
    second.defaulted id (reads_of_eq nat? (Data.nat?_ofNat threshold))]
  rfl

theorem spelled_toData (k : Checking) : k.Spelled k.toData :=
  Data.Entries.record (.entry rfl (.entry rfl .nil))

end Checking

namespace Retention

def fields (r : Retention) : List Field :=
  [⟨"history_per_monitor", (· = .int r.historyPerMonitor),
    r.historyPerMonitor = ({} : Retention).historyPerMonitor⟩]

def Spelled (r : Retention) : Data → Prop := Record r.fields

theorem Spelled.ofData? {r : Retention} {data : Data} (spelled : r.Spelled data)
    (fits : IsWord r.historyPerMonitor) : Retention.ofData? .json data = some r := by
  have distinct : keys.Nodup := by decide
  obtain ⟨values, record, given⟩ := Record.record?_eq spelled distinct .json
  simp only [fields, List.forall₂_cons_left_iff, List.forall₂_nil_left_iff] at given
  obtain ⟨_, _, history, rfl, rfl⟩ := given
  change data.record? .json keys = _ at record
  rw [Retention.ofData?, record]
  dsimp only
  rw [history.defaulted id (reads_of_eq nat? (Data.nat?_ofNat fits))]
  rfl

theorem spelled_toData (r : Retention) : r.Spelled r.toData :=
  Data.Entries.record (.entry rfl .nil)

end Retention

/-! ### Configurations -/

namespace Config

/-- A list of monitors, each in a spelling of its own. -/
def MonitorsSpelled (monitors : List Request) (data : Data) : Prop :=
  ∃ items, data = .list items ∧ List.Forall₂ Request.Spelled monitors items

theorem monitorsOf?_spelled {monitors : List Request} {data : Data}
    (spelled : MonitorsSpelled monitors data) (fits : ∀ r ∈ monitors, IsWord r.interval) :
    monitorsOf? .json data = some monitors := by
  obtain ⟨items, rfl, each⟩ := spelled
  unfold monitorsOf? Data.list?
  rw [Option.bind_some]
  induction each with
  | nil => rfl
  | cons first _ ih =>
    obtain ⟨fit, others⟩ := List.forall_mem_cons.mp fits
    rw [List.mapM_cons, first.ofData? fit, ih others]
    rfl

def fields (c : Config) : List Field :=
  let default : Config := {}
  [⟨"logging", c.logging.Spelled, c.logging = default.logging⟩,
    ⟨"scheduler", c.scheduling.Spelled, c.scheduling = default.scheduling⟩,
    ⟨"checker", c.checking.Spelled, c.checking = default.checking⟩,
    ⟨"results", c.retention.Spelled, c.retention = default.retention⟩,
    ⟨"monitors", MonitorsSpelled c.monitors, c.monitors = default.monitors⟩]

def Spelled (c : Config) : Data → Prop := Record c.fields

variable {c : Config}

theorem Spelled.ofData? {data : Data} (spelled : c.Spelled data)
    (fits : ∀ n ∈ c.integers, IsWord n) : Config.ofData? .json data = some c := by
  obtain ⟨backoff, limit, timeout, threshold, kept, intervals⟩ := (forall_integers c _).mp fits
  have distinct : keys.Nodup := by decide
  obtain ⟨values, record, given⟩ := Record.record?_eq spelled distinct .json
  simp only [fields, List.forall₂_cons_left_iff, List.forall₂_nil_left_iff] at given
  obtain ⟨_, _, logging, ⟨_, _, scheduling, ⟨_, _, checking, ⟨_, _, retention, ⟨_, _, monitors, rfl,
    rfl⟩, rfl⟩, rfl⟩, rfl⟩, rfl⟩ := given
  change data.record? .json keys = _ at record
  rw [Config.ofData?, record]
  dsimp only
  rw [logging.defaulted id fun _ => Logging.Spelled.ofData?,
    scheduling.defaulted id fun _ inner => inner.ofData? backoff limit,
    checking.defaulted id fun _ inner => inner.ofData? timeout threshold,
    retention.defaulted id fun _ inner => inner.ofData? kept,
    monitors.defaulted id fun _ inner => monitorsOf?_spelled inner intervals]
  rfl

theorem monitorsSpelled_toData (monitors : List Request) :
    MonitorsSpelled monitors (.list (monitors.map Request.toData)) :=
  ⟨_, rfl, List.forall₂_map_right_iff.mpr
    (List.forall₂_same.mpr fun r _ => r.spelled_toData)⟩

theorem spelled_toData (c : Config) : c.Spelled c.toData := by
  obtain ⟨logging, scheduling, checking, retention, monitors⟩ := c
  rw [toData_eq]
  refine Data.Entries.record (.entry logging.spelled_toData (.entry scheduling.spelled_toData
    (.entry checking.spelled_toData (.entry retention.spelled_toData ?_))))
  cases monitors with
  | nil => exact .gap rfl .nil
  | cons r rest => exact .entry (monitorsSpelled_toData (r :: rest)) .nil

/-- Requests and configurations whose numbers fit into 64 bits are read from the values they are
written as, and from every other spelling too. -/
theorem every_spelling_read :
    (∀ r : Request, IsWord r.interval →
      Request.ofData? .json r.toData = some r ∧ r.Spelled r.toData ∧
        ∀ data, r.Spelled data → Request.ofData? .json data = some r) ∧
    ∀ c : Config, (∀ n ∈ c.integers, IsWord n) →
      Config.ofData? .json c.toData = some c ∧ c.Spelled c.toData ∧
        ∀ data, c.Spelled data → Config.ofData? .json data = some c :=
  ⟨fun r fits => ⟨r.spelled_toData.ofData? fits, r.spelled_toData, fun _ spelled => spelled.ofData? fits⟩,
    fun c fits => ⟨c.spelled_toData.ofData? fits, c.spelled_toData, fun _ spelled => spelled.ofData? fits⟩⟩

def socketMonitor : Request where
  name := "a"
  checkType := .webSocket
  target := "wss://a.example/"
  interval := 10

/-- The keys are turned round and one of them is unknown; the monitor is enabled by default. -/
def socketData : Data :=
  .table [("name", .text "a"), ("check_type", .table [("wss", .null)]),
    ("target", .text "wss://a.example/"), ("interval_seconds", .int 10), ("id", .null)].reverse

theorem spelled_socketData : socketMonitor.Spelled socketData :=
  .table (.entry rfl (.entry (.key (by decide)) (.entry rfl (.entry rfl (.gap rfl .nil)))))
    (by decide) (List.reverse_perm _)

def portMonitor : Request where
  name := "b"
  checkType := .tcp
  target := "b:2"
  interval := 20
  enabled := false

def portData : Data := .list [.text "b", .text "TCP", .text "b:2", .int 20, .bool false]

theorem spelled_portData : portMonitor.Spelled portData :=
  .list (.item rfl (.item (.name (by decide)) (.item rfl (.item rfl (.item rfl
    (.stop (List.forall_mem_nil _)))))))

/-- Two sections have their defaults, and so have settings of the other two. -/
def mixed : Config where
  logging := { format := some "json" }
  scheduling := { queue := "checks", retryBackoff := 7 }
  monitors := [socketMonitor, portMonitor]

/-- Tables and lists within a list. -/
def mixedData : Data :=
  .list [.table [("format", .text "json"), ("comment", .list [])].reverse,
    .list [.text "checks", .int 7], .table [], .list [], .list [socketData, portData]]

theorem mixed_spelling_read :
    Config.ofData? .json mixed.toData = some mixed ∧ Config.ofData? .json mixedData = some mixed := by
  have fits : ∀ n ∈ mixed.integers, IsWord n := by
    unfold IsWord
    decide
  have logging : mixed.logging.Spelled
      (.table [("format", .text "json"), ("comment", .list [])].reverse) :=
    .table (.gap rfl (.entry rfl .nil)) (by decide) (List.reverse_perm _)
  have scheduling : mixed.scheduling.Spelled (.list [.text "checks", .int 7]) :=
    .list (.item rfl (.item rfl (.stop (List.forall_mem_singleton.mpr rfl))))
  have checking : mixed.checking.Spelled (.table []) :=
    Data.Entries.record (.gap rfl (.gap rfl .nil))
  have retention : mixed.retention.Spelled (.list []) :=
    .list (.stop (List.forall_mem_singleton.mpr rfl))
  have monitors : MonitorsSpelled mixed.monitors (.list [socketData, portData]) :=
    ⟨_, rfl, .cons spelled_socketData (.cons spelled_portData .nil)⟩
  have spelled : mixed.Spelled mixedData :=
    .list (.item logging (.item scheduling (.item checking (.item retention (.item monitors
      (.stop (List.forall_mem_nil _)))))))
  obtain ⟨written, -, all⟩ := every_spelling_read.2 mixed fits
  exact ⟨written, all _ spelled⟩

end Config

end Vigil
