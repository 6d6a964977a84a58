import Vigil.Config.File
import Vigil.Proofs.FileTree
import Vigil.Proofs.Toml.Document

/-!
# A configuration that was saved is loaded again

Its text is read as the value `Config.toData` (`read?_text`), and of that value every part is read
again, where what is not set and an empty list of monitors are left out (`ofData?_toData`). Integers
above what a document can hold are the only reason why there is no text (`write?_isSome_iff`).
-/
namespace Vigil

/-- The extension of the path's file name. -/
def Path.extension? (p : Path) : Option String :=
  match p.steps.getLast? with
  | some (.down name) => (splitExtension name).2
  | _ => none

theorem Path.withExtension_self {p : Path} {extension : String}
    (same : p.extension? = some extension) : p.withExtension extension = p := by
  unfold extension? at same
  unfold withExtension
  cases last : p.steps.getLast? with
  | none => rfl
  | some step =>
    cases step with
    | up => rfl
    | down name =>
      rw [last] at same
      exact if_pos (beq_iff_eq.mpr same)

/-! ### Reading the value

Numbers are read by rewriting with the equations below: unfolding `nat?` at a number that is not
known would have the bound, 2^64, counted down. -/

namespace Data

/-- The number has a place in 64 bits. -/
def IsWord (n : Nat) : Prop := n < 0x10000000000000000

theorem nat?_ofNat {n : Nat} (fits : IsWord n) : nat? (.int n) = some n := by
  unfold IsWord at fits
  have above : 0 ≤ (n : Int) := Int.natCast_nonneg n
  have below : (n : Int) < 0x10000000000000000 := by omega
  rw [nat?, if_pos ⟨above, below⟩, Int.toNat_natCast]

theorem required_some {α : Type} (read : Data → Option α) (d : Data) :
    required read (some d) = read d := rfl

theorem defaulted_some {α : Type} (default : α) (read : Data → Option α) (d : Data) :
    defaulted default read (some d) = read d := rfl

theorem nullable?_int {α : Type} (read : Data → Option α) (n : Int) :
    nullable? read (.int n) = (read (.int n)).map some := rfl

end Data

open Data (IsWord nat? nullable? required defaulted)

variable (d : Dialect)

theorem Request.ofData?_toData {r : Request} (fits : IsWord r.interval) :
    Request.ofData? d r.toData = some r := by
  have record : r.toData.record? d Request.keys = some [some (.text r.name),
      some (.text r.checkType.keyword), some (.text r.target), some (.int r.interval),
      some (.bool r.enabled)] := rfl
  have checkType : required (CheckType.ofData? d) (some (.text r.checkType.keyword)) =
      some r.checkType := CheckType.ofKeyword?_keyword r.checkType
  rw [Request.ofData?, record]
  dsimp only
  rw [checkType, Data.required_some nat?, Data.nat?_ofNat fits]
  rfl

def Logging.toData (l : Logging) : Data :=
  .table (("level", .text l.level) :: Config.optional "format" .text l.format)

theorem Logging.ofData?_toData (l : Logging) : Logging.ofData? d l.toData = some l := by
  obtain ⟨level, format⟩ := l
  cases format <;> rfl

def Scheduling.toData (s : Scheduling) : Data :=
  .table (("queue", .text s.queue) :: ("pop_retry_backoff_ms", .int s.retryBackoff) ::
    Config.optional "execution_timeout_seconds" (fun n : Nat => .int n) s.executionTimeout)

theorem Scheduling.ofData?_toData {s : Scheduling} (backoff : IsWord s.retryBackoff)
    (limit : ∀ n ∈ s.executionTimeout, IsWord n) : Scheduling.ofData? d s.toData = some s := by
  obtain ⟨queue, retryBackoff, executionTimeout⟩ := s
  have record : (Scheduling.toData ⟨queue, retryBackoff, executionTimeout⟩).record? d
      Scheduling.keys = some [some (.text queue), some (.int retryBackoff),
        executionTimeout.map fun n => .int n] := by
    cases executionTimeout <;> rfl
  rw [Scheduling.ofData?, record]
  dsimp only
  rw [Data.defaulted_some _ nat?, Data.nat?_ofNat backoff]
  cases executionTimeout with
  | none => rfl
  | some n =>
    rw [Option.map_some, Data.defaulted_some _ (nullable? nat?), Data.nullable?_int,
      Data.nat?_ofNat (limit n rfl)]
    rfl

def Checking.toData (k : Checking) : Data :=
  .table [("timeout_seconds", .int k.timeout), ("degraded_threshold_ms", .int k.degradedThreshold)]

theorem Checking.ofData?_toData {k : Checking} (timeout : IsWord k.timeout)
    (threshold : IsWord k.degradedThreshold) : Checking.ofData? d k.toData = some k := by
  have record : k.toData.record? d Checking.keys =
      some [some (.int k.timeout), some (.int k.degradedThreshold)] := rfl
  rw [Checking.ofData?, record]
  dsimp only
  rw [Data.defaulted_some _ nat?, Data.nat?_ofNat timeout, Data.defaulted_some _ nat?,
    Data.nat?_ofNat threshold]
  rfl

def Retention.toData (r : Retention) : Data :=
  .table [("history_per_monitor", .int r.historyPerMonitor)]

theorem Retention.ofData?_toData {r : Retention} (fits : IsWord r.historyPerMonitor) :
    Retention.ofData? d r.toData = some r := by
  have record : r.toData.record? d Retention.keys = some [some (.int r.historyPerMonitor)] := rfl
  rw [Retention.ofData?, record]
  dsimp only
  rw [Data.defaulted_some _ nat?, Data.nat?_ofNat fits]
  rfl

namespace Config

theorem toData_eq (c : Config) :
    c.toData = .table ([("logging", c.logging.toData), ("scheduler", c.scheduling.toData),
      ("checker", c.checking.toData), ("results", c.retention.toData)] ++
      if c.monitors.isEmpty then [] else [("monitors", .list (c.monitors.map Request.toData))]) :=
  rfl

/-- All integers of the configuration. -/
def integers (c : Config) : List Nat :=
  c.scheduling.retryBackoff :: c.scheduling.executionTimeout.toList ++
    [c.checking.timeout, c.checking.degradedThreshold, c.retention.historyPerMonitor] ++
    c.monitors.map (·.interval)

theorem forall_integers (c : Config) (p : Nat → Prop) :
    (∀ n ∈ c.integers, p n) ↔
      p c.scheduling.retryBackoff ∧ (∀ n ∈ c.scheduling.executionTimeout, p n) ∧
        p c.checking.timeout ∧ p c.checking.degradedThreshold ∧ p c.retention.historyPerMonitor ∧
          ∀ r ∈ c.monitors, p r.interval := by
  simp [integers, or_imp, forall_and]

theorem monitorsOf?_toData {monitors : List Request} (fits : ∀ r ∈ monitors, IsWord r.interval) :
    monitorsOf? d (.list (monitors.map Request.toData)) = some monitors := by
  unfold monitorsOf? Data.list?
  rw [Option.bind_some]
  induction monitors with
  | nil => rfl
  | cons r monitors ih =>
    obtain ⟨first, others⟩ := List.forall_mem_cons.mp fits
    rw [List.map_cons, List.mapM_cons, Request.ofData?_toData d first, ih others]
    rfl

theorem ofData?_toData {c : Config} (fits : ∀ n ∈ c.integers, IsWord n) :
    ofData? d c.toData = some c := by
  have record : c.toData.record? d keys = some [some c.logging.toData, some c.scheduling.toData,
      some c.checking.toData, some c.retention.toData,
      if c.monitors.isEmpty then none else some (.list (c.monitors.map Request.toData))] := by
    rw [toData_eq]
    cases c.monitors <;> rfl
  obtain ⟨backoff, limit, timeout, threshold, history, intervals⟩ := (forall_integers c _).mp fits
  have monitors : defaulted [] (monitorsOf? d)
      (if c.monitors.isEmpty then none else some (.list (c.monitors.map Request.toData))) =
        some c.monitors := by
    split
    next none_ => rw [List.isEmpty_iff.mp none_]; rfl
    next => exact (Data.defaulted_some ..).trans (monitorsOf?_toData d intervals)
  rw [ofData?, record]
  dsimp only
  rw [Data.defaulted_some, Logging.ofData?_toData, Data.defaulted_some,
    Scheduling.ofData?_toData d backoff limit, Data.defaulted_some,
    Checking.ofData?_toData d timeout threshold, Data.defaulted_some,
    Retention.ofData?_toData d history, monitors]
  rfl

/-! ### Reading the text -/

/-- The sections before those of the monitors. -/
def settings (c : Config) : List Toml.Section := { c with monitors := [] }.sections

theorem sections_eq (c : Config) : c.sections = c.settings ++ c.monitors.map requestSection := by
  simp [settings, sections]

theorem forall_mem_optional {α β : Type} {key : String} {f : α → β} {value : Option α}
    {p : String × β → Prop} : (∀ field ∈ optional key f value, p field) ↔ ∀ a ∈ value, p (key, f a) := by
  cases value <;> simp [optional]

theorem isWritable_iff (c : Config) :
    c.sections.all (·.isWritable) = true ↔ ∀ n ∈ c.integers, n ≤ Toml.maxInt := by
  obtain ⟨⟨level, format⟩, ⟨queue, backoff, limit⟩, ⟨timeout, threshold⟩, ⟨history⟩, monitors⟩ := c
  rw [forall_integers]
  cases format <;> cases limit <;>
    simp [sections, requestSection, optional, Toml.Section.isWritable, Toml.Scalar.isWritable,
      and_assoc]

theorem write?_isSome_iff (c : Config) :
    c.write?.isSome = true ↔ ∀ n ∈ c.integers, n ≤ Toml.maxInt := by
  rw [← isWritable_iff, write?, Toml.write?]
  split <;> simp_all

/-- All names of sections and fields. -/
def names : List String :=
  keys ++ Logging.keys ++ Scheduling.keys ++ Checking.keys ++ Retention.keys ++ Request.keys

theorem bare_names : ∀ name ∈ names, Toml.BareKey name := by
  have bare : names.all Toml.isBareKey = true := by decide
  exact fun name member => Toml.isBareKey_iff.mp (List.all_eq_true.mp bare name member)

theorem bare_sections (c : Config) : ∀ s ∈ c.sections, s.Bare := by
  intro s member
  have known : s.name ∈ names ∧ ∀ field ∈ s.fields, field.1 ∈ names := by
    simp only [sections, List.mem_append, List.mem_cons, List.not_mem_nil, or_false,
      List.mem_map] at member
    rcases member with (rfl | rfl | rfl | rfl) | ⟨r, -, rfl⟩ <;>
      simp only [requestSection, List.forall_mem_cons, forall_mem_optional] <;>
      simp [names, keys, Logging.keys, Scheduling.keys, Checking.keys, Retention.keys, Request.keys]
  exact ⟨bare_names _ known.1, fun field member => bare_names _ (known.2 field member)⟩

theorem tables_settings (c : Config) : Toml.Tables c.settings where
  single := by simp [settings, sections]
  names := by simp [settings, sections]
  keys := by
    obtain ⟨⟨level, format⟩, ⟨queue, backoff, limit⟩, checking, retention, monitors⟩ := c
    cases format <;> cases limit <;> simp [settings, sections, optional]

theorem items_monitors (monitors : List Request) :
    Toml.Items "monitors" (monitors.map requestSection) where
  ofList := by simp [requestSection]
  keys := by simp [requestSection]

theorem data_settings (c : Config) :
    (c.settings.map fun s => (s.name, s.data)) =
      [("logging", c.logging.toData), ("scheduler", c.scheduling.toData),
        ("checker", c.checking.toData), ("results", c.retention.toData)] := by
  obtain ⟨⟨level, format⟩, ⟨queue, backoff, limit⟩, checking, retention, monitors⟩ := c
  cases format <;> cases limit <;> rfl

theorem data_requestSection (r : Request) : (requestSection r).data = r.toData := rfl

theorem read?_text {c : Config} {text : String} (written : c.write? = some text) :
    Toml.read? text = some c.toData := by
  have bare := bare_sections c
  rw [sections_eq] at bare
  rw [write?, sections_eq] at written
  have apart : "monitors" ∉ c.settings.map (·.name) := by simp [settings, sections]
  have items : (c.monitors.map requestSection).map Toml.Section.data =
      c.monitors.map Request.toData := by
    rw [List.map_map]
    exact List.map_congr_left fun r _ => data_requestSection r
  rw [Toml.read?_tables_items bare written (tables_settings c) (items_monitors c.monitors) apart,
    toData_eq, data_settings, items, List.isEmpty_map]

theorem read?_written {c : Config} {text : String} (written : c.write? = some text) :
    read? text = some c := by
  have fits : ∀ n ∈ c.integers, IsWord n := by
    intro n member
    have small := (write?_isSome_iff c).mp (by rw [written]; rfl) n member
    exact Nat.lt_of_le_of_lt small (by decide)
  rw [read?, read?_text written, Option.bind_some, ofData?_toData _ fits]

/-! ### Files -/

/-- A configuration whose integers a document can hold is saved to every path for its files that
can be written to, and loaded from there as it was. One with a larger integer is not saved, and no
file or directory is made. -/
theorem saved_config_loads (c : Config) (e : Environment) (t : FileTree) (p : Path) :
    ((∀ n ∈ c.integers, n ≤ Nat.pow 2 63 - 1) → p.extension? = some extension → t.Writable p →
      ∃ t', c.save t p = (t', .ok ()) ∧ load e t' (some p) = (t', .ok c)) ∧
    ((∃ n ∈ c.integers, Nat.pow 2 63 - 1 < n) → c.save t p = (t, .error .inexpressible)) := by
  constructor
  · intro fits named writable
    obtain ⟨text, written⟩ := Option.isSome_iff_exists.mp ((write?_isSome_iff c).mpr fits)
    refine ⟨t.written p (some text), ?_, ?_⟩
    · simp only [save, written, writable.made, ↓reduceIte, writable.write?_eq]
    · simp only [load, path?, Path.withExtension_self named, writable.find?_written, ofEntry,
        read?_written written, Option.elim_some]
  · rintro ⟨n, member, large⟩
    have unwritten : c.write? = none := by
      by_contra there
      have fits := (write?_isSome_iff c).mp (Option.isSome_iff_ne_none.mpr there) n member
      exact absurd fits (Nat.not_le.mpr large)
    simp only [save, unwritten]

/-- A configuration with texts for each of the four forms of quoting, no limit of time, and two
monitors of which the second has the longest interval that can be written. -/
def awkward : Config where
  logging := { level := "\x00\t\n'''\\", format := some "it's \"json\"" }
  scheduling := { queue := "C:\\queue", retryBackoff := 0 }
  monitors := [
    { name := "'''\"\"\"", checkType := .webSocket, target := "wss://a.example/\n\\", interval := 1 },
    { name := "", checkType := .tcp, target := "ü:80", interval := Nat.pow 2 63 - 1, enabled := false }]

def awkwardPath : Path where
  absolute := true
  steps := [.down "new", .down "deeper", .up, .down ".uptime.toml"]

theorem awkward_config_loads :
    (∀ n ∈ awkward.integers, n ≤ Nat.pow 2 63 - 1) ∧ awkwardPath.extension? = some extension ∧
      ({} : FileTree).Writable awkwardPath ∧
      (∃ t', awkward.save {} awkwardPath = (t', .ok ()) ∧
        load {} t' (some awkwardPath) = (t', .ok awkward)) ∧
      ({ awkward with retention := { historyPerMonitor := Nat.pow 2 63 } } : Config).save {} awkwardPath =
        ({}, .error .inexpressible) := by
  have fits : ∀ n ∈ awkward.integers, n ≤ Nat.pow 2 63 - 1 := by decide
  have named : awkwardPath.extension? = some extension := by decide
  have new : FileTree.isName "new" = true := (Bool.and_eq_true ..).mpr ⟨by decide, by simp⟩
  have deeper : FileTree.isName "deeper" = true := (Bool.and_eq_true ..).mpr ⟨by decide, by simp⟩
  have file : FileTree.isName ".uptime.toml" = true :=
    (Bool.and_eq_true ..).mpr ⟨by decide, by simp⟩
  have writable : ({} : FileTree).Writable awkwardPath := {
    named := ⟨".uptime.toml", rfl, file⟩
    ofFile := rfl
    above := by
      simp [awkwardPath, Path.parent, FileTree.visited, FileTree.Admits, FileTree.lookup, new,
        deeper]
    apart := by decide
    free := by decide }
  refine ⟨fits, named, writable, ?_, ?_⟩
  · exact (saved_config_loads awkward {} {} awkwardPath).1 fits named writable
  · exact (saved_config_loads _ {} {} awkwardPath).2 ⟨Nat.pow 2 63, by decide, by decide⟩

end Config

end Vigil
