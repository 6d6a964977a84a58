import Vigil.Proofs.Config.RoundTrip
import Vigil.Proofs.Toml.Arrangement

/-!
# What a document leaves out has its default

A document may hold any part of a configuration: some of the sections, some of the keys in each, the
monitors or not, and of each monitor some keys. It is read as the configuration with defaults for
what is left out, except that a monitor cannot do without its name, its check type, its target and
its interval. Only what stands under each key matters (`Document`), so neither does the order of
sections and keys, nor the notation.
-/
namespace Vigil

open Data (IsWord lookup nat? required defaulted nullable?)

/-! ### Fields that may be left out -/

namespace Data

variable {α β : Type} {read : Data → Option α} {d : Data} {a : α}

theorem required_kept (reads : read d = some a) (kept : Bool) :
    required read (if kept then some d else none) = if kept then some a else none := by
  cases kept
  · rfl
  · exact reads

theorem defaulted_kept (reads : read d = some a) (kept : Bool) (default : α) :
    defaulted default read (if kept then some d else none) = some (if kept then a else default) := by
  cases kept
  · rfl
  · exact reads

/-- An option that is not set is left out anyway. -/
theorem defaulted_nullable_kept {f : β → Data} {value : Option β}
    {read : Data → Option β} (reads : ∀ b ∈ value, nullable? read (f b) = some (some b))
    (kept : Bool) : defaulted none (nullable? read) (if kept then value.map f else none) =
      some (if kept then value else none) := by
  cases kept
  · rfl
  · cases value with
    | none => rfl
    | some b => exact reads b rfl

/-- A section that may be left out. -/
theorem defaulted_section {value : Option Data} {there : Bool}
    {P : List (String × Data) → Prop}
    (shown : if there then ∃ table, value = some (.table table) ∧ P table else value = none)
    (reads : ∀ table, P table → read (.table table) = some a) (default : α) :
    defaulted default read value = some (if there then a else default) := by
  cases there with
  | false => exact congrArg (defaulted default read) shown
  | true =>
    obtain ⟨table, rfl, holds⟩ := shown
    exact reads table holds

end Data

namespace Toml

/-- A section without some of its keys. -/
def Section.keep (s : Section) (keep : String → Bool) : Section :=
  { s with fields := s.fields.filter (keep ·.1) }

theorem Has.lookup_keep {table : List (String × Data)} {s : Section} {keep : String → Bool}
    (has : Has table (s.keep keep).fields) (key : String) :
    lookup table key = if keep key then lookup (values s.fields) key else none := by
  rw [has key]
  simp only [Section.keep]
  generalize s.fields = fields
  induction fields with
  | nil => simp [values, lookup]
  | cons field fields ih =>
    simp only [values, List.filter_cons, List.map_cons, Data.lookup_cons] at ih ⊢
    by_cases same : field.1 = key
    · cases kept : keep key <;> simp_all [Data.lookup_cons]
    · split <;> simp_all [Data.lookup_cons]

end Toml

open Toml (Section Has values)
open Config (optional)

def Logging.toSection (l : Logging) : Section where
  name := "logging"
  fields := ("level", .text l.level) :: optional "format" .text l.format

def Scheduling.toSection (s : Scheduling) : Section where
  name := "scheduler"
  fields :=
    ("queue", .text s.queue) :: ("pop_retry_backoff_ms", .int s.retryBackoff) ::
      optional "execution_timeout_seconds" .int s.executionTimeout

def Checking.toSection (k : Checking) : Section where
  name := "checker"
  fields :=
    [("timeout_seconds", .int k.timeout), ("degraded_threshold_ms", .int k.degradedThreshold)]

def Retention.toSection (r : Retention) : Section where
  name := "results"
  fields := [("history_per_monitor", .int r.historyPerMonitor)]

namespace Config

theorem settings_eq (c : Config) : c.settings =
    [c.logging.toSection, c.scheduling.toSection, c.checking.toSection, c.retention.toSection] :=
  rfl

/-! ### Parts of a configuration -/

/-- Which part of a configuration a document holds. -/
structure Choice where
  /-- The sections that are there, by name, and the keys that are there in them. -/
  sections : String → Bool
  keys : String → String → Bool
  /-- Whether the monitors are there, and the keys of each monitor, by its place in the list. -/
  monitors : Bool
  monitorKeys : Nat → String → Bool

namespace Choice

variable (k : Choice) (c : Config)

/-- The value of a key if it is there, and otherwise its default. -/
def pick {α : Type} (section_ key : String) (value default : α) : α :=
  if k.sections section_ && k.keys section_ key then value else default

/-- The keys that a monitor cannot do without. -/
def essential : List String := ["name", "check_type", "target", "interval_seconds"]

/-- No monitor that is there lacks a key that it cannot do without. -/
def Complete : Prop :=
  k.monitors = true → ∀ i < c.monitors.length, essential.all (k.monitorKeys i) = true

instance : Decidable (k.Complete c) := inferInstanceAs (Decidable (_ → _))

/-- The sections of the monitors that are there. -/
def items : List Section :=
  if k.monitors then c.monitors.zipIdx.map fun (r, i) => (requestSection r).keep (k.monitorKeys i)
  else []

/-- The sections of the part. -/
def part : List Section :=
  (c.settings.filter (k.sections ·.name)).map (fun s => s.keep (k.keys s.name)) ++ k.items c

/-- The part of the configuration with defaults for the rest of it. -/
def completed : Config :=
  let default : Config := {}
  { logging :=
      { level := k.pick "logging" "level" c.logging.level default.logging.level
        format := k.pick "logging" "format" c.logging.format default.logging.format }
    scheduling :=
      { queue := k.pick "scheduler" "queue" c.scheduling.queue default.scheduling.queue
        retryBackoff := k.pick "scheduler" "pop_retry_backoff_ms" c.scheduling.retryBackoff
          default.scheduling.retryBackoff
        executionTimeout := k.pick "scheduler" "execution_timeout_seconds"
          c.scheduling.executionTimeout default.scheduling.executionTimeout }
    checking :=
      { timeout := k.pick "checker" "timeout_seconds" c.checking.timeout default.checking.timeout
        degradedThreshold := k.pick "checker" "degraded_threshold_ms" c.checking.degradedThreshold
          default.checking.degradedThreshold }
    retention :=
      { historyPerMonitor := k.pick "results" "history_per_monitor" c.retention.historyPerMonitor
          default.retention.historyPerMonitor }
    monitors :=
      if k.monitors then
        c.monitors.zipIdx.map fun (r, i) =>
          { r with enabled := if k.monitorKeys i "enabled" then r.enabled else true }
      else default.monitors }

/-- A document holds this part of the configuration: each section that is there has exactly the keys
that are there, with the configuration's values, and so has each of the monitors that are there. -/
structure Document (root : List (String × Data)) : Prop where
  settings : ∀ s ∈ c.settings,
    if k.sections s.name then
      ∃ table, lookup root s.name = some (.table table) ∧ Has table (s.keep (k.keys s.name)).fields
    else lookup root s.name = none
  monitors : ∃ tables, List.Forall₂ Has tables ((k.items c).map (·.fields)) ∧
    (lookup root "monitors" = some (.list (tables.map .table)) ∨
      tables = [] ∧ lookup root "monitors" = none)

theorem Document.setting {k : Choice} {c : Config} {root : List (String × Data)}
    (document : k.Document c root) (name : String) {s : Section} (member : s ∈ c.settings)
    (called : s.name = name) :
    if k.sections name then
      ∃ table, lookup root name = some (.table table) ∧ Has table (s.keep (k.keys name)).fields
    else lookup root name = none := by
  subst called
  exact document.settings s member

end Choice

/-! ### Reading the parts -/

variable (d : Dialect) {keep : String → Bool} {table : List (String × Data)}

theorem ofData?_logging {l : Logging}
    (has : Has table (l.toSection.keep keep).fields) :
    Logging.ofData? d (.table table) = some
      { level := if keep "level" then l.level else ({} : Logging).level
        format := if keep "format" then l.format else ({} : Logging).format } := by
  obtain ⟨level, format⟩ := l
  have record : (Data.table table).record? d Logging.keys = some
      [if keep "level" then some (.text level) else none,
        if keep "format" then format.map .text else none] := by
    simp only [Data.record?, Logging.keys, List.map_cons, List.map_nil, has.lookup_keep]
    cases format <;> rfl
  rw [Logging.ofData?, record]
  dsimp only
  rw [Data.defaulted_kept (a := level) rfl, Data.defaulted_nullable_kept fun _ _ => rfl]
  rfl

theorem ofData?_scheduling {s : Scheduling} (backoff : IsWord s.retryBackoff)
    (limit : ∀ n ∈ s.executionTimeout, IsWord n)
    (has : Has table (s.toSection.keep keep).fields) :
    Scheduling.ofData? d (.table table) = some
      { queue := if keep "queue" then s.queue else ({} : Scheduling).queue
        retryBackoff :=
          if keep "pop_retry_backoff_ms" then s.retryBackoff else ({} : Scheduling).retryBackoff
        executionTimeout :=
          if keep "execution_timeout_seconds" then s.executionTimeout
          else ({} : Scheduling).executionTimeout } := by
  obtain ⟨queue, retryBackoff, executionTimeout⟩ := s
  have record : (Data.table table).record? d Scheduling.keys = some
      [if keep "queue" then some (.text queue) else none,
        if keep "pop_retry_backoff_ms" then some (.int retryBackoff) else none,
        if keep "execution_timeout_seconds" then executionTimeout.map (fun n : Nat => .int n)
        else none] := by
    simp only [Data.record?, Scheduling.keys, List.map_cons, List.map_nil, has.lookup_keep]
    cases executionTimeout <;> rfl
  have limited : ∀ n ∈ executionTimeout, nullable? nat? (.int (n : Nat)) = some (some n) := by
    intro n member
    rw [Data.nullable?_int, Data.nat?_ofNat (limit n member)]
    rfl
  rw [Scheduling.ofData?, record]
  dsimp only
  rw [Data.defaulted_kept (a := queue) rfl, Data.defaulted_kept (Data.nat?_ofNat backoff),
    Data.defaulted_nullable_kept limited]
  rfl

theorem ofData?_checking {k : Checking} (timeout : IsWord k.timeout)
    (threshold : IsWord k.degradedThreshold)
    (has : Has table (k.toSection.keep keep).fields) :
    Checking.ofData? d (.table table) = some
      { timeout := if keep "timeout_seconds" then k.timeout else ({} : Checking).timeout
        degradedThreshold :=
          if keep "degraded_threshold_ms" then k.degradedThreshold
          else ({} : Checking).degradedThreshold } := by
  have record : (Data.table table).record? d Checking.keys = some
      [if keep "timeout_seconds" then some (.int k.timeout) else none,
        if keep "degraded_threshold_ms" then some (.int k.degradedThreshold) else none] := by
    simp only [Data.record?, Checking.keys, List.map_cons, List.map_nil, has.lookup_keep]
    rfl
  rw [Checking.ofData?, record]
  dsimp only
  rw [Data.defaulted_kept (Data.nat?_ofNat timeout), Data.defaulted_kept (Data.nat?_ofNat threshold)]
  rfl

theorem ofData?_retention {r : Retention} (fits : IsWord r.historyPerMonitor)
    (has : Has table (r.toSection.keep keep).fields) :
    Retention.ofData? d (.table table) = some
      { historyPerMonitor :=
          if keep "history_per_monitor" then r.historyPerMonitor
          else ({} : Retention).historyPerMonitor } := by
  have record : (Data.table table).record? d Retention.keys = some
      [if keep "history_per_monitor" then some (.int r.historyPerMonitor) else none] := by
    simp only [Data.record?, Retention.keys, List.map_cons, List.map_nil, has.lookup_keep]
    rfl
  rw [Retention.ofData?, record]
  dsimp only
  rw [Data.defaulted_kept (Data.nat?_ofNat fits)]
  rfl

theorem ofData?_request {r : Request} (fits : IsWord r.interval)
    (has : Has table ((requestSection r).keep keep).fields) :
    Request.ofData? d (.table table) =
      if Choice.essential.all keep then
        some { r with enabled := if keep "enabled" then r.enabled else true }
      else none := by
  have record : (Data.table table).record? d Request.keys = some
      [if keep "name" then some (.text r.name) else none,
        if keep "check_type" then some (.text r.checkType.keyword) else none,
        if keep "target" then some (.text r.target) else none,
        if keep "interval_seconds" then some (.int r.interval) else none,
        if keep "enabled" then some (.bool r.enabled) else none] := by
    simp only [Data.record?, Request.keys, List.map_cons, List.map_nil, has.lookup_keep]
    rfl
  have checkType : CheckType.ofData? d (.text r.checkType.keyword) = some r.checkType :=
    CheckType.ofKeyword?_keyword r.checkType
  rw [Request.ofData?, record]
  dsimp only
  rw [Data.required_kept (a := r.name) rfl, Data.required_kept checkType,
    Data.required_kept (a := r.target) rfl, Data.required_kept (Data.nat?_ofNat fits),
    Data.defaulted_kept (a := r.enabled) rfl]
  cases name : keep "name" <;> cases type : keep "check_type" <;> cases target : keep "target" <;>
    cases interval : keep "interval_seconds" <;>
    simp [Choice.essential, name, type, target, interval]

/-- One monitor that lacks an essential key spoils the list. -/
theorem mapM_ofData? {k : Choice} {monitors : List Request}
    (fits : ∀ r ∈ monitors, IsWord r.interval) (n : Nat) {tables : List (List (String × Data))}
    (has : List.Forall₂ Has tables ((monitors.zipIdx n).map fun (r, i) =>
      ((requestSection r).keep (k.monitorKeys i)).fields)) :
    (tables.map .table).mapM (Request.ofData? d) =
      if (List.range' n monitors.length).all fun i => Choice.essential.all (k.monitorKeys i) then
        some ((monitors.zipIdx n).map fun (r, i) =>
          { r with enabled := if k.monitorKeys i "enabled" then r.enabled else true })
      else none := by
  induction monitors generalizing n tables with
  | nil =>
    cases has
    rfl
  | cons r monitors ih =>
    obtain ⟨first, others⟩ := List.forall_mem_cons.mp fits
    rw [List.zipIdx_cons, List.map_cons] at has
    obtain ⟨table, tables, here, behind, rfl⟩ := List.forall₂_cons_right_iff.mp has
    rw [List.map_cons, List.mapM_cons, ofData?_request d first here, ih others (n + 1) behind]
    rw [List.length_cons, List.range'_succ, List.all_cons]
    cases Choice.essential.all (k.monitorKeys n) with
    | false => rfl
    | true =>
      cases (List.range' (n + 1) monitors.length).all _ <;> rfl

variable {k : Choice} {c : Config}

theorem monitorsOf?_part (fits : ∀ r ∈ c.monitors, IsWord r.interval)
    {tables : List (List (String × Data))}
    (has : List.Forall₂ Has tables ((k.items c).map (·.fields))) :
    monitorsOf? d (.list (tables.map .table)) =
      if k.Complete c then some (k.completed c).monitors else none := by
  unfold monitorsOf? Data.list?
  rw [Option.bind_some]
  unfold Choice.items at has
  cases there : k.monitors with
  | false =>
    rw [there] at has
    cases has
    simp [Choice.completed, Choice.Complete, there]
  | true =>
    simp only [there, ↓reduceIte, List.map_map] at has
    rw [mapM_ofData? d fits 0 has]
    have complete : (List.range' 0 c.monitors.length).all
        (fun i => Choice.essential.all (k.monitorKeys i)) = true ↔ k.Complete c := by
      simp [Choice.Complete, there, List.mem_range'_1]
    simp only [complete, Choice.completed, there, ↓reduceIte]

/-- The value of a document is the completed configuration, if its monitors are complete. -/
theorem ofData?_document (fits : ∀ n ∈ c.integers, IsWord n) {root : List (String × Data)}
    (document : k.Document c root) :
    ofData? d (.table root) = if k.Complete c then some (k.completed c) else none := by
  obtain ⟨tables, has, monitors⟩ := document.monitors
  obtain ⟨backoff, limit, timeout, threshold, history, intervals⟩ := (forall_integers c _).mp fits
  have logging := document.setting "logging" (s := c.logging.toSection) (by simp [settings_eq]) rfl
  have scheduling := document.setting "scheduler" (s := c.scheduling.toSection)
    (by simp [settings_eq]) rfl
  have checking := document.setting "checker" (s := c.checking.toSection) (by simp [settings_eq]) rfl
  have retention := document.setting "results" (s := c.retention.toSection)
    (by simp [settings_eq]) rfl
  have logging' : defaulted {} (Logging.ofData? d) (lookup root "logging") =
      some (k.completed c).logging := by
    refine (Data.defaulted_section logging
      (fun _ has => ofData?_logging d has) {}).trans ?_
    cases there : k.sections "logging" <;> simp [Choice.completed, Choice.pick, there]
  have scheduling' : defaulted {} (Scheduling.ofData? d) (lookup root "scheduler") =
      some (k.completed c).scheduling := by
    refine (Data.defaulted_section scheduling
      (fun _ has => ofData?_scheduling d backoff limit has) {}).trans ?_
    cases there : k.sections "scheduler" <;> simp [Choice.completed, Choice.pick, there]
  have checking' : defaulted {} (Checking.ofData? d) (lookup root "checker") =
      some (k.completed c).checking := by
    refine (Data.defaulted_section checking
      (fun _ has => ofData?_checking d timeout threshold has) {}).trans ?_
    cases there : k.sections "checker" <;> simp [Choice.completed, Choice.pick, there]
  have retention' : defaulted {} (Retention.ofData? d) (lookup root "results") =
      some (k.completed c).retention := by
    refine (Data.defaulted_section retention
      (fun _ has => ofData?_retention d history has) {}).trans ?_
    cases there : k.sections "results" <;> simp [Choice.completed, Choice.pick, there]
  have monitors' : defaulted [] (monitorsOf? d) (lookup root "monitors") =
      if k.Complete c then some (k.completed c).monitors else none := by
    rw [← monitorsOf?_part d intervals has]
    rcases monitors with listed | ⟨rfl, absent⟩
    · rw [listed]
      rfl
    · rw [absent]
      rfl
  have record : (Data.table root).record? d keys = some [lookup root "logging",
      lookup root "scheduler", lookup root "checker", lookup root "results",
      lookup root "monitors"] := rfl
  rw [ofData?, record]
  dsimp only
  rw [logging', scheduling', checking', retention', monitors']
  split <;> rfl

/-! ### Documents of sections -/

open Toml (named mem_named Orderly Rearranged Shows)

theorem mem_items {s : Section} (member : s ∈ k.items c) :
    ∃ r ∈ c.monitors, ∃ keep, s = (requestSection r).keep keep := by
  unfold Choice.items at member
  split at member
  · obtain ⟨⟨r, i⟩, there, rfl⟩ := List.mem_map.mp member
    exact ⟨r, (List.mem_zipIdx' there).2 ▸ List.getElem_mem _, _, rfl⟩
  · cases member

theorem mem_part {s : Section} (member : s ∈ k.part c) :
    ∃ u ∈ c.sections, ∃ keep, s = u.keep keep := by
  rw [sections_eq]
  rcases List.mem_append.mp member with setting | item
  · obtain ⟨u, there, rfl⟩ := List.mem_map.mp setting
    exact ⟨u, List.mem_append_left _ (List.mem_filter.mp there).1, _, rfl⟩
  · obtain ⟨r, there, keep, rfl⟩ := mem_items item
    exact ⟨_, List.mem_append_right _ (List.mem_map_of_mem there), keep, rfl⟩

theorem name_ne_monitors {s : Section} (member : s ∈ c.settings) : s.name ≠ "monitors" := by
  have all : ∀ s ∈ c.settings, s.name ≠ "monitors" := by
    simp [settings_eq, Logging.toSection, Scheduling.toSection, Checking.toSection,
      Retention.toSection]
  exact all s member

theorem orderly_part : Orderly (k.part c) where
  keys := by
    intro s member
    obtain ⟨u, there, keep, rfl⟩ := mem_part member
    have distinct : (u.fields.map (·.1)).Nodup := by
      rw [sections_eq] at there
      rcases List.mem_append.mp there with setting | item
      · exact (tables_settings c).keys u setting
      · exact (items_monitors c.monitors).keys u item
    exact distinct.sublist ((List.filter_sublist ..).map _)
  apart := by
    refine List.pairwise_append.mpr ⟨?_, ?_, ?_⟩
    · have names : c.settings.Pairwise fun s u => s.name ≠ u.name :=
        List.pairwise_map.mp (tables_settings c).names
      exact List.pairwise_map.mpr ((names.filter _).imp fun apart same => absurd same apart)
    · refine List.pairwise_of_forall_mem_list fun s member u member' _ => ?_
      obtain ⟨r, -, keep, rfl⟩ := mem_items member
      obtain ⟨r', -, keep', rfl⟩ := mem_items member'
      exact ⟨rfl, rfl⟩
    · intro s member u member' same
      obtain ⟨v, there, rfl⟩ := List.mem_map.mp member
      obtain ⟨r, -, keep, rfl⟩ := mem_items member'
      exact absurd (show v.name = _ from same) (name_ne_monitors (List.mem_filter.mp there).1)

theorem named_items (name : String) :
    named name (k.items c) = if name = "monitors" then k.items c else [] := by
  have all : ∀ s ∈ k.items c, s.name = "monitors" := by
    intro s member
    obtain ⟨r, -, keep, rfl⟩ := mem_items member
    rfl
  split
  next same => exact List.filter_eq_self.mpr fun s member => by simp [all s member, same]
  next other =>
    exact List.filter_eq_nil_iff.mpr fun s member => by
      simp [all s member, Ne.symm other]

theorem named_part (name : String) : named name (k.part c) =
    ((named name c.settings).filter (k.sections ·.name)).map (fun s => s.keep (k.keys s.name)) ++
      if name = "monitors" then k.items c else [] := by
  rw [← named_items]
  simp only [Choice.part, named, List.filter_append, List.filter_map]
  rw [List.filter_comm]
  rfl

theorem named_setting {s : Section} (member : s ∈ c.settings) :
    named s.name (k.part c) = if k.sections s.name then [s.keep (k.keys s.name)] else [] := by
  have alone : named s.name c.settings = [s] := by
    rw [settings_eq] at member ⊢
    simp only [List.mem_cons, List.not_mem_nil, or_false] at member
    rcases member with rfl | rfl | rfl | rfl <;> rfl
  rw [named_part, alone, if_neg (name_ne_monitors member), List.append_nil]
  cases there : k.sections s.name <;> simp [there]

theorem named_monitors : named "monitors" (k.part c) = k.items c := by
  have none_ : named "monitors" c.settings = [] :=
    List.filter_eq_nil_iff.mpr fun s member => by simpa using name_ne_monitors member
  rw [named_part, none_, if_pos rfl]
  rfl

/-- A document holds a part of the configuration if its sections do. -/
theorem document_of_shows {root : List (String × Data)}
    (shown : ∀ name, Shows (lookup root name) (named name (k.part c))) : k.Document c root := by
  constructor
  · intro s member
    have here := shown s.name
    have table : s.isItem = false := (tables_settings c).single s member
    rw [named_setting member] at here
    cases there : k.sections s.name with
    | false => simpa [there, Shows] using here
    | true => simpa [there, Shows, Section.keep, table] using here
  · have here := shown "monitors"
    rw [named_monitors] at here
    cases items : k.items c with
    | nil => exact ⟨[], .nil, .inr ⟨rfl, by simpa [items, Shows] using here⟩⟩
    | cons s rest =>
      obtain ⟨r, -, keep, rfl⟩ := mem_items (items ▸ List.mem_cons_self : s ∈ k.items c)
      rw [items] at here
      obtain ⟨tables, listed, has⟩ := here
      exact ⟨tables, has, .inl listed⟩

/-! ### Loading a part of a configuration -/

/-- The sections of a part can be written in any order, and with their fields in any order. -/
theorem exists_document (fits : ∀ n ∈ c.integers, n ≤ Toml.maxInt) {sections : List Section}
    (rearranged : Rearranged (k.part c) sections) :
    ∃ text root, Toml.write? sections = some text ∧ Toml.read? text = some (.table root) ∧
      k.Document c root := by
  have from_ : ∀ s ∈ sections, ∃ u ∈ c.sections, s.name = u.name ∧ s.fields ⊆ u.fields := by
    intro s member
    obtain ⟨v, there, reordered⟩ := rearranged.of_mem member
    obtain ⟨u, known, keep, rfl⟩ := mem_part there
    exact ⟨u, known, reordered.name,
      fun field inside => (List.mem_filter.mp (reordered.fields.mem_iff.mp inside)).1⟩
  have bare : ∀ s ∈ sections, s.Bare := by
    intro s member
    obtain ⟨u, known, name, fields⟩ := from_ s member
    have bare := bare_sections c u known
    exact ⟨name ▸ bare.name, fun field inside => bare.keys field (fields inside)⟩
  have writable : sections.all (·.isWritable) = true := by
    refine List.all_eq_true.mpr fun s member => List.all_eq_true.mpr fun field inside => ?_
    obtain ⟨u, known, -, fields⟩ := from_ s member
    have whole := List.all_eq_true.mp ((isWritable_iff c).mpr fits) u known
    exact List.all_eq_true.mp whole field (fields inside)
  have written : Toml.write? sections = some (String.ofList (Toml.writeSections sections)) :=
    if_pos writable
  obtain ⟨root, read, shown⟩ := rearranged.read?_shows orderly_part bare written
  exact ⟨_, root, written, read, document_of_shows shown⟩

/-- A configuration of which any part is left out, whole sections, keys of sections, the monitors, or
keys of single monitors. Its sections and the fields in each of them can be written in any order,
and what is read then holds that part. Every text that is read as a value that holds the part is
loaded as the configuration with the defaults for what is left out, where a monitor is enabled by
default; if a monitor lacks another key the text is malformed. -/
theorem partial_config_loads {c : Config} (fits : ∀ n ∈ c.integers, n ≤ Nat.pow 2 63 - 1)
    (k : Choice) :
    (∀ sections, Rearranged (k.part c) sections →
      ∃ text root, Toml.write? sections = some text ∧ Toml.read? text = some (.table root) ∧
        k.Document c root) ∧
    ∀ text root, Toml.read? text = some (.table root) → k.Document c root →
      ∀ e t given p, path? e given = some p → t.find? p = some (.file (some text)) →
        load e t given =
          (t, if k.Complete c then .ok (k.completed c) else .error .malformed) := by
  refine ⟨fun sections rearranged => exists_document fits rearranged, ?_⟩
  intro text root read document e t given p meant found
  have words : ∀ n ∈ c.integers, IsWord n := fun n member =>
    Nat.lt_of_le_of_lt (fits n member) (by decide)
  have value := ofData?_document .toml words document
  simp only [load, meant, found, ofEntry, read?, read, Option.bind_some, value]
  split <;> rfl

/-- A configuration that has no default anywhere. -/
def unusual : Config where
  logging := { level := "debug", format := some "json" }
  scheduling := { queue := "checks", retryBackoff := 7, executionTimeout := some 30 }
  checking := { timeout := 9, degradedThreshold := 80 }
  retention := { historyPerMonitor := 42 }
  monitors := [
    { name := "a", checkType := .tcp, target := "a:1", interval := 10, enabled := false },
    { name := "b", checkType := .tcp, target := "b:2", interval := 20, enabled := false }]

/-- Without the checker, without one key of two of the other sections and of the first monitor, and
with or without the second monitor's target. -/
def unusualPart (targeted : Bool) : Choice where
  sections name := name != "checker"
  keys _ key := key != "format" && key != "queue"
  monitors := true
  monitorKeys i key := if i = 0 then key != "enabled" else targeted || key != "target"

/-- The keys of every section are turned round, and a table stands between the two monitors. -/
def unusualOrder : List Section :=
  [{ name := "monitors", isItem := true
     fields := [("interval_seconds", .int 10), ("target", .text "a:1"), ("check_type", .text "tcp"),
       ("name", .text "a")] },
    { name := "scheduler"
      fields := [("execution_timeout_seconds", .int 30), ("pop_retry_backoff_ms", .int 7)] },
    { name := "monitors", isItem := true
      fields := [("enabled", .bool false), ("interval_seconds", .int 20), ("target", .text "b:2"),
        ("check_type", .text "tcp"), ("name", .text "b")] },
    { name := "results", fields := [("history_per_monitor", .int 42)] },
    { name := "logging", fields := [("level", .text "debug")] }]

theorem unusual_part_loads :
    (∃ text, Toml.write? unusualOrder = some text ∧
      let t : FileTree := { entries := [(["c.toml"], .file (some text))] }
      load {} t (some (.ofText "c.toml")) = (t, .ok
        { logging := { level := "debug" }
          scheduling := { retryBackoff := 7, executionTimeout := some 30 }
          retention := { historyPerMonitor := 42 }
          monitors := [
            { name := "a", checkType := .tcp, target := "a:1", interval := 10 },
            { name := "b", checkType := .tcp, target := "b:2", interval := 20, enabled := false }] })) ∧
    ∃ text, Toml.write? ((unusualPart false).part unusual) = some text ∧
      let t : FileTree := { entries := [(["c.toml"], .file (some text))] }
      load {} t (some (.ofText "c.toml")) = (t, .error .malformed) := by
  have fits : ∀ n ∈ unusual.integers, n ≤ Nat.pow 2 63 - 1 := by decide
  have meant : path? {} (some (.ofText "c.toml")) = some (.ofText "c.toml") := by decide
  have found : ∀ text, ({ entries := [(["c.toml"], .file (some text))] } : FileTree).find?
      (.ofText "c.toml") = some (.file (some text)) := fun _ => rfl
  have turned : Rearranged ((unusualPart true).part unusual) unusualOrder := by
    refine ⟨((unusualPart true).part unusual).map fun s => { s with fields := s.fields.reverse },
      ?_, by decide +kernel, by decide +kernel⟩
    exact List.forall₂_map_right_iff.mpr
      (List.forall₂_same.mpr fun s _ => ⟨rfl, rfl, s.fields.reverse_perm⟩)
  have straight : Rearranged ((unusualPart false).part unusual) ((unusualPart false).part unusual) :=
    ⟨_, List.forall₂_same.mpr fun s _ => ⟨rfl, rfl, .refl _⟩, .refl _, rfl⟩
  constructor
  · obtain ⟨written, loads⟩ := partial_config_loads fits (unusualPart true)
    obtain ⟨text, root, there, read, document⟩ := written _ turned
    refine ⟨text, there, (loads text root read document {} _ _ _ meant (found text)).trans ?_⟩
    rw [if_pos (by decide)]
    rfl
  · obtain ⟨written, loads⟩ := partial_config_loads fits (unusualPart false)
    obtain ⟨text, root, there, read, document⟩ := written _ straight
    refine ⟨text, there, (loads text root read document {} _ _ _ meant (found text)).trans ?_⟩
    rw [if_neg (by decide)]

end Config

end Vigil
