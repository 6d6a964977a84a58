import Vigil.Proofs.Recorder.Window

/-!
# What a recorder remembers of a monitor

Monitors are tracked and forgotten in any order and as often as one likes, and results come in
between. A recorder is a store of windows, one for each tracked monitor, and a call moves the window
of the monitor it is about and no other one (`entries_after`). So what is remembered of a monitor
can be read off the calls: the last results since it became tracked (`history_eq_recent`).
-/
namespace Vigil

namespace Recorder

inductive Call where
  | track (m : MonitorId)
  | forget (m : MonitorId)
  | record (result : CheckResult)
  deriving DecidableEq

namespace Call

/-- Whom the call is about. -/
def monitor : Call → MonitorId
  | track m | forget m => m
  | record result => result.monitor

/-- The result that the call brings, if it is one of this monitor's. -/
def result? (m : MonitorId) : Call → Option CheckResult
  | record result => if result.monitor = m then some result else none
  | _ => none

end Call

def after (r : Recorder) : Call → Recorder
  | .track m => r.track m
  | .forget m => r.forget m
  | .record result => (r.record result).1

def run (r : Recorder) (calls : List Call) : Recorder := calls.foldl after r

theorem run_concat (r : Recorder) (calls : List Call) (c : Call) :
    r.run (calls ++ [c]) = (r.run calls).after c := by
  simp [run]

/-- The calls since a monitor became tracked: of those after it was last forgotten, the first that
tracks it and all that follow. There are none if it is not tracked. -/
def tenure (m : MonitorId) (calls : List Call) : List Call :=
  (calls.rtakeWhile (· ≠ .forget m)).dropWhile (· ≠ .track m)

/-- What becomes of the window of one monitor, if it has one. -/
def follow (capacity : Nat) (m : MonitorId) (window : Option (List CheckResult)) :
    Call → Option (List CheckResult)
  | .track id => if id = m then some (window.getD []) else window
  | .forget id => if id = m then none else window
  | .record result => if result.monitor = m then window.map (push capacity · result) else window

/-! ### One call -/

theorem after_capacity (r : Recorder) (c : Call) : (r.after c).capacity = r.capacity := by
  cases c with
  | track | forget => rfl
  | record result => exact r.record_capacity result

theorem run_capacity (r : Recorder) (calls : List Call) : (r.run calls).capacity = r.capacity := by
  induction calls generalizing r with
  | nil => rfl
  | cons c rest ih => exact (ih (r.after c)).trans (r.after_capacity c)

/-- A call moves one window. -/
theorem entries_after (r : Recorder) (c : Call) (m : MonitorId) :
    (r.after c).entries[m.value]? = follow r.capacity m r.entries[m.value]? c := by
  cases c with
  | track id =>
    simp only [after, track, follow, Std.ExtTreeMap.getElem?_insertIfNew]
    by_cases here : id = m
    · subst here
      cases found : r.entries[id.value]? <;> simp [found, Std.ExtTreeMap.mem_iff_isSome_getElem?]
    · simp [here, value_inj]
  | forget id =>
    simp only [after, forget, follow, Std.ExtTreeMap.getElem?_erase]
    simp [value_inj]
  | record result =>
    by_cases here : result.monitor = m
    · subst here
      simp only [after, record, follow, ↓reduceIte]
      cases found : r.entries[result.monitor.value]? with
      | none => simp [found]
      | some window => simp
    · simp only [after, record, follow, here, ↓reduceIte]
      split
      · simp [Std.ExtTreeMap.getElem?_insert, here, value_inj]
      · rfl

/-- A call about one monitor is nothing to another. -/
theorem follow_of_ne {c : Call} {m : MonitorId} (other : c.monitor ≠ m) (capacity : Nat)
    (window : Option (List CheckResult)) : follow capacity m window c = window := by
  cases c <;> exact if_neg other

theorem isTracked_eq (r : Recorder) (m : MonitorId) :
    r.isTracked m = r.entries[m.value]?.isSome := by
  rw [Bool.eq_iff_iff, isTracked, decide_eq_true_iff]
  exact Std.ExtTreeMap.mem_iff_isSome_getElem?

/-! ### Tenures -/

theorem tenure_concat (m : MonitorId) (calls : List Call) (c : Call) :
    tenure m (calls ++ [c]) =
      if c = .forget m then []
      else if tenure m calls = [] then (if c = .track m then [c] else [])
      else tenure m calls ++ [c] := by
  unfold tenure
  rw [List.rtakeWhile_concat]
  by_cases gone : c = .forget m
  · simp [gone]
  · simp only [gone, ne_eq, not_false_eq_true, decide_true, ↓reduceIte, List.dropWhile_append]
    cases (calls.rtakeWhile (· ≠ .forget m)).dropWhile (· ≠ .track m) with
    | nil => by_cases taken : c = .track m <;> simp [taken]
    | cons => simp

theorem tenure_of_ne {c : Call} {m : MonitorId} (other : c.monitor ≠ m) (calls : List Call) :
    tenure m (calls ++ [c]) = if tenure m calls = [] then [] else tenure m calls ++ [c] := by
  have unlike : c ≠ .forget m ∧ c ≠ .track m := by
    constructor <;> (rintro rfl; exact other rfl)
  rw [tenure_concat, if_neg unlike.1, if_neg unlike.2]

theorem result?_of_ne {c : Call} {m : MonitorId} (other : c.monitor ≠ m) : c.result? m = none := by
  cases c with
  | track | forget => rfl
  | record result => exact if_neg other

/-- What is kept of a monitor: nothing, or the last results of its tenure. -/
theorem entries_run (n : Nat) (calls : List Call) (m : MonitorId) :
    ((ofCapacity n).run calls).entries[m.value]? =
      if tenure m calls = [] then none
      else some (((tenure m calls).filterMap (Call.result? m)).rtake (max n 1)) := by
  induction calls using List.reverseRecOn with
  | nil => simp [run, ofCapacity, tenure]
  | append_singleton calls c ih =>
    have room : ((ofCapacity n).run calls).capacity = max n 1 := run_capacity _ calls
    have positive : 0 < max n 1 := by omega
    rw [run_concat, entries_after, ih, room]
    by_cases here : c.monitor = m
    · subst here
      rw [tenure_concat]
      cases c with
      | track id =>
        by_cases idle : tenure id calls = [] <;>
          simp [follow, Call.monitor, idle, List.filterMap_cons, Call.result?]
      | forget id => simp [follow, Call.monitor]
      | record result =>
        by_cases idle : tenure result.monitor calls = [] <;>
          simp [follow, Call.monitor, idle, Call.result?, push_rtake positive]
    · rw [follow_of_ne here, tenure_of_ne here]
      by_cases idle : tenure m calls = [] <;>
        simp [idle, result?_of_ne here]

/-- Calls about other monitors might as well not have been made. -/
theorem entries_filter (r : Recorder) (calls : List Call) (m : MonitorId) :
    (r.run (calls.filter (·.monitor = m))).entries[m.value]? = (r.run calls).entries[m.value]? := by
  induction calls using List.reverseRecOn with
  | nil => rfl
  | append_singleton calls c ih =>
    rw [List.filter_append, run_concat, entries_after, run_capacity, ← ih]
    by_cases here : c.monitor = m
    · rw [List.filter_singleton, here]
      simp only [decide_true, cond_true, run_concat, entries_after, run_capacity]
    · rw [List.filter_singleton]
      simp only [here, decide_false, cond_false, List.append_nil, follow_of_ne here]

/-- A recorder of any capacity, after any calls about any monitors, remembers of a monitor the last
results that were recorded since it became tracked, as many as there is room for and at least one,
the oldest first; the most recent one is the last of them. It became tracked when it was first
tracked after it was last forgotten: to track it again starts nothing anew. A monitor that is not
tracked has no history, and a result of it changes nothing. What is called for other monitors makes
no difference: not the next call, and not any of those that were made. -/
theorem history_eq_recent (n : Nat) (calls : List Call) (m : MonitorId) :
    let r := (ofCapacity n).run calls
    let recent := ((tenure m calls).filterMap (Call.result? m)).rtake (max n 1)
    r.history m = recent ∧ r.latest m = recent.getLast? ∧
      r.isTracked m = (tenure m calls != []) ∧
      (r.isTracked m = false → r.history m = [] ∧ ∀ result, result.monitor = m →
        r.record result = (r, [.received result, .dropped m])) ∧
      (∀ c : Call, c.monitor ≠ m → (r.after c).history m = r.history m ∧
        (r.after c).latest m = r.latest m ∧ (r.after c).isTracked m = r.isTracked m) ∧
      ((ofCapacity n).run (calls.filter (·.monitor = m))).history m = r.history m := by
  intro r recent
  have kept : r.entries[m.value]? = if tenure m calls = [] then none else some recent :=
    entries_run n calls m
  have remembered : r.history m = recent := by
    rw [history, kept]
    split
    next idle => simp [recent, idle]
    next => rfl
  have tracked : r.isTracked m = (tenure m calls != []) := by
    rw [isTracked_eq, kept]
    split
    next idle => simp [idle]
    next active => simpa using active
  refine ⟨remembered, by rw [latest, remembered], tracked, ?_, ?_, ?_⟩
  · intro untracked
    refine ⟨history_untracked untracked, ?_⟩
    rintro result rfl
    have absent : r.entries[result.monitor.value]? = none := by
      rwa [isTracked_eq, Option.isSome_eq_false_iff, Option.isNone_iff_eq_none] at untracked
    simp only [record, absent]
  · intro c other
    have still : (r.after c).entries[m.value]? = r.entries[m.value]? := by
      rw [entries_after, follow_of_ne other]
    simp only [history, latest, isTracked_eq, still, and_self]
  · rw [history, history, entries_filter]

/-- Two monitors and room for two results. The first is forgotten and tracked again, twice in a row,
with results before, between and after; the other one is forgotten for good. -/
theorem forgotten_then_tracked_twice :
    let a : MonitorId := ⟨1⟩
    let b : MonitorId := ⟨2⟩
    let result (m : MonitorId) (latency : Nat) : CheckResult :=
      { monitor := m, target := "db:5432", checkType := .tcp, latency := some latency }
    let calls : List Call :=
      [.record (result a 1), .track a, .record (result a 2), .track b, .forget a,
        .record (result a 3), .track a, .record (result a 4), .record (result b 5), .track a,
        .record (result a 6), .forget b, .record (result a 7)]
    let r := (ofCapacity 2).run calls
    r.history a = [result a 6, result a 7] ∧ r.latest a = some (result a 7) ∧
      r.isTracked b = false ∧ r.history b = [] ∧
      r.record (result b 8) = (r, [.received (result b 8), .dropped b]) ∧
      (Call.record (result b 9)).monitor ≠ a ∧
      (r.after (.record (result b 9))).history a = r.history a := by
  intro a b result calls r
  obtain ⟨remembered, last, _, _, others, _⟩ := history_eq_recent 2 calls a
  obtain ⟨_, _, tracked, dropped, _⟩ := history_eq_recent 2 calls b
  have recent : ((tenure a calls).filterMap (Call.result? a)).rtake 2 =
      [result a 6, result a 7] := by decide +kernel
  have untracked : r.isTracked b = false := tracked.trans (by decide +kernel)
  have other : (Call.record (result b 9)).monitor ≠ a := by decide +kernel
  refine ⟨remembered.trans recent, last.trans ?_, untracked, (dropped untracked).1,
    (dropped untracked).2 _ rfl, other, (others _ other).1⟩
  exact congrArg List.getLast? recent

end Recorder

end Vigil
