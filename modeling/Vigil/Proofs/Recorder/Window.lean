import Mathlib.Data.List.DropRight
import Vigil.Recorder

/-!
# The window of a monitor

A recorder keeps the last results of each tracked monitor, as many as it has room for. Recording
moves the window of the monitor a result is of, and of no other one; it starts no window and drops
none.
-/
namespace Vigil

namespace Recorder

theorem value_inj (a b : MonitorId) : a.value = b.value ↔ a = b := by
  cases a
  cases b
  simp

/-- A window that is full makes room for one more result. -/
theorem push_rtake {capacity : Nat} (positive : 0 < capacity) (past : List CheckResult)
    (r : CheckResult) : push capacity (past.rtake capacity) r = (past ++ [r]).rtake capacity := by
  obtain ⟨n, rfl⟩ := Nat.exists_eq_succ_of_ne_zero (Nat.ne_of_gt positive)
  rw [List.rtake_concat_succ, push]
  congr 1
  by_cases full : (past.rtake n.succ).length = n.succ
  · rw [if_pos full, List.rtake, List.rtake, List.drop_drop]
    rw [List.rtake, List.length_drop] at full
    congr 1
    omega
  · rw [if_neg full, List.rtake, List.rtake]
    rw [List.rtake, List.length_drop] at full
    congr 1
    omega

theorem record_capacity (r : Recorder) (result : CheckResult) :
    (r.record result).1.capacity = r.capacity := by
  unfold record
  split <;> rfl

/-- Whether the result is one of this monitor's. -/
def isFrom (m : MonitorId) (r : CheckResult) : Bool := r.monitor = m

theorem record_window {r : Recorder} (positive : 0 < r.capacity) {m : MonitorId}
    {past : List CheckResult} (window : r.entries[m.value]? = some (past.rtake r.capacity))
    (result : CheckResult) :
    (r.record result).1.entries[m.value]? =
      some ((past ++ [result].filter (isFrom m)).rtake r.capacity) := by
  by_cases here : result.monitor = m
  · subst here
    have mine : [result].filter (isFrom result.monitor) = [result] := by simp [isFrom]
    simp only [record, window, Std.ExtTreeMap.getElem?_insert_self, mine]
    rw [push_rtake positive]
  · have other : result.monitor.value ≠ m.value := fun same => here ((value_inj _ _).mp same)
    have foreign : [result].filter (isFrom m) = [] := by simp [isFrom, here]
    rw [foreign, List.append_nil]
    unfold record
    split
    · simp [Std.ExtTreeMap.getElem?_insert, other, window]
    · exact window

/-- The window holds the last results that were recorded, as many as it has room for. -/
theorem recordAll_window {r : Recorder} (positive : 0 < r.capacity) {m : MonitorId}
    {past : List CheckResult} (window : r.entries[m.value]? = some (past.rtake r.capacity))
    (results : List CheckResult) :
    (r.recordAll results).1.capacity = r.capacity ∧
      (r.recordAll results).1.entries[m.value]? =
        some ((past ++ results.filter (isFrom m)).rtake r.capacity) := by
  induction results generalizing r past with
  | nil =>
    simp only [recordAll, List.filter_nil, List.append_nil, true_and]
    exact window
  | cons result rest ih =>
    have same := record_capacity r result
    have first := record_window positive window result
    rw [← same] at first positive
    obtain ⟨capacity, final⟩ := ih positive first
    refine ⟨capacity.trans same, ?_⟩
    rw [← same]
    have split : (result :: rest).filter (isFrom m) =
        [result].filter (isFrom m) ++ rest.filter (isFrom m) := by
      rw [← List.filter_append]
      rfl
    rw [split, ← List.append_assoc]
    exact final

/-! ### Which monitors are tracked -/

theorem isTracked_track (r : Recorder) (id m : MonitorId) :
    (r.track id).isTracked m ↔ id = m ∨ r.isTracked m := by
  simp [isTracked, track, Std.ExtTreeMap.mem_insertIfNew, value_inj]

theorem isTracked_forget (r : Recorder) (id m : MonitorId) :
    (r.forget id).isTracked m ↔ id ≠ m ∧ r.isTracked m := by
  simp [isTracked, forget, Std.ExtTreeMap.mem_erase, value_inj]

/-- Recording starts no window and drops none. -/
theorem isTracked_record (r : Recorder) (result : CheckResult) (m : MonitorId) :
    (r.record result).1.isTracked m = r.isTracked m := by
  unfold record
  split
  next window found =>
    have there : result.monitor.value ∈ r.entries :=
      Std.ExtTreeMap.mem_iff_isSome_getElem?.mpr (by rw [found]; rfl)
    have same : ∀ k, k ∈ r.entries.insert result.monitor.value (push r.capacity window result) ↔
        k ∈ r.entries := by
      intro k
      simp only [Std.ExtTreeMap.mem_insert, Std.LawfulEqCmp.compare_eq_iff_eq]
      constructor
      · rintro (rfl | old)
        · exact there
        · exact old
      · exact Or.inr
    simp only [isTracked, same]
  next => rfl

theorem isTracked_recordAll (r : Recorder) (results : List CheckResult) (m : MonitorId) :
    (r.recordAll results).1.isTracked m = r.isTracked m := by
  induction results generalizing r with
  | nil => rfl
  | cons result rest ih =>
    simp only [recordAll, ih]
    exact isTracked_record r result m

/-- A result of a monitor that is tracked is the most recent one from now on. -/
theorem record_tracked {r : Recorder} {result : CheckResult}
    (tracked : r.isTracked result.monitor = true) :
    (r.record result).2 = [.received result] ∧
      (r.record result).1.latest result.monitor = some result := by
  have there : result.monitor.value ∈ r.entries := by simpa [isTracked] using tracked
  obtain ⟨window, found⟩ := Option.isSome_iff_exists.mp
    (Std.ExtTreeMap.mem_iff_isSome_getElem?.mp there)
  have last : (push r.capacity window result).getLast? = some result := by simp [push]
  simp only [record, found, latest, history, Std.ExtTreeMap.getElem?_insert_self, Option.getD_some,
    last, and_self]

/-- No result of a monitor that is tracked is dropped. -/
theorem not_dropped {r : Recorder} {m : MonitorId} (tracked : r.isTracked m = true)
    (results : List CheckResult) : .dropped m ∉ (r.recordAll results).2 := by
  induction results generalizing r with
  | nil => exact List.not_mem_nil
  | cons result rest ih =>
    simp only [recordAll, List.mem_append, not_or]
    refine ⟨fun dropped => ?_, ih ((isTracked_record r result m).trans tracked)⟩
    by_cases same : result.monitor = m
    · rw [(record_tracked (same ▸ tracked)).1] at dropped
      simp at dropped
    · unfold record at dropped
      split at dropped
      · simp at dropped
      · simp [Ne.symm same] at dropped

theorem history_untracked {r : Recorder} {m : MonitorId} (untracked : r.isTracked m = false) :
    r.history m = [] := by
  have absent : m.value ∉ r.entries := by simpa [isTracked] using untracked
  rw [history, Std.ExtTreeMap.getElem?_eq_none absent, Option.getD_none]

end Recorder

end Vigil
