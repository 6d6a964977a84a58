import Vigil.Proofs.Scheduler.Engagements
import Vigil.Proofs.Scheduler.Standing

/-!
# Timers

The next timer is an armed one, where none fires nothing happens but that time passes, and in a run
no armed timer is ever late (`Reached.ahead`): a loop sleeps until something is due that was not due
when it looked, and an execution that is over does not wait for its end.
-/
namespace Vigil

open Queue

variable {ω : Type}

namespace Scheduler

variable {s : Scheduler ω}

theorem armed_of_nextTimer {timer : Int} (first : s.nextTimer = some timer) : s.Armed timer := by
  have member := (List.mem_filter.mp (List.min?_mem first)).1
  rcases List.mem_append.mp member with loop | run
  · obtain ⟨line, present, sleeps⟩ := List.mem_filterMap.mp loop
    left
    refine ⟨line, present, ?_⟩
    split at sleeps
    next wakeAt blocked =>
      obtain ⟨w, rfl, rounded⟩ := Option.map_eq_some_iff.mp sleeps
      exact ⟨w, blocked, rounded.symm⟩
    next => cases sleeps
  · obtain ⟨r, running, ends⟩ := List.mem_filterMap.mp run
    exact .inr ⟨r, running, ends⟩

/-- Where no timer fires, nothing happens but that time passes. -/
theorem reach_quiet {now : Int} (quiet : ∀ timer, s.Armed timer → now < timer) :
    s.reach now = { s with now } := by
  have asleep : s.roused now = [] := by
    refine List.map_eq_nil_iff.mpr (List.filter_eq_nil_iff.mpr fun line present fires => ?_)
    split at fires
    next wakeAt blocked =>
      cases wakeAt with
      | none => cases fires
      | some w =>
        have on := quiet _ (.inl ⟨line, present, w, blocked, rfl⟩)
        rw [Option.any_some, decide_eq_true_eq] at fires
        omega
    next => cases fires
  have going (r : Run ω) (running : r ∈ s.running) :
      (r.overAt s.config.executionTimeout).any (· ≤ now) = false := by
    cases ends : r.overAt s.config.executionTimeout with
    | none => rfl
    | some c =>
      have on := quiet c (.inr ⟨r, running, ends⟩)
      rw [Option.any_some, decide_eq_false_iff_not]
      omega
  have past : s.running.filter (fun r => (r.overAt s.config.executionTimeout).any (· ≤ now)) =
      [] := List.filter_eq_nil_iff.mpr fun r running => by rw [going r running]; simp
  have stay : s.running.filter (fun r => !(r.overAt s.config.executionTimeout).any (· ≤ now)) =
      s.running := List.filter_eq_self.mpr fun r running => by rw [going r running]; rfl
  rw [reach_eq, asleep, List.foldl_nil, conclude, past, stay, List.map_nil, List.append_nil]

end Scheduler

namespace Chronicle

variable {c : Chronicle ω}

/-- Until the root token is cancelled, the loop of an open queue is about to look at it, or sleeps
with a timer that is early enough. -/
theorem Reached.minds (reached : Reached c) (going : c.scheduler.stopping = false)
    (name : String) : c.scheduler.Minds name := by
  induction reached with
  | fresh =>
    intro line found
    cases found
  | @step c reached move ih =>
    have flag : (c.step move).scheduler.stopping = (c.scheduler.stopping || move.stops) :=
      congrArg Prod.snd (setting_step reached move)
    rw [flag, Bool.or_eq_false_iff] at going
    exact minds_step reached (ih going.1) going.1 going.2

/-- No armed timer is late. -/
theorem Reached.ahead (reached : Reached c) {timer : Int} (armed : c.scheduler.Armed timer) :
    c.scheduler.now < timer := by
  rcases armed with ⟨line, present, wakeAt, sleeps, rfl⟩ | ⟨r, running, ends⟩
  · have here := Scheduler.line?_of_mem reached.distinct present
    have untold : ¬(c.scheduler.stopping = true ∨ line.queue.closed = true) := fun told =>
      (reached.heeds line.name line here).2 told (some wakeAt) sleeps
    rw [not_or, Bool.not_eq_true, Bool.not_eq_true] at untold
    rcases reached.minds untold.1 line.name line here untold.2 with
      ⟨awake | awake, _⟩ | ⟨wakeAt', sleeps', on, _⟩
    · rw [sleeps] at awake
      cases awake
    · rw [sleeps] at awake
      cases awake
    · cases sleeps.symm.trans sleeps'
      exact on wakeAt rfl
  · exact reached.punctual r running timer ends

end Chronicle

end Vigil
