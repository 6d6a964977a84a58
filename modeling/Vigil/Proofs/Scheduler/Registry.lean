import Mathlib.Data.List.Nodup
import Vigil.Proofs.Scheduler.Attention

/-!
# Names are given once

No two queues are registered under one name (`Reached.distinct`): a name that is taken is refused,
and nothing else puts a queue into the registry.
-/
namespace Vigil

open Queue

variable {ω : Type}

namespace Scheduler

variable {s s' : Scheduler ω} {name : String}

/-- The names of the registered queues, the oldest first. -/
def titles (s : Scheduler ω) : List String := s.lines.map (·.name)

/-- Where names are given once, a line is the one of its name. -/
theorem line?_of_mem (distinct : s.titles.Nodup) {line : Line ω} (present : line ∈ s.lines) :
    s.line? line.name = some line := by
  have some_ : (s.line? line.name).isSome := List.find?_isSome.mpr ⟨line, present, by simp⟩
  obtain ⟨other, found⟩ := Option.isSome_iff_exists.mp some_
  have named : other.name = line.name := by simpa using List.find?_some found
  obtain rfl : other = line :=
    List.inj_on_of_nodup_map distinct (List.mem_of_find?_eq_some found) present named
  exact found

theorem titles_modifyLine (s : Scheduler ω) (name : String) {f : Line ω → Line ω}
    (keeps : ∀ l, (f l).name = l.name) : (s.modifyLine name f).titles = s.titles := by
  simp only [titles, modifyLine, List.map_map]
  refine List.map_congr_left fun l _ => ?_
  simp only [Function.comp_apply]
  split <;> simp [keeps]

theorem titles_wake (s : Scheduler ω) (name : String) : (s.wake name).titles = s.titles := by
  rcases wake_cases s name with ⟨same, _⟩ | ⟨_, _, _, _, woken⟩
  · rw [same]
  · rw [woken]
    exact titles_modifyLine s name (f := fun l => { l with loop := .runnable }) fun _ => rfl

theorem titles_foldl_wake (names : List String) (s : Scheduler ω) :
    (names.foldl wake s).titles = s.titles := by
  induction names generalizing s with
  | nil => rfl
  | cons name rest ih => rw [List.foldl_cons, ih, titles_wake]

theorem titles_putQueue (s : Scheduler ω) (name : String) (q : Queue ω) (wakes : Bool) :
    (s.putQueue name q wakes).titles = s.titles := by
  have put := titles_modifyLine s name (f := fun l => { l with queue := q }) fun _ => rfl
  unfold putQueue
  split
  · exact (titles_wake _ name).trans put
  · exact put

theorem titles_foldl_detach (lines : List (Line ω)) (s : Scheduler ω) :
    (lines.foldl detach s).titles.Sublist s.titles := by
  induction lines generalizing s with
  | nil => exact .refl _
  | cons line rest ih =>
    have one : (s.detach line).titles.Sublist s.titles := by
      rw [titles, detach_eq]
      exact List.filter_sublist.map _
    exact (ih _).trans one

theorem Served.distinct {call : Call ω} (served : Served s name call s')
    (distinct : s.titles.Nodup) : s'.titles.Nodup := by
  cases served with
  | refused => exact distinct
  | added free =>
    have new : name ∉ s.titles := by
      intro member
      obtain ⟨line, inside, named⟩ := List.mem_map.mp member
      exact List.find?_eq_none.mp free line inside (by simp [named])
    simp only [titles, List.map_append, List.map_cons, List.map_nil]
    exact List.nodup_append.mpr ⟨distinct, List.nodup_singleton _, fun a inside b last => by
      rintro rfl
      exact new (List.mem_singleton.mp last ▸ inside)⟩
  | detached => exact distinct.sublist (titles_foldl_detach [_] s)
  | put => exact titles_putQueue s name _ _ ▸ distinct

theorem titles_reschedule (sound : ∀ n q, s.queue? n = some q → q.Sound) (other : String)
    (t : Task ω) : (s.reschedule other t).1.titles = s.titles := by
  have back := reschedule_rescheduled (sound other) t
  generalize (s.reschedule other t).1 = s' at back
  cases back with
  | dropped => rfl
  | revoked | returned => exact titles_putQueue s other _ _

theorem titles_perform (sound : ∀ n q, s.queue? n = some q → q.Sound) (plan : Task ω → Execution)
    (job : Job ω) : (s.perform plan job).1.titles = s.titles := by
  cases job with
  | dispatch other =>
    have looked := dispatch_looked (sound other)
    simp only [perform]
    generalize (s.dispatch other).1 = s' at looked
    cases looked with
    | missing => rfl
    | left => exact titles_modifyLine s other (f := fun l => { l with loop := .ended }) fun _ => rfl
    | @slept _ q _ wakeAt =>
      exact titles_modifyLine s other (f := fun l => { l with queue := q, loop := .blocked wakeAt })
        fun _ => rfl
  | retire | release => rfl
  | finish r => exact titles_reschedule sound r.queue r.task
  | expire r =>
    exact titles_reschedule (s := { s with ready := s.ready ++ [.release r] }) sound r.queue r.task
  | start other k t =>
    simp only [perform, start_eq]
    refine launch_induction s _ ?_ ?_ rfl
    · exact titles_reschedule sound other t
    · exact titles_reschedule (s := { s with ready := s.ready ++ [.release _] }) sound other t

end Scheduler

namespace Chronicle

variable {c : Chronicle ω}

theorem Reached.distinct (reached : Reached c) : c.scheduler.titles.Nodup := by
  induction reached with
  | fresh => exact List.nodup_nil
  | @step c reached move ih =>
    have sound : ∀ n q, c.scheduler.queue? n = some q → q.Sound := fun _ => reached.sound
    cases move with
    | client other call => exact (Scheduler.serve_served (sound other) call).distinct ih
    | cancel => exact Scheduler.titles_foldl_wake _ { c.scheduler with stopping := true } ▸ ih
    | shutdown =>
      have kept : c.scheduler.cancel.titles = c.scheduler.titles :=
        Scheduler.titles_foldl_wake _ { c.scheduler with stopping := true }
      exact (kept ▸ ih).sublist (Scheduler.titles_foldl_detach _ c.scheduler.cancel)
    | take other =>
      simp only [Chronicle.step]
      split
      · exact ih
      next took =>
        obtain ⟨line, _, _, _, _, rfl⟩ := Scheduler.takeOne?_took (sound other) took
        exact c.scheduler.titles_modifyLine other
          (f := fun l => { l with queue := line.queue.take _ }) (fun _ => rfl) ▸ ih
    | work plan place =>
      simp only [Chronicle.step]
      split
      · exact ih
      next job found =>
        exact Scheduler.titles_perform (s := { c.scheduler with
          ready := c.scheduler.ready.eraseIdx place }) sound plan job ▸ ih
    | wait duration =>
      exact Scheduler.titles_foldl_wake _ { c.scheduler with
        now := c.scheduler.now + duration } ▸ ih

end Chronicle

end Vigil
