import Vigil.Proofs.Queue.Upsert

/-!
# Tasks in the order in which they leave

Tasks that are put into an empty queue one after the other leave it in order of due time, and those
that are due at the same time in the order in which they were put in. What a consumer takes in one
look is the part of that order that is due.
-/
namespace Vigil

variable {ω : Type}

namespace Agenda

/-- `agenda` has the same tasks in order of due time, tied tasks staying in the order they had. -/
structure Arranges (tasks agenda : List (Task ω)) : Prop where
  perm : agenda.Perm tasks
  sorted : agenda.Pairwise (·.due ≤ ·.due)
  ties : ∀ due, agenda.filter (·.due = due) = tasks.filter (·.due = due)

variable {tasks agenda : List (Task ω)}

theorem Arranges.nil : Arranges ([] : List (Task ω)) [] := ⟨.nil, .nil, fun _ => rfl⟩

theorem Arranges.enlist (arranged : Arranges tasks agenda) (t : Task ω) :
    Arranges (tasks ++ [t]) (enlist (·.due) t agenda) := by
  obtain ⟨ahead, behind, listed, parts, sooner, later⟩ := exists_enlist t arranged.sorted
  have before := parts ▸ arranged.sorted
  refine ⟨?_, ?_, fun due => ?_⟩
  · exact (enlist_perm _ t agenda).trans
      ((arranged.perm.cons t).trans (List.perm_append_singleton t tasks).symm)
  · obtain ⟨front, back, across⟩ := List.pairwise_append.mp before
    rw [listed]
    refine List.pairwise_append.mpr ⟨front, ?_, fun u inFront v inBack => ?_⟩
    · exact List.pairwise_cons.mpr ⟨fun u inBack => Int.le_of_lt (later u inBack), back⟩
    · rcases List.mem_cons.mp inBack with rfl | inBack
      · exact sooner u inFront
      · exact across u inFront v inBack
  · have earlier : ahead.filter (·.due = due) ++ behind.filter (·.due = due) =
        tasks.filter (·.due = due) := by
      rw [← List.filter_append, parts, arranged.ties due]
    rw [listed, List.filter_append, List.filter_append, ← earlier]
    by_cases tied : t.due = due
    · -- whatever stands behind the task is due later, so none of it is tied with it
      have none_behind : behind.filter (·.due = due) = [] :=
        List.filter_eq_nil_iff.mpr fun u inBack => by
          have after := later u inBack
          simp only [decide_eq_true_eq]
          omega
      simp [tied, none_behind]
    · simp [tied]

theorem Arranges.filter (arranged : Arranges tasks agenda) (p : Task ω → Bool) :
    Arranges (tasks.filter p) (agenda.filter p) := by
  refine ⟨arranged.perm.filter p, arranged.sorted.filter p, fun due => ?_⟩
  rw [List.filter_comm, arranged.ties due, List.filter_comm]

end Agenda

namespace Queue

variable {q : Queue ω} {tasks : List (Task ω)}

/-- A consumer that looks at an open queue takes all that is due, in order of leaving. -/
theorem Sound.takeDue_tasks (sound : q.Sound) (open_ : q.closed = false) (now : Int) :
    (q.takeDue now).2.1 = q.outline.agenda.filter (·.isDue now) := by
  fun_induction Queue.takeDue q now with
  | case1 q looked => exact absurd (glance_closed.mp looked) (by simp [open_])
  | case2 q wakeAt looked =>
    obtain ⟨_, _, asleep⟩ := glance_sleep sound looked
    have top := sound.peek_eq
    have sorted := sound.sorted
    refine (List.filter_eq_nil_iff.mpr fun t member => ?_).symm
    cases listed : q.outline.agenda with
    | nil => simp [listed] at member
    | cons head rest =>
      rw [listed] at top sorted member
      have late := asleep head top
      have least : head.due ≤ t.due := by
        rcases List.mem_cons.mp member with rfl | behind
        · exact Int.le_refl _
        · exact (List.pairwise_cons.mp sorted).1 t behind
      simp only [Task.isDue, decide_eq_true_eq]
      omega
  | case3 q t rest looked after taken last eq ih =>
    obtain ⟨_, head, due, rfl⟩ := glance_taken sound looked
    obtain ⟨_, still, _⟩ := sound.take open_ head
    have others := ih still open_
    rw [eq] at others
    rw [sound.outline_take head, List.filter_cons_of_pos (by simpa [Task.isDue] using due),
      ← others]

/-- An open queue that holds these tasks and no others, arranged in order of leaving. -/
structure Keeps (q : Queue ω) (tasks : List (Task ω)) : Prop where
  sound : q.Sound
  open_ : q.closed = false
  landed : q.inFlight = ∅
  arranged : Agenda.Arranges tasks q.outline.agenda

theorem keeps_empty : ({} : Queue ω).Keeps [] := by
  refine ⟨sound_empty, rfl, rfl, ?_⟩
  have none_ : ({} : Queue ω).outline.agenda = [] :=
    List.eq_nil_iff_forall_not_mem.mpr fun t member => by
      cases (sound_empty.mem_agenda t).mp member
  exact none_ ▸ .nil

theorem Keeps.find?_eq_some_iff (keeps : q.Keeps tasks) {id : String} {t : Task ω} :
    q.find? id = some t ↔ t ∈ tasks ∧ t.id = id := by
  rw [keeps.sound.find?_eq_some_iff, ← keeps.sound.mem_agenda, keeps.arranged.perm.mem_iff]

theorem Keeps.find?_eq_none (keeps : q.Keeps tasks) {id : String}
    (free : ∀ t ∈ tasks, t.id ≠ id) : q.find? id = none :=
  Option.eq_none_iff_forall_not_mem.mpr fun t found =>
    have ⟨member, named⟩ := keeps.find?_eq_some_iff.mp found
    free t member named

theorem Keeps.place (keeps : q.Keeps tasks) {t : Task ω} (free : ∀ u ∈ tasks, u.id ≠ t.id) :
    (q.place t).Keeps (tasks ++ [t]) := by
  have absent := keeps.find?_eq_none free
  have outline := keeps.sound.outline_place absent
  refine ⟨(keeps.sound.place keeps.open_ absent).1, keeps.open_, ?_, ?_⟩
  · have marks : (q.place t).inFlight = q.inFlight.erase t.id := congrArg Outline.flying outline
    rw [marks, keeps.landed]
    exact Std.ExtTreeSet.ext_mem fun other => by simp
  · have agenda : (q.place t).outline.agenda =
        enlist (·.due) t (Agenda.without t.id q.outline.agenda) := congrArg Outline.agenda outline
    rw [agenda, keeps.sound.agenda_free absent]
    exact keeps.arranged.enlist t

/-- One look of a consumer takes what is due by then, the tied tasks in the order of the list. -/
theorem Keeps.takeDue (keeps : q.Keeps tasks) (now : Int) :
    Agenda.Arranges (tasks.filter (·.isDue now)) (q.takeDue now).2.1 := by
  rw [keeps.sound.takeDue_tasks keeps.open_ now]
  exact keeps.arranged.filter _

end Queue

end Vigil
