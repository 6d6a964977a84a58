import Vigil.Proofs.Service.Journal

/-!
# Results of monitors that exist are kept, those of deleted monitors are not

A registration has the monitor tracked before it hands the task to the queue, and a deletion has
the task taken out of the queue before the monitor is forgotten. So the queue knows tracked monitors
only (`Guarded.known`), whatever comes between the steps of the calls, and whether the queue is there
at all; and as nobody draws an identity twice, a monitor that was deleted is never tracked again.
-/
namespace Vigil

namespace Service

/-- The queue has not been given the monitor's task yet, or has refused it. -/
def Stage.early : Stage → Bool
  | .tracking _ | .registering .. | .untracking _ => true
  | _ => false

/-- Whether the recorder has to track the monitor before this step. -/
def Stage.followed : Stage → Bool
  | .tracking _ | .untracking _ => false
  | _ => true

/-- The call is about a monitor that is stored. -/
def Stage.old : Stage → Bool
  | .tracking _ | .registering .. | .untracking _ | .storing _ => false
  | _ => true

def Stage.task? : Stage → Option (Task Monitor)
  | .registering _ t | .clearing _ t | .pushing _ t | .enabling _ t => some t
  | _ => none

namespace Traffic

/-- The call that holds the lock is about this monitor. -/
def Held (t : Traffic) (id : MonitorId) : Prop := ∃ stage ∈ t.holder, stage.monitor.id = id

/-- The queue must not know the monitor, as the next step about it has the recorder forget it, or is
one that may fail and lead there. -/
def Barred (t : Traffic) (id : MonitorId) : Prop :=
  .forgetting id ∈ t.leaving ∨ ∃ stage ∈ t.holder, stage.monitor.id = id ∧ stage.early = true

/-- A monitor that is tracked, and that nobody is about to make untracked. -/
def Safe (t : Traffic) (id : MonitorId) : Prop :=
  id.Proper ∧ t.service.recorder.isTracked id = true ∧ ¬ t.Barred id

/-- The queue knows safe monitors only. -/
def Guarded (t : Traffic) : Prop :=
  ∀ text, t.service.scheduler.Knows t.service.queue text → ∃ id : MonitorId, id.text = text ∧ t.Safe id

section

variable {t t' : Traffic}

theorem Guarded.congr (guarded : t.Guarded)
    (known : ∀ text, t'.service.scheduler.Knows t'.service.queue text →
      t.service.scheduler.Knows t.service.queue text)
    (safe : ∀ id, t.Safe id → t'.Safe id) : t'.Guarded := by
  intro text inside
  obtain ⟨id, shown, still⟩ := guarded text (known text inside)
  exact ⟨id, shown, safe id still⟩

/-- One monitor more is known, and it is safe. -/
theorem Guarded.add (guarded : t.Guarded) (id : MonitorId) (new : t'.Safe id)
    (known : ∀ text, t'.service.scheduler.Knows t'.service.queue text →
      id.text = text ∨ t.service.scheduler.Knows t.service.queue text)
    (safe : ∀ other, t.Safe other → t'.Safe other) : t'.Guarded := by
  intro text inside
  rcases known text inside with shown | before
  · exact ⟨id, shown, new⟩
  · obtain ⟨other, shown, still⟩ := guarded text before
    exact ⟨other, shown, safe other still⟩

/-- One monitor is known no more, and it alone has to be safe no more. -/
theorem Guarded.drop (guarded : t.Guarded) {id : MonitorId}
    (known : ∀ text, t'.service.scheduler.Knows t'.service.queue text →
      id.text ≠ text ∧ t.service.scheduler.Knows t.service.queue text)
    (safe : ∀ other, id ≠ other → t.Safe other → t'.Safe other) : t'.Guarded := by
  intro text inside
  obtain ⟨apart, before⟩ := known text inside
  obtain ⟨other, rfl, still⟩ := guarded text before
  exact ⟨other, rfl, safe other (fun same => apart (congrArg MonitorId.text same)) still⟩

end

/-! ### Who is enrolled -/

/-- A call is about the monitor, or it is stored. -/
def Present (t : Traffic) (id : MonitorId) : Prop :=
  t.service.Stored id ∨ t.Held id ∨ t.Pardoned id

/-- Who is tracked and why. Whoever is present was drawn, and what was deleted does not come back. -/
structure Enrolled (t : Traffic) (drawn deleted : List MonitorId) : Prop where
  stored : ∀ id, t.service.Stored id → id.Proper ∧ t.service.recorder.isTracked id = true
  held : ∀ stage ∈ t.holder, stage.monitor.id.Proper ∧
    (stage.followed = true → t.service.recorder.isTracked stage.monitor.id = true) ∧
    (t.service.Stored stage.monitor.id ↔ stage.old = true) ∧
    ∀ u ∈ stage.task?, u.id = stage.monitor.taskId
  leaving : ∀ p ∈ t.leaving, p.id.Proper ∧ ¬ t.service.Stored p.id ∧ ¬ t.Held p.id
  tracked : ∀ id, t.service.recorder.isTracked id = true → t.Present id
  present : ∀ id, t.Present id → id ∈ drawn
  gone : ∀ id ∈ deleted, id ∈ drawn ∧ t.service.recorder.isTracked id = false ∧
    ¬ t.service.Stored id ∧ ¬ t.Held id

section

variable {s s' : Service} {stage stage' : Stage} {holder : Option Stage} {leaving : List Parting}
  {drawn deleted : List MonitorId} {id : MonitorId} {m : Monitor}

theorem held_some : ({ service := s, holder := some stage, leaving } : Traffic).Held id ↔
    stage.monitor.id = id := by
  simp [Held]

theorem not_held_none : ¬ ({ service := s, leaving } : Traffic).Held id := by
  simp [Held]

theorem Enrolled.congr
    (enrolled : ({ service := s, holder, leaving } : Traffic).Enrolled drawn deleted)
    (stored : ∀ id, s'.Stored id ↔ s.Stored id)
    (tracked : ∀ id, s'.recorder.isTracked id = s.recorder.isTracked id) :
    ({ service := s', holder, leaving } : Traffic).Enrolled drawn deleted := by
  obtain ⟨stored_, held, leaving_, tracked_, present, gone⟩ := enrolled
  simp only [Present, ← stored, ← tracked] at stored_ held leaving_ tracked_ present gone
  exact ⟨stored_, held, leaving_, tracked_, present, gone⟩

/-- The call that holds the lock goes on. -/
theorem Enrolled.advance
    (enrolled : ({ service := s, holder := some stage, leaving } : Traffic).Enrolled drawn deleted)
    (same : stage'.monitor.id = stage.monitor.id) (old : stage'.old = stage.old)
    (tracked : s.recorder.isTracked stage.monitor.id = true)
    (named : ∀ u ∈ stage'.task?, u.id = stage.monitor.taskId) :
    ({ service := s, holder := some stage', leaving } : Traffic).Enrolled drawn deleted := by
  obtain ⟨stored, held, leaving_, tracked_, present, gone⟩ := enrolled
  obtain ⟨proper, _, storedIff, _⟩ := held stage rfl
  simp only [Present, held_some, ← same] at leaving_ tracked_ present gone tracked proper storedIff
  refine ⟨stored, ?_, ?_, ?_, ?_, ?_⟩
  · rintro _ ⟨⟩
    refine ⟨proper, fun _ => tracked, old ▸ storedIff, fun u about => ?_⟩
    rw [named u about, Monitor.taskId, Monitor.taskId, same]
  · simpa only [held_some] using leaving_
  · simpa only [Present, held_some, Pardoned] using tracked_
  · simpa only [Present, held_some, Pardoned] using present
  · simpa only [held_some] using gone

/-- The call that holds the lock gives it back. -/
theorem Enrolled.release
    (enrolled : ({ service := s, holder := some stage, leaving } : Traffic).Enrolled drawn deleted)
    (fair : s.recorder.isTracked stage.monitor.id = true → s.Stored stage.monitor.id) :
    ({ service := s, leaving } : Traffic).Enrolled drawn deleted := by
  obtain ⟨stored, held, leaving_, tracked, present, gone⟩ := enrolled
  refine ⟨stored, (fun _ here => nomatch here), ?_, ?_, ?_, ?_⟩
  · exact fun p member => ⟨(leaving_ p member).1, (leaving_ p member).2.1, not_held_none⟩
  · intro other there
    rcases tracked other there with before | held | leaves
    · exact .inl before
    · exact .inl (held_some.mp held ▸ fair (held_some.mp held ▸ there))
    · exact .inr (.inr leaves)
  · rintro other (there | held | leaves)
    · exact present other (.inl there)
    · exact absurd held not_held_none
    · exact present other (.inr (.inr leaves))
  · exact fun other member => ⟨(gone other member).1, (gone other member).2.1,
      (gone other member).2.2.1, not_held_none⟩

/-- The recorder begins to track the monitor of the call that holds the lock. -/
theorem Enrolled.track
    (enrolled : ({ service := s, holder := some stage, leaving } : Traffic).Enrolled drawn deleted) :
    ({ service := s.putRecorder (s.recorder.track stage.monitor.id), holder := some stage, leaving } :
      Traffic).Enrolled drawn deleted := by
  obtain ⟨stored, held, leaving_, tracked, present, gone⟩ := enrolled
  have more : ∀ id, s.recorder.isTracked id = true →
      (s.recorder.track stage.monitor.id).isTracked id = true :=
    fun id there => (Recorder.isTracked_track ..).mpr (.inr there)
  refine ⟨?_, ?_, leaving_, ?_, present, ?_⟩
  · exact fun id there => (stored id there).imp_right (more id)
  · rintro _ ⟨⟩
    obtain ⟨proper, _, others⟩ := held stage rfl
    exact ⟨proper, fun _ => (Recorder.isTracked_track ..).mpr (.inl rfl), others⟩
  · intro id there
    rcases (Recorder.isTracked_track ..).mp there with same | before
    · exact .inr (.inl (held_some.mpr same))
    · exact tracked id before
  · intro id member
    obtain ⟨known, untracked, unstored, unheld⟩ := gone id member
    refine ⟨known, ?_, unstored, unheld⟩
    rw [← Bool.not_eq_true] at untracked ⊢
    rintro there
    rcases (Recorder.isTracked_track ..).mp there with same | before
    · exact unheld (held_some.mpr same)
    · exact untracked before

/-- The recorder forgets a monitor that is not stored, and that no call needs any more. -/
theorem Enrolled.forget
    (enrolled : ({ service := s, holder, leaving } : Traffic).Enrolled drawn deleted)
    (unstored : ¬ s.Stored id)
    (idle : ∀ stage ∈ holder, stage.monitor.id = id → stage.followed = false) :
    ({ service := s.forget id, holder, leaving } : Traffic).Enrolled drawn deleted := by
  obtain ⟨stored, held, leaving_, tracked, present, gone⟩ := enrolled
  refine ⟨?_, ?_, leaving_, ?_, present, ?_⟩
  · intro other there
    obtain ⟨proper, follows⟩ := stored other there
    refine ⟨proper, (Recorder.isTracked_forget ..).mpr ⟨?_, follows⟩⟩
    rintro rfl
    exact unstored there
  · intro stage here
    obtain ⟨proper, follows, others⟩ := held stage here
    refine ⟨proper, fun followed => (Recorder.isTracked_forget ..).mpr ⟨?_, follows followed⟩, others⟩
    intro same
    rw [idle stage here same.symm] at followed
    cases followed
  · exact fun other there => tracked other ((Recorder.isTracked_forget ..).mp there).2
  · intro other member
    obtain ⟨known, untracked, others⟩ := gone other member
    refine ⟨known, ?_, others⟩
    rw [← Bool.not_eq_true] at untracked ⊢
    exact fun there => untracked ((Recorder.isTracked_forget ..).mp there).2

/-- Deletions go on. One may end once its monitor is not tracked any more. -/
theorem Enrolled.leave {leaving' : List Parting}
    (enrolled : ({ service := s, holder, leaving } : Traffic).Enrolled drawn deleted)
    (fewer : ∀ p ∈ leaving', ∃ q ∈ leaving, q.id = p.id)
    (fair : ∀ p ∈ leaving, s.recorder.isTracked p.id = true → ∃ q ∈ leaving', q.id = p.id) :
    ({ service := s, holder, leaving := leaving' } : Traffic).Enrolled drawn deleted := by
  obtain ⟨stored, held, leaving_, tracked, present, gone⟩ := enrolled
  refine ⟨stored, held, ?_, ?_, ?_, gone⟩
  · intro p member
    obtain ⟨q, before, same⟩ := fewer p member
    exact same ▸ leaving_ q before
  · intro other there
    refine (tracked other there).imp_right (Or.imp_right ?_)
    rintro ⟨p, member, rfl⟩
    exact fair p member there
  · intro other about
    refine present other (about.imp_right (Or.imp_right ?_))
    rintro ⟨p, member, rfl⟩
    exact fewer p member

/-- A deletion has returned. -/
theorem Enrolled.finish
    (enrolled : ({ service := s, holder, leaving } : Traffic).Enrolled drawn deleted)
    (known : id ∈ drawn) (untracked : s.recorder.isTracked id = false) (unstored : ¬ s.Stored id)
    (unheld : ¬ ({ service := s, holder, leaving } : Traffic).Held id) :
    ({ service := s, holder, leaving } : Traffic).Enrolled drawn (id :: deleted) :=
  { enrolled with
    gone := List.forall_mem_cons.mpr ⟨⟨known, untracked, unstored, unheld⟩, enrolled.gone⟩ }

/-- A call takes the lock. -/
theorem Enrolled.lock {drawn' : List MonitorId}
    (enrolled : ({ service := s, leaving } : Traffic).Enrolled drawn deleted)
    (proper : stage.monitor.id.Proper)
    (follows : stage.followed = true → s.recorder.isTracked stage.monitor.id = true)
    (old : s.Stored stage.monitor.id ↔ stage.old = true)
    (named : ∀ u ∈ stage.task?, u.id = stage.monitor.taskId)
    (apart : ∀ p ∈ leaving, stage.monitor.id ≠ p.id) (more : drawn ⊆ drawn')
    (known : stage.monitor.id ∈ drawn') (kept : stage.monitor.id ∉ deleted) :
    ({ service := s, holder := some stage, leaving } : Traffic).Enrolled drawn' deleted := by
  obtain ⟨stored, _, leaving_, tracked, present, gone⟩ := enrolled
  refine ⟨stored, ?_, ?_, ?_, ?_, ?_⟩
  · rintro _ ⟨⟩
    exact ⟨proper, follows, old, named⟩
  · exact fun p member => ⟨(leaving_ p member).1, (leaving_ p member).2.1,
      fun held => apart p member (held_some.mp held)⟩
  · exact fun id there => (tracked id there).imp_right (Or.imp_left fun held => (not_held_none held).elim)
  · rintro id (there | held | leaves)
    · exact more (present id (.inl there))
    · exact held_some.mp held ▸ known
    · exact more (present id (.inr (.inr leaves)))
  · intro id member
    obtain ⟨drawn_, untracked, unstored, _⟩ := gone id member
    exact ⟨more drawn_, untracked, unstored, fun held => kept (held_some.mp held ▸ member)⟩

/-- A registration ends. -/
theorem Enrolled.store
    (enrolled : ({ service := s, holder := some (.storing m), leaving } : Traffic).Enrolled
      drawn deleted) :
    ({ service := append s m, leaving } : Traffic).Enrolled drawn deleted := by
  obtain ⟨stored, held, leaving_, tracked, present, gone⟩ := enrolled
  obtain ⟨proper, follows, _⟩ := held _ rfl
  have mine : ∀ id, ({ service := s, holder := some (.storing m), leaving } : Traffic).Held id ↔
      m.id = id := fun _ => held_some
  refine ⟨?_, (fun _ here => nomatch here), ?_, ?_, ?_, ?_⟩
  · intro id there
    rcases (stored_append s m id).mp there with rfl | before
    · exact ⟨proper, follows rfl⟩
    · exact stored id before
  · intro p member
    obtain ⟨proper', unstored, unheld⟩ := leaving_ p member
    refine ⟨proper', fun there => ?_, not_held_none⟩
    rcases (stored_append s m p.id).mp there with same | before
    · exact unheld ((mine _).mpr same)
    · exact unstored before
  · intro id there
    rcases tracked id there with before | held | leaves
    · exact .inl ((stored_append s m id).mpr (.inr before))
    · exact .inl ((stored_append s m id).mpr (.inl ((mine id).mp held)))
    · exact .inr (.inr leaves)
  · rintro id (there | held | leaves)
    · rcases (stored_append s m id).mp there with same | before
      · exact present id (.inr (.inl ((mine id).mpr same)))
      · exact present id (.inl before)
    · exact absurd held not_held_none
    · exact present id (.inr (.inr leaves))
  · intro id member
    obtain ⟨known, untracked, unstored, unheld⟩ := gone id member
    refine ⟨known, untracked, fun there => ?_, not_held_none⟩
    rcases (stored_append s m id).mp there with same | before
    · exact unheld ((mine id).mpr same)
    · exact unstored before

/-- A deletion strikes a monitor off. -/
theorem Enrolled.strike (enrolled : ({ service := s, leaving } : Traffic).Enrolled drawn deleted)
    (there : s.Stored id) :
    ({ service := s.strike id, leaving := .unscheduling id :: leaving } : Traffic).Enrolled
      drawn deleted := by
  obtain ⟨stored, _, leaving_, tracked, present, gone⟩ := enrolled
  have fewer : ∀ other, (s.strike id).Stored other → s.Stored other :=
    fun other still => ((stored_strike s id other).mp still).2
  refine ⟨fun other still => stored other (fewer other still), (fun _ here => nomatch here),
    ?_, ?_, ?_, ?_⟩
  · refine List.forall_mem_cons.mpr ⟨⟨(stored id there).1, ?_, not_held_none⟩, ?_⟩
    · exact fun still => ((stored_strike s id id).mp still).1 rfl
    · exact fun p member => ⟨(leaving_ p member).1,
        fun still => (leaving_ p member).2.1 (fewer _ still), not_held_none⟩
  · intro other follows
    rcases tracked other follows with before | held | ⟨p, member, same⟩
    · by_cases here : id = other
      · exact .inr (.inr ⟨_, List.mem_cons_self, here⟩)
      · exact .inl ((stored_strike s id other).mpr ⟨here, before⟩)
    · exact absurd held not_held_none
    · exact .inr (.inr ⟨p, List.mem_cons_of_mem _ member, same⟩)
  · rintro other (still | held | ⟨p, member, same⟩)
    · exact present other (.inl (fewer other still))
    · exact absurd held not_held_none
    · rcases List.mem_cons.mp member with rfl | before
      · exact present other (.inl (same ▸ there))
      · exact present other (.inr (.inr ⟨p, before, same⟩))
  · intro other member
    obtain ⟨known, untracked, unstored, _⟩ := gone other member
    exact ⟨known, untracked, fun still => unstored (fewer other still), not_held_none⟩

end

/-! ### Who is safe -/

section

variable {s s' : Service} {stage stage' : Stage} {leaving : List Parting} {id : MonitorId}

theorem Safe.congr {t t' : Traffic} (safe : t.Safe id)
    (tracked : t.service.recorder.isTracked id = true → t'.service.recorder.isTracked id = true)
    (barred : t'.Barred id → t.Barred id) : t'.Safe id :=
  ⟨safe.1, tracked safe.2.1, fun there => safe.2.2 (barred there)⟩

theorem barred_some : ({ service := s, holder := some stage, leaving } : Traffic).Barred id ↔
    .forgetting id ∈ leaving ∨ stage.monitor.id = id ∧ stage.early = true := by
  simp [Barred]

theorem barred_none :
    ({ service := s, leaving } : Traffic).Barred id ↔ .forgetting id ∈ leaving := by
  simp [Barred]

/-- A step of a call bars nobody, unless it was a call of that kind before. -/
theorem barred_advance (same : stage'.monitor.id = stage.monitor.id)
    (early : stage'.early = true → stage.early = true)
    (barred : ({ service := s', holder := some stage', leaving } : Traffic).Barred id) :
    ({ service := s, holder := some stage, leaving } : Traffic).Barred id := by
  rw [barred_some, same] at barred
  exact barred_some.mpr (barred.imp_right (And.imp_right early))

theorem barred_release (barred : ({ service := s', leaving } : Traffic).Barred id) :
    ({ service := s, holder := some stage, leaving } : Traffic).Barred id :=
  barred_some.mpr (.inl (barred_none.mp barred))

end

/-! ### Steps of the call that holds the lock -/

structure Kept (t : Traffic) (drawn deleted : List MonitorId) : Prop where
  occurs : t.service.scheduler.Occurs
  guarded : t.Guarded
  enrolled : t.Enrolled drawn deleted

section

variable {s s' : Service} {stage stage' : Stage} {leaving : List Parting}
  {drawn deleted : List MonitorId}

/-- The monitor of the call that holds the lock is not being deleted. -/
theorem Enrolled.not_leaving
    (enrolled : ({ service := s, holder := some stage, leaving } : Traffic).Enrolled drawn deleted) :
    .forgetting stage.monitor.id ∉ leaving :=
  fun member => (enrolled.leaving _ member).2.2 (held_some.mpr rfl)

/-- The call goes on, and the queue comes to know nothing by it. -/
theorem Kept.advance
    (kept : ({ service := s, holder := some stage, leaving } : Traffic).Kept drawn deleted)
    (occurs : s'.scheduler.Occurs)
    (known : ∀ text, s'.scheduler.Knows s'.queue text → s.scheduler.Knows s.queue text)
    (stored : ∀ id, s'.Stored id ↔ s.Stored id)
    (tracked : ∀ id, s'.recorder.isTracked id = s.recorder.isTracked id)
    (followed : stage.followed = true) (same : stage'.monitor.id = stage.monitor.id)
    (old : stage'.old = stage.old) (early : stage'.early = true → stage.early = true)
    (named : ∀ u ∈ stage'.task?, u.id = stage.monitor.taskId) :
    ({ service := s', holder := some stage', leaving } : Traffic).Kept drawn deleted := by
  obtain ⟨_, guarded, enrolled⟩ := kept
  have follows := (enrolled.held stage rfl).2.1 followed
  have stays := enrolled.congr stored tracked
  refine ⟨occurs, guarded.congr known fun id safe => ?_,
    stays.advance same old ((tracked _).trans follows) named⟩
  exact safe.congr (fun there => (tracked id).trans there) (barred_advance same early)

/-- The call goes on, and its monitor's task is in the queue now. -/
theorem Kept.admit
    (kept : ({ service := s, holder := some stage, leaving } : Traffic).Kept drawn deleted)
    (occurs : s'.scheduler.Occurs)
    (known : ∀ text, s'.scheduler.Knows s'.queue text →
      stage.monitor.taskId = text ∨ s.scheduler.Knows s.queue text)
    (stored : ∀ id, s'.Stored id ↔ s.Stored id)
    (tracked : ∀ id, s'.recorder.isTracked id = s.recorder.isTracked id)
    (followed : stage.followed = true) (same : stage'.monitor.id = stage.monitor.id)
    (old : stage'.old = stage.old) (late : stage'.early = false)
    (named : ∀ u ∈ stage'.task?, u.id = stage.monitor.taskId) :
    ({ service := s', holder := some stage', leaving } : Traffic).Kept drawn deleted := by
  obtain ⟨_, guarded, enrolled⟩ := kept
  obtain ⟨proper, follows, _⟩ := enrolled.held stage rfl
  have stays := enrolled.congr stored tracked
  have follows' := (tracked _).trans (follows followed)
  refine ⟨occurs, guarded.add stage.monitor.id ⟨proper, follows', ?_⟩ known fun id safe => ?_,
    stays.advance same old follows' named⟩
  · intro barred
    rcases barred_some.mp barred with leaves | ⟨_, early⟩
    · exact enrolled.not_leaving leaves
    · rw [late] at early
      cases early
  · refine safe.congr (fun there => (tracked id).trans there) (barred_advance same fun early => ?_)
    rw [late] at early
    cases early

/-- The call hands its monitor's task to the queue, and goes on. -/
theorem Kept.hand
    (kept : ({ service := s, holder := some stage, leaving } : Traffic).Kept drawn deleted)
    (call : Scheduler.Call Monitor) {u : Task Monitor} (about : call.task? = some u)
    (mine : u ∈ stage.task?) (followed : stage.followed = true)
    (same : stage'.monitor.id = stage.monitor.id) (old : stage'.old = stage.old)
    (late : stage'.early = false) (handed : stage'.task? = none) :
    ({ service := s.putScheduler (s.scheduler.serve s.queue call), holder := some stage', leaving } :
      Traffic).Kept drawn deleted := by
  have occurs := kept.occurs
  obtain ⟨_, _, _, named⟩ := kept.enrolled.held stage rfl
  refine kept.admit (occurs.moved (.client s.queue call)) (fun text known => ?_) (fun _ => .rfl)
    (fun _ => rfl) followed same old late fun u' there => ?_
  · exact named u mine ▸ occurs.knows_serve call about known
  · rw [handed] at there
    cases there

/-- A call about a monitor that is stored gives the lock back. -/
theorem Kept.release
    (kept : ({ service := s, holder := some stage, leaving } : Traffic).Kept drawn deleted)
    (occurs : s'.scheduler.Occurs)
    (known : ∀ text, s'.scheduler.Knows s'.queue text → s.scheduler.Knows s.queue text)
    (stored : ∀ id, s'.Stored id ↔ s.Stored id)
    (tracked : ∀ id, s'.recorder.isTracked id = s.recorder.isTracked id) (old : stage.old = true) :
    ({ service := s', leaving } : Traffic).Kept drawn deleted := by
  obtain ⟨_, guarded, enrolled⟩ := kept
  have there := (enrolled.held stage rfl).2.2.1.mpr old
  have stays := enrolled.congr stored tracked
  refine ⟨occurs, guarded.congr known fun id safe => ?_,
    stays.release fun _ => (stored _).mpr there⟩
  exact safe.congr (fun there => (tracked id).trans there) barred_release

/-- The recorder begins to track the monitor of a registration. -/
theorem Kept.track {m : Monitor}
    (kept : ({ service := s, holder := some (.tracking m), leaving } : Traffic).Kept drawn deleted)
    (stage' : Stage) (same : stage'.monitor.id = m.id) (old : stage'.old = false)
    (named : ∀ u ∈ stage'.task?, u.id = m.taskId) :
    ({ service := s.putRecorder (s.recorder.track m.id), holder := some stage', leaving } :
      Traffic).Kept drawn deleted := by
  obtain ⟨occurs, guarded, enrolled⟩ := kept
  have new : (s.recorder.track m.id).isTracked m.id = true :=
    (Recorder.isTracked_track ..).mpr (.inl rfl)
  refine ⟨occurs, guarded.congr (fun _ known => known) fun id safe => ?_,
    enrolled.track.advance same old new named⟩
  exact safe.congr (fun there => (Recorder.isTracked_track ..).mpr (.inr there))
    (barred_advance same fun _ => rfl)

/-- A registration that was refused ends. -/
theorem Kept.untrack {m : Monitor}
    (kept : ({ service := s, holder := some (.untracking m), leaving } : Traffic).Kept
      drawn deleted) :
    ({ service := s.forget m.id, leaving } : Traffic).Kept drawn deleted := by
  obtain ⟨occurs, guarded, enrolled⟩ := kept
  have unstored : ¬ s.Stored m.id :=
    fun there => Bool.false_ne_true ((enrolled.held _ rfl).2.2.1.mp there)
  have forgotten := enrolled.forget unstored fun stage here _ => by cases here; rfl
  refine ⟨occurs, guarded.congr (fun _ known => known) fun id safe => ?_,
    forgotten.release fun there => ?_⟩
  · refine safe.congr (fun there => ?_) barred_release
    refine (Recorder.isTracked_forget ..).mpr ⟨?_, there⟩
    rintro rfl
    exact safe.2.2 (barred_some.mpr (.inr ⟨rfl, rfl⟩))
  · exact absurd rfl ((Recorder.isTracked_forget ..).mp there).1

theorem Kept.proceed {t : Traffic} (kept : t.Kept drawn deleted) : t.proceed.Kept drawn deleted := by
  obtain ⟨s, holder, leaving⟩ := t
  cases holder with
  | none => exact kept
  | some stage =>
    have occurs := kept.occurs
    obtain ⟨_, _, _, named⟩ := kept.enrolled.held stage rfl
    cases stage with
    | tracking m =>
      simp only [Traffic.proceed]
      cases m.enabled with
      | true =>
        refine kept.track (.registering m (m.task s.now)) rfl rfl fun u about => ?_
        exact Option.some.inj about ▸ rfl
      | false => exact kept.track (.storing m) rfl rfl fun _ about => by cases about
    | registering m u =>
      simp only [Traffic.proceed]
      cases accepted : (s.scheduler.register s.queue u).answer.isOk with
      | true =>
        simp only [↓reduceIte]
        exact kept.hand (.register u) rfl rfl rfl rfl rfl rfl rfl
      | false =>
        simp only [Scheduler.register_refused accepted, Bool.false_eq_true, ↓reduceIte]
        exact kept.advance occurs (fun _ known => known) (fun _ => .rfl) (fun _ => rfl) rfl rfl rfl
          (fun _ => rfl) fun _ about => by cases about
    | untracking m => exact kept.untrack
    | storing m =>
      refine ⟨occurs, kept.guarded.congr (fun _ known => known) fun id safe => ?_,
        kept.enrolled.store⟩
      exact safe.congr (fun there => there) barred_release
    | clearing m u =>
      have moved : (s.scheduler.remove s.queue m.id.text).scheduler.Occurs :=
        occurs.moved (.client s.queue (.remove m.id.text))
      exact kept.advance moved (fun _ known => (occurs.knows_remove known).2) (fun _ => .rfl)
        (fun _ => rfl) rfl rfl rfl (fun early => by cases early) named
    | pushing m u =>
      simp only [Traffic.proceed]
      cases accepted : s.scheduler.accepts s.queue u with
      | true =>
        simp only [↓reduceIte]
        exact kept.hand (.push u) rfl rfl rfl rfl rfl rfl rfl
      | false =>
        simp only [Scheduler.push_refused accepted, Bool.false_eq_true, ↓reduceIte]
        exact kept.release occurs (fun _ known => known) (fun _ => .rfl) (fun _ => rfl) rfl
    | enabling m u =>
      simp only [Traffic.proceed]
      cases accepted : (s.scheduler.register s.queue u).answer.isOk with
      | true =>
        simp only [↓reduceIte]
        exact kept.hand (.register u) rfl rfl rfl rfl rfl rfl rfl
      | false =>
        simp only [Scheduler.register_refused accepted, Bool.false_eq_true, ↓reduceIte]
        exact kept.release occurs (fun _ known => known) (fun _ => .rfl) (fun _ => rfl) rfl
    | disabling m =>
      have moved : (s.scheduler.remove s.queue m.id.text).scheduler.Occurs :=
        occurs.moved (.client s.queue (.remove m.id.text))
      exact kept.advance moved (fun _ known => (occurs.knows_remove known).2) (fun _ => .rfl)
        (fun _ => rfl) rfl rfl rfl (fun early => by cases early) fun _ about => by cases about
    | replacing m =>
      exact kept.release occurs (fun _ known => known) (stored_replace s m) (fun _ => rfl) rfl

theorem Kept.miss {t : Traffic} (kept : t.Kept drawn deleted) : t.miss.Kept drawn deleted := by
  obtain ⟨s, holder, leaving⟩ := t
  cases holder with
  | none => exact kept
  | some stage =>
    cases stage with
    | registering m u =>
      simp only [Traffic.miss]
      exact kept.advance kept.occurs (fun _ known => known) (fun _ => .rfl) (fun _ => rfl) rfl rfl rfl
        (fun _ => rfl) fun _ about => by cases about
    | disabling m =>
      simp only [Traffic.miss]
      exact kept.advance kept.occurs (fun _ known => known) (fun _ => .rfl) (fun _ => rfl) rfl rfl rfl
        (fun early => by cases early) fun _ about => by cases about
    | clearing | pushing | enabling =>
      exact kept.release kept.occurs (fun _ known => known) (fun _ => .rfl) (fun _ => rfl) rfl
    | tracking | untracking | storing | replacing => exact kept

/-! ### Deletions -/

/-- A deletion takes the task out of the queue. -/
theorem Kept.revoke {t : Traffic} (kept : t.Kept drawn deleted) {place : Nat} {id : MonitorId}
    (here : t.leaving[place]? = some (.unscheduling id)) :
    ({ t with
      service := t.service.unschedule id
      leaving := t.leaving.set place (.forgetting id) } : Traffic).Kept drawn deleted := by
  obtain ⟨occurs, guarded, enrolled⟩ := kept
  have moved : (t.service.unschedule id).scheduler.Occurs :=
    occurs.moved (.client t.service.queue (.remove id.text))
  have member := List.mem_of_getElem? here
  have inside : .forgetting id ∈ t.leaving.set place (.forgetting id) :=
    List.mem_set (List.getElem?_eq_some_iff.mp here).1 _
  have stays : ({ t with service := t.service.unschedule id } : Traffic).Enrolled drawn deleted :=
    enrolled.congr (fun _ => .rfl) fun _ => rfl
  refine ⟨moved, guarded.drop (fun text known => occurs.knows_remove known) ?_, stays.leave ?_ ?_⟩
  · intro other apart safe
    refine safe.congr (fun there => there) (Or.imp_left fun barred => ?_)
    rcases List.mem_or_eq_of_mem_set barred with before | same
    · exact before
    · cases same
      exact absurd rfl apart
  · intro p there
    rcases List.mem_or_eq_of_mem_set there with before | rfl
    · exact ⟨p, before, rfl⟩
    · exact ⟨_, member, rfl⟩
  · intro p before _
    rcases mem_set_or_eq here (.forgetting id) before with still | rfl
    · exact ⟨p, still, rfl⟩
    · exact ⟨_, inside, rfl⟩

/-- A deletion ends. -/
theorem Kept.forget {t : Traffic} (kept : t.Kept drawn deleted) {place : Nat} {id : MonitorId}
    (here : t.leaving[place]? = some (.forgetting id)) :
    ({ t with
      service := t.service.forget id
      leaving := t.leaving.eraseIdx place } : Traffic).Kept drawn (id :: deleted) := by
  obtain ⟨occurs, guarded, enrolled⟩ := kept
  have member := List.mem_of_getElem? here
  obtain ⟨_, unstored, unheld⟩ := enrolled.leaving _ member
  have untracked : (t.service.forget id).recorder.isTracked id = false := by
    rw [← Bool.not_eq_true]
    exact fun there => ((Recorder.isTracked_forget ..).mp there).1 rfl
  have forgotten : ({ t with service := t.service.forget id } : Traffic).Enrolled drawn deleted :=
    enrolled.forget unstored fun stage held same => absurd ⟨stage, held, same⟩ unheld
  have left : ({ t with
      service := t.service.forget id
      leaving := t.leaving.eraseIdx place } : Traffic).Enrolled drawn deleted := by
    refine forgotten.leave (fun p there => ⟨p, List.mem_of_mem_eraseIdx there, rfl⟩) ?_
    intro p before follows
    rcases mem_eraseIdx_or_eq here before with still | rfl
    · exact ⟨p, still, rfl⟩
    · exact absurd (follows.symm.trans untracked) Bool.true_eq_false.mp
  refine ⟨occurs, guarded.congr (fun _ known => known) fun other safe => ?_,
    left.finish (enrolled.present id (.inr (.inr ⟨_, member, rfl⟩))) untracked unstored unheld⟩
  refine safe.congr (fun there => ?_) (Or.imp_left List.mem_of_mem_eraseIdx)
  refine (Recorder.isTracked_forget ..).mpr ⟨?_, there⟩
  rintro rfl
  exact safe.2.2 (.inl member)

/-! ### Calls that begin -/

theorem Enrolled.more {t : Traffic} (enrolled : t.Enrolled drawn deleted) {drawn' : List MonitorId}
    (grown : drawn ⊆ drawn') : t.Enrolled drawn' deleted :=
  { enrolled with
    present := fun id about => grown (enrolled.present id about)
    gone := fun id member => (enrolled.gone id member).imp_left fun known => grown known }

/-- A call about a monitor that is stored takes the lock. -/
theorem Kept.lock {old : Monitor}
    (kept : ({ service := s, leaving } : Traffic).Kept drawn deleted) (member : old ∈ s.monitors)
    (same : stage.monitor.id = old.id) (late : stage.old = true) (calm : stage.early = false)
    (named : ∀ u ∈ stage.task?, u.id = stage.monitor.taskId) :
    ({ service := s, holder := some stage, leaving } : Traffic).Kept drawn deleted := by
  obtain ⟨occurs, guarded, enrolled⟩ := kept
  have there : s.Stored stage.monitor.id := ⟨old, member, same.symm⟩
  obtain ⟨proper, follows⟩ := enrolled.stored _ there
  refine ⟨occurs, guarded.congr (fun _ known => known) fun id safe => ?_,
    enrolled.lock proper (fun _ => follows) (iff_of_true there late) named ?_
      (List.Subset.refl drawn) (enrolled.present _ (.inl there)) ?_⟩
  · refine safe.congr (fun there => there) fun barred => barred_none.mpr ?_
    rcases barred_some.mp barred with leaves | ⟨_, early⟩
    · exact leaves
    · rw [calm] at early
      cases early
  · exact fun p before gone => (enrolled.leaving p before).2.1 (gone ▸ there)
  · exact fun before => (enrolled.gone _ before).2.2.1 there

/-- A registration takes the lock, with an identity that nobody has had. -/
theorem Kept.draw {m : Monitor} (kept : ({ service := s, leaving } : Traffic).Kept drawn deleted)
    (proper : m.id.Proper) (fresh : m.id ∉ drawn) :
    ({ service := s, holder := some (.tracking m), leaving } : Traffic).Kept (m.id :: drawn)
      deleted := by
  obtain ⟨occurs, guarded, enrolled⟩ := kept
  have absent : ∀ id, ({ service := s, leaving } : Traffic).Present id → m.id ≠ id := by
    rintro id about rfl
    exact fresh (enrolled.present _ about)
  have unstored : ¬ s.Stored m.id := fun there => absent _ (.inl there) rfl
  refine ⟨occurs, guarded.congr (fun _ known => known) fun id safe => ?_,
    enrolled.lock proper nofun (iff_of_false unstored Bool.false_ne_true) nofun ?_
      (List.subset_cons_self _ _) List.mem_cons_self ?_⟩
  · refine safe.congr (fun there => there) fun barred => barred_none.mpr ?_
    rcases barred_some.mp barred with leaves | ⟨same, _⟩
    · exact leaves
    · exact absurd same (absent id (enrolled.tracked id safe.2.1))
  · exact fun p member => absent p.id (.inr (.inr ⟨p, member, rfl⟩))
  · exact fun before => fresh (enrolled.gone _ before).1

theorem Kept.strike {id : MonitorId}
    (kept : ({ service := s, leaving } : Traffic).Kept drawn deleted) (there : s.Stored id) :
    ({ service := s.strike id, leaving := .unscheduling id :: leaving } : Traffic).Kept
      drawn deleted := by
  refine ⟨kept.occurs, kept.guarded.congr (fun _ known => known) fun other safe => ?_,
    kept.enrolled.strike there⟩
  refine safe.congr (fun follows => follows) fun barred => barred_none.mpr ?_
  rcases List.mem_cons.mp (barred_none.mp barred) with same | before
  · cases same
  · exact before

end

end Traffic

namespace Journal

def Kept (j : Journal) : Prop := j.traffic.Kept j.drawn j.deleted

variable {j j' : Journal}

theorem Kept.enter (kept : j.Kept) (free : j.traffic.holder = none) {call : Call}
    (original : j.Original call) : (j.enter call).Kept := by
  obtain ⟨⟨s, holder, leaving⟩, drawn, deleted⟩ := j
  cases free
  cases call with
  | register id stamp r =>
    obtain ⟨proper, fresh⟩ := original id rfl
    simp only [Journal.enter, Kept, Traffic.enter]
    split
    next => exact ⟨kept.occurs, kept.guarded, kept.enrolled.more (List.subset_cons_self _ _)⟩
    next => exact Traffic.Kept.draw (m := .ofRequest id stamp r) kept proper fresh
  | modify id c =>
    simp only [Journal.enter, Kept, Traffic.enter]
    split
    next => exact kept
    next old found =>
      obtain ⟨member, _⟩ := Traffic.stored_of_find? found
      split
      next => exact kept
      next =>
        split
        next => exact Traffic.Kept.lock kept member rfl rfl rfl fun u about => Option.some.inj about ▸ rfl
        next => exact Traffic.Kept.lock kept member rfl rfl rfl fun _ about => by cases about
  | toggle id =>
    simp only [Journal.enter, Kept, Traffic.enter]
    split
    next => exact kept
    next old found =>
      obtain ⟨member, _⟩ := Traffic.stored_of_find? found
      split
      next => exact Traffic.Kept.lock kept member rfl rfl rfl fun u about => Option.some.inj about ▸ rfl
      next => exact Traffic.Kept.lock kept member rfl rfl rfl fun _ about => by cases about
  | delete id =>
    simp only [Journal.enter, Kept, Traffic.enter]
    split
    next => exact kept
    next old found =>
      obtain ⟨member, rfl⟩ := Traffic.stored_of_find? found
      exact Traffic.Kept.strike kept ⟨old, member, rfl⟩

theorem Kept.part (kept : j.Kept) (place : Nat) : (j.part place).Kept := by
  obtain ⟨t, drawn, deleted⟩ := j
  simp only [Journal.part, Kept, Traffic.part]
  cases here : t.leaving[place]? with
  | none => exact kept
  | some p =>
    cases p with
    | unscheduling id => exact Traffic.Kept.revoke kept here
    | forgetting id => exact Traffic.Kept.forget kept here

/-- The pipeline goes on by itself. -/
theorem Kept.undergo (kept : j.Kept) (c : Pipeline.Checks) {move : Pipeline.Move}
    (foreign : move.Foreign j.service.queue) :
    Kept { j with traffic := j.traffic.undergo c move } := by
  obtain ⟨occurs, guarded, enrolled⟩ := kept
  let l : Pipeline.Ledger := { pipeline := j.service.pipeline }
  have scheduler := l.scheduler_step c move
  have tracked : ∀ id, (j.traffic.undergo c move).service.recorder.isTracked id =
      j.service.recorder.isTracked id := l.isTracked_step foreign.quiet
  have moved : (l.step c move).pipeline.scheduler.Occurs ∧ ∀ text,
      (l.step c move).pipeline.scheduler.Knows j.service.queue text →
        j.service.scheduler.Knows j.service.queue text := by
    rw [scheduler]
    cases about : move.scheduling? c with
    | none => exact ⟨occurs, fun _ known => known⟩
    | some part =>
      exact ⟨occurs.moved part, fun text => occurs.knows_moved part (foreign.not_gives about text)⟩
  exact ⟨moved.1, guarded.congr moved.2 fun id safe =>
    safe.congr (fun there => (tracked id).trans there) fun barred => barred,
    enrolled.congr (fun _ => .rfl) tracked⟩

/-- Nothing happens to the queue, nor to who is stored and who is tracked. -/
theorem Kept.disturb (kept : j.Kept) {s : Service} (scheduler : s.scheduler = j.service.scheduler)
    (queue : s.queue = j.service.queue) (monitors : s.monitors = j.service.monitors)
    (tracked : ∀ id, s.recorder.isTracked id = j.service.recorder.isTracked id) :
    Kept { j with traffic := { j.traffic with service := s } } := by
  obtain ⟨occurs, guarded, enrolled⟩ := kept
  refine ⟨?_, guarded.congr (fun text known => ?_) fun id safe => ?_,
    enrolled.congr (fun id => ?_) tracked⟩
  · exact scheduler.symm ▸ occurs
  · have inside : s.scheduler.Knows s.queue text := known
    rw [scheduler, queue] at inside
    exact inside
  · exact safe.congr (fun there => (tracked id).trans there) fun barred => barred
  · simp only [Stored, monitors]
    rfl

theorem Step.kept (move : j.Step j') (kept : j.Kept) : j'.Kept := by
  cases move with
  | enter call free original => exact kept.enter free original
  | proceed => exact Traffic.Kept.proceed kept
  | miss => exact Traffic.Kept.miss kept
  | part place => exact kept.part place
  | undergo c move foreign => exact kept.undergo c foreign
  | hear =>
    exact kept.disturb (hear_scheduler _) (hear_queue _) (hear_monitors _) (isTracked_hear _)
  | report r =>
    have recorder : (j.service.report r).recorder = j.service.recorder :=
      Pipeline.send_recorder _ _ _
    exact kept.disturb (Pipeline.send_scheduler _ _ _) rfl rfl fun id => by rw [recorder]

theorem Reached.kept (reached : j.Reached) : j.Kept := by
  induction reached with
  | fresh config now capacity listening queue =>
    have untracked : ∀ id, (Recorder.ofCapacity capacity).isTracked id = false := by
      simp [Recorder.isTracked, Recorder.ofCapacity]
    refine ⟨⟨_, .fresh config now, rfl⟩, ?_, ?_, (fun _ here => by cases here), List.forall_mem_nil _,
      ?_, ?_, List.forall_mem_nil _⟩
    · rintro text ⟨q, there, _⟩
      cases there
    · rintro id ⟨m, member, _⟩
      cases member
    · intro id there
      exact absurd (there.symm.trans (untracked id)) Bool.true_eq_false.mp
    · rintro id (⟨m, member, _⟩ | ⟨stage, held, _⟩ | ⟨p, member, _⟩)
      · cases member
      · cases held
      · cases member
  | step _ move ih => exact move.kept ih

theorem Step.deleted (move : j.Step j') : j.deleted ⊆ j'.deleted := by
  cases move with
  | part place => exact List.subset_append_right _ _
  | _ => exact List.Subset.refl _

theorem Later.deleted (later : j.Later j') : j.deleted ⊆ j'.deleted := by
  induction later with
  | refl => exact List.Subset.refl _
  | tail _ move ih => exact List.Subset.trans ih move.deleted

/-- The monitor is stored, or the registration that holds the lock is about to store it. -/
def Registered (j : Journal) (id : MonitorId) : Prop :=
  j.service.Stored id ∨ ∃ m, j.traffic.holder = some (.storing m) ∧ m.id = id

theorem Kept.tracked (kept : j.Kept) {id : MonitorId} (there : j.Registered id) :
    j.service.recorder.isTracked id = true := by
  rcases there with stored | ⟨m, held, rfl⟩
  · exact (kept.enrolled.stored id stored).2
  · exact (kept.enrolled.held _ held).2.1 rfl

/-- Whatever calls came to a service, whatever its scheduler and its recorder did between any two of
their steps, and whether its queue was there or not: a monitor whose task is queued or in flight is
tracked, and so is a monitor that is registered; so none of its results is dropped, and each becomes
its most recent one. When a deletion has returned the monitor is not tracked and has no history, now
and ever after, whatever results the recorder takes. -/
theorem results_kept_and_forgotten (reached : j.Reached) :
    (∀ q, j.service.scheduler.queue? j.service.queue = some q → ∀ id : MonitorId, id.Proper →
      q.contains id.text = true ∨ id.text ∈ q.inFlight →
        j.service.recorder.isTracked id = true) ∧
      (∀ id, j.Registered id →
        (∀ results, .dropped id ∉ (j.service.recorder.recordAll results).2) ∧
        ∀ r, r.monitor = id → (j.service.recorder.record r).1.latest id = some r) ∧
      (∀ id ∈ j.deleted, ∀ j', j.Later j' → ∀ results,
        (j'.service.recorder.recordAll results).1.isTracked id = false ∧
          (j'.service.recorder.recordAll results).1.history id = []) := by
  have kept := reached.kept
  refine ⟨fun q here id proper there => ?_, fun id registered => ?_, ?_⟩
  · have known : q.Knows id.text :=
      there.imp_left ((kept.occurs.sound here).contains_eq id.text ▸ ·)
    obtain ⟨other, shown, proper', tracked, _⟩ := kept.guarded id.text ⟨q, here, known⟩
    exact MonitorId.text_inj proper' proper shown ▸ tracked
  · have tracked := kept.tracked registered
    refine ⟨Recorder.not_dropped tracked, ?_⟩
    rintro r rfl
    exact (Recorder.record_tracked tracked).2
  · intro id member j' later results
    have untracked := ((reached.later later).kept.enrolled.gone id (later.deleted member)).2.1
    have still : (j'.service.recorder.recordAll results).1.isTracked id = false :=
      (Recorder.isTracked_recordAll _ results id).trans untracked
    exact ⟨still, Recorder.history_untracked still⟩

/-- A monitor is deleted while its check is executing, and the check ends before the queue is told,
so its result still waits when the deletion returns. The queue is removed while a second monitor is
being registered. -/
theorem late_result_dropped :
    ∃ j : Journal, j.Reached ∧ j.deleted = [⟨1⟩] ∧
      j.service.pipeline.inbox.waiting.map (·.monitor) = [⟨1⟩] ∧
      j.service.scheduler.queue? j.service.queue = none ∧
      (j.service.recorder.recordAll j.service.pipeline.inbox.waiting).1.history ⟨1⟩ = [] := by
  let r : Request := { name := "db", checkType := .tcp, target := "db:5432", interval := 60 }
  let minute : Nat := Duration.ofSeconds 60
  let c : Pipeline.Checks :=
    { threshold := 100, probe := fun _ _ => { delay := minute, answer := .reached 5 none } }
  have new : Reached _ := .fresh {} 0 9 false "health"
  have opened := (new.step (.undergo c (.client "health" .addQueue) fun _ => rfl)).step
    (.undergo c (.work 0) trivial)
  have entered := opened.step (.enter (.register ⟨1⟩ 0 r) (by decide +kernel) (by decide +kernel))
  have one := ((entered.step .proceed).step .proceed).step .proceed
  have executing := ((one.step (.undergo c (.wait minute) trivial)).step
    (.undergo c (.work 0) trivial)).step (.undergo c (.work 0) trivial)
  have struck := executing.step (.enter (.delete ⟨1⟩) (by decide +kernel) nofun)
  have ended := (struck.step (.undergo c (.wait minute) trivial)).step (.undergo c (.work 0) trivial)
  have two := ended.step (.enter (.register ⟨2⟩ 0 r) (by decide +kernel) (by decide +kernel))
  have removed := (two.step .proceed).step (.undergo c (.client "health" .removeQueue) fun _ => rfl)
  have deleted := ((removed.step .miss).step (.part 0)).step (.part 0)
  have final := deleted.step .proceed
  obtain ⟨-, -, forgotten⟩ := results_kept_and_forgotten final
  exact ⟨_, final, by decide +kernel, by decide +kernel, by decide +kernel,
    (forgotten ⟨1⟩ (by decide +kernel) _ .refl _).2⟩

end Journal

end Service

end Vigil
