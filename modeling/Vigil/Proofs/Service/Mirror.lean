import Mathlib.Data.List.Nodup
import Vigil.Proofs.Recorder.Window
import Vigil.Proofs.Service.Traffic

/-!
# The monitors, and what the queue and the recorder know of them

When no call is under way the queue knows the enabled monitors and no others, and the recorder
tracks the monitors there are. While calls are under way that is true but for their own monitors.
What the queue knows of the monitor whose call holds the lock is a matter of the call's next step
(`Stage.queued`, `Stage.tracked`); a monitor that is being deleted is excused. Every step moves what
is known and what is wanted alike, and the scheduler's own work moves neither.
-/
namespace Vigil

/-! ### What comes between the steps of calls -/

namespace Pipeline

theorem send_recorder (p : Pipeline) (ahead : Nat) (r : CheckResult) :
    (p.send ahead r).inbox.recorder = p.inbox.recorder := by
  unfold send Inbox.send?
  split
  next => rfl
  next sent =>
    split at sent
    · cases sent
      rfl
    · cases sent

theorem observe_recorder (c : Checks) (ahead : Nat) (p : Pipeline)
    (events : List (Vigil.Event Monitor)) :
    (observe c ahead p events).1.inbox.recorder = p.inbox.recorder := by
  induction events generalizing p with
  | nil => rfl
  | cons event rest ih =>
    simp only [observe, ih]
    cases event with
    | ended t ending =>
      dsimp only
      split
      · exact send_recorder p ahead _
      · rfl
    | _ => rfl

namespace Ledger

variable {c : Checks} {move : Move} {name : String}

theorem turns_step (l : Ledger) (spares : move.Spares name) :
    Scheduler.Turns name l.pipeline.scheduler (l.step c move).pipeline.scheduler := by
  cases move with
  | client other call => exact Scheduler.turns_of_same (Scheduler.queue?_serve_of_ne _ spares call)
  | cancel => exact Scheduler.turns_of_same (congrFun (Scheduler.queue?_cancel _) name)
  | take from_ =>
    simp only [step]
    split
    next => exact Scheduler.turns_of_same rfl
    next took => exact Scheduler.turns_takeOne took
  | work place =>
    simp only [step]
    split
    next => exact Scheduler.turns_of_same rfl
    next job _ =>
      rw [observe_scheduler]
      let rest := l.pipeline.scheduler.ready.eraseIdx place
      exact Scheduler.turns_perform c.plan { l.pipeline.scheduler with ready := rest } job name
  | wait duration => exact Scheduler.turns_of_same (congrFun (Scheduler.queue?_reach _ _) name)
  | record => exact Scheduler.turns_of_same rfl
  | shutdown | track | forget => exact spares.elim

theorem isTracked_step (l : Ledger) (quiet : move.Quiet) (m : MonitorId) :
    (l.step c move).pipeline.inbox.recorder.isTracked m =
      l.pipeline.inbox.recorder.isTracked m := by
  cases move with
  | take from_ =>
    simp only [step]
    split <;> rfl
  | work place =>
    simp only [step]
    split
    next => rfl
    next => rw [observe_recorder]
  | record =>
    simp only [step, Pipeline.record, Inbox.drain]
    split
    next => exact Recorder.isTracked_recordAll _ _ m
    next => rfl
  | client | cancel | shutdown | wait => rfl
  | track | forget => exact quiet.elim

end Ledger

end Pipeline

namespace Service

/-! ### Identities and their texts -/

/-- The known texts are those of the wanted identities, except that excused ones may be known. -/
structure Covers (known : String → Prop) (wanted excused : MonitorId → Prop) : Prop where
  sound : ∀ text, known text →
    ∃ id : MonitorId, id.text = text ∧ id.Proper ∧ (wanted id ∨ excused id)
  complete : ∀ id, wanted id → id.Proper ∧ known id.text

section

variable {known known' : String → Prop} {wanted wanted' excused excused' : MonitorId → Prop}

theorem Covers.congr (covers : Covers known wanted excused)
    (same : ∀ text, known' text ↔ known text) (same' : ∀ id, wanted' id ↔ wanted id)
    (more : ∀ id, excused id → excused' id) : Covers known' wanted' excused' := by
  constructor
  · intro text there
    obtain ⟨id, shown, proper, cause⟩ := covers.sound text ((same text).mp there)
    exact ⟨id, shown, proper, cause.imp (same' id).mpr (more id)⟩
  · intro id want
    obtain ⟨proper, there⟩ := covers.complete id ((same' id).mp want)
    exact ⟨proper, (same _).mpr there⟩

theorem Covers.add (covers : Covers known wanted excused) {id : MonitorId} (proper : id.Proper) :
    Covers (fun text => id.text = text ∨ known text) (fun other => id = other ∨ wanted other)
      excused := by
  constructor
  · rintro text (rfl | there)
    · exact ⟨id, rfl, proper, .inl (.inl rfl)⟩
    · obtain ⟨other, shown, proper', cause⟩ := covers.sound text there
      exact ⟨other, shown, proper', cause.imp_left .inr⟩
  · rintro other (rfl | want)
    · exact ⟨proper, .inl rfl⟩
    · exact (covers.complete other want).imp_right .inr

theorem Covers.drop (covers : Covers known wanted excused) {id : MonitorId} (proper : id.Proper) :
    Covers (fun text => id.text ≠ text ∧ known text) (fun other => id ≠ other ∧ wanted other)
      (fun other => id ≠ other ∧ excused other) := by
  constructor
  · rintro text ⟨different, there⟩
    obtain ⟨other, rfl, proper', cause⟩ := covers.sound text there
    have apart : id ≠ other := fun same => different (congrArg MonitorId.text same)
    exact ⟨other, rfl, proper', cause.imp (⟨apart, ·⟩) (⟨apart, ·⟩)⟩
  · rintro other ⟨apart, want⟩
    obtain ⟨proper', there⟩ := covers.complete other want
    exact ⟨proper', fun same => apart (MonitorId.text_inj proper proper' same), there⟩

/-- What is not wanted any more may be known for a while. -/
theorem Covers.excuse (covers : Covers known wanted excused) (id : MonitorId) :
    Covers known (fun other => id ≠ other ∧ wanted other)
      (fun other => id = other ∨ excused other) := by
  constructor
  · intro text there
    obtain ⟨other, shown, proper, cause⟩ := covers.sound text there
    refine ⟨other, shown, proper, ?_⟩
    by_cases same : id = other
    · exact .inr (.inl same)
    · exact cause.imp (⟨same, ·⟩) .inr
  · rintro other ⟨_, want⟩
    exact covers.complete other want

theorem Covers.unknown (covers : Covers known wanted excused) {id : MonitorId}
    (proper : id.Proper) (unwanted : ¬ wanted id) (unexcused : ¬ excused id) : ¬ known id.text := by
  intro there
  obtain ⟨other, shown, proper', cause⟩ := covers.sound _ there
  rw [MonitorId.text_inj proper' proper shown] at cause
  exact cause.elim unwanted unexcused

end

/-! ### Queue and recorder -/

/-- The service's queue is registered, open and sound. It knows the wanted monitors, and others
only if they are `excused`; the recorder tracks the monitors to follow, and others only if they are
`pardoned`. -/
structure Mirrors (s : Service) (wanted excused followed pardoned : MonitorId → Prop) : Prop where
  queue : ∃ q, s.scheduler.queue? s.queue = some q ∧ q.Sound ∧ q.closed = false ∧
    Covers q.Knows wanted excused
  tracked : ∀ id, s.recorder.isTracked id → followed id ∨ pardoned id
  followed : ∀ id, followed id → s.recorder.isTracked id

section

variable {s : Service} {wanted wanted' excused excused' : MonitorId → Prop}
  {followed followed' pardoned pardoned' : MonitorId → Prop} {id : MonitorId}

theorem Mirrors.congr (mirrors : s.Mirrors wanted excused followed pardoned)
    (same : ∀ id, wanted' id ↔ wanted id) (more : ∀ id, excused id → excused' id)
    (same' : ∀ id, followed' id ↔ followed id) (more' : ∀ id, pardoned id → pardoned' id) :
    s.Mirrors wanted' excused' followed' pardoned' := by
  obtain ⟨q, here, sound, open_, covers⟩ := mirrors.queue
  refine ⟨⟨q, here, sound, open_, covers.congr (fun _ => .rfl) same more⟩, ?_, ?_⟩
  · intro id there
    exact (mirrors.tracked id there).imp (same' id).mpr (more' id)
  · intro id follow
    exact mirrors.followed id ((same' id).mp follow)

/-- The monitors play no part in it. -/
theorem Mirrors.monitors (mirrors : s.Mirrors wanted excused followed pardoned) {s' : Service}
    (pipeline : s'.pipeline = s.pipeline) (name : s'.queue = s.queue) :
    s'.Mirrors wanted excused followed pardoned := by
  obtain ⟨queue, tracked, follow⟩ := mirrors
  constructor
  · simpa only [scheduler, pipeline, name] using queue
  · simpa only [recorder, pipeline] using tracked
  · simpa only [recorder, pipeline] using follow

theorem Mirrors.excuse (mirrors : s.Mirrors wanted excused followed pardoned) (id : MonitorId) :
    s.Mirrors (fun other => id ≠ other ∧ wanted other) (fun other => id = other ∨ excused other)
      (fun other => id ≠ other ∧ followed other) (fun other => id = other ∨ pardoned other) := by
  obtain ⟨q, here, sound, open_, covers⟩ := mirrors.queue
  refine ⟨⟨q, here, sound, open_, covers.excuse id⟩, ?_, fun other both =>
    mirrors.followed other both.2⟩
  intro other there
  by_cases same : id = other
  · exact .inr (.inl same)
  · exact (mirrors.tracked other there).imp (⟨same, ·⟩) .inr

theorem Mirrors.track (mirrors : s.Mirrors wanted excused followed pardoned) (id : MonitorId) :
    (s.putRecorder (s.recorder.track id)).Mirrors wanted excused
      (fun other => id = other ∨ followed other) pardoned := by
  refine ⟨mirrors.queue, ?_, ?_⟩
  · intro other there
    rcases (Recorder.isTracked_track s.recorder id other).mp there with same | before
    · exact .inl (.inl same)
    · exact (mirrors.tracked other before).imp_left .inr
  · intro other follow
    exact (Recorder.isTracked_track s.recorder id other).mpr
      (follow.imp_right (mirrors.followed other))

theorem Mirrors.forget (mirrors : s.Mirrors wanted excused followed pardoned) (id : MonitorId) :
    (s.forget id).Mirrors wanted excused (fun other => id ≠ other ∧ followed other)
      (fun other => id ≠ other ∧ pardoned other) := by
  refine ⟨mirrors.queue, ?_, ?_⟩
  · intro other there
    obtain ⟨apart, before⟩ := (Recorder.isTracked_forget s.recorder id other).mp there
    exact (mirrors.tracked other before).imp (⟨apart, ·⟩) (⟨apart, ·⟩)
  · rintro other ⟨apart, follow⟩
    exact (Recorder.isTracked_forget s.recorder id other).mpr
      ⟨apart, mirrors.followed other follow⟩

theorem Mirrors.register (mirrors : s.Mirrors wanted excused followed pardoned)
    (proper : id.Proper) {t : Task Monitor} (named : t.id = id.text) :
    (s.scheduler.register s.queue t).answer.isOk ∧
      (s.putScheduler (s.scheduler.register s.queue t).scheduler).Mirrors
        (fun other => id = other ∨ wanted other) excused followed pardoned := by
  obtain ⟨q, here, sound, open_, covers⟩ := mirrors.queue
  obtain ⟨answer, r, there, sound', open_', knows⟩ := Scheduler.register_open here sound open_ t
  refine ⟨by rw [answer]; rfl, ⟨r, there, sound', open_', ?_⟩, mirrors.tracked, mirrors.followed⟩
  exact (covers.add proper).congr (named ▸ knows) (fun _ => .rfl) (fun _ still => still)

theorem Mirrors.unschedule (mirrors : s.Mirrors wanted excused followed pardoned)
    (proper : id.Proper) :
    (s.unschedule id).Mirrors (fun other => id ≠ other ∧ wanted other)
      (fun other => id ≠ other ∧ excused other) followed pardoned := by
  obtain ⟨q, here, sound, open_, covers⟩ := mirrors.queue
  obtain ⟨r, there, sound', open_', knows⟩ := Scheduler.remove_open here sound open_ id.text
  refine ⟨⟨r, there, sound', open_', ?_⟩, mirrors.tracked, mirrors.followed⟩
  exact (covers.drop proper).congr knows (fun _ => .rfl) (fun _ still => still)

theorem Mirrors.push (mirrors : s.Mirrors wanted excused followed pardoned) (proper : id.Proper)
    (unwanted : ¬ wanted id) (unexcused : ¬ excused id) {t : Task Monitor} (named : t.id = id.text) :
    s.scheduler.accepts s.queue t ∧
      (s.putScheduler (s.scheduler.push s.queue t)).Mirrors
        (fun other => id = other ∨ wanted other) excused followed pardoned := by
  obtain ⟨q, here, sound, open_, covers⟩ := mirrors.queue
  have unknown : ¬ q.Knows t.id := named ▸ covers.unknown proper unwanted unexcused
  obtain ⟨e, success, r, there, sound', open_', knows⟩ :=
    Scheduler.push_open here sound open_ unknown
  refine ⟨?_, ⟨r, there, sound', open_', ?_⟩, mirrors.tracked, mirrors.followed⟩
  · simp only [Scheduler.accepts, here, Option.any_some, success]
    rfl
  · exact (covers.add proper).congr (named ▸ knows) (fun _ => .rfl) (fun _ still => still)

/-- The pipeline's own work changes nothing that is known. -/
theorem Mirrors.undergo {t : Traffic}
    (mirrors : t.service.Mirrors wanted excused followed pardoned) (c : Pipeline.Checks)
    {move : Pipeline.Move} (spares : move.Spares t.service.queue) :
    (t.undergo c move).service.Mirrors wanted excused followed pardoned := by
  let l : Pipeline.Ledger := { pipeline := t.service.pipeline }
  have tracked : ∀ m, (t.undergo c move).service.recorder.isTracked m =
      t.service.recorder.isTracked m := l.isTracked_step spares.quiet
  obtain ⟨q, here, sound, open_, covers⟩ := mirrors.queue
  obtain ⟨r, there, turned⟩ := l.turns_step (c := c) spares q here
  obtain ⟨sound', same, knows⟩ := turned.keeps sound
  refine ⟨⟨r, there, sound', same.trans open_, ?_⟩, ?_, ?_⟩
  · exact covers.congr knows (fun _ => .rfl) (fun _ still => still)
  · intro m follow
    exact mirrors.tracked m (tracked m ▸ follow)
  · intro m follow
    rw [tracked]
    exact mirrors.followed m follow

theorem Mirrors.report (mirrors : s.Mirrors wanted excused followed pardoned) (r : CheckResult) :
    (s.report r).Mirrors wanted excused followed pardoned := by
  have scheduler : (s.report r).scheduler = s.scheduler := Pipeline.send_scheduler _ _ _
  have recorder : (s.report r).recorder = s.recorder := Pipeline.send_recorder _ _ _
  obtain ⟨queue, tracked, follow⟩ := mirrors
  constructor
  · rw [scheduler]
    exact queue
  · rw [recorder]
    exact tracked
  · rw [recorder]
    exact follow

end

/-! ### What is wanted while calls are under way -/

def Stored (s : Service) (id : MonitorId) : Prop := ∃ m ∈ s.monitors, m.id = id

def Enabled (s : Service) (id : MonitorId) : Prop := ∃ m ∈ s.monitors, m.id = id ∧ m.enabled = true

/-- Whether the queue knows the monitor before this step. -/
def Stage.queued : Stage → Bool
  | .tracking _ | .registering .. | .untracking _ | .pushing .. | .enabling .. => false
  | .clearing .. | .disabling _ => true
  | .storing m | .replacing m => m.enabled

/-- Whether the recorder tracks the monitor before this step. -/
def Stage.tracked : Stage → Bool
  | .tracking _ => false
  | _ => true

/-- A registration is about a monitor that is not stored, and the other calls are about one that is.
The queue being open, no task is ever refused. -/
def Stage.Fits (s : Service) : Stage → Prop
  | .tracking m | .storing m => ¬ s.Stored m.id
  | .registering m t => ¬ s.Stored m.id ∧ m.enabled = true ∧ t.id = m.taskId
  | .untracking _ => False
  | .clearing m t | .pushing m t | .enabling m t =>
    s.Stored m.id ∧ m.enabled = true ∧ t.id = m.taskId
  | .disabling m => s.Stored m.id ∧ m.enabled = false
  | .replacing m => s.Stored m.id

namespace Traffic

def Wanted (t : Traffic) (id : MonitorId) : Prop :=
  match t.holder with
  | some stage => if stage.monitor.id = id then stage.queued = true else t.service.Enabled id
  | none => t.service.Enabled id

def Followed (t : Traffic) (id : MonitorId) : Prop :=
  match t.holder with
  | some stage => if stage.monitor.id = id then stage.tracked = true else t.service.Stored id
  | none => t.service.Stored id

/-- A deletion has yet to take the monitor's task out. -/
def Excused (t : Traffic) (id : MonitorId) : Prop := .unscheduling id ∈ t.leaving

/-- The monitor is being deleted. -/
def Pardoned (t : Traffic) (id : MonitorId) : Prop := ∃ p ∈ t.leaving, p.id = id

structure Orderly (t : Traffic) : Prop where
  distinct : (t.service.monitors.map (·.id)).Nodup
  proper : ∀ m ∈ t.service.monitors, m.id.Proper
  fits : ∀ stage, t.holder = some stage → stage.Fits t.service ∧ stage.monitor.id.Proper
  gone : ∀ p ∈ t.leaving, p.id.Proper ∧ ¬ t.service.Stored p.id ∧
    ∀ stage, t.holder = some stage → stage.monitor.id ≠ p.id

structure Mirrored (t : Traffic) : Prop where
  orderly : t.Orderly
  mirrors : t.service.Mirrors t.Wanted t.Excused t.Followed t.Pardoned

/-! ### The call that holds the lock -/

section

variable {s s' : Service} {stage stage' : Stage} {leaving : List Parting}

/-- The call goes on with the same monitor. -/
theorem Orderly.advance
    (orderly : ({ service := s, holder := some stage, leaving } : Traffic).Orderly)
    (same : s'.monitors = s.monitors) (id : stage'.monitor.id = stage.monitor.id)
    (fits : stage'.Fits s') :
    ({ service := s', holder := some stage', leaving } : Traffic).Orderly := by
  have stored : ∀ other, s'.Stored other ↔ s.Stored other := by simp only [Stored, same, implies_true]
  refine ⟨?_, ?_, ?_, ?_⟩
  · simpa only [same] using orderly.distinct
  · simpa only [same] using orderly.proper
  · rintro _ ⟨⟩
    exact ⟨fits, id ▸ (orderly.fits stage rfl).2⟩
  · intro p member
    obtain ⟨proper, absent, other⟩ := orderly.gone p member
    refine ⟨proper, fun there => absent ((stored _).mp there), ?_⟩
    rintro _ ⟨⟩
    exact id ▸ other stage rfl

theorem Orderly.not_excused
    (orderly : ({ service := s, holder := some stage, leaving } : Traffic).Orderly) :
    ¬ ({ service := s, holder := some stage, leaving } : Traffic).Excused stage.monitor.id :=
  fun member => (orderly.gone _ member).2.2 stage rfl rfl

/-- The queue takes the monitor's task. -/
theorem wanted_add (queued : stage'.queued = true) (same : s'.monitors = s.monitors)
    (id : stage'.monitor.id = stage.monitor.id) (other : MonitorId) :
    ({ service := s', holder := some stage', leaving } : Traffic).Wanted other ↔
      stage.monitor.id = other ∨
        ({ service := s, holder := some stage, leaving } : Traffic).Wanted other := by
  simp only [Wanted, Enabled, queued, same, id]
  by_cases here : stage.monitor.id = other <;> simp [here]

theorem wanted_drop (gone : stage'.queued = false) (same : s'.monitors = s.monitors)
    (id : stage'.monitor.id = stage.monitor.id) (other : MonitorId) :
    ({ service := s', holder := some stage', leaving } : Traffic).Wanted other ↔
      stage.monitor.id ≠ other ∧
        ({ service := s, holder := some stage, leaving } : Traffic).Wanted other := by
  simp only [Wanted, Enabled, gone, same, id]
  by_cases here : stage.monitor.id = other <;> simp [here]

theorem wanted_keep (still : stage'.queued = stage.queued) (same : s'.monitors = s.monitors)
    (id : stage'.monitor.id = stage.monitor.id) (other : MonitorId) :
    ({ service := s', holder := some stage', leaving } : Traffic).Wanted other ↔
      ({ service := s, holder := some stage, leaving } : Traffic).Wanted other := by
  simp only [Wanted, Enabled, still, same, id]

theorem followed_track {m : Monitor} (tracked : stage'.tracked = true)
    (same : s'.monitors = s.monitors) (id : stage'.monitor.id = m.id) (other : MonitorId) :
    ({ service := s', holder := some stage', leaving } : Traffic).Followed other ↔
      m.id = other ∨
        ({ service := s, holder := some (.tracking m), leaving } : Traffic).Followed other := by
  have before : (Stage.tracking m).monitor = m := rfl
  simp only [Followed, Stored, tracked, same, id, before]
  by_cases here : m.id = other <;> simp [here]

theorem followed_keep (still : stage'.tracked = stage.tracked) (same : s'.monitors = s.monitors)
    (id : stage'.monitor.id = stage.monitor.id) (other : MonitorId) :
    ({ service := s', holder := some stage', leaving } : Traffic).Followed other ↔
      ({ service := s, holder := some stage, leaving } : Traffic).Followed other := by
  simp only [Followed, Stored, still, same, id]

/-- The queue has taken the monitor's task. -/
theorem Orderly.queued
    (orderly : ({ service := s, holder := some stage, leaving } : Traffic).Orderly)
    (same : s'.monitors = s.monitors) (id : stage'.monitor.id = stage.monitor.id)
    (fits : stage'.Fits s') (queued : stage'.queued = true)
    (still : stage'.tracked = stage.tracked)
    (added : s'.Mirrors
      (fun other => stage.monitor.id = other ∨
        ({ service := s, holder := some stage, leaving } : Traffic).Wanted other)
      ({ service := s, holder := some stage, leaving } : Traffic).Excused
      ({ service := s, holder := some stage, leaving } : Traffic).Followed
      ({ service := s, holder := some stage, leaving } : Traffic).Pardoned) :
    ({ service := s', holder := some stage', leaving } : Traffic).Mirrored := by
  refine ⟨orderly.advance same id fits, added.congr ?_ ?_ ?_ ?_⟩
  · exact wanted_add queued same id
  · exact fun _ excused => excused
  · exact followed_keep still same id
  · exact fun _ pardoned => pardoned

/-- The queue has dropped the monitor's task. -/
theorem Orderly.unqueued
    (orderly : ({ service := s, holder := some stage, leaving } : Traffic).Orderly)
    (same : s'.monitors = s.monitors) (id : stage'.monitor.id = stage.monitor.id)
    (fits : stage'.Fits s') (gone : stage'.queued = false)
    (still : stage'.tracked = stage.tracked)
    (dropped : s'.Mirrors
      (fun other => stage.monitor.id ≠ other ∧
        ({ service := s, holder := some stage, leaving } : Traffic).Wanted other)
      (fun other => stage.monitor.id ≠ other ∧
        ({ service := s, holder := some stage, leaving } : Traffic).Excused other)
      ({ service := s, holder := some stage, leaving } : Traffic).Followed
      ({ service := s, holder := some stage, leaving } : Traffic).Pardoned) :
    ({ service := s', holder := some stage', leaving } : Traffic).Mirrored := by
  refine ⟨orderly.advance same id fits, dropped.congr ?_ ?_ ?_ ?_⟩
  · exact wanted_drop gone same id
  · exact fun _ both => both.2
  · exact followed_keep still same id
  · exact fun _ pardoned => pardoned

/-- The recorder has begun to track the monitor. -/
theorem Orderly.tracked {m : Monitor}
    (orderly : ({ service := s, holder := some (.tracking m), leaving } : Traffic).Orderly)
    (same : s'.monitors = s.monitors) (id : stage'.monitor.id = m.id)
    (fits : stage'.Fits s') (still : stage'.queued = false) (tracked : stage'.tracked = true)
    (added : s'.Mirrors
      ({ service := s, holder := some (.tracking m), leaving } : Traffic).Wanted
      ({ service := s, holder := some (.tracking m), leaving } : Traffic).Excused
      (fun other => m.id = other ∨
        ({ service := s, holder := some (.tracking m), leaving } : Traffic).Followed other)
      ({ service := s, holder := some (.tracking m), leaving } : Traffic).Pardoned) :
    ({ service := s', holder := some stage', leaving } : Traffic).Mirrored := by
  refine ⟨orderly.advance same id fits, added.congr ?_ ?_ ?_ ?_⟩
  · exact wanted_keep still same id
  · exact fun _ excused => excused
  · exact followed_track tracked same id
  · exact fun _ pardoned => pardoned

end

/-! ### The monitors that are stored -/

section

variable {s : Service}

theorem stored_of_find? {id : MonitorId} {old : Monitor} (found : s.find? id = some old) :
    old ∈ s.monitors ∧ old.id = id :=
  ⟨List.mem_of_find?_eq_some found, by simpa using List.find?_some found⟩

theorem enabled_iff (distinct : (s.monitors.map (·.id)).Nodup) {m : Monitor}
    (member : m ∈ s.monitors) : s.Enabled m.id ↔ m.enabled = true := by
  constructor
  · rintro ⟨other, inside, same, on⟩
    rwa [List.inj_on_of_nodup_map distinct inside member same] at on
  · exact fun on => ⟨m, member, rfl, on⟩

theorem ids_replace (s : Service) (m : Monitor) :
    (s.replace m).monitors.map (·.id) = s.monitors.map (·.id) := by
  simp only [replace, List.map_map]
  refine List.map_congr_left fun old _ => ?_
  simp only [Function.comp_apply, beq_iff_eq]
  split
  next same => exact same.symm
  next => rfl

theorem stored_replace (s : Service) (m : Monitor) (id : MonitorId) :
    (s.replace m).Stored id ↔ s.Stored id := by
  have same : ∀ s : Service, s.Stored id ↔ id ∈ s.monitors.map (·.id) := by
    simp only [Stored, List.mem_map, implies_true]
  rw [same, same, ids_replace]

theorem enabled_replace {m : Monitor} (stored : s.Stored m.id) (id : MonitorId) :
    (s.replace m).Enabled id ↔ if m.id = id then m.enabled = true else s.Enabled id := by
  simp only [Enabled, replace, List.mem_map, beq_iff_eq]
  constructor
  · rintro ⟨_, ⟨old, member, rfl⟩, same, on⟩
    by_cases here : old.id = m.id
    · rw [if_pos here] at same on
      rwa [if_pos same]
    · rw [if_neg here] at same on
      rw [if_neg (fun there => here (same.trans there.symm))]
      exact ⟨old, member, same, on⟩
  · intro cause
    by_cases here : m.id = id
    · rw [if_pos here] at cause
      obtain ⟨old, member, same⟩ := stored
      exact ⟨m, ⟨old, member, if_pos same⟩, here, cause⟩
    · rw [if_neg here] at cause
      obtain ⟨old, member, same, on⟩ := cause
      exact ⟨old, ⟨old, member, if_neg (fun there => here (there.symm.trans same))⟩, same, on⟩

/-- The service after a registration. -/
def append (s : Service) (m : Monitor) : Service := { s with monitors := s.monitors ++ [m] }.tick

theorem exists_append (s : Service) (m : Monitor) (P : Monitor → Prop) :
    (∃ x ∈ (append s m).monitors, P x) ↔ P m ∨ ∃ x ∈ s.monitors, P x := by
  simp only [append, tick, List.mem_append, List.mem_singleton]
  constructor
  · rintro ⟨x, member | rfl, holds⟩
    · exact .inr ⟨x, member, holds⟩
    · exact .inl holds
  · rintro (holds | ⟨x, member, holds⟩)
    · exact ⟨m, .inr rfl, holds⟩
    · exact ⟨x, .inl member, holds⟩

theorem stored_append (s : Service) (m : Monitor) (id : MonitorId) :
    (append s m).Stored id ↔ m.id = id ∨ s.Stored id := exists_append s m _

theorem enabled_append (s : Service) (m : Monitor) (id : MonitorId) :
    (append s m).Enabled id ↔ m.id = id ∧ m.enabled = true ∨ s.Enabled id := exists_append s m _

/-- The call ends, and its monitor is stored. -/
theorem Orderly.release {s' : Service} {stage : Stage} {leaving : List Parting}
    (orderly : ({ service := s, holder := some stage, leaving } : Traffic).Orderly)
    (distinct : (s'.monitors.map (·.id)).Nodup)
    (stored : ∀ id, s'.Stored id → stage.monitor.id = id ∨ s.Stored id) :
    ({ service := s', leaving } : Traffic).Orderly := by
  refine ⟨distinct, ?_, (fun _ held => nomatch held), ?_⟩
  · intro m member
    rcases stored m.id ⟨m, member, rfl⟩ with same | ⟨old, member, same⟩
    · exact same ▸ (orderly.fits stage rfl).2
    · exact same ▸ orderly.proper old member
  · intro p member
    obtain ⟨proper, absent, other⟩ := orderly.gone p member
    refine ⟨proper, ?_, fun _ held => nomatch held⟩
    intro there
    rcases stored p.id there with same | before
    · exact other stage rfl same
    · exact absent before

end

theorem Mirrored.store {s : Service} {m : Monitor} {leaving : List Parting}
    (mirrored : ({ service := s, holder := some (.storing m), leaving } : Traffic).Mirrored) :
    ({ service := append s m, leaving } : Traffic).Mirrored := by
  obtain ⟨orderly, mirrors⟩ := mirrored
  have fresh : ¬ s.Stored m.id := (orderly.fits _ rfl).1
  have unlisted : m.id ∉ s.monitors.map (·.id) := by
    simpa only [Stored, List.mem_map] using fresh
  have moved : (append s m).Mirrors _ _ _ _ := mirrors.monitors rfl rfl
  have distinct : ((append s m).monitors.map (·.id)).Nodup := by
    simp only [append, tick, List.map_append, List.map_cons, List.map_nil]
    exact List.nodup_append_comm.mp (List.nodup_cons.mpr ⟨unlisted, orderly.distinct⟩)
  refine ⟨orderly.release distinct fun id => (stored_append s m id).mp,
    moved.congr ?_ ?_ ?_ ?_⟩
  · intro id
    refine (enabled_append s m id).trans ?_
    by_cases same : m.id = id
    · subst same
      have off : ¬ s.Enabled m.id := fun ⟨x, member, same, _⟩ => fresh ⟨x, member, same⟩
      simp [Wanted, Stage.monitor, Stage.queued, off]
    · simp [Wanted, Stage.monitor, same]
  · exact fun _ still => still
  · intro id
    refine (stored_append s m id).trans ?_
    by_cases same : m.id = id <;> simp [Followed, Stage.monitor, Stage.tracked, same]
  · exact fun _ still => still

theorem Mirrored.replace {s : Service} {m : Monitor} {leaving : List Parting}
    (mirrored : ({ service := s, holder := some (.replacing m), leaving } : Traffic).Mirrored) :
    ({ service := (s.replace m).tick, leaving } : Traffic).Mirrored := by
  obtain ⟨orderly, mirrors⟩ := mirrored
  have stored : s.Stored m.id := (orderly.fits _ rfl).1
  have distinct : ((s.replace m).tick.monitors.map (·.id)).Nodup :=
    (ids_replace s m).symm ▸ orderly.distinct
  have moved : (s.replace m).tick.Mirrors _ _ _ _ := mirrors.monitors rfl rfl
  refine ⟨orderly.release distinct fun id there => .inr ((stored_replace s m id).mp there),
    moved.congr ?_ ?_ ?_ ?_⟩
  · exact fun id => enabled_replace stored id
  · exact fun _ still => still
  · intro id
    refine (stored_replace s m id).trans ?_
    by_cases same : m.id = id
    · subst same
      simp [Followed, Stage.monitor, Stage.tracked, stored]
    · simp [Followed, Stage.monitor, same]
  · exact fun _ still => still

theorem Mirrored.proceed {t : Traffic} (mirrored : t.Mirrored) : t.proceed.Mirrored := by
  obtain ⟨s, holder, leaving⟩ := t
  cases holder with
  | none => exact mirrored
  | some stage =>
    obtain ⟨orderly, mirrors⟩ := mirrored
    obtain ⟨fits, proper⟩ := orderly.fits stage rfl
    cases stage with
    | tracking m =>
      have tracked := mirrors.track m.id
      cases on : m.enabled with
      | true =>
        simp only [Traffic.proceed, on, ↓reduceIte]
        exact orderly.tracked rfl rfl ⟨fits, on, rfl⟩ rfl rfl tracked
      | false =>
        simp only [Traffic.proceed, on, Bool.false_eq_true, ↓reduceIte]
        exact orderly.tracked rfl rfl fits on rfl tracked
    | registering m task =>
      obtain ⟨absent, on, named⟩ := fits
      obtain ⟨accepted, added⟩ := mirrors.register proper named
      simp only [Traffic.proceed, accepted, ↓reduceIte]
      exact orderly.queued rfl rfl absent on rfl added
    | untracking m => exact fits.elim
    | storing m =>
      exact Mirrored.store ⟨orderly, mirrors⟩
    | clearing m task =>
      exact orderly.unqueued rfl rfl fits rfl rfl (mirrors.unschedule proper)
    | pushing m task =>
      obtain ⟨stored, on, named⟩ := fits
      have unwanted : ¬ ({ service := s, holder := some (.pushing m task), leaving } :
          Traffic).Wanted m.id := by simp [Wanted, Stage.monitor, Stage.queued]
      obtain ⟨accepted, added⟩ := mirrors.push proper unwanted orderly.not_excused named
      simp only [Traffic.proceed, accepted, ↓reduceIte]
      exact orderly.queued rfl rfl stored on rfl added
    | enabling m task =>
      obtain ⟨stored, on, named⟩ := fits
      obtain ⟨accepted, added⟩ := mirrors.register proper named
      simp only [Traffic.proceed, accepted, ↓reduceIte]
      exact orderly.queued rfl rfl stored on rfl added
    | disabling m =>
      obtain ⟨stored, off⟩ := fits
      exact orderly.unqueued rfl rfl stored off rfl (mirrors.unschedule proper)
    | replacing m =>
      exact Mirrored.replace ⟨orderly, mirrors⟩

/-! ### Calls that begin, and deletions -/

/-- A call takes the lock, and all is as it was wanted before. -/
theorem Mirrored.lock {s : Service} {leaving : List Parting}
    (mirrored : ({ service := s, leaving } : Traffic).Mirrored) {stage : Stage}
    (proper : stage.monitor.id.Proper) (fits : stage.Fits s)
    (queued : stage.queued = true ↔ s.Enabled stage.monitor.id)
    (tracked : stage.tracked = true ↔ s.Stored stage.monitor.id)
    (apart : ∀ p ∈ leaving, stage.monitor.id ≠ p.id) :
    ({ service := s, holder := some stage, leaving } : Traffic).Mirrored := by
  obtain ⟨orderly, mirrors⟩ := mirrored
  refine ⟨⟨orderly.distinct, orderly.proper, ?_, ?_⟩, mirrors.congr ?_ ?_ ?_ ?_⟩
  · rintro _ ⟨⟩
    exact ⟨fits, proper⟩
  · intro p member
    obtain ⟨proper', absent, _⟩ := orderly.gone p member
    refine ⟨proper', absent, ?_⟩
    rintro _ ⟨⟩
    exact apart p member
  · intro id
    simp only [Wanted]
    split
    next same => exact same ▸ queued
    next => exact .rfl
  · exact fun _ still => still
  · intro id
    simp only [Followed]
    split
    next same => exact same ▸ tracked
    next => exact .rfl
  · exact fun _ still => still

/-- A call about a monitor that is stored takes the lock. -/
theorem Mirrored.lock_stored {s : Service} {leaving : List Parting}
    (mirrored : ({ service := s, leaving } : Traffic).Mirrored) {old : Monitor}
    (member : old ∈ s.monitors) {stage : Stage} (same : stage.monitor.id = old.id)
    (fits : stage.Fits s) (queued : stage.queued = old.enabled) (tracked : stage.tracked = true) :
    ({ service := s, holder := some stage, leaving } : Traffic).Mirrored := by
  have stored : s.Stored old.id := ⟨old, member, rfl⟩
  refine mirrored.lock ?_ fits ?_ ?_ ?_
  · exact same ▸ mirrored.orderly.proper old member
  · rw [queued, same]
    exact (enabled_iff mirrored.orderly.distinct member).symm
  · rw [tracked, same]
    exact iff_of_true rfl stored
  · intro p leaves gone
    exact (mirrored.orderly.gone p leaves).2.1 (gone ▸ same ▸ stored)

theorem exists_strike (s : Service) {id other : MonitorId} {P : Monitor → Prop}
    (about : ∀ m, P m → m.id = other) :
    (∃ m ∈ (s.strike id).monitors, P m) ↔ id ≠ other ∧ ∃ m ∈ s.monitors, P m := by
  simp only [strike, List.mem_filter, bne_iff_ne, ne_eq]
  constructor
  · rintro ⟨m, ⟨member, apart⟩, holds⟩
    exact ⟨fun same => apart ((about m holds).trans same.symm), m, member, holds⟩
  · rintro ⟨apart, m, member, holds⟩
    exact ⟨m, ⟨member, fun same => apart (same.symm.trans (about m holds))⟩, holds⟩

theorem stored_strike (s : Service) (id other : MonitorId) :
    (s.strike id).Stored other ↔ id ≠ other ∧ s.Stored other := exists_strike s fun _ same => same

theorem enabled_strike (s : Service) (id other : MonitorId) :
    (s.strike id).Enabled other ↔ id ≠ other ∧ s.Enabled other :=
  exists_strike s fun _ both => both.1

theorem Mirrored.strike {s : Service} {leaving : List Parting}
    (mirrored : ({ service := s, leaving } : Traffic).Mirrored) {id : MonitorId} (proper : id.Proper) :
    ({ service := s.strike id, leaving := .unscheduling id :: leaving } : Traffic).Mirrored := by
  obtain ⟨orderly, mirrors⟩ := mirrored
  have moved : (s.strike id).Mirrors _ _ _ _ := (mirrors.excuse id).monitors rfl rfl
  refine ⟨⟨?_, ?_, (fun _ held => nomatch held), ?_⟩, moved.congr ?_ ?_ ?_ ?_⟩
  · exact orderly.distinct.sublist (List.filter_sublist.map _)
  · exact fun m member => orderly.proper m (List.mem_filter.mp member).1
  · intro p member
    refine ⟨?_, ?_, fun _ held => nomatch held⟩
    · rcases List.mem_cons.mp member with rfl | before
      · exact proper
      · exact (orderly.gone p before).1
    · rw [stored_strike]
      rintro ⟨apart, there⟩
      rcases List.mem_cons.mp member with rfl | before
      · exact apart rfl
      · exact (orderly.gone p before).2.1 there
  · exact enabled_strike s id
  · rintro other (rfl | before)
    · exact List.mem_cons_self
    · exact List.mem_cons_of_mem _ before
  · exact stored_strike s id
  · rintro other (rfl | ⟨p, before, same⟩)
    · exact ⟨_, List.mem_cons_self, rfl⟩
    · exact ⟨p, List.mem_cons_of_mem _ before, same⟩

theorem Mirrored.enter {t : Traffic} (mirrored : t.Mirrored) (free : t.holder = none) (call : Call)
    (fresh : t.Fresh call) : (t.enter call).Mirrored := by
  obtain ⟨s, holder, leaving⟩ := t
  cases free
  cases call with
  | register id stamp r =>
    obtain ⟨proper, absent, apart⟩ := fresh
    have unstored : ¬ s.Stored id := by
      rintro ⟨m, member, rfl⟩
      exact absurd (List.find?_eq_none.mp absent m member) (by simp)
    simp only [Traffic.enter]
    split
    next => exact mirrored
    next =>
      have off : ¬ s.Enabled id := by
        rintro ⟨m, member, same, _⟩
        exact unstored ⟨m, member, same⟩
      refine mirrored.lock proper unstored ?_ ?_ fun p leaves same => apart p leaves same.symm
      · exact iff_of_false Bool.false_ne_true off
      · exact iff_of_false Bool.false_ne_true unstored
  | modify id c =>
    simp only [Traffic.enter]
    split
    next => exact mirrored
    next old found =>
      have stored : s.Stored old.id := ⟨old, (stored_of_find? found).1, rfl⟩
      have kept : (old.apply s.stamp c).enabled = old.enabled := rfl
      split
      next => exact mirrored
      next =>
        cases on : old.enabled with
        | true =>
          rw [if_pos (kept.trans on)]
          exact mirrored.lock_stored (stored_of_find? found).1 rfl ⟨stored, kept.trans on, rfl⟩
            on.symm rfl
        | false =>
          rw [if_neg (by rw [kept, on]; simp)]
          exact mirrored.lock_stored (stored_of_find? found).1 rfl stored kept rfl
  | toggle id =>
    simp only [Traffic.enter]
    split
    next => exact mirrored
    next old found =>
      have stored : s.Stored old.id := ⟨old, (stored_of_find? found).1, rfl⟩
      cases on : old.enabled with
      | true =>
        exact mirrored.lock_stored (stored_of_find? found).1 rfl ⟨stored, rfl⟩ on.symm rfl
      | false =>
        exact mirrored.lock_stored (stored_of_find? found).1 rfl ⟨stored, rfl, rfl⟩ on.symm rfl
  | delete id =>
    simp only [Traffic.enter]
    split
    next => exact mirrored
    next old found =>
      obtain ⟨member, rfl⟩ := stored_of_find? found
      exact mirrored.strike (mirrored.orderly.proper old member)

/-- A monitor that is being deleted is neither stored nor the lock's. -/
theorem Orderly.unwanted {t : Traffic} (orderly : t.Orderly) {p : Parting} (member : p ∈ t.leaving) :
    ¬ t.Wanted p.id ∧ ¬ t.Followed p.id := by
  obtain ⟨_, absent, apart⟩ := orderly.gone p member
  have off : ¬ t.service.Enabled p.id := fun ⟨m, inside, same, _⟩ => absent ⟨m, inside, same⟩
  simp only [Wanted, Followed]
  split
  next stage held =>
    simp only [if_neg (apart stage held)]
    exact ⟨off, absent⟩
  next => exact ⟨off, absent⟩

theorem mem_set_or_eq {leaving : List Parting} {place : Nat} {p q : Parting}
    (here : leaving[place]? = some p) (new : Parting) (member : q ∈ leaving) :
    q ∈ leaving.set place new ∨ q = p := by
  obtain ⟨i, there⟩ := List.mem_iff_getElem?.mp member
  by_cases same : place = i
  · rw [← same, here] at there
    exact .inr (Option.some.inj there).symm
  · exact .inl (List.mem_iff_getElem?.mpr ⟨i, (List.getElem?_set_ne same).trans there⟩)

theorem mem_eraseIdx_or_eq {leaving : List Parting} {place : Nat} {p q : Parting}
    (here : leaving[place]? = some p) (member : q ∈ leaving) :
    q ∈ leaving.eraseIdx place ∨ q = p := by
  obtain ⟨i, there⟩ := List.mem_iff_getElem?.mp member
  by_cases same : i = place
  · rw [same, here] at there
    exact .inr (Option.some.inj there).symm
  · exact .inl (List.mem_eraseIdx_iff_getElem?.mpr ⟨i, same, there⟩)

/-- A deletion takes the task out of the queue. The other deletions stay where they are. -/
theorem Mirrored.revoke {t : Traffic} (mirrored : t.Mirrored) {place : Nat} {id : MonitorId}
    (here : t.leaving[place]? = some (.unscheduling id)) :
    ({ t with
      service := t.service.unschedule id
      leaving := t.leaving.set place (.forgetting id) } : Traffic).Mirrored := by
  obtain ⟨orderly, mirrors⟩ := mirrored
  have member := List.mem_of_getElem? here
  have inside : .forgetting id ∈ t.leaving.set place (.forgetting id) :=
    List.mem_set (List.getElem?_eq_some_iff.mp here).1 _
  refine ⟨⟨orderly.distinct, orderly.proper, orderly.fits, ?_⟩,
    (mirrors.unschedule (orderly.gone _ member).1).congr ?_ ?_ ?_ ?_⟩
  · intro p there
    rcases List.mem_or_eq_of_mem_set there with before | rfl
    · exact orderly.gone p before
    · exact orderly.gone (.unscheduling id) member
  · intro other
    refine ⟨fun want => ⟨?_, want⟩, And.right⟩
    rintro rfl
    exact (orderly.unwanted member).1 want
  · rintro other ⟨apart, excused⟩
    rcases mem_set_or_eq here (.forgetting id) excused with still | same
    · exact still
    · cases same
      exact absurd rfl apart
  · exact fun _ => .rfl
  · rintro other ⟨p, before, same⟩
    rcases mem_set_or_eq here (.forgetting id) before with still | rfl
    · exact ⟨p, still, same⟩
    · exact ⟨_, inside, same⟩

/-- A deletion ends, and the recorder forgets the monitor. -/
theorem Mirrored.forget {t : Traffic} (mirrored : t.Mirrored) {place : Nat} {id : MonitorId}
    (here : t.leaving[place]? = some (.forgetting id)) :
    ({ t with
      service := t.service.forget id
      leaving := t.leaving.eraseIdx place } : Traffic).Mirrored := by
  obtain ⟨orderly, mirrors⟩ := mirrored
  have member := List.mem_of_getElem? here
  refine ⟨⟨orderly.distinct, orderly.proper, orderly.fits, ?_⟩,
    (mirrors.forget id).congr ?_ ?_ ?_ ?_⟩
  · exact fun p there => orderly.gone p (List.mem_of_mem_eraseIdx there)
  · exact fun _ => .rfl
  · intro other excused
    rcases mem_eraseIdx_or_eq here excused with still | same
    · exact still
    · cases same
  · intro other
    refine ⟨fun follow => ⟨?_, follow⟩, And.right⟩
    rintro rfl
    exact (orderly.unwanted member).2 follow
  · rintro other ⟨apart, p, before, same⟩
    rcases mem_eraseIdx_or_eq here before with still | rfl
    · exact ⟨p, still, same⟩
    · exact absurd same apart

theorem Mirrored.part {t : Traffic} (mirrored : t.Mirrored) (place : Nat) :
    (t.part place).Mirrored := by
  unfold Traffic.part
  split
  next => exact mirrored
  next here => exact mirrored.revoke here
  next here => exact mirrored.forget here

/-! ### Every run -/

theorem Step.mirrored {t t' : Traffic} (move : t.Step t') (mirrored : t.Mirrored) : t'.Mirrored := by
  cases move with
  | enter call free fresh => exact mirrored.enter free call fresh
  | proceed => exact mirrored.proceed
  | part place => exact mirrored.part place
  | undergo c move spares =>
    obtain ⟨⟨distinct, proper, fits, gone⟩, mirrors⟩ := mirrored
    exact ⟨⟨distinct, proper, fits, gone⟩, mirrors.undergo c spares⟩
  | report r =>
    obtain ⟨⟨distinct, proper, fits, gone⟩, mirrors⟩ := mirrored
    exact ⟨⟨distinct, proper, fits, gone⟩, mirrors.report r⟩

theorem Reached.mirrored {t : Traffic} (reached : Reached t) : t.Mirrored := by
  induction reached with
  | @fresh s none_ queue untracked =>
    have unstored : ∀ id, ¬ s.Stored id := by simp [Stored, none_]
    have off : ∀ id, ¬ s.Enabled id := by simp [Enabled, none_]
    refine ⟨⟨by simp [none_], by simp [none_], (fun _ held => nomatch held), nofun⟩, ?_, ?_, ?_⟩
    · refine ⟨{}, queue, Queue.sound_empty, rfl, ?_, fun id want => absurd want (off id)⟩
      exact fun text known => absurd known (Queue.not_knows_empty text)
    · intro id tracked
      simp [Recorder.isTracked, untracked] at tracked
    · exact fun id follow => absurd follow (unstored id)
  | step _ move ih => exact move.mirrored ih

/-- Whatever calls came to a service, and whatever its scheduler and its recorder did between any
two of their steps: when no call is under way the queue is still there and open. The task of every
enabled monitor is queued once or in flight, and not both; no other id is queued or in flight, be it
a disabled monitor's, that of a monitor that does not exist, or no monitor's at all. The recorder
tracks the monitors that are stored, which have different identities. -/
theorem store_mirrored {t : Traffic} (reached : Reached t) (free : t.holder = none)
    (idle : t.leaving = []) :
    ∃ q, t.service.scheduler.queue? t.service.queue = some q ∧ q.closed = false ∧
      (∀ m ∈ t.service.monitors, m.enabled = true →
        q.copies m.taskId = 1 ∧ m.taskId ∉ q.inFlight ∨
          q.copies m.taskId = 0 ∧ m.taskId ∈ q.inFlight) ∧
      (∀ id : MonitorId, id.Proper → (∀ m ∈ t.service.monitors, m.id = id → m.enabled = false) →
        q.copies id.text = 0 ∧ id.text ∉ q.inFlight) ∧
      (∀ text, q.copies text ≠ 0 ∨ text ∈ q.inFlight →
        ∃ m ∈ t.service.monitors, m.enabled = true ∧ m.taskId = text) ∧
      (∀ id, t.service.recorder.isTracked id ↔ ∃ m ∈ t.service.monitors, m.id = id) ∧
      (t.service.monitors.map (·.id)).Nodup := by
  obtain ⟨orderly, mirrors⟩ := reached.mirrored
  obtain ⟨q, here, sound, open_, covers⟩ := mirrors.queue
  have wanted : ∀ id, t.Wanted id ↔ t.service.Enabled id := by simp [Wanted, free]
  have followed : ∀ id, t.Followed id ↔ t.service.Stored id := by simp [Followed, free]
  have excused : ∀ id, ¬ t.Excused id := by simp [Excused, idle]
  have pardoned : ∀ id, ¬ t.Pardoned id := by simp [Pardoned, idle]
  refine ⟨q, here, open_, ?_, ?_, ?_, ?_, orderly.distinct⟩
  · intro m member on
    have known := (covers.complete m.id ((wanted m.id).mpr ⟨m, member, rfl, on⟩)).2
    exact sound.copies_of_knows known
  · intro id proper off
    have unwanted : ¬ t.Wanted id := by
      rw [wanted]
      rintro ⟨m, member, same, on⟩
      rw [off m member same] at on
      cases on
    have unknown := covers.unknown proper unwanted (excused id)
    exact (sound.not_knows_iff_copies id.text).mp unknown
  · intro text there
    have known : q.Knows text := by
      by_contra unknown
      obtain ⟨unqueued, unflown⟩ := (sound.not_knows_iff_copies text).mp unknown
      exact there.elim (fun queued => queued unqueued) unflown
    obtain ⟨id, shown, _, want | excuse⟩ := covers.sound text known
    · obtain ⟨m, member, rfl, on⟩ := (wanted id).mp want
      exact ⟨m, member, on, shown⟩
    · exact absurd excuse (excused id)
  · intro id
    constructor
    · intro tracked
      rcases mirrors.tracked id tracked with follow | pardon
      · exact (followed id).mp follow
      · exact absurd pardon (pardoned id)
    · exact fun stored => mirrors.followed id ((followed id).mpr stored)

/-- A new service. -/
def idleService : Service :=
  { pipeline :=
      { scheduler := (({} : Scheduler Monitor).addQueue "health").scheduler
        inbox := { recorder := .ofCapacity 9 } }
    queue := "health" }

/-- The first monitor is deleted while its check is executing. Before it is out of the queue a
second one is being registered, and the check ends between the two. -/
theorem deleted_while_executing :
    ∃ t, Reached t ∧ t.holder = none ∧ t.leaving = [] ∧ t.service.monitors.map (·.id) = [⟨2⟩] ∧
      ∃ q, t.service.scheduler.queue? t.service.queue = some q ∧
        q.copies (MonitorId.text ⟨1⟩) = 0 ∧ MonitorId.text ⟨1⟩ ∉ q.inFlight ∧
        t.service.recorder.isTracked ⟨2⟩ := by
  let r : Request := { name := "db", checkType := .tcp, target := "db:5432", interval := 60 }
  let minute : Nat := Duration.ofSeconds 60
  let c : Pipeline.Checks :=
    { threshold := 100, probe := fun _ _ => { delay := minute, answer := .reached 5 none } }
  have new : Reached { service := idleService } := .fresh rfl rfl rfl
  have opened := new.step (.undergo c (.work 0) trivial)
  have one := opened.register (by decide +kernel) ⟨1⟩ r (by decide +kernel)
  have due := (one.step (.undergo c (.wait minute) trivial)).step (.undergo c (.work 0) trivial)
  have executing := due.step (.undergo c (.work 0) trivial)
  have struck := executing.step (.enter (.delete ⟨1⟩) (by decide +kernel) trivial)
  have two := struck.step (.enter (.register ⟨2⟩ 0 r) (by decide +kernel) (by decide +kernel))
  have revoked := (two.step .proceed).step (.part 0)
  have ended := (revoked.step (.undergo c (.wait minute) trivial)).step (.undergo c (.work 0) trivial)
  have stored := ((ended.step .proceed).step .proceed).step (.part 0)
  obtain ⟨q, here, -, -, gone, -, tracked, -⟩ :=
    store_mirrored stored (by decide +kernel) (by decide +kernel)
  obtain ⟨unqueued, unflown⟩ := gone ⟨1⟩ (by decide +kernel) (by decide +kernel)
  exact ⟨_, stored, by decide +kernel, by decide +kernel, by decide +kernel, q, here, unqueued,
    unflown, (tracked ⟨2⟩).mpr (by decide +kernel)⟩

end Traffic

end Service

end Vigil
