import Vigil.Proofs.Service.Tracking

/-!
# Which monitors the queue may know

The queue of a service may be closed, removed and added anew, so there is not always a task for an
enabled monitor. There never is one for a monitor that is disabled, and none for one that was
deleted once the deletion has taken it out (`Watched.strict`): an execution that ends late hands
back only what the queue still knows, and a call that tells the queue nothing has found it removed
meanwhile. A queue that has taken the name since then knows nothing, as nobody but the call itself
brings it anything.
-/
namespace Vigil

namespace Service

/-- What the steps before took care of: a task that is to be handed over was made at this time for
an enabled monitor, and the monitor of a task that is to be taken out is disabled. -/
def Stage.Apt (made : Int) : Stage → Prop
  | .registering m u | .clearing m u | .pushing m u | .enabling m u =>
    m.enabled = true ∧ u = m.task made
  | .disabling m => m.enabled = false
  | _ => True

namespace Traffic

/-- The queue may know the monitor. -/
def Entitled (t : Traffic) (id : MonitorId) : Prop := t.Wanted id ∨ t.Excused id

/-- The queue knows nobody who is not entitled. -/
def Selective (t : Traffic) : Prop :=
  ∀ text, t.service.scheduler.Knows t.service.queue text →
    ∃ id : MonitorId, id.text = text ∧ id.Proper ∧ t.Entitled id

/-- The call that holds the lock has a task that was made at this time, if it has one. -/
structure Strict (t : Traffic) (made : Int) : Prop where
  distinct : (t.service.monitors.map (·.id)).Nodup
  apt : ∀ stage ∈ t.holder, stage.Apt made
  selective : t.Selective

/-! ### What the queue knows -/

section

variable {t t' : Traffic}

theorem Selective.congr (selective : t.Selective)
    (known : ∀ text, t'.service.scheduler.Knows t'.service.queue text →
      t.service.scheduler.Knows t.service.queue text)
    (entitled : ∀ id, t.Entitled id → t'.Entitled id) : t'.Selective := by
  intro text inside
  obtain ⟨id, shown, proper, cause⟩ := selective text (known text inside)
  exact ⟨id, shown, proper, entitled id cause⟩

theorem Selective.add (selective : t.Selective) {id : MonitorId} (proper : id.Proper)
    (new : t'.Entitled id)
    (known : ∀ text, t'.service.scheduler.Knows t'.service.queue text →
      id.text = text ∨ t.service.scheduler.Knows t.service.queue text)
    (entitled : ∀ other, t.Entitled other → t'.Entitled other) : t'.Selective := by
  intro text inside
  rcases known text inside with shown | before
  · exact ⟨id, shown, proper, new⟩
  · obtain ⟨other, shown, proper', cause⟩ := selective text before
    exact ⟨other, shown, proper', entitled other cause⟩

theorem Selective.drop (selective : t.Selective) {id : MonitorId}
    (known : ∀ text, t'.service.scheduler.Knows t'.service.queue text →
      id.text ≠ text ∧ t.service.scheduler.Knows t.service.queue text)
    (entitled : ∀ other, id ≠ other → t.Entitled other → t'.Entitled other) : t'.Selective := by
  intro text inside
  obtain ⟨apart, before⟩ := known text inside
  obtain ⟨other, rfl, proper, cause⟩ := selective text before
  have different : id ≠ other := fun same => apart (congrArg MonitorId.text same)
  exact ⟨other, rfl, proper, entitled other different cause⟩

/-- Who is not entitled is not known. -/
theorem Selective.unknown (selective : t.Selective) {id : MonitorId} (proper : id.Proper)
    (unentitled : ¬ t.Entitled id) : ¬ t.service.scheduler.Knows t.service.queue id.text := by
  intro inside
  obtain ⟨other, shown, proper', cause⟩ := selective _ inside
  exact unentitled (MonitorId.text_inj proper' proper shown ▸ cause)

theorem selective_of_empty
    (empty : ∀ text, ¬ t.service.scheduler.Knows t.service.queue text) : t.Selective :=
  fun text inside => absurd inside (empty text)

end

/-! ### Who is entitled -/

section

variable {s s' : Service} {stage stage' : Stage} {leaving : List Parting} {id : MonitorId}

theorem entitled_advance (same : stage'.monitor.id = stage.monitor.id)
    (monitors : s'.monitors = s.monitors) (queued : stage.queued = true → stage'.queued = true)
    (entitled : ({ service := s, holder := some stage, leaving } : Traffic).Entitled id) :
    ({ service := s', holder := some stage', leaving } : Traffic).Entitled id := by
  refine entitled.imp_left fun wanted => ?_
  simp only [Wanted, Enabled, same, monitors] at wanted ⊢
  by_cases here : stage.monitor.id = id
  · simp only [here, ↓reduceIte] at wanted ⊢
    exact queued wanted
  · simpa only [here, ↓reduceIte] using wanted

/-- The call that holds the lock has taken its monitor out of the queue, so it needs no title. -/
theorem entitled_drop (same : stage'.monitor.id = stage.monitor.id)
    (monitors : s'.monitors = s.monitors) (other : stage.monitor.id ≠ id)
    (entitled : ({ service := s, holder := some stage, leaving } : Traffic).Entitled id) :
    ({ service := s', holder := some stage', leaving } : Traffic).Entitled id := by
  refine entitled.imp_left fun wanted => ?_
  simpa only [Wanted, Enabled, same, monitors, other, ↓reduceIte] using wanted

theorem entitled_release (queued : stage.queued = true → s'.Enabled stage.monitor.id)
    (others : ∀ other, stage.monitor.id ≠ other → s.Enabled other → s'.Enabled other)
    (entitled : ({ service := s, holder := some stage, leaving } : Traffic).Entitled id) :
    ({ service := s', leaving } : Traffic).Entitled id := by
  refine entitled.imp_left fun wanted => ?_
  simp only [Wanted] at wanted ⊢
  by_cases here : stage.monitor.id = id
  · simp only [here, ↓reduceIte] at wanted
    exact here ▸ queued wanted
  · simp only [here, ↓reduceIte] at wanted
    exact others id here wanted

theorem entitled_lock (queued : s.Enabled stage.monitor.id → stage.queued = true)
    (entitled : ({ service := s, leaving } : Traffic).Entitled id) :
    ({ service := s, holder := some stage, leaving } : Traffic).Entitled id := by
  refine entitled.imp_left fun wanted => ?_
  simp only [Wanted] at wanted ⊢
  by_cases here : stage.monitor.id = id
  · simp only [here, ↓reduceIte]
    exact queued (here ▸ wanted)
  · simpa only [here, ↓reduceIte] using wanted

/-- The monitor of the call that holds the lock, when it is not to be queued yet. -/
theorem Kept.not_entitled {drawn deleted : List MonitorId}
    (kept : ({ service := s, holder := some stage, leaving } : Traffic).Kept drawn deleted)
    (queued : stage.queued = false) :
    ¬ ({ service := s, holder := some stage, leaving } : Traffic).Entitled stage.monitor.id := by
  rintro (wanted | excused)
  · simp only [Wanted, ↓reduceIte, queued] at wanted
    cases wanted
  · exact (kept.enrolled.leaving _ excused).2.2 (held_some.mpr rfl)

end

/-! ### Steps of the call that holds the lock -/

section

variable {s s' : Service} {stage stage' : Stage} {leaving : List Parting}
  {drawn deleted : List MonitorId} {made made' : Int}

/-- Without a call there is no task. -/
theorem Strict.idle (strict : ({ service := s, leaving } : Traffic).Strict made) :
    ({ service := s, leaving } : Traffic).Strict made' :=
  ⟨strict.distinct, by rintro _ ⟨⟩, strict.selective⟩

theorem Strict.advance
    (strict : ({ service := s, holder := some stage, leaving } : Traffic).Strict made)
    (known : ∀ text, s'.scheduler.Knows s'.queue text → s.scheduler.Knows s.queue text)
    (monitors : s'.monitors = s.monitors) (same : stage'.monitor.id = stage.monitor.id)
    (queued : stage.queued = true → stage'.queued = true) (apt : stage'.Apt made') :
    ({ service := s', holder := some stage', leaving } : Traffic).Strict made' :=
  ⟨monitors ▸ strict.distinct, by rintro _ ⟨⟩; exact apt,
    strict.selective.congr known fun _ => entitled_advance same monitors queued⟩

theorem Strict.release
    (strict : ({ service := s, holder := some stage, leaving } : Traffic).Strict made)
    (known : ∀ text, s'.scheduler.Knows s'.queue text → s.scheduler.Knows s.queue text)
    (distinct : (s'.monitors.map (·.id)).Nodup)
    (queued : stage.queued = true → s'.Enabled stage.monitor.id)
    (others : ∀ other, stage.monitor.id ≠ other → s.Enabled other → s'.Enabled other) :
    ({ service := s', leaving } : Traffic).Strict made' :=
  ⟨distinct, by rintro _ ⟨⟩, strict.selective.congr known fun _ => entitled_release queued others⟩

/-- The call has its monitor's task handed to the queue. -/
theorem Strict.hand
    (strict : ({ service := s, holder := some stage, leaving } : Traffic).Strict made)
    (kept : ({ service := s, holder := some stage, leaving } : Traffic).Kept drawn deleted)
    (call : Scheduler.Call Monitor) {u : Task Monitor} (about : call.task? = some u)
    (mine : u ∈ stage.task?) (same : stage'.monitor.id = stage.monitor.id)
    (queued : stage'.queued = true) (apt : stage'.Apt made') :
    ({ service := s.putScheduler (s.scheduler.serve s.queue call)
       holder := some stage', leaving } : Traffic).Strict made' := by
  obtain ⟨proper, _, _, named⟩ := kept.enrolled.held stage rfl
  refine ⟨strict.distinct, by rintro _ ⟨⟩; exact apt, strict.selective.add proper ?_ ?_
    fun _ => entitled_advance same rfl fun _ => queued⟩
  · left
    simp only [Wanted, same, ↓reduceIte, queued]
  · have shown : u.id = stage.monitor.id.text := named u mine
    exact fun text known => shown ▸ kept.occurs.knows_serve call about known

/-- The call has its monitor taken out of the queue. -/
theorem Strict.clear
    (strict : ({ service := s, holder := some stage, leaving } : Traffic).Strict made)
    (kept : ({ service := s, holder := some stage, leaving } : Traffic).Kept drawn deleted)
    (same : stage'.monitor.id = stage.monitor.id) (apt : stage'.Apt made') :
    ({ service := s.unschedule stage.monitor.id, holder := some stage', leaving } :
      Traffic).Strict made' :=
  ⟨strict.distinct, by rintro _ ⟨⟩; exact apt,
    strict.selective.drop (fun _ known => kept.occurs.knows_remove known)
      fun _ other => entitled_drop same rfl other⟩

/-- When the task was made that the call has after its next step. -/
def making (t : Traffic) (made : Int) : Int :=
  if (t.holder.bind Stage.task?).isSome then made else t.service.now

theorem Strict.proceed {t : Traffic} (strict : t.Strict made) (kept : t.Kept drawn deleted) :
    t.proceed.Strict (t.making made) := by
  obtain ⟨s, holder, leaving⟩ := t
  cases holder with
  | none => exact strict.idle
  | some stage =>
    have apt : stage.Apt made := strict.apt stage rfl
    have distinct : (s.monitors.map (·.id)).Nodup := strict.distinct
    have unqueued {P : Prop} : false = true → P := fun queued => absurd queued Bool.false_ne_true
    have old : s.Stored stage.monitor.id ↔ stage.old = true := (kept.enrolled.held stage rfl).2.2.1
    cases stage with
    | tracking m =>
      cases on : m.enabled with
      | true =>
        simp only [Traffic.proceed, on, ↓reduceIte]
        exact strict.advance (fun _ known => known) rfl rfl unqueued ⟨on, rfl⟩
      | false =>
        simp only [Traffic.proceed, on, Bool.false_eq_true, ↓reduceIte]
        exact strict.advance (fun _ known => known) rfl rfl unqueued trivial
    | registering m u =>
      simp only [Traffic.proceed]
      cases accepted : (s.scheduler.register s.queue u).answer.isOk with
      | true =>
        simp only [↓reduceIte]
        exact strict.hand kept (.register u) rfl rfl rfl apt.1 trivial
      | false =>
        simp only [Scheduler.register_refused accepted, Bool.false_eq_true, ↓reduceIte]
        exact strict.advance (fun _ known => known) rfl rfl unqueued trivial
    | untracking m =>
      exact strict.release (fun _ known => known) distinct unqueued fun _ _ on => on
    | storing m =>
      have unlisted : m.id ∉ s.monitors.map (·.id) := by
        have unstored : ¬ s.Stored m.id := fun there => Bool.false_ne_true (old.mp there)
        simpa only [Stored, List.mem_map] using unstored
      have more : ((append s m).monitors.map (·.id)).Nodup := by
        simp only [append, tick, List.map_append, List.map_cons, List.map_nil]
        exact List.nodup_append_comm.mp (List.nodup_cons.mpr ⟨unlisted, distinct⟩)
      refine strict.release (fun _ known => known) more (fun on => ?_) fun other _ on => ?_
      · exact (enabled_append s m m.id).mpr (.inl ⟨rfl, on⟩)
      · exact (enabled_append s m other).mpr (.inr on)
    | clearing m u => exact strict.clear kept rfl apt
    | pushing m u =>
      simp only [Traffic.proceed]
      cases accepted : s.scheduler.accepts s.queue u with
      | true =>
        simp only [↓reduceIte]
        exact strict.hand kept (.push u) rfl rfl rfl apt.1 trivial
      | false =>
        simp only [Scheduler.push_refused accepted, Bool.false_eq_true, ↓reduceIte]
        exact strict.release (fun _ known => known) distinct unqueued fun _ _ on => on
    | enabling m u =>
      simp only [Traffic.proceed]
      cases accepted : (s.scheduler.register s.queue u).answer.isOk with
      | true =>
        simp only [↓reduceIte]
        exact strict.hand kept (.register u) rfl rfl rfl apt.1 trivial
      | false =>
        simp only [Scheduler.register_refused accepted, Bool.false_eq_true, ↓reduceIte]
        exact strict.release (fun _ known => known) distinct unqueued fun _ _ on => on
    | disabling m => exact strict.clear kept rfl trivial
    | replacing m =>
      have stored : s.Stored m.id := old.mpr rfl
      refine strict.release (fun _ known => known) ?_ (fun on => ?_) fun other apart on => ?_
      · exact (ids_replace s m).symm ▸ distinct
      · exact (enabled_replace stored m.id).mpr ((if_pos rfl).mpr on)
      · exact (enabled_replace stored other).mpr ((if_neg apart).mpr on)

/-! ### Calls that begin, and deletions -/

/-- A call takes the lock. -/
theorem Strict.lock (strict : ({ service := s, leaving } : Traffic).Strict made)
    (apt : stage.Apt made') (queued : s.Enabled stage.monitor.id → stage.queued = true) :
    ({ service := s, holder := some stage, leaving } : Traffic).Strict made' :=
  ⟨strict.distinct, by rintro _ ⟨⟩; exact apt,
    strict.selective.congr (fun _ known => known) fun _ => entitled_lock queued⟩

theorem Strict.strike (strict : ({ service := s, leaving } : Traffic).Strict made)
    (id : MonitorId) :
    ({ service := s.strike id, leaving := .unscheduling id :: leaving } :
      Traffic).Strict made' := by
  refine ⟨?_, by rintro _ ⟨⟩, strict.selective.congr (fun _ known => known) ?_⟩
  · exact strict.distinct.sublist (List.filter_sublist.map _)
  · rintro other (wanted | excused)
    · by_cases here : id = other
      · exact .inr (here ▸ List.mem_cons_self)
      · exact .inl ((enabled_strike s id other).mpr ⟨here, wanted⟩)
    · exact .inr (List.mem_cons_of_mem _ excused)

theorem Strict.enter {t : Traffic} (strict : t.Strict made) (free : t.holder = none) (call : Call)
    (fresh : ∀ id ∈ call.identity?, ¬ t.service.Stored id) :
    (t.enter call).Strict t.service.now := by
  obtain ⟨s, holder, leaving⟩ := t
  cases free
  have distinct : (s.monitors.map (·.id)).Nodup := strict.distinct
  have idle : ({ service := s, leaving } : Traffic).Strict s.now := strict.idle
  cases call with
  | register id stamp r =>
    simp only [Traffic.enter]
    split
    next => exact idle
    next =>
      refine strict.lock trivial ?_
      rintro ⟨m, member, same, _⟩
      exact absurd ⟨m, member, same⟩ (fresh id rfl)
  | modify id c =>
    simp only [Traffic.enter]
    split
    next => exact idle
    next old found =>
      obtain ⟨member, _⟩ := stored_of_find? found
      split
      next => exact idle
      next =>
        split
        next on => exact strict.lock ⟨on, rfl⟩ fun _ => rfl
        next off =>
          refine strict.lock trivial fun enabled => absurd ?_ off
          exact (enabled_iff distinct member).mp enabled
  | toggle id =>
    simp only [Traffic.enter]
    split
    next => exact idle
    next old found =>
      obtain ⟨member, _⟩ := stored_of_find? found
      split
      next on =>
        refine strict.lock ⟨on, rfl⟩ fun enabled => ?_
        rw [(enabled_iff distinct member).mp enabled] at on
        cases on
      next off => exact strict.lock (Bool.eq_false_iff.mpr off) fun _ => rfl
  | delete id =>
    simp only [Traffic.enter]
    split
    next => exact idle
    next => exact strict.strike id

theorem Strict.part {t : Traffic} (strict : t.Strict made) (occurs : t.service.scheduler.Occurs)
    (place : Nat) : (t.part place).Strict made := by
  unfold Traffic.part
  split
  next => exact strict
  next id here =>
    refine ⟨strict.distinct, strict.apt,
      strict.selective.drop (fun _ known => occurs.knows_remove known) ?_⟩
    rintro other apart (wanted | excused)
    · exact .inl wanted
    · rcases mem_set_or_eq here (.forgetting id) excused with still | same
      · exact .inr still
      · cases same
        exact absurd rfl apart
  next id here =>
    refine ⟨strict.distinct, strict.apt, strict.selective.congr (fun _ known => known) ?_⟩
    rintro other (wanted | excused)
    · exact .inl wanted
    · rcases mem_eraseIdx_or_eq here excused with still | same
      · exact .inr still
      · cases same

/-- The queue comes to know nothing, and calls stand where they stood. -/
theorem Strict.disturb {t : Traffic} (strict : t.Strict made) {s : Service}
    (monitors : s.monitors = t.service.monitors)
    (known : ∀ text, s.scheduler.Knows s.queue text →
      t.service.scheduler.Knows t.service.queue text) :
    ({ t with service := s } : Traffic).Strict made := by
  refine ⟨monitors ▸ strict.distinct, strict.apt, strict.selective.congr known fun id => ?_⟩
  simp only [Entitled, Wanted, Excused, Enabled, monitors]
  exact fun entitled => entitled

/-- As the queue knows nothing, a step that finds no queue leaves nothing in it. -/
theorem Strict.miss {t : Traffic} (strict : t.Strict made)
    (empty : ∀ text, ¬ t.service.scheduler.Knows t.service.queue text) : t.miss.Strict made := by
  have same := t.miss_service
  refine ⟨same.symm ▸ strict.distinct, ?_, selective_of_empty (same.symm ▸ empty)⟩
  obtain ⟨s, holder, leaving⟩ := t
  cases holder with
  | none => exact strict.apt
  | some stage =>
    cases stage with
    | registering | disabling | clearing | pushing | enabling =>
      rintro _ ⟨⟩ <;> trivial
    | _ => exact strict.apt

end

end Traffic

namespace Journal

/-- No queue is registered under the service's name. -/
def unqueued (j : Journal) : Bool := (j.service.scheduler.queue? j.service.queue).isNone

/-- What others do while the call that holds the lock waits to do its next step. -/
inductive Aside (j : Journal) : Journal → Prop where
  | part (place : Nat) : Aside j (j.part place)
  | undergo (c : Pipeline.Checks) (move : Pipeline.Move) (foreign : move.Foreign j.service.queue) :
      Aside j { j with traffic := j.traffic.undergo c move }
  | hear : Aside j { j with traffic := { j.traffic with service := j.service.hear } }
  | report (r : CheckResult) :
      Aside j { j with traffic := { j.traffic with service := j.service.report r } }

/-- What a new service over a new scheduler can come to, whether there was a moment without a queue
since the call that holds the lock came to its next step, and when the task was made that it has.
Only after such a moment may the call be left with a queue that is not the registered one
(`miss`). -/
inductive Watched : Journal → Bool → Int → Prop where
  | fresh (config : Scheduler.Config) (now : Int) (capacity : Nat) (listening : Bool)
      (queue : String) :
      Watched
        { traffic :=
          { service :=
            { pipeline :=
                { scheduler := { config, now }
                  inbox := { recorder := .ofCapacity capacity, listening } }
              queue } } } true now
  | enter {j : Journal} {gone : Bool} {made : Int} (watched : Watched j gone made) (call : Call)
      (free : j.traffic.holder = none) (original : j.Original call) :
      Watched (j.enter call) (j.enter call).unqueued j.service.now
  | proceed {j : Journal} {gone : Bool} {made : Int} (watched : Watched j gone made) :
      Watched { j with traffic := j.traffic.proceed }
        (unqueued { j with traffic := j.traffic.proceed }) (j.traffic.making made)
  | miss {j : Journal} {made : Int} (watched : Watched j true made) :
      Watched { j with traffic := j.traffic.miss } (unqueued { j with traffic := j.traffic.miss })
        made
  | aside {j j' : Journal} {gone : Bool} {made : Int} (watched : Watched j gone made)
      (move : j.Aside j') : Watched j' (gone || j'.unqueued) made

variable {j j' : Journal} {gone : Bool} {made : Int}

theorem Aside.step (move : j.Aside j') : j.Step j' := by
  cases move with
  | part place => exact .part place
  | undergo c move foreign => exact .undergo c move foreign
  | hear => exact .hear
  | report r => exact .report r

theorem Watched.reached (watched : Watched j gone made) : j.Reached := by
  induction watched with
  | fresh config now capacity listening queue => exact .fresh config now capacity listening queue
  | enter _ call free original ih => exact ih.step (.enter call free original)
  | proceed _ ih => exact ih.step .proceed
  | miss _ ih => exact ih.step .miss
  | aside _ move ih => exact ih.step move.step

/-- The queue of a call that waits comes to know nothing. -/
theorem Aside.knows (move : j.Aside j') (occurs : j.service.scheduler.Occurs) {text : String}
    (known : j'.service.scheduler.Knows j'.service.queue text) :
    j.service.scheduler.Knows j.service.queue text := by
  cases move with
  | part place =>
    simp only [service, Journal.part, Traffic.part] at known
    split at known
    · exact known
    · exact (occurs.knows_remove known).2
    · exact known
  | undergo c move foreign =>
    let l : Pipeline.Ledger := { pipeline := j.service.pipeline }
    have moved : (l.step c move).pipeline.scheduler.Knows j.service.queue text := known
    rw [l.scheduler_step c move] at moved
    cases about : move.scheduling? c with
    | none =>
      rw [about] at moved
      exact moved
    | some part =>
      rw [about] at moved
      exact occurs.knows_moved part (foreign.not_gives about text) moved
  | hear =>
    have same : j.service.hear.scheduler.Knows j.service.hear.queue text := known
    rwa [hear_scheduler, hear_queue] at same
  | report r =>
    have same : (j.service.report r).scheduler.Knows j.service.queue text := known
    rwa [show (j.service.report r).scheduler = _ from Pipeline.send_scheduler _ _ _] at same

theorem Aside.strict (move : j.Aside j') (strict : j.traffic.Strict made)
    (occurs : j.service.scheduler.Occurs) : j'.traffic.Strict made := by
  have known : ∀ text, j'.service.scheduler.Knows j'.service.queue text →
      j.service.scheduler.Knows j.service.queue text := fun _ => move.knows occurs
  cases move with
  | part place => exact strict.part occurs place
  | undergo c move foreign => exact strict.disturb rfl known
  | hear => exact strict.disturb (hear_monitors _) known
  | report r => exact strict.disturb rfl known

theorem not_knows_of_unqueued (none_ : j.unqueued = true) (text : String) :
    ¬ j.service.scheduler.Knows j.service.queue text := by
  rintro ⟨q, here, _⟩
  rw [unqueued, here] at none_
  cases none_

/-- Without a queue nothing is known, nor is it as long as the call that holds the lock waits. -/
theorem Watched.empty (watched : Watched j gone made) (missed : gone = true) (text : String) :
    ¬ j.service.scheduler.Knows j.service.queue text := by
  induction watched with
  | fresh config now capacity listening queue =>
    rintro ⟨q, here, _⟩
    cases here
  | enter | proceed | miss => exact not_knows_of_unqueued missed text
  | @aside j j' gone made watched move ih =>
    rcases Bool.or_eq_true_iff.mp missed with before | none_
    · exact fun known => ih before (move.knows watched.reached.kept.occurs known)
    · exact not_knows_of_unqueued none_ text

theorem Watched.strict (watched : Watched j gone made) : j.traffic.Strict made := by
  induction watched with
  | fresh config now capacity listening queue =>
    refine ⟨List.nodup_nil, by rintro _ ⟨⟩, Traffic.selective_of_empty fun text => ?_⟩
    rintro ⟨q, here, _⟩
    cases here
  | @enter j gone made watched call free original ih =>
    refine ih.enter free call fun id about there => ?_
    exact (original id about).2 (watched.reached.kept.enrolled.present id (.inl there))
  | proceed watched ih => exact ih.proceed watched.reached.kept
  | miss watched ih => exact ih.miss (watched.empty rfl)
  | aside watched move ih => exact move.strict ih watched.reached.kept.occurs

end Journal

end Service

end Vigil
