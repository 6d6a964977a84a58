import Vigil.Proofs.Queue.Upsert
import Vigil.Proofs.Service.Entitlement

/-!
# A call that succeeds puts the new settings in place

Where a queue knows nothing of an id, to register a task under it is to queue that very task; a
replacement takes out whatever was there before it queues the new one. To register and to enable a
monitor is to go the first way, so both rely on nothing being left of the monitor. Nothing is: the
queue knows only who is entitled (`Journal.Watched.strict`), and neither an identity that was never
drawn nor a disabled monitor is, however often it was switched and changed before, and whichever of
its checks are still under way.
-/
namespace Vigil

variable {ω : Type}

/-! ### A task is put in its place -/

namespace Queue

variable {q r : Queue ω} {t : Task ω}

/-- The open queue `r` is `q` with this task in it, once, not in flight, and behind everything else
that is due no later. -/
structure Installed (q r : Queue ω) (t : Task ω) : Prop where
  open_ : r.closed = false
  once : r.copies t.id = 1
  found : r.find? t.id = some t
  unclaimed : t.id ∉ r.inFlight
  placed : ∃ ahead behind, r.heap.popAll = ahead ++ t :: behind ∧
    ahead ++ behind = q.heap.popAll.filter (·.id ≠ t.id) ∧
    (∀ u ∈ ahead, u.due ≤ t.due) ∧ ∀ u ∈ behind, t.due < u.due

theorem Sound.installed (sound : q.Sound) (open_ : q.closed = false) (after : r.Sound)
    (outline : r.outline = q.outline.enter t) : q.Installed r t := by
  have found : r.find? t.id = some t := by
    rw [← after.outline_find?, outline]
    exact q.outline.find?_enter t
  have agenda : r.heap.popAll = enlist (·.due) t (Agenda.without t.id q.heap.popAll) :=
    congrArg Outline.agenda outline
  have sorted : (Agenda.without t.id q.heap.popAll).Pairwise (·.due ≤ ·.due) :=
    sound.sorted.filter _
  obtain ⟨ahead, behind, parted, rest, sooner, later⟩ := Agenda.exists_enlist t sorted
  refine ⟨(congrArg Outline.closed outline).trans open_, ?_, found, ?_,
    ahead, behind, agenda.trans parted, rest, sooner, later⟩
  · rw [after.copies_eq, found]
    rfl
  · intro flying
    rw [after.apart _ flying] at found
    cases found

theorem Sound.installed_place (sound : q.Sound) (open_ : q.closed = false)
    (free : q.find? t.id = none) : q.Installed (q.place t) t :=
  sound.installed open_ (sound.place open_ free).1 (sound.outline_place free)

/-- To replace is to remove and to push. -/
theorem Sound.installed_replace (sound : q.Sound) (open_ : q.closed = false) (t : Task ω) :
    (q.remove t.id).1.find? t.id = none ∧ q.Installed ((q.remove t.id).1.place t) t := by
  have without := sound.remove t.id
  have free : (q.remove t.id).1.find? t.id = none := (without.finds t.id).trans (if_pos rfl)
  have after := (without.sound.place (without.closed.trans open_) free).1
  refine ⟨free, sound.installed open_ after ?_⟩
  rw [without.sound.outline_place free, sound.outline_remove, Outline.enter_forget rfl]

theorem Sound.upsert_free (sound : q.Sound) (open_ : q.closed = false)
    (free : q.find? t.id = none) :
    q.upsert t = .ok ⟨q.place t, true, (q.heap.insert t).2 == 0⟩ := by
  have absent := (sound.position_eq_none_iff t.id).mpr free
  unfold upsert
  rw [if_neg (by simp [open_]), absent]
  rfl

/-- If the task is accepted it is itself queued, and no other is moved to its due time instead. -/
def Admits (q : Queue ω) (t : Task ω) : Prop := ∀ e, q.upsert t = .ok e → e.answer = true

theorem Sound.admits (sound : q.Sound) (unknown : ¬ q.Knows t.id) : q.Admits t := by
  intro e success
  have free := ((q.not_knows_iff t.id).mp unknown).1
  rw [sound.upsert_free (upsert_ok sound success).1 free] at success
  exact Except.ok.inj success ▸ rfl

end Queue

namespace Scheduler

variable {s : Scheduler ω} {name : String} {q : Queue ω} {t : Task ω}

/-- The queue of this name becomes one that has the task in its place. -/
def Installs (s s' : Scheduler ω) (name : String) (t : Task ω) : Prop :=
  ∃ q r, s.queue? name = some q ∧ s'.queue? name = some r ∧ q.Installed r t

theorem installs_putQueue (here : s.queue? name = some q) {r : Queue ω}
    (installed : q.Installed r t) (wakes : Bool) :
    s.Installs (s.putQueue name r wakes) name t := by
  refine ⟨q, r, here, ?_, installed⟩
  rw [queue?_putQueue here]
  exact if_pos rfl

theorem installs_register (here : s.queue? name = some q) (sound : q.Sound)
    (open_ : q.closed = false) (unknown : ¬ q.Knows t.id) :
    s.Installs (s.register name t).scheduler name t := by
  have free := ((q.not_knows_iff t.id).mp unknown).1
  simp only [register, here, sound.upsert_free open_ free]
  exact installs_putQueue here (sound.installed_place open_ free) _

theorem installs_push (here : s.queue? name = some q) (sound : q.Sound) (open_ : q.closed = false)
    (unknown : ¬ q.Knows t.id) : s.Installs (s.push name t) name t := by
  have free := ((q.not_knows_iff t.id).mp unknown).1
  simp only [push, here, sound.push_free open_ free]
  exact installs_putQueue here (sound.installed_place open_ free) _

/-- A replacement needs nothing to be unknown. -/
theorem installs_update (here : s.queue? name = some q) (sound : q.Sound) (open_ : q.closed = false)
    (t : Task ω) : s.Installs (s.update name t).scheduler name t := by
  obtain ⟨free, installed⟩ := sound.installed_replace open_ t
  have without := sound.remove t.id
  simp only [update, here, without.sound.push_free (without.closed.trans open_) free]
  exact installs_putQueue here installed _

end Scheduler

namespace Service

/-! ### Calls that succeed -/

section

variable {s : Service} {id : MonitorId} {m : Monitor}

theorem register_ok {r : Request} (success : (s.register id r).2 = .ok m) (on : m.enabled = true) :
    m.id = id ∧ (s.register id r).1.scheduler =
      (s.scheduler.register s.queue (m.task s.now)).scheduler := by
  let new := Monitor.ofRequest id s.stamp r
  cases valid : Validation.checkMonitor new with
  | error defect =>
    simp only [register, new, valid] at success
    cases success
  | ok _ =>
    cases enabled : new.enabled with
    | false =>
      simp only [register, new, valid, enabled, Bool.false_eq_true, ↓reduceIte] at success
      cases success
      exact absurd (enabled.symm.trans on) Bool.false_ne_true
    | true =>
      cases asked : ((s.putRecorder (s.recorder.track id)).scheduler.register s.queue
          (new.task s.now)).answer with
      | error why =>
        simp only [register, new, valid, enabled, asked, ↓reduceIte] at success
        cases success
      | ok _ =>
        simp only [register, new, valid, enabled, asked, ↓reduceIte] at success ⊢
        cases success
        exact ⟨rfl, rfl⟩

theorem modify_ok {c : Changes} (success : (s.modify id c).2 = .ok m) (on : m.enabled = true) :
    (s.modify id c).1.scheduler = (s.scheduler.update s.queue (m.task s.now)).scheduler := by
  cases found : s.find? id with
  | none =>
    simp only [modify, found] at success
    cases success
  | some old =>
    let new := old.apply s.stamp c
    cases valid : Validation.checkMonitor new with
    | error defect =>
      simp only [modify, found, new, valid] at success
      cases success
    | ok _ =>
      cases enabled : new.enabled with
      | false =>
        simp only [modify, found, new, valid, enabled, Bool.false_eq_true, ↓reduceIte] at success
        cases success
        exact absurd (enabled.symm.trans on) Bool.false_ne_true
      | true =>
        cases asked : (s.scheduler.update s.queue (new.task s.now)).answer with
        | error why =>
          simp only [modify, found, new, valid, enabled, asked, ↓reduceIte] at success
          cases success
        | ok _ =>
          simp only [modify, found, new, valid, enabled, asked, ↓reduceIte] at success ⊢
          cases success
          rfl

theorem toggle_ok (success : (s.toggle id).2 = .ok m) (on : m.enabled = true) :
    (∃ old ∈ s.monitors, old.id = m.id ∧ old.enabled = false) ∧ (s.toggle id).1.scheduler =
      (s.scheduler.register s.queue (m.task s.now)).scheduler := by
  cases found : s.find? id with
  | none =>
    simp only [toggle, found] at success
    cases success
  | some old =>
    obtain ⟨member, _⟩ := Traffic.stored_of_find? found
    cases before : old.enabled with
    | true =>
      simp only [toggle, found, before, Bool.not_true, Bool.false_eq_true, ↓reduceIte] at success
      cases success
      cases on
    | false =>
      let new : Monitor := { old with enabled := true, updatedAt := s.stamp }
      cases asked : (s.scheduler.register s.queue (new.task s.now)).answer with
      | error why =>
        simp only [new] at asked
        simp only [toggle, found, before, asked, Bool.not_false, ↓reduceIte] at success
        cases success
      | ok _ =>
        simp only [new] at asked
        simp only [toggle, found, before, asked, Bool.not_false, ↓reduceIte] at success ⊢
        cases success
        exact ⟨⟨old, member, rfl, before⟩, rfl⟩

end

/-- The task that is handed to the queue in the next step. -/
def Stage.offer? : Stage → Option (Task Monitor)
  | .registering _ t | .pushing _ t | .enabling _ t => some t
  | _ => none

/-- The task is the first one that checks this monitor, made at an instant: its executor is the one
for the monitor's check type, its interval the monitor's, and it is due one interval later. -/
structure FirstCheck (t : Task Monitor) (m : Monitor) (now : Int) : Prop where
  id : t.id = m.taskId
  work : t.work = m
  executor : t.executor = m.checkType.executor
  interval : t.interval = m.period
  due : t.due = now + m.period
  run : t.run = 0

theorem firstCheck_task (m : Monitor) (now : Int) : FirstCheck (m.task now) m now :=
  ⟨rfl, rfl, rfl, rfl, rfl, rfl⟩

/-- The service's queue has a task of this monitor in its place, which was made now. -/
def Installs (s s' : Service) (m : Monitor) : Prop :=
  ∃ t, FirstCheck t m s.now ∧ s.scheduler.Installs s'.scheduler s.queue t

theorem task?_of_offer? {stage : Stage} {t : Task Monitor} (offered : t ∈ stage.offer?) :
    t ∈ stage.task? ∧ stage.queued = false := by
  cases stage <;> first | exact ⟨offered, rfl⟩ | cases offered

namespace Journal

variable {j : Journal} {gone : Bool} {made : Int} {q : Queue Monitor} {stage : Stage}
  {t : Task Monitor}

/-! ### What the queue does not know -/

theorem Watched.unknown (watched : Watched j gone made) {id : MonitorId} (proper : id.Proper)
    (unentitled : ¬ j.traffic.Entitled id)
    (here : j.service.scheduler.queue? j.service.queue = some q) : ¬ q.Knows id.text :=
  fun known => watched.strict.selective.unknown proper unentitled ⟨q, here, known⟩

theorem Watched.offered_unknown (watched : Watched j gone made) (held : stage ∈ j.traffic.holder)
    (offered : t ∈ stage.offer?) (here : j.service.scheduler.queue? j.service.queue = some q) :
    ¬ q.Knows t.id := by
  have kept := watched.reached.kept
  obtain ⟨task, queued⟩ := task?_of_offer? offered
  obtain ⟨proper, _, _, named⟩ := kept.enrolled.held stage held
  have unentitled : ¬ j.traffic.Entitled stage.monitor.id := by
    obtain ⟨⟨s, holder, leaving⟩, drawn, deleted⟩ := j
    cases held
    exact Traffic.Kept.not_entitled kept queued
  exact named t task ▸ watched.unknown proper unentitled here

/-- An identity that was never drawn. -/
theorem Watched.original_unknown (watched : Watched j gone made) (free : j.traffic.holder = none)
    {id : MonitorId} {stamp : Nat} {r : Request} (original : j.Original (.register id stamp r))
    (here : j.service.scheduler.queue? j.service.queue = some q) : ¬ q.Knows id.text := by
  obtain ⟨proper, fresh⟩ := original id rfl
  have absent := mt (watched.reached.kept.enrolled.present id) fresh
  refine watched.unknown proper ?_ here
  rintro (wanted | excused)
  · simp only [Traffic.Wanted, free] at wanted
    obtain ⟨m, member, same, _⟩ := wanted
    exact absent (.inl ⟨m, member, same⟩)
  · exact absent (.inr (.inr ⟨_, excused, rfl⟩))

/-- A monitor that is stored and disabled. -/
theorem Watched.disabled_unknown (watched : Watched j gone made) (free : j.traffic.holder = none)
    {m : Monitor} (member : m ∈ j.service.monitors) (off : m.enabled = false)
    (here : j.service.scheduler.queue? j.service.queue = some q) : ¬ q.Knows m.taskId := by
  have enrolled := watched.reached.kept.enrolled
  have stored : j.service.Stored m.id := ⟨m, member, rfl⟩
  refine watched.unknown (enrolled.stored m.id stored).1 ?_ here
  rintro (wanted | excused)
  · simp only [Traffic.Wanted, free] at wanted
    have on := (Traffic.enabled_iff watched.strict.distinct member).mp wanted
    rw [off] at on
    cases on
  · exact (enrolled.leaving _ excused).2.1 stored

/-! ### What the queue takes -/

theorem Watched.offer_installed (watched : Watched j gone made) (held : stage ∈ j.traffic.holder)
    (offered : t ∈ stage.offer?) (here : j.service.scheduler.queue? j.service.queue = some q)
    (open_ : q.closed = false) :
    j.service.scheduler.Installs j.traffic.proceed.service.scheduler j.service.queue t := by
  have unknown := watched.offered_unknown held offered here
  have sound := watched.reached.kept.occurs.sound here
  obtain ⟨⟨s, holder, leaving⟩, drawn, deleted⟩ := j
  cases held
  cases stage with
  | registering m u | enabling m u =>
    cases offered
    exact Scheduler.installs_register here sound open_ unknown
  | pushing m u =>
    cases offered
    exact Scheduler.installs_push here sound open_ unknown
  | _ => cases offered

theorem Watched.offer_made (watched : Watched j gone made) (held : stage ∈ j.traffic.holder)
    (offered : t ∈ stage.offer?) : FirstCheck t stage.monitor made := by
  have apt := watched.strict.apt stage held
  cases stage with
  | registering m u | pushing m u | enabling m u =>
    cases offered
    exact apt.2 ▸ firstCheck_task m made
  | _ => cases offered

/-- Whatever calls came to a service, whatever its scheduler and its recorder did between any two of
their steps, and whether checks of the monitor are executing, or copies of it that were superseded:
the queue takes the very task that a call hands to it, and never moves one that it has to another
due time. If it is open the task is then there once and not in flight, behind all that are due no
later. So it is for the steps of a call that others come between: its task has the call's monitor to
check, with the executor for its check type and at its interval, and is due one interval after it was
made. A call that nothing comes between, and that returns an enabled monitor, leaves such a task of
that monitor, due one interval from now. -/
theorem settings_installed (watched : Watched j gone made)
    (here : j.service.scheduler.queue? j.service.queue = some q) :
    (∀ stage ∈ j.traffic.holder, ∀ t ∈ stage.offer?,
      FirstCheck t stage.monitor made ∧ q.Admits t ∧
        (q.closed = false →
          j.service.scheduler.Installs j.traffic.proceed.service.scheduler j.service.queue t)) ∧
    (j.traffic.holder = none → q.closed = false →
      let s := j.service
      (∀ id r m, j.Original (.register id s.stamp r) → (s.register id r).2 = .ok m →
        m.enabled = true → q.Admits (m.task s.now) ∧ s.Installs (s.register id r).1 m) ∧
      (∀ id c m, (s.modify id c).2 = .ok m → m.enabled = true → s.Installs (s.modify id c).1 m) ∧
      ∀ id m, (s.toggle id).2 = .ok m → m.enabled = true →
        q.Admits (m.task s.now) ∧ s.Installs (s.toggle id).1 m) := by
  have sound := watched.reached.kept.occurs.sound here
  refine ⟨fun stage held t offered => ⟨watched.offer_made held offered,
    sound.admits (watched.offered_unknown held offered here),
    watched.offer_installed held offered here⟩, ?_⟩
  intro free open_ s
  refine ⟨fun id r m original success on => ?_, fun id c m success on => ?_,
    fun id m success on => ?_⟩
  · obtain ⟨rfl, asked⟩ := register_ok success on
    have unknown : ¬ q.Knows (m.task s.now).id := watched.original_unknown free original here
    refine ⟨sound.admits unknown, _, firstCheck_task m s.now, ?_⟩
    rw [asked]
    exact Scheduler.installs_register here sound open_ unknown
  · refine ⟨_, firstCheck_task m s.now, ?_⟩
    rw [modify_ok success on]
    exact Scheduler.installs_update here sound open_ _
  · obtain ⟨⟨old, member, same, off⟩, asked⟩ := toggle_ok success on
    have unknown : ¬ q.Knows (m.task s.now).id := by
      have before := watched.disabled_unknown free member off here
      rwa [Monitor.taskId, same] at before
    refine ⟨sound.admits unknown, _, firstCheck_task m s.now, ?_⟩
    rw [asked]
    exact Scheduler.installs_register here sound open_ unknown

/-- A monitor is given another protocol and another interval while its check executes, and then
disabled. It is enabled again while the check of the old copy still executes. -/
theorem enabled_while_executing :
    ∃ (j : Journal) (gone : Bool) (made : Int) (m : Monitor), Watched j gone made ∧
      j.service.scheduler.duties.map (fun d => (d.2.2.executor, d.2.2.work.interval)) = [(.tcp, 10)] ∧
      (j.service.toggle ⟨1⟩).2 = .ok m ∧ m.enabled = true ∧
      (m.checkType.executor, m.interval) = (.webSocket, 20) ∧
      j.service.Installs (j.service.toggle ⟨1⟩).1 m := by
  let r : Request := { name := "site", checkType := .tcp, target := "localhost:80", interval := 10 }
  let c : Pipeline.Checks :=
    { threshold := 100, probe := fun _ _ => { delay := 5000000000, answer := .reached 5 none } }
  let m : Monitor :=
    { id := ⟨1⟩, name := "site", checkType := .webSocket, target := "ws://[::1]", interval := 20
      enabled := true, createdAt := 0, updatedAt := 3 }
  obtain ⟨j, gone, made, watched, free, there, executing, success⟩ : ∃ (j : Journal) (gone : Bool)
      (made : Int), Watched j gone made ∧ j.traffic.holder = none ∧
        (j.service.scheduler.queue? j.service.queue).map (·.closed) = some false ∧
        j.service.scheduler.duties.map (fun d => (d.2.2.executor, d.2.2.work.interval)) =
          [(.tcp, 10)] ∧
        (j.service.toggle ⟨1⟩).2 = .ok m := by
    have new : Watched _ _ _ := .fresh {} 0 9 true "health"
    have opened := (new.aside (.undergo c (.client "health" .addQueue) fun _ => rfl)).aside
      (.undergo c (.work 0) trivial)
    have registered := (opened.enter (.register ⟨1⟩ 0 r) (by decide +kernel)
      (by decide +kernel)).proceed.proceed.proceed
    have executing := ((registered.aside (.undergo c (.wait (Duration.ofSeconds 10)) trivial)).aside
      (.undergo c (.work 0) trivial)).aside (.undergo c (.work 0) trivial)
    let changes : Changes :=
      { checkType := some .webSocket, target := some "ws://[::1]", interval := some 20 }
    have modified := (executing.enter (.modify ⟨1⟩ changes) (by decide +kernel)
      nofun).proceed.proceed.proceed
    have disabled := (modified.enter (.toggle ⟨1⟩) (by decide +kernel) nofun).proceed.proceed
    exact ⟨_, _, _, disabled, by decide +kernel, by decide +kernel, by decide +kernel,
      by decide +kernel⟩
  obtain ⟨q, here, open_⟩ := Option.map_eq_some_iff.mp there
  obtain ⟨_, _, toggled⟩ := (settings_installed watched here).2 free open_
  exact ⟨j, gone, made, m, watched, executing, success, rfl, rfl, (toggled ⟨1⟩ m success rfl).2⟩

end Journal

end Service

end Vigil
