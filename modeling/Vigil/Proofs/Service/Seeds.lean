import Vigil.Orchestrator
import Vigil.Proofs.Queue.Arrangement
import Vigil.Proofs.Service.Installation
import Vigil.Proofs.Service.Validity
import Vigil.Proofs.Validation

/-!
# The monitors that a configuration lists

A service starts with the monitors of its configuration. They are registered in the order of the
list, each by itself: a request that is refused leaves everything as it was, not even a stamp is
used up, so the service that comes out is the one that the acceptable requests alone lead to. After
every one of them the service is stocked with exactly the requests so far (`Stocked.register`).
-/
namespace Vigil

/-- Whether a monitor for the request passes every check. -/
def Request.isValid (r : Request) : Bool := (Validation.checkMonitor (.ofRequest .nil 0 r)).isOk

/-- The checks look neither at the id nor at the stamp. -/
theorem Request.isValid_iff {r : Request} (id : MonitorId) (stamp : Nat) :
    r.isValid = true ↔ (Monitor.ofRequest id stamp r).Acceptable := by
  refine Iff.trans ?_ Validation.checkMonitor_eq_ok
  exact ⟨Validation.eq_ok_of_isOk, fun passed => congrArg Except.isOk passed⟩

namespace Service

/-! ### One request -/

section

variable {s : Service} {id : MonitorId} {r : Request}

theorem register_invalid (s : Service) (id : MonitorId) (invalid : r.isValid = false) :
    ∃ why, s.register id r = (s, .error (.invalidData why)) := by
  cases checked : Validation.checkMonitor (.ofRequest id s.stamp r) with
  | error why => exact ⟨why, by simp only [register, checked]⟩
  | ok _ =>
    have valid := (Request.isValid_iff id s.stamp).mpr (Validation.checkMonitor_eq_ok.mp checked)
    exact absurd (invalid.symm.trans valid) Bool.false_ne_true

/-- What a call that stores a monitor for `r` makes of a service whose queue is `q`. -/
structure Registers (s s' : Service) (q : Queue Monitor) (m : Monitor) : Prop where
  monitors : s'.monitors = s.monitors ++ [m]
  stamp : s'.stamp = s.stamp + 1
  recorder : s'.recorder = s.recorder.track m.id
  named : s'.queue = s.queue
  now : s'.now = s.now
  queue : s'.scheduler.queue? s.queue = some (if m.enabled then q.place (m.task s.now) else q)

theorem register_valid {q : Queue Monitor} (valid : r.isValid = true)
    (here : s.scheduler.queue? s.queue = some q) (sound : q.Sound) (open_ : q.closed = false)
    (free : q.find? id.text = none) :
    ∃ s', s.register id r = (s', .ok (.ofRequest id s.stamp r)) ∧
      s.Registers s' q (.ofRequest id s.stamp r) := by
  have checked : Validation.checkMonitor (.ofRequest id s.stamp r) = .ok () :=
    Validation.checkMonitor_eq_ok.mpr ((Request.isValid_iff id s.stamp).mp valid)
  refine ⟨(s.register id r).1, ?_⟩
  cases on : (Monitor.ofRequest id s.stamp r).enabled with
  | false =>
    simp only [register, checked, on, Bool.false_eq_true, ↓reduceIte, true_and]
    exact ⟨rfl, rfl, rfl, rfl, rfl, by rwa [if_neg (by simp [on])]⟩
  | true =>
    let task := (Monitor.ofRequest id s.stamp r).task s.now
    have accepted : q.upsert task = _ := sound.upsert_free open_ free
    have here' : (s.putRecorder (s.recorder.track id)).scheduler.queue? s.queue = some q := here
    simp only [task] at accepted
    simp only [register, checked, on, Scheduler.register, here', accepted, ↓reduceIte, true_and]
    refine ⟨rfl, rfl, rfl, rfl, Scheduler.putQueue_now .., ?_⟩
    rw [if_pos on]
    exact (congrFun (Scheduler.queue?_putQueue here _ _) _).trans (if_pos rfl)

end

/-! ### A list of requests -/

/-- The monitors for these requests, the first of which is registered under this stamp. -/
def seeded (supply : Nat → MonitorId) (stamp : Nat) (requests : List Request) : List Monitor :=
  (requests.zipIdx stamp).map fun (r, n) => .ofRequest (supply n) n r

/-- The tasks of the monitors that are enabled, in the order of the monitors. -/
def dueTasks (monitors : List Monitor) (now : Int) : List (Task Monitor) :=
  (monitors.filter (·.enabled)).map (·.task now)

theorem seeded_append (supply : Nat → MonitorId) (stamp : Nat) (requests : List Request)
    (r : Request) : seeded supply stamp (requests ++ [r]) =
      seeded supply stamp requests ++
        [.ofRequest (supply (stamp + requests.length)) (stamp + requests.length) r] := by
  simp [seeded, List.zipIdx_append]

theorem map_id_seeded (supply : Nat → MonitorId) (stamp : Nat) (requests : List Request) :
    (seeded supply stamp requests).map (·.id) =
      (List.range' stamp requests.length).map supply := by
  have stamps : (requests.zipIdx stamp).map Prod.snd = List.range' stamp requests.length :=
    List.zipIdx_map_snd stamp requests
  rw [seeded, List.map_map, ← stamps, List.map_map]
  rfl

theorem dueTasks_append (monitors : List Monitor) (m : Monitor) (now : Int) :
    dueTasks (monitors ++ [m]) now =
      dueTasks monitors now ++ if m.enabled then [m.task now] else [] := by
  cases on : m.enabled <;> simp [dueTasks, on]

/-- The identities for the stamps below a bound are proper ones, and all different. -/
structure Supplies (supply : Nat → MonitorId) (bound : Nat) : Prop where
  distinct : ∀ i < bound, ∀ j < bound, supply i = supply j → i = j
  proper : ∀ i < bound, (supply i).Proper

/-- The service `s` came from `start`, which had no monitors, by storing these requests. -/
structure Stocked (supply : Nat → MonitorId) (start s : Service) (requests : List Request) :
    Prop where
  monitors : s.monitors = seeded supply start.stamp requests
  stamp : s.stamp = start.stamp + requests.length
  now : s.now = start.now
  tracked : ∀ id, s.recorder.isTracked id ↔ id ∈ s.monitors.map (·.id)
  name : s.queue = start.queue
  queue : ∃ q, s.scheduler.queue? s.queue = some q ∧ q.Keeps (dueTasks s.monitors s.now)

variable {supply : Nat → MonitorId} {bound : Nat} {start s : Service} {requests : List Request}
  {r : Request}

/-- An identity that is supplied for a later stamp is nobody's task yet. -/
theorem Stocked.free (stocked : Stocked supply start s requests) (supplies : Supplies supply bound)
    (room : s.stamp < bound) :
    ∀ t ∈ dueTasks s.monitors s.now, t.id ≠ (supply s.stamp).text := by
  intro t member same
  obtain ⟨m, enabled, rfl⟩ := List.mem_map.mp member
  have listed : m.id ∈ (seeded supply start.stamp requests).map (·.id) :=
    List.mem_map_of_mem (stocked.monitors ▸ (List.mem_filter.mp enabled).1)
  rw [map_id_seeded] at listed
  obtain ⟨n, earlier, named⟩ := List.mem_map.mp listed
  have range := List.mem_range'_1.mp earlier
  have stamp := stocked.stamp
  have equal : supply n = supply s.stamp :=
    MonitorId.text_inj (supplies.proper n (by omega)) (supplies.proper _ room)
      ((congrArg MonitorId.text named).trans same)
  have index := supplies.distinct n (by omega) s.stamp room equal
  omega

theorem Stocked.register (stocked : Stocked supply start s requests)
    (supplies : Supplies supply bound) (room : s.stamp < bound) (valid : r.isValid = true) :
    ∃ s' m, s.register (supply s.stamp) r = (s', .ok m) ∧
      Stocked supply start s' (requests ++ [r]) := by
  obtain ⟨q, here, keeps⟩ := stocked.queue
  have unused := stocked.free supplies room
  obtain ⟨s', answer, registers⟩ :=
    register_valid valid here keeps.sound keeps.open_ (keeps.find?_eq_none unused)
  refine ⟨s', _, answer, ?_, ?_, registers.now.trans stocked.now, fun id => ?_,
    registers.named.trans stocked.name, ?_⟩
  · rw [registers.monitors, stocked.monitors, stocked.stamp, seeded_append]
  · rw [registers.stamp, stocked.stamp, List.length_append]
    rfl
  · rw [registers.recorder, registers.monitors, Recorder.isTracked_track, stocked.tracked]
    simp only [List.map_append, List.map_cons, List.map_nil, List.mem_append, List.mem_singleton]
    rw [or_comm, @eq_comm _ id]
  · refine ⟨_, registers.named ▸ registers.queue, ?_⟩
    rw [registers.monitors, registers.now, dueTasks_append]
    split
    · exact keeps.place unused
    · rw [List.append_nil]
      exact keeps

end Service

namespace Orchestrator

open Service (Stocked Supplies)

variable {supply : Nat → MonitorId} {bound : Nat} {start s : Service}

/-- Registering a list stores the acceptable requests behind those that are there, and counts
them. -/
theorem registerAll_stocked (supplies : Supplies supply bound) (seeds : List Request)
    {requests : List Request} (stocked : Stocked supply start s requests)
    (room : s.stamp + seeds.length ≤ bound) :
    Stocked supply start (registerAll supply s seeds).1
        (requests ++ seeds.filter (·.isValid)) ∧
      (registerAll supply s seeds).2 = (seeds.filter (·.isValid)).length := by
  induction seeds generalizing s requests with
  | nil => exact ⟨(List.append_nil requests).symm ▸ stocked, rfl⟩
  | cons r rest ih =>
    rw [List.length_cons] at room
    cases valid : r.isValid with
    | false =>
      obtain ⟨why, refused⟩ := s.register_invalid (supply s.stamp) valid
      simp only [registerAll, refused, valid, List.filter_cons, Bool.false_eq_true, ↓reduceIte]
      exact ih stocked (by omega)
    | true =>
      obtain ⟨s', m, stored, next⟩ := stocked.register supplies (by omega) valid
      have stamp := stocked.stamp
      have stamp' := next.stamp
      rw [List.length_append, List.length_singleton] at stamp'
      obtain ⟨all, count⟩ := ih next (by omega)
      simp only [registerAll, stored, valid, List.filter_cons, ↓reduceIte, List.length_cons, count]
      exact ⟨by simpa using all, rfl⟩

/-- Refused requests can be struck from the list beforehand. -/
theorem registerAll_filter (supply : Nat → MonitorId) (s : Service) (seeds : List Request) :
    registerAll supply s (seeds.filter (·.isValid)) = registerAll supply s seeds := by
  induction seeds generalizing s with
  | nil => rfl
  | cons r rest ih =>
    cases valid : r.isValid with
    | false =>
      obtain ⟨why, refused⟩ := s.register_invalid (supply s.stamp) valid
      simp only [registerAll, refused, valid, List.filter_cons, Bool.false_eq_true, ↓reduceIte, ih]
      rfl
    | true => simp only [registerAll, valid, List.filter_cons, ↓reduceIte, ih]

/-- Nothing was done with it yet: no monitors, nobody tracked, and an open queue without tasks. -/
structure Fresh (o : Orchestrator) : Prop where
  monitors : o.service.monitors = []
  tracked : ∀ id, o.service.recorder.isTracked id = false
  queue : o.service.scheduler.queue? o.service.queue = some {}

theorem Fresh.stocked {o : Orchestrator} (fresh : o.Fresh) (supply : Nat → MonitorId) :
    Stocked supply o.service o.service [] := by
  refine ⟨fresh.monitors, rfl, rfl, fun id => ?_, rfl, {}, fresh.queue, ?_⟩
  · simp [fresh.tracked id, fresh.monitors]
  · rw [fresh.monitors]
    exact Queue.keeps_empty

theorem fresh_ofConfig {c : Config} {o : Orchestrator} (made : ofConfig c = .ok o) :
    o.Fresh ∧ o.seeds = c.monitors := by
  unfold ofConfig at made
  cases limit : Validation.checkTimeout c.checking.timeout with
  | error why =>
    rw [limit] at made
    cases made
  | ok _ =>
    rw [limit] at made
    cases made
    refine ⟨⟨rfl, fun id => ?_, ?_⟩, rfl⟩
    · change (Recorder.ofCapacity c.retention.historyPerMonitor).isTracked id = false
      simp [Recorder.isTracked, Recorder.ofCapacity]
    · simp [Service.scheduler, Scheduler.addQueue, Scheduler.line?, Scheduler.queue?]

/-- To load the seeds of a fresh orchestrator is to register the acceptable ones among them, and to
leave no trace of the others: what comes out is what the acceptable ones alone lead to. Each has its
monitor, under an identity of its own, and exactly these are tracked. The queue is open and has the
tasks of the enabled ones and no others, none of them in flight and each due one interval from now,
and whenever a consumer looks it takes what is due by then, tied tasks in the order of the list. The
count is the number of monitors. To load once more counts none and changes nothing. -/
theorem seeds_loaded {o : Orchestrator} (fresh : o.Fresh)
    (supplies : Supplies supply (o.service.stamp + o.seeds.length)) :
    let valid := o.seeds.filter (·.isValid)
    let monitors := Service.seeded supply o.service.stamp valid
    let tasks := Service.dueTasks monitors o.service.now
    let loaded := (o.loadSeeds supply).1
    (o.loadSeeds supply).2 = valid.length ∧
      loaded.service.monitors = monitors ∧ (monitors.map (·.id)).Nodup ∧
      (∀ id, loaded.service.recorder.isTracked id ↔ id ∈ monitors.map (·.id)) ∧
      (loaded.service.now = o.service.now ∧
        ∃ q, loaded.service.scheduler.queue? o.service.queue = some q ∧
          q.closed = false ∧ q.inFlight = ∅ ∧
          (∀ id t, q.find? id = some t ↔ t ∈ tasks ∧ t.id = id) ∧
          ∀ later, Agenda.Arranges (tasks.filter (·.isDue later)) (q.takeDue later).2.1) ∧
      o.loadSeeds supply = { o with seeds := valid }.loadSeeds supply ∧
      loaded.loadSeeds supply = (loaded, 0) := by
  intro valid monitors tasks loaded
  obtain ⟨all, count⟩ := registerAll_stocked supplies o.seeds (fresh.stocked supply) le_rfl
  have stocked : Stocked supply o.service loaded.service valid := List.nil_append valid ▸ all
  obtain ⟨q, here, keeps⟩ := stocked.queue
  rw [stocked.name] at here
  rw [stocked.monitors, stocked.now] at keeps
  refine ⟨count, stocked.monitors, ?_, fun id => ?_,
    ⟨stocked.now, q, here, keeps.open_, keeps.landed, fun id t => keeps.find?_eq_some_iff,
      keeps.takeDue⟩, ?_, rfl⟩
  · rw [Service.map_id_seeded]
    refine List.Nodup.map_on (fun i early j early' same => ?_) (List.nodup_range' ..)
    have few : valid.length ≤ o.seeds.length := List.length_filter_le ..
    have low := List.mem_range'_1.mp early
    have low' := List.mem_range'_1.mp early'
    exact supplies.distinct i (by omega) j (by omega) same
  · rw [stocked.tracked, stocked.monitors]
  · simp only [loadSeeds, valid, registerAll_filter]

/-- A list with one seed of each kind: two that are refused for different reasons, a disabled one,
one that is there twice, and one that is due at the same time as these. -/
def mixedSeeds : Config :=
  let db : Request := { name := "db", checkType := .tcp, target := "localhost:80", interval := 10 }
  { monitors :=
      [db, { db with target := "no-port" }, { db with name := "off", enabled := false }, db,
        { db with name := "soon", interval := 9 }, { db with name := "cache" }] }

/-- The tasks that are due at the same time are taken in the order of the list. -/
theorem mixed_seeds_loaded :
    ∃ o, ofConfig mixedSeeds = .ok o ∧
      o.seeds.map (·.isValid) = [true, false, true, true, false, true] ∧
      let supply : Nat → MonitorId := fun n => ⟨n + 1⟩
      let loaded := (o.loadSeeds supply).1
      (o.loadSeeds supply).2 = 4 ∧
        loaded.service.monitors.map (fun m => (m.name, m.id.value, m.enabled)) =
          [("db", 1, true), ("off", 2, false), ("db", 3, true), ("cache", 4, true)] ∧
        ∃ q, loaded.service.scheduler.queue? "health" = some q ∧
          ((q.takeDue (Duration.ofSeconds 10)).2.1.filter
              (·.due = (Duration.ofSeconds 10 : Int))).map (·.work.id.value) = [1, 3, 4] := by
  obtain ⟨o, made, stamp, now, name⟩ : ∃ o, ofConfig mixedSeeds = .ok o ∧ o.service.stamp = 0 ∧
      o.service.now = 0 ∧ o.service.queue = "health" := ⟨_, rfl, rfl, rfl, rfl⟩
  obtain ⟨fresh, seeds⟩ := fresh_ofConfig made
  refine ⟨o, made, by rw [seeds]; decide +kernel, ?_⟩
  intro supply loaded
  have supplies : Supplies supply (o.service.stamp + o.seeds.length) := by
    rw [stamp, seeds]
    exact ⟨fun i _ j _ same => by simpa [supply] using same, by decide⟩
  obtain ⟨count, listed, -, -, ⟨-, q, here, -, -, -, taken⟩, -⟩ := seeds_loaded fresh supplies
  rw [seeds] at count
  rw [seeds, stamp] at listed
  rw [name] at here
  refine ⟨count.trans (by decide +kernel), ?_, q, here, ?_⟩
  · rw [listed]
    decide +kernel
  · rw [(taken _).ties, seeds, stamp, now]
    decide +kernel

end Orchestrator

end Vigil
