import Vigil.Proofs.Service.Session

/-!
# Checks that clients trigger leave no trace

Take two sessions that differ in nothing but triggered checks. As long as nobody has to wait for room
in the channel they are twins (`Twin.run`): the scheduler, the monitors and the calls under way are
the same, and the recorder is told the same in the same order, but for the results that were asked
for. When the recorder takes its turns matters to itself only (`Level.run`).
-/
namespace Vigil

namespace Session

variable {capacity : Nat} {s : Session}

/-! ### Two sessions -/

/-- The sessions differ in triggered checks and in what became of results at most. -/
structure Level (s other : Session) : Prop where
  bare : s.traffic.bare = other.traffic.bare
  events : s.events = other.events

/-- The same happened at the same times, and the scheduler with its queues, the monitors and the
calls under way are the same. -/
structure Alike (s other : Session) : Prop where
  events : s.events = other.events
  scheduler : s.service.scheduler = other.service.scheduler
  monitors : s.service.monitors = other.service.monitors
  holder : s.traffic.holder = other.traffic.holder
  leaving : s.traffic.leaving = other.traffic.leaving

namespace Level

variable {other : Session}

theorem symm (level : Level s other) : Level other s := ⟨level.bare.symm, level.events.symm⟩

theorem scheduler (level : Level s other) : s.service.scheduler = other.service.scheduler :=
  congrArg (·.service.scheduler) level.bare

theorem monitors (level : Level s other) : s.service.monitors = other.service.monitors :=
  congrArg (·.service.monitors) level.bare

theorem holder (level : Level s other) : s.traffic.holder = other.traffic.holder :=
  congrArg (·.holder) level.bare

theorem leaving (level : Level s other) : s.traffic.leaving = other.traffic.leaving :=
  congrArg (·.leaving) level.bare

theorem alike (level : Level s other) : s.Alike other :=
  ⟨level.events, level.scheduler, level.monitors, level.holder, level.leaving⟩

/-- What is blind to results does the same in both sessions. -/
theorem change (level : Level s other) {f : Service.Traffic → Service.Traffic}
    (blind : ∀ t, (f t).bare = (f t.bare).bare) : (f s.traffic).bare = (f other.traffic).bare := by
  rw [blind, level.bare, ← blind]

theorem take (level : Level s other) : Level s.take other := by
  refine ⟨s.bare_take.trans level.bare, ?_⟩
  unfold Session.take
  split <;> exact level.events

theorem hear (level : Level s other) : Level s.hear other := by
  unfold Session.hear
  generalize (s.channel.takeWhile (·.1)).length + 1 = n
  induction n generalizing s with
  | zero => exact level
  | succ n ih => exact ih level.take

/-- What concerns results is nothing to the other session. -/
theorem perform_left (level : Level s other) {act : Act} (one : act.concernsResults = true) :
    Level (s.perform act) other := by
  cases act with
  | hear => exact level.hear
  | trigger id =>
    refine ⟨(s.bare_trigger id).trans level.bare, ?_⟩
    simp only [Session.perform, trigger]
    split <;> exact level.events
  | answer place threshold a =>
    refine ⟨(s.bare_answer place threshold a).trans level.bare, ?_⟩
    simp only [Session.perform, answer]
    split
    next => exact level.events
    next => split <;> exact level.events
  | hearAsked =>
    simp only [Session.perform]
    split
    · exact level.take
    · exact level
  | _ => cases one

/-- What does not happens in both sessions alike. -/
theorem perform (level : Level s other) {act : Act} (both : act.concernsResults = false) :
    Level (s.perform act) (other.perform act) := by
  cases act with
  | enter call =>
    simp only [Session.perform, level.holder]
    split
    · exact ⟨level.change fun t => t.bare_enter call, level.events⟩
    · exact level
  | proceed => exact ⟨level.change Service.Traffic.bare_proceed, level.events⟩
  | miss => exact ⟨level.change Service.Traffic.bare_miss, level.events⟩
  | part place => exact ⟨level.change fun t => t.bare_part place, level.events⟩
  | undergo c move =>
    simp only [Session.perform, undergo]
    split
    next => exact level
    next part about =>
      have now : s.service.now = other.service.now := congrArg Scheduler.now level.scheduler
      refine ⟨level.change fun t => t.bare_undergo c move, ?_⟩
      simp only [level.events, level.scheduler, now]
  | hear | trigger | answer | hearAsked => cases both

theorem trans {third : Session} (first : Level s other) (second : Level other third) :
    Level s third :=
  ⟨first.bare.trans second.bare, first.events.trans second.events⟩

/-- Without what concerns results a row of acts does the same, were there room for all of it. -/
theorem foldl (level : Level s other) (acts : List Act) :
    Level (acts.foldl Session.perform s)
      ((acts.filter (!·.concernsResults)).foldl Session.perform other) := by
  induction acts generalizing s other with
  | nil => exact level
  | cons act rest ih =>
    cases one : act.concernsResults with
    | true =>
      rw [List.filter_cons_of_neg (by simp [one])]
      exact ih (level.perform_left one)
    | false =>
      rw [List.filter_cons_of_pos (by simp [one])]
      exact ih (level.perform one)

/-- Neither triggered checks nor the turns that the recorder takes matter to anything else. -/
theorem run (level : Level s other) {acts acts' : List Act} (roomy : s.roomy acts = true)
    (roomy' : other.roomy acts' = true)
    (same : acts.filter (!·.concernsResults) = acts'.filter (!·.concernsResults)) :
    Level (s.run acts) (other.run acts') := by
  rw [run_of_roomy roomy, run_of_roomy roomy']
  refine (level.foldl acts).trans ?_
  rw [same]
  exact (Level.foldl ⟨rfl, rfl⟩ acts').symm

end Level

/-- The recorder is told the same in the same order, too, but for results that were asked for. -/
structure Twin (s plain : Session) : Prop extends Level s plain where
  channel : plain.channel = s.channel.filter (!·.1)
  told : plain.told = s.told.filter (!·.isAsked)

variable {plain : Session}

theorem Twin.refl (config : Scheduler.Config) (now : Int) (capacity : Nat) (listening : Bool)
    (queue : String) :
    Twin (fresh config now capacity listening queue) (fresh config now capacity listening queue) :=
  ⟨⟨rfl, rfl⟩, rfl, rfl⟩

theorem Twin.tell (twin : Twin s plain) (calls : List Recorder.Call) :
    plain.told ++ calls.map Told.plain =
      (s.told ++ calls.map Told.plain).filter (!·.isAsked) := by
  rw [List.filter_append, ← twin.told, List.filter_map]
  simp [Function.comp_def, Told.isAsked]

/-- A result that a client asked for is nothing to the other session. -/
theorem Twin.take_asked (twin : Twin s plain) {r : CheckResult} {rest : List (Bool × CheckResult)}
    (waits : s.channel = (true, r) :: rest) : Twin s.take plain := by
  have level := twin.toLevel.take
  simp only [take, waits] at level ⊢
  refine ⟨level, ?_, ?_⟩
  · rw [twin.channel, waits]
    rfl
  · rw [twin.told, List.filter_append]
    exact (List.append_nil _).symm

theorem Twin.take_plain (twin : Twin s plain) (next : s.channel.head?.any (·.1) = false) :
    Twin s.take plain.take := by
  cases waits : s.channel with
  | nil =>
    have idle : plain.channel = [] := by rw [twin.channel, waits]; rfl
    simp only [take, waits, idle]
    exact twin
  | cons result rest =>
    obtain ⟨_ | _, r⟩ := result
    · have other : plain.channel = (false, r) :: rest.filter (!·.1) := by
        rw [twin.channel, waits]
        rfl
      have level := twin.toLevel.take.symm.take.symm
      simp only [take, waits, other] at level ⊢
      refine ⟨level, rfl, ?_⟩
      rw [List.filter_append, ← twin.told]
      rfl
    · rw [waits] at next
      cases next

/-- Among results that nobody asked for the recorder takes just one. -/
theorem Twin.hear_plain (twin : Twin s plain) : plain.hear = plain.take := by
  have first : plain.channel.takeWhile (·.1) = [] := by
    rw [twin.channel]
    cases rest : s.channel.filter (!·.1) with
    | nil => rfl
    | cons result others =>
      have unasked : (!result.1) = true :=
        (List.mem_filter.mp (rest ▸ List.mem_cons_self : result ∈ s.channel.filter (!·.1))).2
      rw [List.takeWhile_cons_of_neg (by simpa using unasked)]
  simp only [hear, first, List.length_nil]
  rfl

theorem Twin.hear (twin : Twin s plain) : Twin s.hear plain.hear := by
  rw [twin.hear_plain]
  unfold Session.hear
  generalize count : (s.channel.takeWhile (·.1)).length = n
  induction n generalizing s with
  | zero =>
    refine twin.take_plain ?_
    cases waits : s.channel with
    | nil => rfl
    | cons result rest =>
      cases asked : result.1 with
      | false => simpa using asked
      | true => simp [waits, asked] at count
  | succ n ih =>
    cases waits : s.channel with
    | nil => simp [waits] at count
    | cons result rest =>
      obtain ⟨_ | _, r⟩ := result
      · simp [waits] at count
      · have left : s.take.channel = rest := by simp only [Session.take, waits]
        have fewer : (s.take.channel.takeWhile (·.1)).length = n := by
          rw [left]
          simpa [waits] using count
        exact ih (twin.take_asked waits) fewer

/-- What has nothing to do with triggered checks happens in both sessions alike. -/
theorem Twin.perform (twin : Twin s plain) {act : Act} (both : act.isPlain = true) :
    Twin (s.perform act) (plain.perform act) := by
  cases act with
  | enter call =>
    have level : Level (s.perform (.enter call)) (plain.perform (.enter call)) :=
      twin.toLevel.perform rfl
    have channel (s : Session) : (s.perform (.enter call)).channel = s.channel := by
      simp only [Session.perform]
      split <;> rfl
    have told (s : Session) : (s.perform (.enter call)).told = s.told := by
      simp only [Session.perform]
      split <;> rfl
    exact ⟨level, by rw [channel, channel, twin.channel], by rw [told, told, twin.told]⟩
  | proceed =>
    have level : Level (s.perform .proceed) (plain.perform .proceed) := twin.toLevel.perform rfl
    have same : s.traffic.tells = plain.traffic.tells := by
      simp only [Service.Traffic.tells, twin.holder]
    refine ⟨level, twin.channel, ?_⟩
    simp only [Session.perform, same]
    exact twin.tell _
  | miss => exact ⟨twin.toLevel.perform rfl, twin.channel, twin.told⟩
  | part place =>
    have level : Level (s.perform (.part place)) (plain.perform (.part place)) :=
      twin.toLevel.perform rfl
    have same : s.traffic.partTells place = plain.traffic.partTells place := by
      simp only [Service.Traffic.partTells, twin.leaving]
    refine ⟨level, twin.channel, ?_⟩
    simp only [Session.perform, same]
    exact twin.tell _
  | undergo c move =>
    have level : Level (s.perform (.undergo c move)) (plain.perform (.undergo c move)) :=
      twin.toLevel.perform rfl
    refine ⟨level, ?_, ?_⟩
    · simp only [Session.perform, Session.undergo]
      split
      · exact twin.channel
      · rw [List.filter_append, ← twin.channel, twin.scheduler, List.filter_map]
        simp [Function.comp_def]
    · simp only [Session.perform, Session.undergo]
      split <;> exact twin.told
  | hear => exact twin.hear
  | trigger | answer | hearAsked => cases both

/-- Triggered checks are nothing to the other session. -/
theorem Twin.perform_asked (twin : Twin s plain) {act : Act} (one : act.isPlain = false) :
    Twin (s.perform act) plain := by
  cases act with
  | trigger id =>
    refine ⟨twin.toLevel.perform_left rfl, ?_, ?_⟩ <;> simp only [Session.perform, trigger]
    · split <;> exact twin.channel
    · split <;> exact twin.told
  | answer place threshold a =>
    have level : Level (s.perform (.answer place threshold a)) plain :=
      twin.toLevel.perform_left rfl
    simp only [Session.perform, answer] at level ⊢
    cases found : s.checking[place]? with
    | none => exact twin
    | some asked =>
      simp only [found] at level ⊢
      cases judged : Check.judge threshold asked.2 a <;> simp only [judged] at level
      next => exact ⟨level, twin.channel, twin.told⟩
      next r =>
        refine ⟨level, ?_, twin.told⟩
        rw [twin.channel, List.filter_append]
        exact (List.append_nil _).symm
  | hearAsked =>
    simp only [Session.perform]
    split
    next asked =>
      cases waits : s.channel with
      | nil => simp [waits] at asked
      | cons result rest =>
        obtain ⟨mark, r⟩ := result
        have one_ : mark = true := by simpa [waits] using asked
        exact twin.take_asked (one_ ▸ waits)
    next => exact twin
  | _ => cases one

theorem Twin.sends (twin : Twin s plain) {act : Act} (both : act.isPlain = true) :
    plain.sends act = s.sends act := by
  cases act with
  | undergo c move => simp only [Session.sends, twin.scheduler]
  | answer => cases both
  | _ => rfl

/-- Where there is room in spite of triggered checks there is room without them. -/
theorem Twin.hasRoom (twin : Twin s plain) {act : Act} (both : act.isPlain = true)
    (room : s.hasRoom act = true) : plain.hasRoom act = true := by
  have fewer : plain.channel.length ≤ s.channel.length := by
    rw [twin.channel]
    exact List.length_filter_le ..
  rw [hasRoom_iff] at room ⊢
  rw [twin.sends both]
  exact room.imp_right fun enough => by omega

theorem Twin.run (twin : Twin s plain) {acts : List Act} (roomy : s.roomy acts = true) :
    Twin (s.run acts) (plain.run (acts.filter Act.isPlain)) ∧
      plain.roomy (acts.filter Act.isPlain) = true := by
  induction acts generalizing s plain with
  | nil => exact ⟨twin, rfl⟩
  | cons act rest ih =>
    obtain ⟨room, others⟩ := Bool.and_eq_true_iff.mp roomy
    have done : s.step act = s.perform act := if_pos room
    cases both : act.isPlain with
    | true =>
      have room' := twin.hasRoom both room
      have done' : plain.step act = plain.perform act := if_pos room'
      obtain ⟨twin', roomy'⟩ := ih (done ▸ done' ▸ twin.perform both) others
      rw [List.filter_cons_of_pos both]
      exact ⟨twin', Bool.and_eq_true_iff.mpr ⟨room', roomy'⟩⟩
    | false =>
      rw [List.filter_cons_of_neg (by simp [both])]
      exact ih (done ▸ twin.perform_asked both) others

/-! ### What the recorder remembers -/

/-- What the recorder was told since a monitor became tracked. -/
def stint (m : MonitorId) (told : List Told) : List Told :=
  (told.rtakeWhile (·.call ≠ .forget m)).dropWhile (·.call ≠ .track m)

/-- The results of a monitor since it became tracked, and whether a client asked for them. -/
def recent (m : MonitorId) (told : List Told) : List (Bool × CheckResult) :=
  (stint m told).filterMap fun t => (t.call.result? m).map (t.isAsked, ·)

theorem map_stint (m : MonitorId) (told : List Told) :
    (stint m told).map Told.call = Recorder.tenure m (told.map Told.call) := by
  simp only [stint, Recorder.tenure, List.rtakeWhile, ← List.map_reverse, List.takeWhile_map,
    List.dropWhile_map, Function.comp_def]

theorem map_recent (m : MonitorId) (told : List Told) :
    (recent m told).map Prod.snd =
      (Recorder.tenure m (told.map Told.call)).filterMap (Recorder.Call.result? m) := by
  rw [← map_stint, List.filterMap_map, recent, List.map_filterMap]
  congr 1
  funext t
  simp [Option.map_map, Function.comp_def]

/-- What the recorder keeps of a monitor. -/
theorem Kept.entries (kept : s.Kept capacity) (m : MonitorId) :
    s.service.recorder.entries[m.value]? =
      if stint m s.told = [] then none
      else some (((recent m s.told).map Prod.snd).rtake (max capacity 1)) := by
  rw [kept.recorder, Recorder.entries_run, ← map_recent, ← map_stint]
  simp only [List.map_eq_nil_iff]

theorem Kept.history (kept : s.Kept capacity) (m : MonitorId) :
    s.service.recorder.history m =
      ((recent m s.told).map Prod.snd).rtake (max capacity 1) := by
  rw [Recorder.history, kept.entries]
  split
  next idle => simp [recent, idle]
  next => rfl

theorem Kept.isTracked_iff (kept : s.Kept capacity) (m : MonitorId) :
    s.service.recorder.isTracked m = true ↔ stint m s.told ≠ [] := by
  rw [Recorder.isTracked_eq, kept.entries]
  split
  next idle => simp [idle]
  next active => simp [active]

section

variable {α : Type} {keep stay : α → Bool} (stops : ∀ x, stay x = false → keep x = true)

include stops

theorem dropWhile_filter (l : List α) :
    (l.filter keep).dropWhile stay = (l.dropWhile stay).filter keep := by
  induction l with
  | nil => rfl
  | cons x rest ih =>
    cases on : stay x with
    | true =>
      rw [List.dropWhile_cons_of_pos on, ← ih]
      cases kept : keep x <;> simp [kept, on]
    | false => simp [on, stops x on]

theorem takeWhile_filter (l : List α) :
    (l.filter keep).takeWhile stay = (l.takeWhile stay).filter keep := by
  induction l with
  | nil => rfl
  | cons x rest ih =>
    cases on : stay x with
    | true =>
      rw [List.takeWhile_cons_of_pos on]
      cases kept : keep x <;> simp [kept, on, ih]
    | false => simp [on, stops x on]

end

/-- Nobody asks for anything but results. -/
theorem plain_of_call {c : Recorder.Call} (other : ∀ r, c ≠ .record r) (t : Told)
    (same : decide (t.call ≠ c) = false) : (!t.isAsked) = true := by
  cases t with
  | plain call => rfl
  | asked r =>
    have record : Recorder.Call.record r = c := not_not.mp (of_decide_eq_false same)
    exact absurd record.symm (other r)

theorem stint_filter (m : MonitorId) (told : List Told) :
    stint m (told.filter (!·.isAsked)) = (stint m told).filter (!·.isAsked) := by
  have tracks := plain_of_call (c := .track m) nofun
  have forgets := plain_of_call (c := .forget m) nofun
  simp only [stint, List.rtakeWhile]
  rw [← List.filter_reverse, takeWhile_filter forgets, ← List.filter_reverse,
    dropWhile_filter tracks]

theorem recent_filter (m : MonitorId) (told : List Told) :
    recent m (told.filter (!·.isAsked)) = (recent m told).filter (!·.1) := by
  rw [recent, stint_filter, recent, List.filterMap_filter, List.filter_filterMap]
  congr 1
  funext t
  cases t with
  | plain call => cases (Told.plain call).call.result? m <;> rfl
  | asked r => cases (Told.asked r).call.result? m <;> rfl

/-- To be tracked is to have been told so; no result begins a stint. -/
theorem stint_eq_nil (m : MonitorId) (told : List Told) :
    stint m (told.filter (!·.isAsked)) = [] ↔ stint m told = [] := by
  rw [stint_filter]
  refine ⟨fun none_ => ?_, fun none_ => by rw [none_, List.filter_nil]⟩
  by_contra some_
  have first := plain_of_call (c := .track m) nofun _ (List.head_dropWhile_not _ some_)
  exact List.filter_eq_nil_iff.mp none_ _ (List.head_mem some_) first

/-- For all sessions, with any calls in any steps at once, any schedule, any probes, and any checks
that clients trigger at any time, as long as the recorder keeps up with the results, so that nobody
has to wait for room; and for the session that is left when the triggered checks are left out, in
which nobody has to either. The scheduler does the same at the same times, and is the same, as are
the monitors, the calls under way and who is tracked; but for the latter it does not even matter
when the recorder takes its turns. The recorder was told the same, but for results that were asked
for. Each of these came from a trigger that was given it, is of the monitor that was asked for, and
is told once or still waits; so the histories are the last results since the monitor became tracked,
with the ones that were asked for and without. -/
theorem triggers_leave_no_trace (config : Scheduler.Config) (now : Int) (capacity : Nat)
    (listening : Bool) (queue : String) (acts : List Act)
    (roomy : (fresh config now capacity listening queue).roomy acts = true) :
    let start := fresh config now capacity listening queue
    let s := start.run acts
    let plain := start.run (acts.filter Act.isPlain)
    start.roomy (acts.filter Act.isPlain) = true ∧ s.Alike plain ∧
    (∀ others, start.roomy others = true →
      acts.filter (!·.concernsResults) = others.filter (!·.concernsResults) →
        s.Alike (start.run others)) ∧
    (plain.told = s.told.filter (!·.isAsked) ∧
      s.told.filterMap Told.asked? ++ (s.channel.filter (·.1)).map Prod.snd =
        s.answers.map Prod.snd ∧
      s.answers.map (·.2.monitor) = s.answers.map Prod.fst) ∧
    ∀ m, s.service.recorder.isTracked m = plain.service.recorder.isTracked m ∧
      s.service.recorder.history m =
        ((recent m s.told).map Prod.snd).rtake (max capacity 1) ∧
      plain.service.recorder.history m =
        (((recent m s.told).filter (!·.1)).map Prod.snd).rtake (max capacity 1) := by
  intro start s plain
  have new : start.Kept capacity := kept_fresh config now capacity listening queue
  have kept : s.Kept capacity := new.run acts
  have other : plain.Kept capacity := new.run (acts.filter Act.isPlain)
  have same : Twin start start := Twin.refl config now capacity listening queue
  obtain ⟨twin, roomy'⟩ : Twin s plain ∧ _ := same.run roomy
  refine ⟨roomy', twin.alike, fun others roomy' equal => (same.toLevel.run roomy roomy' equal).alike,
    ⟨twin.told, kept.answers, List.map_congr_left kept.named⟩, ?_⟩
  intro m
  refine ⟨?_, kept.history m, ?_⟩
  · rw [Bool.eq_iff_iff, kept.isTracked_iff, other.isTracked_iff, twin.told]
    exact not_congr (stint_eq_nil m s.told).symm
  · rw [other.history, twin.told, recent_filter]

/-- A monitor is due, and checked for clients a number of times while its check is executing. -/
def checkedBeside (times : Nat) : List Act :=
  let c := Pipeline.Ledger.slow
  let r : Request := { name := "site", checkType := .tcp, target := "localhost:80", interval := 10 }
  [.undergo c (.client "health" .addQueue), .undergo c (.work 0),
    .enter (.register ⟨1⟩ 0 r), .proceed, .proceed, .proceed,
    .undergo c (.wait (Duration.ofSeconds 10)), .undergo c (.work 0), .undergo c (.work 0)] ++
  (List.replicate times [Act.trigger ⟨1⟩, .answer 0 1000 (.reached 20 none)]).flatten ++
  [.undergo c (.wait (Duration.ofSeconds 5)), .undergo c (.work 0)]

/-- A client's check comes first, and is recorded beside the scheduled one. -/
theorem check_for_client_recorded :
    let start := fresh {} 0 3 true "health"
    let acts := checkedBeside 1 ++ [.hearAsked, .hear]
    let s := start.run acts
    let plain := start.run (acts.filter Act.isPlain)
    s.events = plain.events ∧
      (s.service.recorder.history ⟨1⟩).map (·.latency) = [some 20, some 10] ∧
      (plain.service.recorder.history ⟨1⟩).map (·.latency) = [some 10] := by
  intro start acts s plain
  obtain ⟨-, same, -⟩ := triggers_leave_no_trace {} 0 3 true "health" acts (by decide +kernel)
  exact ⟨same.events, by decide +kernel, by decide +kernel⟩

/-- A channel that clients have filled holds the scheduled check up. -/
example :
    let start := fresh {} 0 3 true "health"
    let acts := checkedBeside Inbox.capacity
    start.roomy acts = false ∧
      (start.run acts).events.length < (start.run (acts.filter Act.isPlain)).events.length := by
  decide +kernel

end Session

end Vigil
