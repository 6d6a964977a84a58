import Vigil.Proofs.Scheduler.Engagements
import Vigil.Proofs.Scheduler.Refusals
import Vigil.Proofs.Scheduler.Supersession

/-!
# Stopping is final

Once the root token is cancelled and what was dispatched before has begun, no execution begins any
more, whatever clients do (`stilled_run`). Executions under way go on to their end and come back, if
the queue lets them: the id must have been claimed at the stop, and neither given away nor handed
back since then (`claim_append`). The queue cannot tell which execution holds the claim, so one that
was overtaken before the stop can use it up.
-/
namespace Vigil

open Queue

variable {ω : Type}

/-- Whether the job is an execution that is to begin. -/
def Job.begins : Job ω → Bool
  | .start .. => true
  | _ => false

def Event.begins : Event ω → Bool
  | .started _ => true
  | _ => false

namespace Scheduler

/-- The root token is cancelled, and no execution is to begin. -/
structure Stilled (s : Scheduler ω) : Prop where
  stopping : s.stopping = true
  nobody : ∀ job ∈ s.ready, job.begins = false

variable {s s' : Scheduler ω}

theorem Stilled.of_engaged (stilled : s.Stilled) (stopping : s'.stopping = true)
    (same : s'.engaged.1 = s.engaged.1) : s'.Stilled := by
  refine ⟨stopping, fun job member => ?_⟩
  cases begins : job.begins with
  | false => rfl
  | true =>
    have owed : job.duty.isSome := by cases job <;> first | rfl | cases begins
    have there : job ∈ s'.engaged.1 := List.mem_filter.mpr ⟨member, owed⟩
    rw [same] at there
    exact begins.symm.trans (stilled.nobody job (List.mem_filter.mp there).1)

theorem Stilled.reach (stilled : s.Stilled) (now : Int) : (s.reach now).Stilled := by
  have flag : (s.reach now).stopping = true :=
    (congrArg Prod.snd (reach_setting s now)).trans stilled.stopping
  let awake : Scheduler ω := (s.roused now).foldl wake { s with now }
  have moved : ({ s with now } : Scheduler ω).Stilled := ⟨stilled.stopping, stilled.nobody⟩
  have woken : awake.Stilled := moved.of_engaged flag
    (congrArg Prod.fst (engaged_foldl_wake (s.roused now) { s with now }))
  refine ⟨flag, List.forall_mem_append.mpr ⟨woken.nobody, fun job member => ?_⟩⟩
  obtain ⟨r, _, rfl⟩ := List.mem_map.mp member
  unfold Run.overJob
  split <;> rfl

theorem begins_notices (notices : List Notice) :
    ∀ e ∈ notices.map Event.notice, Event.begins (ω := ω) e = false := by
  intro e member
  obtain ⟨n, _, rfl⟩ := List.mem_map.mp member
  rfl

/-- Only the start of an execution says that one has begun. -/
theorem begins_perform (plan : Task ω → Execution) (s : Scheduler ω) {job : Job ω}
    (idle : job.begins = false) : ∀ e ∈ (s.perform plan job).2, e.begins = false := by
  cases job with
  | dispatch name =>
    intro e member
    obtain ⟨n, rfl⟩ := dispatch_notices s name e member
    rfl
  | retire name fresh =>
    refine List.forall_mem_append.mpr ⟨?_, List.forall_mem_singleton.mpr rfl⟩
    split
    · exact List.forall_mem_singleton.mpr rfl
    · exact List.forall_mem_nil _
  | start => cases idle
  | finish r | expire r =>
    exact List.forall_mem_cons.mpr ⟨rfl, List.forall_mem_cons.mpr ⟨rfl, begins_notices _⟩⟩
  | release r => exact List.forall_mem_singleton.mpr rfl

end Scheduler

namespace Chronicle

variable {c : Chronicle ω}

theorem stilled_step (reached : Reached c) (stilled : c.scheduler.Stilled) (move : Move ω) :
    (c.step move).scheduler.Stilled ∧ ∀ e ∈ c.emits move, e.begins = false := by
  have sound : ∀ n q, c.scheduler.queue? n = some q → q.Sound := fun _ => reached.sound
  have stopping : (c.step move).scheduler.stopping = true := by
    have flag : (c.step move).scheduler.stopping = (c.scheduler.stopping || move.stops) :=
      congrArg Prod.snd (setting_step reached move)
    rw [flag, stilled.stopping, Bool.true_or]
  cases move with
  | client name call =>
    have served := Scheduler.serve_served (sound name) call
    exact ⟨stilled.of_engaged stopping (congrArg Prod.fst served.engaged),
      Scheduler.begins_notices _⟩
  | cancel =>
    exact ⟨stilled.of_engaged stopping (congrArg Prod.fst (Scheduler.engaged_cancel _)),
      List.forall_mem_nil _⟩
  | shutdown =>
    exact ⟨stilled.of_engaged stopping (congrArg Prod.fst (Scheduler.engaged_shutdown _)),
      Scheduler.begins_notices _⟩
  | take name =>
    have refused : c.scheduler.takeOne? name = none := by
      unfold Scheduler.takeOne?
      split
      · rfl
      · rw [if_pos (by simp [stilled.stopping])]
    simp only [Chronicle.step, emits, refused]
    exact ⟨stilled, List.forall_mem_nil _⟩
  | work plan place =>
    cases found : c.scheduler.ready[place]? with
    | none =>
      simp only [Chronicle.step, emits, found]
      exact ⟨stilled, List.forall_mem_nil _⟩
    | some job =>
      have idle := stilled.nobody job (List.mem_of_getElem? found)
      let s : Scheduler ω := { c.scheduler with ready := c.scheduler.ready.eraseIdx place }
      have before : s.Stilled := ⟨stilled.stopping, fun other member =>
        stilled.nobody other (List.mem_of_mem_eraseIdx member)⟩
      obtain ⟨jobs, runs, grown, refused, _⟩ := Scheduler.perform_engaged (s := s) sound plan job
      have same : (s.perform plan job).1.engaged.1 = s.engaged.1 := by
        rw [grown, refused before.stopping, List.append_nil]
      simp only [Chronicle.step, emits, found] at stopping ⊢
      exact ⟨before.of_engaged stopping same, Scheduler.begins_perform plan s idle⟩
  | wait duration => exact ⟨stilled.reach _, List.forall_mem_nil _⟩

/-- Nothing begins any more. -/
theorem stilled_run (reached : Reached c) (stilled : c.scheduler.Stilled) (moves : List (Move ω)) :
    (c.run moves).scheduler.Stilled ∧ ∀ e ∈ c.happened moves, e.2.begins = false := by
  induction moves generalizing c with
  | nil => exact ⟨stilled, List.forall_mem_nil _⟩
  | cons move rest ih =>
    obtain ⟨still, silent⟩ := stilled_step reached stilled move
    obtain ⟨final, later⟩ := ih (reached.step move) still
    refine ⟨final, ?_⟩
    have split := c.happened_append [move] rest
    rw [happened_singleton] at split
    change ∀ e ∈ c.happened ([move] ++ rest), _
    rw [split]
    refine List.forall_mem_append.mpr ⟨fun e member => ?_, later⟩
    obtain ⟨event, inside, rfl⟩ := List.mem_map.mp member
    exact silent event inside

end Chronicle

/-! ### What comes back after a stop -/

namespace Queue

/-- The deed takes the id away from whoever executes it. -/
def Deed.displaces (id : String) : Deed ω → Bool
  | .opened | .closed => true
  | .installed t => t.id == id
  | .removed other => other == id
  | _ => false

/-- The deed brings the id back from an execution. -/
def Deed.restores (id : String) : Deed ω → Bool
  | .returned _ t accepted => accepted && t.id == id
  | _ => false

def Deed.takes : Deed ω → Bool
  | .taken .. => true
  | _ => false

/-- Where nothing is taken, a claim lasts until the id is displaced or brought back. -/
theorem claim_append {id : String} {between h : List (Deed ω)}
    (idle : ∀ d ∈ between, d.takes = false) :
    (claim id (between ++ h)).isSome ↔ (claim id h).isSome ∧
      ∀ d ∈ between, d.displaces id = false ∧ d.restores id = false := by
  induction between with
  | nil => simp
  | cons d rest ih =>
    obtain ⟨first, others⟩ := List.forall_mem_cons.mp idle
    have inner := ih others
    rw [List.forall_mem_cons, List.cons_append]
    cases d with
    | taken => cases first
    | opened | closed => simp [claim, Deed.displaces]
    | installed t =>
      by_cases same : t.id = id <;> simp [claim, Deed.displaces, Deed.restores, same, inner]
    | removed other =>
      by_cases same : other = id <;> simp [claim, Deed.displaces, Deed.restores, same, inner]
    | returned k t accepted =>
      cases accepted with
      | false => simp [claim, Deed.displaces, Deed.restores, inner]
      | true =>
        by_cases same : t.id = id <;> simp [claim, Deed.displaces, Deed.restores, same, inner]
    | rekeyed | lost => simp [claim, Deed.displaces, Deed.restores, inner]

end Queue

namespace Chronicle

variable {c : Chronicle ω}

theorem stopping_step (reached : Reached c) (stopping : c.scheduler.stopping = true)
    (move : Move ω) : (c.step move).scheduler.stopping = true := by
  have flag : (c.step move).scheduler.stopping = (c.scheduler.stopping || move.stops) :=
    congrArg Prod.snd (setting_step reached move)
  rw [flag, stopping, Bool.true_or]

/-- After a stop no execution is dispatched. -/
theorem untaken_step (stopping : c.scheduler.stopping = true) (move : Move ω) :
    ∃ name deeds, (c.step move).trail = noted c.trail name deeds ∧
      ∀ d ∈ deeds, d.takes = false := by
  have nothing : ∃ name deeds, c.trail = noted c.trail name deeds ∧
      ∀ d ∈ deeds, d.takes = false := ⟨"", [], (noted_nil c.trail "").symm, List.forall_mem_nil _⟩
  have back (s : Scheduler ω) (name : String) (k : Nat) (t : Task ω) :
      ∀ d ∈ s.returning name k t, d.takes = false := by
    unfold Scheduler.returning
    split
    · exact List.forall_mem_nil _
    · split
      · exact List.forall_mem_singleton.mpr rfl
      · split
        · exact List.forall_mem_nil _
        · exact List.forall_mem_singleton.mpr rfl
  cases move with
  | client name call =>
    refine ⟨name, _, rfl, fun d member => ?_⟩
    rcases Scheduler.serving_deeds _ name call d member with
      ⟨rfl, _⟩ | rfl | ⟨t, rfl⟩ | ⟨id, rfl⟩ | ⟨id, due, rfl⟩ <;> rfl
  | cancel | shutdown | wait => exact nothing
  | take name =>
    have refused : c.scheduler.takeOne? name = none := by
      unfold Scheduler.takeOne?
      split
      · rfl
      · rw [if_pos (by simp [stopping])]
    simp only [Chronicle.step, refused]
    exact nothing
  | work plan place =>
    simp only [Chronicle.step]
    split
    · exact nothing
    next job found =>
      refine ⟨_, _, rfl, ?_⟩
      cases job with
      | dispatch name =>
        simp only [Scheduler.doing, Scheduler.handing]
        split
        · exact List.forall_mem_nil _
        · rw [if_pos stopping]
          exact List.forall_mem_nil _
      | retire | release => exact List.forall_mem_nil _
      | finish r | expire r => exact back _ r.queue r.ticket r.task
      | start name k t =>
        simp only [Scheduler.doing]
        split
        · exact back _ name k t
        · exact List.forall_mem_nil _

theorem untaken_run (reached : Reached c) (stopping : c.scheduler.stopping = true)
    (moves : List (Move ω)) (name : String) :
    ∃ between, (c.run moves).trail name = between ++ c.trail name ∧
      ∀ d ∈ between, d.takes = false := by
  induction moves generalizing c with
  | nil => exact ⟨[], rfl, List.forall_mem_nil _⟩
  | cons move rest ih =>
    obtain ⟨other, deeds, trail, idle⟩ := untaken_step stopping move
    obtain ⟨later, grown, idle'⟩ := ih (reached.step move) (stopping_step reached stopping move)
    change ∃ between, ((c.step move).run rest).trail name = _ ∧ _
    rw [grown, trail, noted]
    split
    · exact ⟨later ++ deeds, by rw [List.append_assoc], List.forall_mem_append.mpr ⟨idle', idle⟩⟩
    · exact ⟨later, rfl, idle'⟩

/-- An open queue takes note of every execution that is over and whose task can be due again. -/
theorem returning_open {s : Scheduler ω} {name : String} {q : Queue ω} {t next : Task ω} (k : Nat)
    (here : s.queue? name = some q) (open_ : q.closed = false)
    (again : t.nextRun? s.now = some next) :
    ∃ accepted, s.returning name k t = [.returned k t accepted] := by
  unfold Scheduler.returning
  simp only [here, again]
  cases done : q.requeue next with
  | error why =>
    rw [requeue_error done] at open_
    cases open_
  | ok e => exact ⟨e.answer, rfl⟩

/-- For every run, and every moment of it. Once the root token is cancelled and nothing that was
dispatched before has yet to begin, nothing begins any more, whatever the moves are, and whatever a
script says. Until then, where nothing can run, the loop of a registered queue has ended exactly if
its queue is closed, and the ends that loops of a name have reported are as many as the queues that
were opened under it, less the one that is registered and open; and no loop ever does anything but
wait or leave when it gets no task. An execution under way ends: where nothing can run, and the
clock has come to the instant at which it is over, its end was reported by some move. Its task went
back in that move; after a stop, the queue accepted it exactly if the id was claimed at the stop and
was neither given away nor brought back since. -/
theorem stopping_is_final (config : Scheduler.Config) (now : Int) (before after : List (Move ω)) :
    let fresh : Chronicle ω := { scheduler := { config, now } }
    let c := fresh.run before
    let c' := c.run after
    (c.scheduler.stopping = true → (∀ job ∈ c.scheduler.ready, job.begins = false) →
      (∀ e ∈ c.happened after, e.2.begins = false) ∧
        ∀ plan script, ∀ f ∈ c.scheduler.play plan script, ∀ e ∈ f.events, e.2.begins = false) ∧
    (c.scheduler.stopping = false → c.scheduler.ready = [] → ∀ name,
      (∀ line, c.scheduler.line? name = some line →
        (line.loop = .ended ↔ line.queue.closed = true)) ∧
      stops name (fresh.frames before) + ((c.scheduler.queue? name).any (!·.closed)).toNat =
        (c.trail name).countP Deed.opens) ∧
    (∀ name line, c.scheduler.line? name = some line → ∀ (consumer : Consumer) turn,
      ((c.scheduler.station line consumer.token).ask config consumer).2.2 = .inr turn →
        turn = .leave .cancelled ∨ turn = .leave .queueClosed) ∧
    ∀ r ∈ c.scheduler.running, c'.scheduler.ready = [] →
      (∃ last, r.overAt config.executionTimeout = some last ∧ last ≤ c'.scheduler.now) →
        ∃ first move rest, after = first ++ move :: rest ∧ Ends (c.run first) move r ∧
          ∀ q, (c.run first).scheduler.queue? r.queue = some q → q.closed = false →
            (r.task.nextRun? (c.run first).scheduler.now).isSome →
              ∃ accepted, ((c.run first).step move).trail r.queue =
                  .returned r.ticket r.task accepted :: (c.run first).trail r.queue ∧
                (c.scheduler.stopping = true → ∃ between,
                  (c.run first).trail r.queue = between ++ c.trail r.queue ∧
                  (accepted = true ↔ (claim r.task.id (c.trail r.queue)).isSome ∧
                    ∀ d ∈ between,
                      d.displaces r.task.id = false ∧ d.restores r.task.id = false)) := by
  intro fresh c c'
  have new : Reached fresh := .fresh config now
  have reached : Reached c := new.run before
  have limit : c.scheduler.config = config := config_run new before
  refine ⟨?_, ?_, ?_, ?_⟩
  · intro stopping nobody
    have stilled : c.scheduler.Stilled := ⟨stopping, nobody⟩
    refine ⟨(stilled_run reached stilled after).2, ?_⟩
    intro plan script f played e inside
    rcases mem_play_happened plan c script played inside with stopped | ⟨moves, happened⟩
    · rw [stopped]
      rfl
    · exact (stilled_run reached stilled moves).2 e happened
  · intro going idle name
    refine ⟨fun line here => ?_, ?_⟩
    · have ended := reached.ended_iff idle here
      simpa [going] using ended
    · -- no loops and no queues at first
      have balance : c.scheduler.loops name + stops name (fresh.frames before) + 0 =
          0 + (c.trail name).countP Deed.opens := loops_run new before name
      have left : c.scheduler.loops name = ((c.scheduler.queue? name).any (!·.closed)).toNat := by
        simpa [going] using reached.loops_idle idle name
      omega
  · intro name line here consumer turn refused
    exact Station.leaves_if_refused config _ consumer refused
  · intro r running idle ⟨last, at_, past⟩
    rcases ongoing_run reached (.inl running) after with ongoing | ⟨first, move, rest, split, ends⟩
    · -- nothing is in line, so it waits; but it is over
      have waits : r ∈ c'.scheduler.running := by
        refine ongoing.resolve_right ?_
        rw [idle]
        exact List.not_mem_nil
      have later := (reached.run after).punctual r waits last
      rw [config_run reached after, limit] at later
      exact absurd past (Int.not_le.mpr (later at_))
    · refine ⟨first, move, rest, split, ends, fun q here open_ again => ?_⟩
      obtain ⟨next, again⟩ := Option.isSome_iff_exists.mp again
      obtain ⟨accepted, returned⟩ := returning_open r.ticket here open_ again
      have entered : ((c.run first).step move).trail r.queue =
          .returned r.ticket r.task accepted :: (c.run first).trail r.queue := by
        rw [ends.returned, returned, noted_self]
        rfl
      refine ⟨accepted, entered, fun stopping => ?_⟩
      obtain ⟨between, grown, idle⟩ := untaken_run reached stopping first r.queue
      have honest : Honest (((c.run first).step move).trail r.queue) :=
        ((reached.run first).step move).kept.honest r.queue
      rw [entered] at honest
      have fits := honest.accepted_iff (List.suffix_refl _)
      rw [grown] at fits
      exact ⟨between, grown, fits.trans (claim_append idle)⟩

/-! ### A stop while an execution overtakes another -/

/-- An execution of the old record runs for 100 ms. Meanwhile the task is replaced, and the new
record is executed for 5 s; then the root token is cancelled, and the loop leaves. -/
def halting : List (Move String) :=
  [.client "q" .addQueue, .client "q" (.register (record "old")), .work (lasting 0) 0,
    .work (lasting 100) 0, .client "q" (.update (record "new")), .work (lasting 0) 0,
    .work (lasting 5000) 0, .cancel, .work (lasting 0) 0]

/-- Both executions end. -/
def ending : List (Move String) :=
  [.wait (Duration.ofMillis 100), .work (lasting 0) 0, .wait (Duration.ofMillis 4900),
    .work (lasting 0) 0]

/-- The execution of the new record. -/
def second : Run String where
  queue := "q"
  ticket := 1
  task := record "new"
  since := 0
  plan := lasting 5000 (record "new")

theorem reached_halting : Reached (({} : Chronicle String).run halting) :=
  Reached.run (.fresh {} 0) halting

theorem trail_ending : ((({} : Chronicle String).run halting).run ending).trail "q" =
    [.returned 1 (record "new") false, .returned 0 (record "old") true, .taken 1 (record "new"),
      .installed (record "new"), .removed "a", .taken 0 (record "old"), .installed (record "old"),
      .opened] := by
  decide +kernel

/-- Nothing begins after the stop, and the new record's execution, which goes on then, ends. -/
theorem execution_ends_after_stop :
    (∀ e ∈ (({} : Chronicle String).run halting).happened ending, e.2.begins = false) ∧
      ∃ first move rest, ending = first ++ move :: rest ∧
        Ends ((({} : Chronicle String).run halting).run first) move second := by
  obtain ⟨silent, _, _, ends⟩ := stopping_is_final {} 0 halting ending
  refine ⟨(silent (by decide +kernel) (by decide +kernel)).1, ?_⟩
  obtain ⟨first, move, rest, split, ended, _⟩ :=
    ends second (by decide +kernel) (by decide +kernel)
      ⟨Instant.ofMillis 5000, by decide +kernel, by decide +kernel⟩
  exact ⟨first, move, rest, split, ended⟩

/-- It is not so that an execution under way at the stop comes back unless its id was removed or
given a new task since it was taken: the old record came back and used up the claim. -/
theorem execution_dropped_after_stop :
    ¬ ∀ c : Chronicle String, c.Reached → c.scheduler.stopping = true →
      ∀ moves name k t between earlier, (name, k, t) ∈ c.scheduler.duties →
        .returned k t false :: (between ++ .taken k t :: earlier) <:+ (c.run moves).trail name →
          ∃ d ∈ between, d.displaces t.id = true := by
  intro law
  have last := List.suffix_refl (((({} : Chronicle String).run halting).run ending).trail "q")
  nth_rewrite 1 [trail_ending] at last
  obtain ⟨d, member, displaced⟩ := law _ reached_halting (by decide +kernel) ending "q" 1
    (record "new") [.returned 0 (record "old") true] _ (by decide +kernel) last
  cases List.mem_singleton.mp member
  cases displaced

end Chronicle

end Vigil
