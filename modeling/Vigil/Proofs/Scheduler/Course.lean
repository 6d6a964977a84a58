import Vigil.Proofs.Scheduler.Parts
import Vigil.Proofs.Scheduler.Script

/-!
# The course of one task

What the executions of one task do in a run, the oldest first: when each begins, how it is to go,
and when it is over. A task with a fixed delay waits until it is due, is executed, and is due again
one interval after that execution was over. The clock is virtual: it moves only when there is
nothing to do, and never past a timer.
-/
namespace Vigil

variable {ω : Type}

/-- One thing that happens to an execution. -/
inductive Occasion where
  | begun (plan : Execution)
  /-- It returned, failed or broke down. -/
  | ended (ending : Ending)
  /-- The time limit cut it off. -/
  | cut
  deriving DecidableEq

/-- When an execution that begins at an instant is over, and how; one that ends exactly at the limit
has ended. The limit is a timer, and fires at a whole millisecond. -/
def Execution.outcome? (e : Execution) (limit : Option Nat) (since : Int) :
    Option (Int × Occasion) :=
  let expires := limit.map fun n : Nat => Instant.ceilMilli (since + n)
  match e.length.map (·.overAt since), expires with
  | some c, some x => some (if c ≤ x then (c, .ended e.ending) else (x, .cut))
  | some c, none => some (c, .ended e.ending)
  | none, some x => some (x, .cut)
  | none, none => none

/-! ### Stops of the clock -/

/-- Before the clock goes on from a timer to an instant, whatever can run there comes to an end. -/
inductive Scheduler.Rests (plan : Task ω → Execution) (target : Int) : Scheduler ω → Prop where
  | last {s : Scheduler ω} (timer : ∀ t, s.nextTimer = some t → target < t) : Rests plan target s
  | stop {s : Scheduler ω} {t : Int} (timer : s.nextTimer = some t) (before : t ≤ target)
      (rest : ((s.reach t).settle plan).1.ready = [])
      (on : Rests plan target ((s.reach t).settle plan).1) : Rests plan target s

theorem Scheduler.advanceTo_last {s : Scheduler ω} (plan : Task ω → Execution) {target : Int}
    (timer : ∀ t, s.nextTimer = some t → target < t) :
    s.advanceTo plan target = (((s.reach target).settle plan).1,
      ((s.reach target).settle plan).2.map (target, ·)) := by
  rw [advanceTo]
  split
  · rfl
  · next t first => rw [if_neg (by have := timer t first; omega)]

theorem Scheduler.advanceTo_stop {s : Scheduler ω} (plan : Task ω → Execution) {target t : Int}
    (timer : s.nextTimer = some t) (before : t ≤ target) :
    s.advanceTo plan target = ((((s.reach t).settle plan).1.advanceTo plan target).1,
      ((s.reach t).settle plan).2.map (t, ·) ++
        (((s.reach t).settle plan).1.advanceTo plan target).2) := by
  rw [advanceTo]
  split
  · next none => rw [timer] at none; cases none
  · next t' first =>
    obtain rfl : t = t' := Option.some.inj (timer ▸ first)
    rw [if_pos before]

/-! ### What is seen of a task -/

def Run.concerns (name id : String) (r : Run ω) : Bool := r.queue == name && r.task.id == id

/-- Whether the job is about an execution of the task with this id, of the queue of this name. -/
def Job.concerns (name id : String) : Job ω → Bool
  | .start queue _ t => queue == name && t.id == id
  | .finish r | .expire r => r.concerns name id
  | _ => false

def Event.occasion? (plan : Task ω → Execution) : Event ω → Option Occasion
  | .started t => some (.begun (plan t))
  | .ended _ ending => some (.ended ending)
  | .dropped _ => some .cut
  | _ => none

namespace Chronicle

/-- What happens to the executions of a task in a move. -/
def occasions (c : Chronicle ω) (name id : String) : Move ω → List (Int × Occasion)
  | .work plan place =>
    if (c.scheduler.ready[place]?).any (·.concerns name id) then
      (c.emits (.work plan place)).filterMap fun e => (e.occasion? plan).map (c.scheduler.now, ·)
    else []
  | _ => []

def course (c : Chronicle ω) (name id : String) : List (Move ω) → List (Int × Occasion)
  | [] => []
  | move :: rest => c.occasions name id move ++ (c.step move).course name id rest

/-! ### The virtual clock -/

/-- Time passes only while nothing can run, and at most up to the next timer. -/
def allows (c : Chronicle ω) : Move ω → Bool
  | .wait duration => c.scheduler.ready.isEmpty &&
      c.scheduler.nextTimer.all (c.scheduler.now + duration ≤ ·)
  | _ => true

def timely (c : Chronicle ω) : List (Move ω) → Bool
  | [] => true
  | move :: rest => c.allows move && (c.step move).timely rest

theorem timely_append (c : Chronicle ω) (first second : List (Move ω)) :
    c.timely (first ++ second) = (c.timely first && (c.run first).timely second) := by
  induction first generalizing c with
  | nil => rfl
  | cons move rest ih =>
    rw [List.cons_append, timely, ih, timely, Bool.and_assoc]
    rfl

theorem timely_replicate (c : Chronicle ω) (plan : Task ω → Execution) (place jobs : Nat) :
    c.timely (List.replicate jobs (.work plan place)) = true := by
  induction jobs generalizing c with
  | zero => rfl
  | succ jobs ih => exact ih _

/-- The clock goes to an instant up to which no timer fires, and all that can run there does. -/
theorem exists_timely_reach (plan : Task ω → Execution) {c : Chronicle ω} {t : Int}
    (later : c.scheduler.now ≤ t) (idle : c.scheduler.ready = [])
    (allowed : ∀ timer, c.scheduler.nextTimer = some timer → t ≤ timer) :
    ∃ moves : List (Move ω), (∀ move ∈ moves, move.Unasked plan) ∧ c.timely moves = true ∧
      (c.run moves).scheduler = ((c.scheduler.reach t).settle plan).1 := by
  let wait : Move ω := .wait (t - c.scheduler.now).toNat
  have arrives : c.scheduler.now + (t - c.scheduler.now).toNat = t := by omega
  have there : (c.step wait).scheduler = c.scheduler.reach t :=
    congrArg c.scheduler.reach arrives
  obtain ⟨jobs, done, _⟩ := exists_happened_settle plan (c.step wait)
  rw [there] at done
  refine ⟨wait :: List.replicate jobs (.work plan 0), ?_, ?_, done⟩
  · exact List.forall_mem_cons.mpr ⟨trivial, unasked_replicate plan jobs⟩
  · simp only [Chronicle.timely, timely_replicate, Bool.and_true, allows, wait, arrives, idle]
    cases first : c.scheduler.nextTimer with
    | none => rfl
    | some timer => simpa using allowed timer first

/-- The clock goes to an instant by a timely run, if it stops on the way until nothing can run. -/
theorem exists_timely_advanceTo (plan : Task ω → Execution) {target : Int} {c : Chronicle ω}
    (later : c.scheduler.now ≤ target) (idle : c.scheduler.ready = [])
    (rests : c.scheduler.Rests plan target) :
    ∃ moves : List (Move ω), (∀ move ∈ moves, move.Unasked plan) ∧ c.timely moves = true ∧
      (c.run moves).scheduler = (c.scheduler.advanceTo plan target).1 := by
  generalize same : c.scheduler = s at rests
  induction rests generalizing c with
  | @last s timer =>
    subst same
    rw [Scheduler.advanceTo_last plan timer]
    exact exists_timely_reach plan later idle fun t first => Int.le_of_lt (timer t first)
  | @stop s t timer before rest on ih =>
    subst same
    rw [Scheduler.advanceTo_stop plan timer before]
    have ahead := Int.le_of_lt (Scheduler.now_lt_nextTimer timer)
    have next : ∀ t', c.scheduler.nextTimer = some t' → t ≤ t' := by
      intro t' same
      rw [timer] at same
      cases same
      exact Int.le_refl t
    obtain ⟨first, unasked, timely, stopped⟩ := exists_timely_reach plan ahead idle next
    obtain ⟨second, unasked', timely', done⟩ := @ih (c.run first)
      (by rwa [stopped, Scheduler.settle_now, Scheduler.reach_now]) (by rw [stopped, rest]) stopped
    refine ⟨first ++ second, List.forall_mem_append.mpr ⟨unasked, unasked'⟩, ?_, ?_⟩
    · rw [timely_append, timely, timely', Bool.and_self]
    · rw [run_append, done]

end Chronicle

/-! ### A fixed delay -/

/-- What is next for a task: to be executed when it is due, or to be over. -/
inductive Phase where
  | waiting (due : Int)
  | busy (since : Int) (plan : Execution)

/-- From one phase to another by way of these occasions, if a task that is due at an instant `due`
may begin at the instants `s` with `starts due s`. -/
inductive FixedDelay (starts : Int → Int → Prop) (limit : Option Nat) (interval : Nat) :
    Phase → List (Int × Occasion) → Phase → Prop where
  | nothing (p : Phase) : FixedDelay starts limit interval p [] p
  | begins {due s : Int} {plan : Execution} {later : List (Int × Occasion)} {p : Phase}
      (at_ : starts due s) (rest : FixedDelay starts limit interval (.busy s plan) later p) :
      FixedDelay starts limit interval (.waiting due) ((s, .begun plan) :: later) p
  | ends {since c : Int} {plan : Execution} {how : Occasion} {later : List (Int × Occasion)}
      {p : Phase} (at_ : plan.outcome? limit since = some (c, how))
      (rest : FixedDelay starts limit interval (.waiting (c + interval)) later p) :
      FixedDelay starts limit interval (.busy since plan) ((c, how) :: later) p

/-- Timers fire at whole milliseconds. A task begins by the first one that is not before its due
time, and before that only if its loop looks meanwhile for another reason. -/
def Instant.Near (due s : Int) : Prop := due ≤ s ∧ s ≤ ceilMilli due

theorem Instant.Near.of_whole {due s : Int} (near : Near due s) (whole : 1000000 ∣ due) :
    due = s := by
  simp only [Near, ceilMilli] at near
  omega

/-- Nothing that was to happen by now is outstanding, but for what can be done now. -/
def Phase.Pending (limit : Option Nat) (now : Int) (idle : Prop) : Phase → Prop
  | .waiting due => now ≤ Instant.ceilMilli due ∧ (idle → now < Instant.ceilMilli due)
  | .busy since plan => ∀ c how, plan.outcome? limit since = some (c, how) →
      now ≤ c ∧ (idle → now < c)

namespace FixedDelay

variable {starts : Int → Int → Prop} {limit : Option Nat} {interval : Nat}

theorem trans {p q r : Phase} {first second : List (Int × Occasion)}
    (left : FixedDelay starts limit interval p first q)
    (right : FixedDelay starts limit interval q second r) :
    FixedDelay starts limit interval p (first ++ second) r := by
  induction left with
  | nothing p => exact right
  | begins at_ _ ih => exact .begins at_ (ih right)
  | ends at_ _ ih => exact .ends at_ (ih right)

/-- When the second execution begins. -/
theorem second {due s c s' : Int} {plan plan' : Execution} {how : Occasion}
    {later : List (Int × Occasion)} {p : Phase}
    (delayed : FixedDelay starts limit interval (.waiting due)
      ((s, .begun plan) :: (c, how) :: (s', .begun plan') :: later) p) :
    starts (c + interval) s' := by
  cases delayed with
  | begins _ rest =>
    cases rest with
    | ends _ rest =>
      cases rest with
      | begins at_ => exact at_

/-- Where all instants are whole milliseconds, executions begin exactly when they are due. -/
theorem exact (whole : 1000000 ∣ (interval : Int)) {p q : Phase} {course : List (Int × Occasion)}
    (near : FixedDelay Instant.Near limit interval p course q)
    (first : ∀ due, p = .waiting due → 1000000 ∣ due) (times : ∀ event ∈ course, 1000000 ∣ event.1) :
    FixedDelay Eq limit interval p course q := by
  induction near with
  | nothing p => exact .nothing p
  | @begins due s plan later p at_ _ ih =>
    obtain ⟨_, others⟩ := List.forall_mem_cons.mp times
    exact .begins (at_.of_whole (first due rfl)) (ih (fun due next => by cases next) others)
  | @ends since c plan how later p at_ _ ih =>
    obtain ⟨ended, others⟩ := List.forall_mem_cons.mp times
    refine .ends at_ (ih (fun due next => ?_) others)
    cases next
    exact Int.dvd_add ended whole

end FixedDelay

theorem Run.expiresAt_eq (r : Run ω) (limit : Option Nat) :
    r.expiresAt limit = limit.map fun n : Nat => Instant.ceilMilli (r.since + n) := by
  cases limit <;> rfl

/-- When and how an execution under way is over. -/
theorem Run.outcome?_eq (r : Run ω) (limit : Option Nat) :
    r.plan.outcome? limit r.since = (r.overAt limit).map fun c =>
      (c, if r.endsInTime limit then .ended r.plan.ending else .cut) := by
  simp only [Execution.outcome?, Run.overAt, Run.endsInTime, Run.endsAt, Run.expiresAt_eq]
  cases r.plan.length.map (·.overAt r.since) with
  | none => cases limit <;> rfl
  | some c =>
    cases limit with
    | none => rfl
    | some x => by_cases inTime : c ≤ Instant.ceilMilli (r.since + x) <;> simp [inTime]

/-- An execution that begins now is over at once, or stays. -/
theorem Scheduler.launch_cases {s : Scheduler ω} (plan : Task ω → Execution) {r : Run ω}
    (began : r.since = s.now) :
    (r.overAt s.config.executionTimeout = some s.now ∧
        s.launch r = s.perform plan (r.overJob s.config.executionTimeout)) ∨
      (∀ c, r.overAt s.config.executionTimeout = some c → s.now < c) ∧
        s.launch r = ({ s with running := s.running ++ [r] }, []) := by
  have ends : ∀ e, r.endsAt = some e → s.now ≤ e := by
    intro e found
    obtain ⟨length, _, rfl⟩ := Option.map_eq_some_iff.mp found
    exact began ▸ length.le_overAt r.since
  have expires : ∀ x, r.expiresAt s.config.executionTimeout = some x → s.now ≤ x := by
    intro x found
    rw [Run.expiresAt_eq] at found
    obtain ⟨n, _, rfl⟩ := Option.map_eq_some_iff.mp found
    have rounded := Instant.le_ceilMilli (r.since + n)
    omega
  unfold launch Run.overAt Run.overJob Run.endsInTime
  cases ended : r.endsAt with
  | none =>
    cases expired : r.expiresAt s.config.executionTimeout with
    | none => simp
    | some x =>
      have on := expires x expired
      by_cases past : x ≤ s.now
      · have at_ : x = s.now := Int.le_antisymm past on
        simp [at_, perform]
      · simp [past]
        omega
  | some e =>
    have on := ends e ended
    cases expired : r.expiresAt s.config.executionTimeout with
    | none =>
      by_cases past : e ≤ s.now
      · have at_ : e = s.now := Int.le_antisymm past on
        simp [at_, perform]
      · simp [past]
        omega
    | some x =>
      have on' := expires x expired
      by_cases past : e ≤ s.now
      · have at_ : e = s.now := Int.le_antisymm past on
        simp [at_, on', perform]
      · by_cases cut : x ≤ s.now
        · have at_ : x = s.now := Int.le_antisymm cut on'
          simp [at_, past, perform]
        · simp only [past, cut, Option.any_some, decide_false, Bool.false_eq_true, ↓reduceIte,
            and_true]
          refine Or.inr fun c at_ => ?_
          split at at_ <;> (cases at_; omega)

end Vigil
