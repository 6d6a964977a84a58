import Vigil.Scheduler.Clock

/-!
# The longer steps of a scheduler, in parts

An execution that begins is either over at once or stays; the clock that reaches an instant first
wakes loops and then ends executions; the loop of a queue that is taken out leaves. Each part has a
name here, and the step is their composition.
-/
namespace Vigil

variable {ω : Type}

/-- What becomes of a job when the queue of this name is no longer registered. -/
def Job.leave (name : String) (fresh : Bool) : Job ω → Job ω
  | .dispatch q => if q == name then .retire q fresh else .dispatch q
  | job => job

theorem filter_map_blind {p : Job ω → Bool} {f : Job ω → Job ω}
    (seen : ∀ job, p job = true → f job = job) (unseen : ∀ job, p job = false → p (f job) = false)
    (jobs : List (Job ω)) : (jobs.map f).filter p = jobs.filter p := by
  induction jobs with
  | nil => rfl
  | cons job rest ih =>
    cases known : p job with
    | true => simp only [List.map_cons, seen job known, List.filter_cons, known, ↓reduceIte, ih]
    | false => simp only [List.map_cons, List.filter_cons, known, unseen job known,
        Bool.false_eq_true, ↓reduceIte, ih]

namespace Scheduler

theorem detach_eq (s : Scheduler ω) (line : Line ω) :
    s.detach line = { s with
      lines := s.lines.filter (·.name != line.name)
      ready := match line.loop with
        | .ended => s.ready
        | .fresh => s.ready.map (.leave line.name true)
        | .runnable => s.ready.map (.leave line.name false)
        | .blocked _ => s.ready ++ [.retire line.name false] } := by
  unfold detach
  cases line.loop <;> rfl

/-- Whoever sees no loop does not see one leave. -/
theorem filter_detach {p : Job ω → Bool}
    (blind : ∀ q fresh, p (.dispatch q) = false ∧ p (.retire q fresh) = false) (s : Scheduler ω)
    (line : Line ω) : (s.detach line).ready.filter p = s.ready.filter p := by
  have left (fresh : Bool) :
      (s.ready.map (.leave line.name fresh)).filter p = s.ready.filter p := by
    refine filter_map_blind ?_ ?_ s.ready
    · intro job known
      cases job with
      | dispatch q =>
        rw [(blind q fresh).1] at known
        cases known
      | _ => rfl
    · intro job unknown
      cases job with
      | dispatch q =>
        simp only [Job.leave]
        split
        · exact (blind q fresh).2
        · exact unknown
      | _ => exact unknown
  rw [detach_eq]
  cases line.loop with
  | ended => rfl
  | fresh => exact left true
  | runnable => exact left false
  | blocked wakeAt => simp [(blind line.name false).2]

/-- A look is seen in notices only. -/
theorem dispatch_notices (s : Scheduler ω) (name : String) :
    ∀ e ∈ (s.dispatch name).2, ∃ n, e = .notice n := by
  have opening (line : Line ω) : ∀ e ∈ (if line.loop = .fresh then
      [Event.notice (.loopStarted name)] else []), ∃ n, e = Event.notice (ω := ω) n := by
    split
    · exact List.forall_mem_singleton.mpr ⟨_, rfl⟩
    · exact List.forall_mem_nil _
  simp only [dispatch]
  split
  · exact List.forall_mem_nil _
  next line here =>
    split
    · exact List.forall_mem_append.mpr ⟨opening line, List.forall_mem_singleton.mpr ⟨_, rfl⟩⟩
    · split
      · exact List.forall_mem_append.mpr ⟨opening line, List.forall_mem_singleton.mpr ⟨_, rfl⟩⟩
      · refine List.forall_mem_append.mpr ⟨opening line, fun e member => ?_⟩
        obtain ⟨t, _, rfl⟩ := List.mem_map.mp member
        exact ⟨_, rfl⟩

/-- What becomes of an execution that has begun. -/
def launch (s : Scheduler ω) (r : Run ω) : Scheduler ω × List (Event ω) :=
  if r.endsAt.any (· ≤ s.now) then s.finish r
  else if (r.expiresAt s.config.executionTimeout).any (· ≤ s.now) then s.expire r
  else ({ s with running := s.running ++ [r] }, [])

/-- An execution that begins is over at once, one way or the other, or stays. -/
@[elab_as_elim]
theorem launch_induction {motive : Scheduler ω × List (Event ω) → Prop} (s : Scheduler ω)
    (r : Run ω) (finish : motive (s.finish r)) (expire : motive (s.expire r))
    (stay : motive ({ s with running := s.running ++ [r] }, [])) : motive (s.launch r) := by
  unfold launch
  split
  · exact finish
  · split
    · exact expire
    · exact stay

theorem start_eq (plan : Task ω → Execution) (s : Scheduler ω) (name : String) (ticket : Nat)
    (t : Task ω) : s.start plan name ticket t =
      ((s.launch { queue := name, ticket, task := t, since := s.now, plan := plan t }).1,
        .started t ::
          (s.launch { queue := name, ticket, task := t, since := s.now, plan := plan t }).2) := rfl

/-- The queues whose loops have a timer that has fired by `now`, the oldest first. -/
def roused (s : Scheduler ω) (now : Int) : List String :=
  (s.lines.filter fun l =>
    match l.loop with
    | .blocked wakeAt => wakeAt.any (Instant.ceilMilli · ≤ now)
    | _ => false).map (·.name)

/-- End the executions that are over at an instant. -/
def conclude (s : Scheduler ω) (limit : Option Nat) (now : Int) : Scheduler ω :=
  let past (r : Run ω) := (r.overAt limit).any (· ≤ now)
  { s with
    running := s.running.filter (!past ·)
    ready := s.ready ++ (s.running.filter past).map (·.overJob limit) }

theorem reach_eq (s : Scheduler ω) (now : Int) :
    s.reach now =
      ((s.roused now).foldl wake { s with now }).conclude s.config.executionTimeout now := rfl

end Scheduler

end Vigil
