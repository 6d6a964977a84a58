import Vigil.Proofs.Scheduler.Actions

/-!
# Entries signed by executions

A move adds to the history of one queue at most: deeds of clients, which nobody signs, the takings
of new executions under new tickets, or the hand-back of an execution that was under way
(`entered_step`). So a ticket stands for one execution, and an execution hands back the task that it
took (`Reached.signed`).
-/
namespace Vigil

open Queue

variable {ω : Type}

namespace Queue

/-- The execution that did the deed. -/
def Deed.ticket? : Deed ω → Option Nat
  | .taken k _ | .returned k _ _ | .lost k _ => some k
  | _ => none

end Queue

namespace Scheduler

variable {s s' : Scheduler ω} {name : String}

/-- What clients do: only a new queue opens a history anew, and no execution signs. -/
theorem serving_deeds (s : Scheduler ω) (name : String) (call : Call ω) :
    ∀ d ∈ s.serving name call, d = .opened ∧ call = .addQueue ∨ d = .closed ∨
      (∃ t, d = .installed t) ∨ (∃ id, d = .removed id) ∨ ∃ id due, d = .rekeyed id due := by
  cases call with
  | addQueue =>
    simp only [serving]
    split <;> simp
  | removeQueue => exact List.forall_mem_nil _
  | closeQueue =>
    simp only [serving]
    split <;> simp
  | register t =>
    simp only [serving, registering]
    split
    · simp
    · split
      · simp
      · split <;> simp
  | update t =>
    simp only [serving, updating]
    split
    · simp
    · split <;> simp
  | remove id =>
    simp only [serving]
    split <;> simp
  | push t =>
    simp only [serving, pushing]
    split
    · simp
    · split <;> simp

/-- What clients do is done by no execution. -/
theorem unsigned_serving (s : Scheduler ω) (name : String) (call : Call ω) :
    ∀ d ∈ s.serving name call, d.ticket? = none := by
  intro d member
  rcases serving_deeds s name call d member with
    ⟨rfl, _⟩ | rfl | ⟨t, rfl⟩ | ⟨id, rfl⟩ | ⟨id, due, rfl⟩ <;> rfl

/-! ### Executions under way -/

/-- The same executions are under way, and none was added. -/
def Idle (s s' : Scheduler ω) : Prop :=
  (∀ x, x ∈ s'.duties ↔ x ∈ s.duties) ∧ s'.dispatched = s.dispatched

theorem Idle.rfl (s : Scheduler ω) : s.Idle s := ⟨fun _ => .rfl, .refl _⟩

/-- The books say who is under way. -/
theorem Idle.of_books {b : Books ω} {trail : String → List (Deed ω)} (books : s'.books trail = b)
    (owes : b.owes = fun n k t => (n, k, t) ∈ s.duties) (number : b.dispatched = s.dispatched) :
    s.Idle s' := by
  refine ⟨fun ⟨n, k, t⟩ => ?_, (congrArg Books.dispatched books).trans number⟩
  exact iff_of_eq (congrFun (congrFun (congrFun ((congrArg Books.owes books).trans owes) n) k) t)

theorem Served.idle {call : Call ω} (served : Served s name call s') : s.Idle s' := by
  cases served with
  | refused => exact .rfl s
  | added => exact ⟨fun x => by simp [duties, Job.duty], .refl _⟩
  | detached => exact .of_books (detach_books s _ fun _ => []) (.refl _) (.refl _)
  | @put _ q wakes here heard =>
    have booked (trail : String → List (Deed ω)) :
        (s.putQueue name (q.run call.asks) wakes).books (noted trail name []) =
          (s.books trail).put name (q.run call.asks) [] := putQueue_books here _ wakes []
    exact .of_books (booked fun _ => []) (.refl _) (.refl _)

theorem idle_shutdown (s : Scheduler ω) : s.Idle s.shutdown.scheduler := by
  have detached : ∀ (lines : List (Line ω)) (s : Scheduler ω), s.Idle (lines.foldl detach s) := by
    intro lines
    induction lines with
    | nil => exact .rfl
    | cons line rest ih =>
      intro s
      have first : s.Idle (s.detach line) :=
        .of_books (detach_books s line fun _ => []) (.refl _) (.refl _)
      have others := ih (s.detach line)
      exact ⟨fun x => (others.1 x).trans (first.1 x), others.2.trans first.2⟩
  have cancelled : s.Idle s.cancel := .of_books (cancel_books s fun _ => []) (.refl _) (.refl _)
  have gone := detached s.cancel.lines s.cancel
  exact ⟨fun x => (gone.1 x).trans (cancelled.1 x), gone.2.trans cancelled.2⟩

theorem idle_reach (s : Scheduler ω) (now : Int) : s.Idle (s.reach now) :=
  .of_books (reach_books s now fun _ => []) (.refl _) (.refl _)

theorem idle_reschedule (s : Scheduler ω) (name : String) (t : Task ω) :
    s.Idle (s.reschedule name t).1 := by
  -- under whichever ticket
  refine .of_books (reschedule_books s name 0 t fun _ => []) ?_ ?_
  all_goals
    unfold Books.handBack
    split
    · rfl
    · split
      · rfl
      · split <;> rfl

end Scheduler

namespace Chronicle

/-- What a move can enter in the history of the queue of some name. -/
inductive Entered (c c' : Chronicle ω) (name : String) : List (Deed ω) → Prop where
  | unsigned {deeds : List (Deed ω)} (nobody : ∀ d ∈ deeds, d.ticket? = none)
      (fewer : ∀ x ∈ c'.scheduler.duties, x ∈ c.scheduler.duties)
      (number : c'.scheduler.dispatched = c.scheduler.dispatched) : Entered c c' name deeds
  | taken (tasks : List (Task ω))
      (grown : ∀ x ∈ c'.scheduler.duties, x ∈ c.scheduler.duties ∨
        ∃ t k, (t, k) ∈ tasks.zipIdx c.scheduler.dispatched ∧ x = (name, k, t))
      (number : c'.scheduler.dispatched = c.scheduler.dispatched + tasks.length) :
      Entered c c' name (Books.takings tasks c.scheduler.dispatched)
  | handed {k : Nat} {t : Task ω} {d : Deed ω} (owed : (name, k, t) ∈ c.scheduler.duties)
      (signed : d = .lost k t ∨ ∃ accepted, d = .returned k t accepted)
      (fewer : ∀ x ∈ c'.scheduler.duties, x ∈ c.scheduler.duties)
      (number : c'.scheduler.dispatched = c.scheduler.dispatched) : Entered c c' name [d]

variable {c c' : Chronicle ω} {name : String}

theorem Entered.of_idle {deeds : List (Deed ω)} (nobody : ∀ d ∈ deeds, d.ticket? = none)
    (idle : c.scheduler.Idle c'.scheduler) : Entered c c' name deeds :=
  .unsigned nobody (fun x => (idle.1 x).mp) idle.2

/-- An execution that is over, and perhaps its job, leaves one entry at most. -/
theorem Entered.of_returning {s : Scheduler ω} {k : Nat} {t : Task ω}
    (owed : (name, k, t) ∈ c.scheduler.duties) (fewer : ∀ x ∈ s.duties, x ∈ c.scheduler.duties)
    (number : s.dispatched = c.scheduler.dispatched)
    (after : c'.scheduler = (s.reschedule name t).1) :
    Entered c c' name (s.returning name k t) := by
  have idle := Scheduler.idle_reschedule s name t
  rw [← after] at idle
  have less : ∀ x ∈ c'.scheduler.duties, x ∈ c.scheduler.duties :=
    fun x member => fewer x ((idle.1 x).mp member)
  have same := idle.2.trans number
  unfold Scheduler.returning
  split
  · exact .unsigned (List.forall_mem_nil _) less same
  · split
    · exact .handed owed (.inl rfl) less same
    · split
      · exact .unsigned (List.forall_mem_nil _) less same
      · exact .handed owed (.inr ⟨_, rfl⟩) less same

theorem Entered.of_dispatch {s : Scheduler ω}
    (sound : ∀ q, s.queue? name = some q → q.Sound)
    (fewer : ∀ x ∈ s.duties, x ∈ c.scheduler.duties)
    (number : s.dispatched = c.scheduler.dispatched)
    (after : c'.scheduler = (s.dispatch name).1) : Entered c c' name (s.handing name) := by
  unfold Scheduler.dispatch at after
  unfold Scheduler.handing
  cases here : s.line? name with
  | none =>
    simp only [here] at after
    exact .unsigned (List.forall_mem_nil _) (after ▸ fewer) (after ▸ number)
  | some line =>
    have queue : s.queue? name = some line.queue := by rw [Scheduler.queue?, here]; rfl
    have left : c'.scheduler = s.modifyLine name (fun l => { l with loop := .ended }) →
        Entered c c' name [] := fun same =>
      .unsigned (List.forall_mem_nil _) (same ▸ fewer) (same ▸ number)
    simp only [here] at after
    by_cases stopping : s.stopping = true
    · simp only [stopping, ↓reduceIte] at after ⊢
      exact left after
    · simp only [stopping, Bool.false_eq_true, ↓reduceIte] at after ⊢
      split at after
      next refused =>
        have none_ := takeDue_closed (sound _ queue) (congrArg (·.2.2) refused)
        simp only [none_, Books.takings, List.zipIdx_nil, List.map_nil, List.reverse_nil]
        exact left after
      next q tasks wakeAt took =>
        simp only [took, number]
        refine .taken tasks ?_ (by rw [after, ← number])
        intro x member
        rw [after] at member
        simp only [Scheduler.duties, List.filterMap_append, List.mem_append, List.mem_filterMap,
          List.mem_map] at member
        rcases member with (old | ⟨job, ⟨⟨t, k⟩, inside, rfl⟩, duty⟩) | running
        · exact .inl (fewer x (List.mem_append_left _ (List.mem_filterMap.mpr old)))
        · exact .inr ⟨t, k, number ▸ inside, (Option.some.inj duty).symm⟩
        · exact .inl (fewer x (List.mem_append_right _ (List.mem_map.mpr running)))

/-- Whatever happens, one history at most grows, and only so. -/
theorem entered_step (reached : Reached c) (move : Move ω) :
    ∃ name deeds, (c.step move).trail = noted c.trail name deeds ∧
      Entered c (c.step move) name deeds := by
  have still {c' : Chronicle ω} (trail : c'.trail = c.trail)
      (idle : c.scheduler.Idle c'.scheduler) :
      ∃ name deeds, c'.trail = noted c.trail name deeds ∧ Entered c c' name deeds :=
    ⟨"", [], trail.trans (noted_nil c.trail "").symm, .of_idle (List.forall_mem_nil _) idle⟩
  cases move with
  | client name call =>
    have sound : ∀ q, c.scheduler.queue? name = some q → q.Sound := fun q => reached.sound q
    have idle := (Scheduler.serve_served sound call).idle
    exact ⟨name, _, rfl, .of_idle (Scheduler.unsigned_serving _ name call) idle⟩
  | cancel =>
    exact still rfl (.of_books (Scheduler.cancel_books _ fun _ => []) (.refl _) (.refl _))
  | shutdown => exact still rfl (Scheduler.idle_shutdown _)
  | wait duration => exact still rfl (Scheduler.idle_reach _ _)
  | take name =>
    simp only [Chronicle.step]
    split
    next => exact still rfl (.rfl _)
    next s t took =>
      obtain ⟨line, here, open_, head, due, rfl⟩ := Scheduler.takeOne?_took reached.sound took
      refine ⟨name, _, rfl, .taken [t] ?_ rfl⟩
      intro x member
      simp only [next, Scheduler.duties, List.filterMap_append, List.mem_append] at member
      rcases member with (old | new) | running
      · exact .inl (List.mem_append_left _ old)
      · exact .inr ⟨t, c.scheduler.dispatched, List.mem_singleton.mpr rfl, by
          simpa [Job.duty] using new⟩
      · exact .inl (List.mem_append_right _ running)
  | work plan place =>
    simp only [Chronicle.step]
    split
    next => exact still rfl (.rfl _)
    next job found =>
      have perm := Scheduler.duties_eraseIdx found
      generalize sDef : ({ c.scheduler with ready := c.scheduler.ready.eraseIdx place } :
        Scheduler ω) = s
      have fewer : ∀ x ∈ s.duties, x ∈ c.scheduler.duties := fun x member =>
        perm.mem_iff.mpr (List.mem_append_right _ (sDef ▸ member))
      have owed : ∀ x, job.duty = some x → x ∈ c.scheduler.duties := fun x duty =>
        perm.mem_iff.mpr (List.mem_append_left _ (Option.mem_toList.mpr duty))
      have number : s.dispatched = c.scheduler.dispatched := by rw [← sDef]
      have released (r : Run ω) : ∀ x ∈ ({ s with ready := s.ready ++ [.release r] } :
          Scheduler ω).duties, x ∈ c.scheduler.duties := fun x member =>
        fewer x (by simpa [Scheduler.duties, Job.duty] using member)
      refine ⟨_, _, rfl, ?_⟩
      cases job with
      | dispatch name =>
        have sound : ∀ q, s.queue? name = some q → q.Sound := by
          rw [← sDef]
          exact fun q here => reached.sound q here
        exact .of_dispatch sound fewer number rfl
      | retire | release => exact .unsigned (List.forall_mem_nil _) fewer number
      | finish r => exact .of_returning (owed _ rfl) fewer number rfl
      | expire r =>
        exact .of_returning (s := { s with ready := s.ready ++ [.release r] }) (owed _ rfl)
          (released r) number rfl
      | start name k t =>
        simp only [Scheduler.doing, Scheduler.overAtOnce, Scheduler.perform, Scheduler.start]
        split
        next past =>
          simp only [past, Bool.true_or, ↓reduceIte]
          exact .of_returning (owed _ rfl) fewer number rfl
        next on =>
          split
          next past =>
            simp only [past, Bool.or_true, ↓reduceIte]
            exact .of_returning (s := { s with ready := s.ready ++ [.release _] }) (owed _ rfl)
              (released _) number rfl
          next stays =>
            rw [Bool.not_eq_true] at on stays
            simp only [on, stays, Bool.or_self, Bool.false_eq_true, ↓reduceIte]
            refine .unsigned (List.forall_mem_nil _) ?_ number
            intro x member
            rcases (Scheduler.mem_duties_start s _ x).mp member with rfl | old
            · exact owed _ rfl
            · exact fewer x old

/-! ### Tickets -/

/-- An execution, and what it handed back, have the task that was taken under its ticket. -/
structure Signed (c : Chronicle ω) : Prop where
  below : ∀ name k t, .taken k t ∈ c.trail name → k < c.scheduler.dispatched
  own : ∀ name k t u, (name, k, t) ∈ c.scheduler.duties → .taken k u ∈ c.trail name → u = t
  signed : ∀ name k t accepted earlier, .returned k t accepted :: earlier <:+ c.trail name →
    ∀ u, .taken k u ∈ earlier → u = t

theorem mem_takings {tasks : List (Task ω)} {first k : Nat} {t : Task ω} :
    .taken k t ∈ Books.takings tasks first ↔ (t, k) ∈ tasks.zipIdx first := by
  simp [Books.takings]

theorem not_returned_mem_takings {tasks : List (Task ω)} {first k : Nat} {t : Task ω}
    {accepted : Bool} : .returned k t accepted ∉ Books.takings tasks first := by
  simp [Books.takings]

/-- Where a deed stands in a history that was added to. -/
theorem suffix_append {d : Deed ω} {earlier new old : List (Deed ω)}
    (suffix : d :: earlier <:+ new ++ old) :
    d :: earlier <:+ old ∨
      ∃ later between, new = later ++ d :: between ∧ earlier = between ++ old := by
  induction new with
  | nil => exact .inl suffix
  | cons x rest ih =>
    rcases List.suffix_cons_iff.mp suffix with same | inner
    · cases same
      exact .inr ⟨[], rest, rfl, rfl⟩
    · refine (ih inner).imp_right ?_
      rintro ⟨later, between, rfl, split⟩
      exact ⟨x :: later, between, rfl, split⟩

theorem Signed.step (signed : Signed c) (reached : Reached c) (move : Move ω) :
    Signed (c.step move) := by
  obtain ⟨name, deeds, trail, entered⟩ := entered_step reached move
  have numbered := reached.kept.numbered
  -- what is new in a history was entered, and it is the history of this name
  have mem {other : String} {d : Deed ω} (member : d ∈ (c.step move).trail other) :
      d ∈ c.trail other ∨ other = name ∧ d ∈ deeds := by
    rw [trail, noted] at member
    split at member
    next same => exact (List.mem_append.mp member).symm.imp_right fun new => ⟨same.symm, new⟩
    next => exact .inl member
  have suffix {other : String} {d : Deed ω} {earlier : List (Deed ω)}
      (inside : d :: earlier <:+ (c.step move).trail other) : d :: earlier <:+ c.trail other ∨
        other = name ∧ ∃ later between, deeds = later ++ d :: between ∧
          earlier = between ++ c.trail other := by
    rw [trail, noted] at inside
    split at inside
    next same => exact (suffix_append inside).imp_right fun new => ⟨same.symm, new⟩
    next => exact .inl inside
  cases entered with
  | unsigned nobody fewer number =>
    have old {other : String} {k : Nat} {t : Task ω}
        (member : .taken k t ∈ (c.step move).trail other) : .taken k t ∈ c.trail other :=
      (mem member).resolve_right fun entry => by cases nobody _ entry.2
    refine ⟨fun other k t member => ?_, fun other k t u owes member => ?_, ?_⟩
    · rw [number]
      exact signed.below other k t (old member)
    · exact signed.own other k t u (fewer _ owes) (old member)
    · intro other k t accepted earlier inside
      rcases suffix inside with before | ⟨_, later, between, new, _⟩
      · exact signed.signed other k t accepted earlier before
      · cases nobody (.returned k t accepted) (new ▸ List.mem_append_right later List.mem_cons_self)
  | taken tasks grown number =>
    have bound {k : Nat} {t : Task ω}
        (new : .taken k t ∈ Books.takings tasks c.scheduler.dispatched) :
        c.scheduler.dispatched ≤ k ∧ k < c.scheduler.dispatched + tasks.length :=
      let inside := List.mem_zipIdx (mem_takings.mp new)
      ⟨inside.1, inside.2.1⟩
    refine ⟨fun other k t member => ?_, fun other k t u owes member => ?_, ?_⟩
    · rw [number]
      rcases mem member with old | ⟨_, new⟩
      · have less := signed.below other k t old
        omega
      · exact (bound new).2
    · rcases grown _ owes with before | ⟨v, j, given, same⟩
      · rcases mem member with old | ⟨_, new⟩
        · exact signed.own other k t u before old
        · have less : k < c.scheduler.dispatched := numbered other k t before
          have atLeast := (bound new).1
          omega
      · cases same
        have atLeast := (List.mem_zipIdx given).1
        rcases mem member with old | ⟨_, new⟩
        · have less := signed.below _ k u old
          omega
        · have first := (List.mem_zipIdx (mem_takings.mp new)).2.2
          have second := (List.mem_zipIdx given).2.2
          rw [first, second]
    · intro other k t accepted earlier inside
      rcases suffix inside with before | ⟨_, later, between, new, _⟩
      · exact signed.signed other k t accepted earlier before
      · exact absurd (new ▸ List.mem_append_right later List.mem_cons_self)
          not_returned_mem_takings
  | @handed j v d owed signs fewer number =>
    have old {other : String} {k : Nat} {t : Task ω}
        (member : .taken k t ∈ (c.step move).trail other) : .taken k t ∈ c.trail other := by
      refine (mem member).resolve_right ?_
      rintro ⟨_, new⟩
      cases List.mem_singleton.mp new
      rcases signs with lost | ⟨_, returned⟩
      · cases lost
      · cases returned
    refine ⟨fun other k t member => ?_, fun other k t u owes member => ?_, ?_⟩
    · rw [number]
      exact signed.below other k t (old member)
    · exact signed.own other k t u (fewer _ owes) (old member)
    · intro other k t accepted earlier inside u member
      rcases suffix inside with before | ⟨rfl, later, between, new, rfl⟩
      · exact signed.signed other k t accepted earlier before u member
      · obtain ⟨rfl, alone⟩ | ⟨_, nothing⟩ := List.append_eq_singleton_iff.mp new.symm
        · cases alone
          rcases signs with lost | ⟨_, returned⟩
          · cases lost
          · cases returned
            exact signed.own _ _ _ u owed member
        · cases nothing

theorem Reached.signed (reached : Reached c) : Signed c := by
  induction reached with
  | fresh config now =>
    refine ⟨?_, ?_, ?_⟩
    · intro name k t member
      cases member
    · intro name k t u _ member
      cases member
    · intro name k t accepted earlier inside
      cases List.eq_nil_of_suffix_nil inside
  | step reached move ih => exact ih.step reached move

end Chronicle

end Vigil
