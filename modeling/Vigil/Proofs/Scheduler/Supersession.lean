import Vigil.Proofs.Scheduler.Runs

/-!
# Which record an execution is made with

Replacing a task, or registering it while it is not queued, installs a new record, and executions
of older records may still be under way. A queue accepts the hand-back of any of them as long as
some execution of the id holds a claim, so an execution that was overtaken by a later one can bring
an older record back. That is the only way: an execution is made with the newest record unless the
last overtaken execution that handed the id back since then brought another one.
-/
namespace Vigil

open Queue

variable {ω : Type}

namespace Queue

/-- The claim on the id has passed to another execution than the one with this ticket. -/
def Overtaken (h : List (Deed ω)) (id : String) (k : Nat) : Prop :=
  ∃ j, holder id h = some j ∧ j ≠ k

theorem holder_isSome (id : String) (h : List (Deed ω)) :
    (holder id h).isSome = (claim id h).isSome := Option.isSome_map

/-- What an accepted hand-back by an overtaken execution leaves in the history. -/
theorem exists_overtaken {id : String} {h : List (Deed ω)} (honest : Honest h) {r : ω × Nat}
    (brought : intruder id h = some r) :
    ∃ k t earlier, .returned k t true :: earlier <:+ h ∧ t.id = id ∧ t.record = r ∧
      Overtaken earlier id k := by
  induction h with
  | nil => cases brought
  | cons d h ih =>
    have inner : Honest h := honest.of_suffix (List.suffix_cons d h)
    have keep : intruder id h = some r → ∃ k t earlier, .returned k t true :: earlier <:+ d :: h ∧
        t.id = id ∧ t.record = r ∧ Overtaken earlier id k := by
      intro before
      obtain ⟨k, t, earlier, suffix, rest⟩ := ih inner before
      exact ⟨k, t, earlier, suffix.trans (List.suffix_cons d h), rest⟩
    cases d with
    | opened => cases brought
    | installed t =>
      simp only [intruder] at brought
      split at brought
      · cases brought
      · exact keep brought
    | removed other =>
      simp only [intruder] at brought
      split at brought
      · cases brought
      · exact keep brought
    | returned k t accepted =>
      simp only [intruder] at brought
      split at brought
      next strange =>
        obtain ⟨rfl, rfl, other⟩ := strange
        cases brought
        have fits : true = true ↔ (claim t.id h).isSome :=
          honest (.returned k t true) h (List.suffix_refl _)
        have claimed := fits.mp rfl
        rw [← holder_isSome] at claimed
        obtain ⟨j, held⟩ := Option.isSome_iff_exists.mp claimed
        refine ⟨k, t, h, List.suffix_refl _, rfl, rfl, j, held, ?_⟩
        rintro rfl
        exact other held
      next => exact keep brought
    | rekeyed other due => exact keep brought
    | taken k t => exact keep brought
    | lost k t => exact keep brought
    | closed => exact keep brought

section

variable {h earlier : List (Deed ω)} {k : Nat} {t : Task ω}

/-- The newest record is used exactly if no other one was brought back since it was installed. -/
theorem Honest.newest_iff (honest : Honest h) (suffix : .taken k t :: earlier <:+ h) :
    newest t.id earlier = some t.record ↔
      ∀ r, intruder t.id earlier = some r → newest t.id earlier = some r := by
  have expected : (intruder t.id earlier).or (newest t.id earlier) = some t.record :=
    honest (.taken k t) earlier suffix
  cases brought : intruder t.id earlier with
  | none =>
    rw [brought, Option.none_or] at expected
    simp [expected]
  | some r =>
    rw [brought, Option.some_or] at expected
    cases expected
    simp

theorem Honest.accepted_iff (honest : Honest h) {accepted : Bool}
    (suffix : .returned k t accepted :: earlier <:+ h) :
    accepted = true ↔ (claim t.id earlier).isSome :=
  honest (.returned k t accepted) earlier suffix

/-- Only an overtaken execution can return a task without holding the claim. -/
theorem Honest.holder_returns_iff (honest : Honest h) {accepted : Bool}
    (suffix : .returned k t accepted :: earlier <:+ h) :
    (accepted = true → holder t.id earlier = some k) ↔ ¬ Overtaken earlier t.id k := by
  rw [honest.accepted_iff suffix, ← holder_isSome]
  constructor
  · rintro rule ⟨j, held, other⟩
    rw [rule (Option.isSome_of_eq_some held)] at held
    cases held
    exact other rfl
  · intro mine claimed
    obtain ⟨j, held⟩ := Option.isSome_iff_exists.mp claimed
    by_cases same : j = k
    · rw [held, same]
    · exact absurd ⟨j, held, same⟩ mine

/-- Where nobody that returns was overtaken, no other record is brought back. -/
theorem Honest.intruder_eq_none (honest : Honest h)
    (lawful : ∀ k t accepted earlier, .returned k t accepted :: earlier <:+ h →
      ¬ Overtaken earlier t.id k) (older : earlier <:+ h) (id : String) :
    intruder id earlier = none := by
  cases brought : intruder id earlier with
  | none => rfl
  | some r =>
    obtain ⟨n, u, oldest, inside, named, _, overtaken⟩ :=
      exists_overtaken (honest.of_suffix older) brought
    rw [← named] at overtaken
    exact absurd overtaken (lawful n u true oldest (inside.trans older))

end

end Queue

namespace Chronicle

variable {c : Chronicle ω}

/-- For every run and every name of a queue. An execution is made with the newest record exactly if
the intruder since then, if there is one, brought the newest record itself. A hand-back is accepted
exactly while some execution holds a claim on the id, so the queue keeps to the rule that only the
holder returns exactly where the one that returns was not overtaken. And where no execution that
returns was overtaken, every execution is made with the newest record. -/
theorem superseded_record_returns_iff (reached : c.Reached) (name : String) :
    (∀ k t earlier, .taken k t :: earlier <:+ c.trail name →
      (newest t.id earlier = some t.record ↔
        ∀ r, intruder t.id earlier = some r → newest t.id earlier = some r)) ∧
    (∀ k t accepted earlier, .returned k t accepted :: earlier <:+ c.trail name →
      (accepted = true ↔ (claim t.id earlier).isSome) ∧
      ((accepted = true → holder t.id earlier = some k) ↔ ¬ Overtaken earlier t.id k)) ∧
    ((∀ k t accepted earlier, .returned k t accepted :: earlier <:+ c.trail name →
        ¬ Overtaken earlier t.id k) →
      ∀ k t earlier, .taken k t :: earlier <:+ c.trail name →
        newest t.id earlier = some t.record) := by
  have honest : Honest (c.trail name) := reached.kept.honest name
  refine ⟨?_, ?_, ?_⟩
  · intro k t earlier suffix
    exact honest.newest_iff suffix
  · intro k t accepted earlier suffix
    exact ⟨honest.accepted_iff suffix, honest.holder_returns_iff suffix⟩
  · intro lawful k t earlier suffix
    have older := (List.suffix_cons _ earlier).trans suffix
    have alone := honest.intruder_eq_none lawful older t.id
    refine (honest.newest_iff suffix).mpr ?_
    intro r brought
    rw [alone] at brought
    cases brought

/-! ### An execution that overtakes another -/

def record (work : String) : Task String :=
  { id := "a", due := 0, interval := Duration.ofSeconds 1, work }

def lasting (ms : Nat) (_ : Task String) : Execution := { length := some (Duration.ofMillis ms) }

/-- An execution of the old record runs for 100 ms. Meanwhile the task is replaced, and the new
record is executed for 5 s. When the old execution ends the id is in flight, so the old record is
queued, and it is executed once more one second later. -/
def overtaking : List (Move String) :=
  [.client "q" .addQueue, .client "q" (.register (record "old")), .work (lasting 0) 0,
    .work (lasting 100) 0, .client "q" (.update (record "new")), .work (lasting 0) 0,
    .work (lasting 5000) 0, .wait (Duration.ofMillis 100), .work (lasting 0) 0,
    .wait (Duration.ofSeconds 1), .work (lasting 0) 0]

theorem reached_overtaking : Reached (({} : Chronicle String).run overtaking) :=
  Reached.run (.fresh {} 0) overtaking

/-- What the last dispatch of `overtaking` takes. -/
def comeback : Task String := { record "old" with due := Instant.ofMillis 1100, run := 1 }

theorem trail_overtaking : (({} : Chronicle String).run overtaking).trail "q" =
    [.taken 2 comeback, .returned 0 (record "old") true, .taken 1 (record "new"),
      .installed (record "new"), .removed "a", .taken 0 (record "old"), .installed (record "old"),
      .opened] := by
  decide +kernel

/-- The law that no execution is made with an older record does not hold. -/
theorem superseded_record_dispatched :
    ¬ ∀ c : Chronicle String, c.Reached → ∀ name k t earlier,
      .taken k t :: earlier <:+ c.trail name → newest t.id earlier = some t.record := by
  intro law
  have last := List.suffix_refl ((({} : Chronicle String).run overtaking).trail "q")
  nth_rewrite 1 [trail_overtaking] at last
  have kept := law _ reached_overtaking "q" 2 comeback _ last
  revert kept
  decide +kernel

/-- The first execution was overtaken by the second when it handed the old record back, and what it
brought decides which record the third is made with. -/
theorem overtaken_record_decides :
    ∃ earlier, .taken 2 comeback :: earlier <:+ (({} : Chronicle String).run overtaking).trail "q" ∧
      intruder "a" earlier = some (record "old").record ∧
      (newest "a" earlier = some comeback.record ↔
        ∀ r, intruder "a" earlier = some r → newest "a" earlier = some r) := by
  obtain ⟨made, _, _⟩ := superseded_record_returns_iff reached_overtaking "q"
  have last := List.suffix_refl ((({} : Chronicle String).run overtaking).trail "q")
  nth_rewrite 1 [trail_overtaking] at last
  exact ⟨_, last, by decide +kernel, made 2 comeback _ last⟩

end Chronicle

end Vigil
