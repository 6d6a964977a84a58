import Vigil.Time
/-!
What one execution of a task does as seen from outside: how long it goes on if it is left alone,
and how it ends.
-/

namespace Vigil

/-- How an execution ends by itself. The texts of errors and what a panic says are values here:
errors and panics that break down themselves, when they are shown or dropped, are left out. -/
inductive Ending where
  | completed
  /-- It failed; the causes come outermost first. -/
  | failed (causes : List String)
  /-- It broke down, and said something readable or not. -/
  | panicked (said : Option String)
  deriving DecidableEq, Repr

/-- How long an execution goes on that is left alone. -/
structure Span where
  nanos : Nat
  /-- Whether a timer tells when it is over, and not whatever else it waits for, if for anything. -/
  timed : Bool := false
  deriving DecidableEq, Repr

namespace Span

instance : Coe Nat Span := ⟨fun nanos => { nanos }⟩

instance (n : Nat) : OfNat Span n := ⟨{ nanos := n }⟩

/-- When it is over, if it begins at an instant. -/
def overAt (d : Span) (since : Int) : Int :=
  if d.timed then Instant.ceilMilli (since + d.nanos) else since + d.nanos

theorem le_overAt (d : Span) (since : Int) : since ≤ d.overAt since := by
  have rounded := Instant.le_ceilMilli (since + d.nanos)
  unfold overAt
  split <;> omega

end Span

/-- An execution ends after `length`, or never if there is none. -/
structure Execution where
  length : Option Span := some 0
  ending : Ending := .completed
  deriving DecidableEq, Repr

/-- One line for a chain of causes. -/
def Ending.chain (causes : List String) : String := ": ".intercalate causes

end Vigil
