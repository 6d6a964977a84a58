/-!
Time on one clock. An instant is an `Int`, the nanoseconds since the clock's origin, and a duration
a `Nat` of nanoseconds, so no rule of the program loses precision and linear arithmetic applies.
Timers have millisecond resolution and fire at `Instant.ceilMilli t` of their deadline.
-/

namespace Vigil

namespace Duration

def ofMillis (n : Nat) : Nat := n * 1000000

def ofSeconds (n : Nat) : Nat := n * 1000000000

/-- `whole` and the `width`-digit fraction `frac`, without the fraction's trailing zeros. -/
def decimal (whole frac width : Nat) : String :=
  let digits := (List.replicate width '0' ++ Nat.toDigits 10 frac).reverse.take width
  let kept := (digits.dropWhile (· == '0')).reverse
  if kept.isEmpty then toString whole else toString whole ++ "." ++ String.ofList kept

/-- The text of a duration: the largest of `s`, `ms`, `µs` and `ns` that reaches one unit, with as
many decimals as are needed to be exact. -/
def text (d : Nat) : String :=
  if d ≥ 1000000000 then decimal (d / 1000000000) (d % 1000000000) 9 ++ "s"
  else if d ≥ 1000000 then decimal (d / 1000000) (d % 1000000) 6 ++ "ms"
  else if d ≥ 1000 then decimal (d / 1000) (d % 1000) 3 ++ "µs"
  else toString d ++ "ns"

end Duration

namespace Instant

def ofMillis (n : Int) : Int := n * 1000000

/-- Whole milliseconds, rounded toward the past. -/
def toMillis (t : Int) : Int := t / 1000000

/-- The first whole millisecond at or after `t`: when a timer armed for `t` fires. -/
def ceilMilli (t : Int) : Int := -(-t / 1000000) * 1000000

/-- The largest instant a clock can show: 2^63 - 1 whole seconds and a fraction. -/
def latest : Int := 0x7fffffffffffffff * 1000000000 + 999999999

/-- The smallest instant a clock can show. -/
def earliest : Int := -0x8000000000000000 * 1000000000

/-- The instant `d` after `t`, if a clock can show it. -/
def after? (t : Int) (d : Nat) : Option Int :=
  if t + d ≤ latest then some (t + d) else none

/-- The instant `d` before `t`, if a clock can show it. -/
def before? (t : Int) (d : Nat) : Option Int :=
  if earliest ≤ t - d then some (t - d) else none

theorem le_ceilMilli (t : Int) : t ≤ ceilMilli t := by
  simp only [ceilMilli]; omega

theorem after?_eq_some {t u : Int} {d : Nat} (h : after? t d = some u) :
    u = t + d ∧ u ≤ latest := by
  simp only [after?] at h
  split at h
  · cases h; exact ⟨rfl, by assumption⟩
  · cases h

end Instant

end Vigil
