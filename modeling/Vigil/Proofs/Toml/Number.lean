import Mathlib.Data.List.TakeDrop
import Vigil.Toml.Moment

/-!
# Written integers can be read

The decimal digits of a number are read as that number if it has a place in 64 bits
(`int?_toDigits`). A row of digits is no date, no time and no fraction, since something other than a
digit parts the numbers of each of these.
-/
namespace Vigil.Toml

/-- Members of a class of characters differ from those outside of it. -/
theorem ne_of_class {p : Char → Bool} {c d : Char} (inside : p c = true) (outside : p d = false) :
    c ≠ d := by
  rintro rfl
  exact absurd inside (by simp [outside])

theorem span_append {p : Char → Bool} {cs rest : List Char} (all : ∀ c ∈ cs, p c = true)
    (stop : ∀ c ∈ rest.head?, p c = false) : (cs ++ rest).span p = (cs, rest) := by
  rw [List.span_eq_takeWhile_dropWhile, List.takeWhile_append_of_pos all,
    List.dropWhile_append_of_pos all]
  cases rest with
  | nil => simp
  | cons c rest => simp [stop c rfl]

/-- There are digits in the text and nothing else. -/
structure Digits (ds : List Char) : Prop where
  nonempty : ds ≠ []
  all : ∀ c ∈ ds, c.isDigit = true

theorem digits_toDigits (n : Nat) : Digits (Nat.toDigits 10 n) where
  nonempty := Nat.toDigits_ne_nil
  all _ member := Nat.isDigit_of_mem_toDigits (by decide) (by decide) member

variable {ds : List Char}

theorem Digits.apart (digits : Digits ds) {c : Char} (other : c.isDigit = false) : c ∉ ds :=
  fun member => ne_of_class (digits.all c member) other rfl

namespace Number

theorem hexDigit?_of_isDigit {c : Char} (digit : c.isDigit = true) :
    Vigil.Text.hexDigit? c = some (c.toNat - '0'.toNat) := by
  simp [Vigil.Text.hexDigit?, digit]

theorem value_eq_ofDigitChars (digits : Digits ds) : value 10 ds = Nat.ofDigitChars 10 ds 0 := by
  have step (acc : Nat) : ∀ cs : List Char, (∀ c ∈ cs, c.isDigit = true) →
      cs.foldl (fun acc c => 10 * acc + (Vigil.Text.hexDigit? c).getD 0) acc =
        cs.foldl (fun acc c => 10 * acc + (c.toNat - '0'.toNat)) acc := by
    intro cs all
    induction cs generalizing acc with
    | nil => rfl
    | cons c cs ih =>
      obtain ⟨first, others⟩ := List.forall_mem_cons.mp all
      simp only [List.foldl_cons, hexDigit?_of_isDigit first, Option.getD_some]
      exact ih _ others
  rw [Nat.ofDigitChars_eq_foldl]
  exact step 0 ds digits.all

theorem value_toDigits (n : Nat) : value 10 (Nat.toDigits 10 n) = n := by
  rw [value_eq_ofDigitChars (digits_toDigits n)]
  exact Nat.ofDigitChars_toDigits (by decide) (by decide)

theorem digits?_self (digits : Digits ds) : digits? Char.isDigit ds = some ds := by
  obtain ⟨nonempty, all⟩ := digits
  induction ds with
  | nil => exact absurd rfl nonempty
  | cons c ds ih =>
    obtain ⟨first, others⟩ := List.forall_mem_cons.mp all
    cases ds with
    | nil => simp [digits?, first]
    | cons d ds =>
      have apart : d ≠ '_' := ne_of_class (others _ List.mem_cons_self) (by decide)
      rw [digits?, if_pos first, ih (List.cons_ne_nil d ds) others, Option.map_some]
      · exact List.cons_ne_nil d ds
      · exact fun rest same => apart (List.cons.inj same).1

/-- Only zero is written with a zero in front. -/
theorem eq_zero_of_head?_toDigits {n : Nat} (zero : (Nat.toDigits 10 n).head? = some '0') :
    n = 0 := by
  induction n using Nat.strongRecOn with
  | ind n ih =>
    by_cases small : n < 10
    · rw [Nat.toDigits_of_lt_base small] at zero
      have code := congrArg Char.toNat (Option.some.inj zero)
      rw [Nat.toNat_digitChar_of_lt_ten small] at code
      exact Nat.add_left_cancel (k := 0) code
    · have large := Nat.not_lt.mp small
      rw [Nat.toDigits_of_base_le (by decide) large, List.head?_append] at zero
      obtain ⟨c, front⟩ := Option.isSome_iff_exists.mp
        (List.isSome_head?.mpr (Nat.toDigits_ne_nil (n := n / 10) (b := 10)))
      rw [front, Option.some_or] at zero
      have small' := ih (n / 10) (by omega) (front.trans zero)
      omega

theorem decimal?_toDigits (n : Nat) : decimal? (Nat.toDigits 10 n) = some (Nat.toDigits 10 n) := by
  have plain : ((Nat.toDigits 10 n).length == 1 || (Nat.toDigits 10 n).head? != some '0') = true := by
    by_cases zero : n = 0
    · subst zero
      decide
    · simpa using .inr fun front => zero (eq_zero_of_head?_toDigits front)
  simp [decimal?, digits?_self (digits_toDigits n), plain]

theorem splitSign_digits (digits : Digits ds) : splitSign ds = (false, ds) := by
  unfold splitSign
  split
  · exact absurd List.mem_cons_self (digits.apart (by decide))
  · exact absurd List.mem_cons_self (digits.apart (by decide))
  · rfl

theorem int?_of_decimal? (digits : Digits ds) (plain : decimal? ds = some ds)
    (fits : value 10 ds < 0x8000000000000000) : int? ds = some (value 10 ds : Int) := by
  have second {c : Char} {rest : List Char} (same : ds = '0' :: c :: rest)
      (other : c.isDigit = false) : False :=
    digits.apart other (same ▸ List.mem_cons_of_mem _ List.mem_cons_self)
  unfold int?
  split
  · exact (second rfl (by decide)).elim
  · exact (second rfl (by decide)).elim
  · exact (second rfl (by decide)).elim
  · rw [splitSign_digits digits]
    dsimp only
    rw [plain, Option.bind_some]
    exact if_pos ⟨by omega, Int.ofNat_lt.mpr fits⟩

theorem int?_toDigits {n : Nat} (fits : n < 0x8000000000000000) :
    int? (Nat.toDigits 10 n) = some (n : Int) := by
  have read := int?_of_decimal? (digits_toDigits n) (decimal?_toDigits n)
  rw [value_toDigits] at read
  exact read fits

theorem span_digits (digits : Digits ds) {p : Char → Bool}
    (holds : ∀ c, c.isDigit = true → p c = true) : ds.span p = (ds, []) := by
  have all : ∀ c ∈ ds, p c = true := fun c member => holds c (digits.all c member)
  have read : (ds ++ []).span p = (ds, []) := span_append all nofun
  rwa [List.append_nil] at read

theorem isFraction_digits (digits : Digits ds) : isFraction ds = false := by
  have mantissa := span_digits digits (p := fun c => !(c == 'e' || c == 'E')) fun c digit => by
    have apart := ne_of_class digit (d := 'e') (by decide)
    have apart' := ne_of_class digit (d := 'E') (by decide)
    simp [apart, apart']
  have whole := span_digits digits (p := (· != '.')) fun c digit =>
    bne_iff_ne.mpr (ne_of_class digit (by decide))
  have inf : ds ≠ "inf".toList := fun same => digits.apart (c := 'i') (by decide) (by simp [same])
  have nan : ds ≠ "nan".toList := fun same => digits.apart (c := 'n') (by decide) (by simp [same])
  unfold isFraction
  rw [splitSign_digits digits]
  simp only [mantissa, whole, List.isEmpty_nil, ↓reduceIte]
  simp only [beq_eq_false_iff_ne.mpr inf, beq_eq_false_iff_ne.mpr nan]
  cases decimal? ds <;> simp

end Number

namespace Moment

theorem expect?_digits {c : Char} (other : c.isDigit = false) (all : ∀ c ∈ ds, c.isDigit = true) :
    expect? c ds = none := by
  cases ds with
  | nil => rfl
  | cons d ds =>
    exact if_neg (ne_of_class (all d List.mem_cons_self) other)

theorem two?_rest {least most n : Nat} {rest : List Char} (cut : two? least most ds = some (n, rest)) :
    rest = ds.drop 2 := by
  unfold two? at cut
  split at cut
  · dsimp only at cut
    split at cut
    · cases cut
      rfl
    · cases cut
  · cases cut

theorem date?_digits (digits : Digits ds) : date? ds = none := by
  have behind : expect? '-' (ds.drop 4) = none :=
    expect?_digits (by decide) fun c member => digits.all c (List.mem_of_mem_drop member)
  unfold date?
  rw [behind]
  exact Option.bind_fun_none _

theorem time?_digits (digits : Digits ds) : time? ds = none := by
  unfold time?
  cases cut : two? 0 23 ds with
  | none => rfl
  | some read =>
    obtain ⟨hour, rest⟩ := read
    have behind : expect? ':' rest = none := by
      rw [two?_rest cut]
      exact expect?_digits (by decide) fun c member => digits.all c (List.mem_of_mem_drop member)
    dsimp only [Option.bind_eq_bind, Option.bind_some]
    rw [behind]
    rfl

theorem isMoment_digits (digits : Digits ds) : isMoment ds = false := by
  simp [isMoment, time?_digits digits, date?_digits digits]

end Moment

end Vigil.Toml
