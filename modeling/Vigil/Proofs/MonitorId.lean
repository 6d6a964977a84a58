import Mathlib.Algebra.Group.Nat.Defs
import Mathlib.Data.List.Basic
import Vigil.MonitorId

/-!
# The text of a monitor's identity can be read back

An identity is a number of 128 bits. Its text has as many digits as that takes, so the text tells
the number, and two identities never share a text.
-/
namespace Vigil.MonitorId

/-- The identities that exist have 128 bits. -/
def Proper (id : MonitorId) : Prop := id.value < 2 ^ 128

instance (id : MonitorId) : Decidable id.Proper := inferInstanceAs (Decidable (_ < _))

theorem length_hexDigits (width n : Nat) : (hexDigits width n).length = width := by
  induction width generalizing n with
  | zero => rfl
  | succ width ih => simp [hexDigits, ih]

theorem hexDigit?_digitChar : ∀ d < 16, Text.hexDigit? (Nat.digitChar d) = some d := by decide

theorem hexDigit?_of_mem {width n : Nat} {c : Char} (member : c ∈ hexDigits width n) :
    (Text.hexDigit? c).isSome := by
  induction width generalizing n with
  | zero => cases member
  | succ width ih =>
    rcases List.mem_append.mp member with front | last
    · exact ih front
    · rw [List.mem_singleton.mp last, hexDigit?_digitChar _ (Nat.mod_lt n (by decide))]
      rfl

theorem hexValue_hexDigits (width n : Nat) : Text.hexValue (hexDigits width n) = n % 16 ^ width := by
  induction width generalizing n with
  | zero => simp [hexDigits, Text.hexValue, Nat.mod_one]
  | succ width ih =>
    have last := hexDigit?_digitChar (n % 16) (Nat.mod_lt n (by decide))
    have front := ih (n / 16)
    simp only [Text.hexValue, hexDigits, List.foldl_append, List.foldl_cons, List.foldl_nil, last,
      Option.elim_some] at front ⊢
    rw [front, Nat.pow_succ, Nat.mul_comm (16 ^ width), Nat.mod_mul]
    omega

theorem filter_grouped {digits : List Char} (plain : '-' ∉ digits) :
    (grouped digits).filter (· != '-') = digits := by
  have kept : ∀ part : List Char, part ⊆ digits → part.filter (· != '-') = part := by
    intro part inside
    refine List.filter_eq_self.mpr fun c member => ?_
    simp only [bne_iff_ne, ne_eq]
    rintro rfl
    exact plain (inside member)
  have middle : ∀ k, (digits.drop k).take 4 ⊆ digits := fun k =>
    List.Subset.trans (List.take_subset 4 _) (List.drop_subset k digits)
  simp only [grouped, List.filter_append, List.filter_cons, bne_self_eq_false, Bool.false_eq_true,
    ↓reduceIte, kept _ (List.take_subset 8 digits), kept _ (middle _),
    kept _ (List.drop_subset 20 digits)]
  have join : ∀ k, (digits.drop k).take 4 ++ digits.drop (k + 4) = digits.drop k := by
    intro k
    rw [← List.drop_drop, List.take_append_drop]
  rw [List.append_assoc, List.append_assoc, List.append_assoc, join 16, join 12, join 8,
    List.take_append_drop]

theorem ofText?_text {id : MonitorId} (proper : id.Proper) : ofText? id.text = some id := by
  have shown : id.text.toList = grouped (hexDigits 32 id.value) := by
    rw [text, String.toList_ofList]
  have all : ∀ c ∈ hexDigits 32 id.value, (Text.hexDigit? c).isSome := fun c member =>
    hexDigit?_of_mem member
  have length := length_hexDigits 32 id.value
  have value : Text.hexValue (hexDigits 32 id.value) = id.value := by
    rw [hexValue_hexDigits]
    exact Nat.mod_eq_of_lt proper
  generalize hexDigits 32 id.value = digits at shown all length value
  have plain : '-' ∉ digits := by
    intro member
    exact absurd (all _ member) (by decide)
  rw [ofText?, shown, filter_grouped plain, if_pos ⟨length, rfl, List.all_eq_true.mpr all⟩, value]

theorem text_inj {a b : MonitorId} (proper : a.Proper) (proper' : b.Proper)
    (same : a.text = b.text) : a = b := by
  have read := ofText?_text proper
  rw [same, ofText?_text proper'] at read
  exact (Option.some.inj read).symm

end Vigil.MonitorId
