import Vigil.Proofs.Validation

/-!
# The language of addresses

Every target for TCP gets the verdict that its last colon and the numeral behind it call for
(`Verdict`), and no other. Numerals may be of any length: reading one into 16 bits digit by digit,
with a refusal at the first step that does not fit, never differs from reading all of it and looking
at the value then (`Text.map_word?`).
-/
namespace Vigil

namespace Text

/-! ### Numerals in 16 bits -/

/-- Put a digit behind a number, if the result has a place in 16 bits. -/
def extend? (n : UInt16) (c : Char) : Option UInt16 :=
  let value := 10 * n.toNat + (c.toNat - '0'.toNat)
  if value ≤ 65535 then some (.ofNat value) else none

def wordDigits? (n : UInt16) : List Char → Option UInt16
  | [] => some n
  | c :: rest => if c.isDigit then (extend? n c).bind (wordDigits? · rest) else none

/-- Read a numeral without ever holding more than 16 bits. -/
def word? (cs : List Char) : Option UInt16 :=
  let body := if cs.head? = some '+' then cs.tail else cs
  if body.isEmpty then none else wordDigits? 0 body

variable {cs : List Char}

/-- Digits never make a number smaller. -/
theorem le_of_digits? {acc n : Nat} (read : digits? acc cs = some n) : acc ≤ n := by
  induction cs generalizing acc with
  | nil => exact Nat.le_of_eq (Option.some.inj read)
  | cons c cs ih =>
    rw [digits?] at read
    split at read
    next =>
      have below := ih read
      omega
    next => cases read

theorem map_wordDigits? (acc : UInt16) :
    (wordDigits? acc cs).map (·.toNat) = (digits? acc.toNat cs).filter (· ≤ 65535) := by
  induction cs generalizing acc with
  | nil =>
    have small : acc.toNat ≤ 65535 := Nat.le_of_lt_succ acc.toNat_lt
    simp [wordDigits?, digits?, Option.filter, small]
  | cons c cs ih =>
    rw [wordDigits?, digits?]
    split
    next digit =>
      by_cases fits : 10 * acc.toNat + (c.toNat - '0'.toNat) ≤ 65535
      · have held := UInt16.toNat_ofNat_of_lt' (Nat.lt_succ_of_le fits)
        simp only [extend?, if_pos fits, Option.bind_some, ih, held]
      · simp only [extend?, if_neg fits, Option.bind_none, Option.map_none]
        -- what does not fit stays too large, whatever digits follow
        refine (Option.filter_eq_none_iff.mpr fun n read => ?_).symm
        have above := le_of_digits? read
        simp only [decide_eq_true_eq]
        omega
    next => rfl

theorem map_word? (cs : List Char) : (word? cs).map (·.toNat) = numeral? 65535 cs := by
  have unsigned (ds : List Char) : (if ds.isEmpty then none else wordDigits? 0 ds).map (·.toNat) =
      if ds.isEmpty then none else (digits? 0 ds).filter (· ≤ 65535) := by
    split
    · rfl
    · exact map_wordDigits? 0
  unfold numeral?
  split
  next rest => exact unsigned rest
  next other =>
    have signless : cs.head? ≠ some '+' := fun sign => by
      obtain ⟨rest, rfl⟩ := List.head?_eq_some_iff.mp sign
      exact other rest rfl
    rw [word?, if_neg signless]
    exact unsigned cs

theorem Denotes.unique {m n : Nat} (first : Denotes cs m) (second : Denotes cs n) : m = n := by
  have left := numeral?_eq_some.mpr ⟨first, Nat.le_max_left m n⟩
  have right := numeral?_eq_some.mpr ⟨second, Nat.le_max_right m n⟩
  exact Option.some.inj (left.symm.trans right)

theorem numeral?_eq_none {max : Nat} :
    numeral? max cs = none ↔ ∀ n, Denotes cs n → max < n := by
  rw [Option.eq_none_iff_forall_ne_some]
  simp only [ne_eq, numeral?_eq_some, not_and, Nat.not_le]

end Text

namespace Validation

open Text (Denotes)

variable {target : String} {host port : List Char}

/-! ### Verdicts -/

/-- The target cut at its last colon. -/
structure Parts (target : String) (host port : List Char) : Prop where
  whole : target.toList = host ++ ':' :: port
  last : ':' ∉ port

/-- What a target for TCP calls for. -/
inductive Verdict (target : String) : Except Defect Unit → Prop where
  | blank (all : ∀ c ∈ target.toList, Text.isBlank c = true) :
      Verdict target (.error .blankTarget)
  | noColon (shown : ∃ c ∈ target.toList, Text.isBlank c = false) (uncut : ':' ∉ target.toList) :
      Verdict target (.error .noHostAndPort)
  | noHost {port : List Char} (parts : Parts target [] port) :
      Verdict target (.error .noHostAndPort)
  | noNumber {host port : List Char} (parts : Parts target host port) (there : host ≠ [])
      (other : ∀ n, ¬ Denotes port n) : Verdict target (.error .noNumber)
  | tooLarge {host port : List Char} {n : Nat} (parts : Parts target host port)
      (there : host ≠ []) (denotes : Denotes port n) (large : 65535 < n) :
      Verdict target (.error .noNumber)
  | zero {host port : List Char} (parts : Parts target host port) (there : host ≠ [])
      (denotes : Denotes port 0) : Verdict target (.error .portZero)
  | accepted {host port : List Char} {n : Nat} (parts : Parts target host port)
      (there : host ≠ []) (denotes : Denotes port n) (least : 1 ≤ n) (most : n ≤ 65535) :
      Verdict target (.ok ())

theorem allBlank_eq_false_iff :
    Text.allBlank target = false ↔ ∃ c ∈ target.toList, Text.isBlank c = false := by
  rw [Text.allBlank, List.all_eq_false]
  simp only [Bool.not_eq_true]

theorem checkTarget_tcp (shown : ∃ c ∈ target.toList, Text.isBlank c = false) :
    checkTarget target .tcp = checkHostAndPort target := by
  rw [checkTarget, allBlank_eq_false_iff.mpr shown, if_neg Bool.false_ne_true]

theorem Parts.shown (parts : Parts target host port) :
    ∃ c ∈ target.toList, Text.isBlank c = false :=
  ⟨':', parts.whole ▸ by simp, by decide⟩

theorem Parts.splitLast?_eq (parts : Parts target host port) :
    Url.splitLast? ':' target.toList = some (host, port) :=
  Url.splitLast?_eq_some.mpr ⟨parts.whole, parts.last⟩

theorem Parts.checkTarget_eq (parts : Parts target host port) (there : host ≠ []) :
    checkTarget target .tcp = (Text.numeral? 65535 port).elim (.error .noNumber) checkPort := by
  have occupied : host.isEmpty = false := by simpa using there
  simp only [checkTarget_tcp parts.shown, checkHostAndPort, parts.splitLast?_eq, occupied,
    Bool.false_eq_true, ↓reduceIte]

/-- No colon is left in what has no last one. -/
theorem splitLast?_eq_none (uncut : ':' ∉ target.toList) :
    Url.splitLast? ':' target.toList = none := by
  refine Option.eq_none_iff_forall_ne_some.mpr fun (host, port) cut => uncut ?_
  exact (Url.splitLast?_eq_some.mp cut).1 ▸ by simp

/-- A verdict is what the target gets. -/
theorem Verdict.checkTarget_eq {answer : Except Defect Unit} (verdict : Verdict target answer) :
    checkTarget target .tcp = answer := by
  cases verdict with
  | blank all =>
    have hidden : Text.allBlank target = true := List.all_eq_true.mpr all
    rw [checkTarget, if_pos hidden]
  | noColon shown uncut => rw [checkTarget_tcp shown, checkHostAndPort, splitLast?_eq_none uncut]
  | noHost parts =>
    simp only [checkTarget_tcp parts.shown, checkHostAndPort, parts.splitLast?_eq,
      List.isEmpty_nil, ↓reduceIte]
  | noNumber parts there other =>
    rw [parts.checkTarget_eq there,
      Text.numeral?_eq_none.mpr fun n denotes => absurd denotes (other n)]
    rfl
  | tooLarge parts there denotes large =>
    have unread := Text.numeral?_eq_none.mpr fun n denotes' => denotes.unique denotes' ▸ large
    rw [parts.checkTarget_eq there, unread]
    rfl
  | zero parts there denotes =>
    have read := Text.numeral?_eq_some.mpr ⟨denotes, Nat.zero_le 65535⟩
    rw [parts.checkTarget_eq there, read]
    rfl
  | accepted parts there denotes least most =>
    have read := Text.numeral?_eq_some.mpr ⟨denotes, most⟩
    rw [parts.checkTarget_eq there, read, Option.elim_some, checkPort,
      if_neg (Nat.pos_iff_ne_zero.mp least)]

theorem exists_parts (colon : ':' ∈ target.toList) : ∃ host port, Parts target host port := by
  obtain ⟨after, before, whole, last⟩ :=
    List.eq_append_cons_of_mem (List.mem_reverse.mpr colon)
  refine ⟨before.reverse, after.reverse, ?_, by simpa using last⟩
  rw [← List.reverse_reverse target.toList, whole]
  simp

/-- Every target calls for some verdict. -/
theorem exists_verdict (target : String) : ∃ answer, Verdict target answer := by
  by_cases colon : ':' ∈ target.toList
  · obtain ⟨host, port, parts⟩ := exists_parts colon
    by_cases there : host = []
    · subst there
      exact ⟨_, .noHost parts⟩
    · by_cases numeral : ∃ n, Denotes port n
      · obtain ⟨n, denotes⟩ := numeral
        rcases Nat.eq_zero_or_pos n with rfl | least
        · exact ⟨_, .zero parts there denotes⟩
        · rcases Nat.lt_or_ge 65535 n with large | most
          · exact ⟨_, .tooLarge parts there denotes large⟩
          · exact ⟨_, .accepted parts there denotes least most⟩
      · exact ⟨_, .noNumber parts there (not_exists.mp numeral)⟩
  · cases shown : Text.allBlank target with
    | true => exact ⟨_, .blank (List.all_eq_true.mp shown)⟩
    | false => exact ⟨_, .noColon (allBlank_eq_false_iff.mp shown) colon⟩

/-- A target is accepted for TCP exactly if there is something in front of its last colon and a port
behind it: one or more digits, perhaps after a plus sign, with a value from 1 to 65535. Every other
target is refused with the error that its verdict states, and a port is judged by the value of the
whole numeral, which is also what is held when its digits are taken into 16 bits one by one. -/
theorem address_language (target : String) :
    (checkTarget target .tcp = .ok () ↔
      ∃ host port, target.toList = host ++ ':' :: port ∧ ':' ∉ port ∧ host ≠ [] ∧ IsPort port) ∧
    (∀ answer, checkTarget target .tcp = answer ↔ Verdict target answer) ∧
    ∀ port, Text.numeral? 65535 port = (Text.word? port).map (·.toNat) := by
  have exact_ (answer : Except Defect Unit) :
      checkTarget target .tcp = answer ↔ Verdict target answer := by
    refine ⟨?_, Verdict.checkTarget_eq⟩
    rintro rfl
    obtain ⟨answer, verdict⟩ := exists_verdict target
    exact verdict.checkTarget_eq ▸ verdict
  refine ⟨(exact_ _).trans ⟨?_, ?_⟩, exact_, fun port => (Text.map_word? port).symm⟩
  · rintro ⟨⟩
    next host port n parts there denotes least most =>
      exact ⟨host, port, parts.whole, parts.last, there, n, denotes, least, most⟩
  · rintro ⟨host, port, whole, last, there, n, denotes, least, most⟩
    exact .accepted ⟨whole, last⟩ there denotes least most

-- a host may have colons of its own; 65616 is 80 in 16 bits
example : checkTarget "[::1]:+00080" .tcp = .ok () := eq_ok_of_isOk (by decide +kernel)

example : (checkTarget "[::1]:65616" .tcp).isOk = false := by decide +kernel

end Validation

end Vigil
