import Vigil.Toml.Text

/-!
# Written texts can be read

A text is read back from each of the four forms it may be written in (`read_write`). Between double
quotes every character is written so that reading takes exactly that character (`readBasic_escape`,
`readLongBasic_escape`). Between three quotes the quotes of the text itself are what needs care: a
third one in a row is escaped or keeps the form from being chosen, and those at the very end are told
from the closing ones by counting.
-/
namespace Vigil.Toml.Text

@[simp] theorem push_some (c : Char) (text rest : List Char) :
    push c (some (text, rest)) = some (c :: text, rest) := rfl

/-! ### Single characters -/

theorem hexDigit?_digit {n : Nat} (small : n < 16) :
    Vigil.Text.hexDigit? (Nat.digitChar n).toUpper = some n := by
  revert n
  decide

theorem toNat_of_isControl {c : Char} (control : isControl c = true) : c.toNat < 0x80 := by
  simp only [isControl, isPlain, Bool.and_eq_true, Bool.not_eq_true', Bool.or_eq_false_iff,
    Bool.and_eq_false_iff, decide_eq_false_iff_not, bne_eq_false_iff_eq] at control
  omega

theorem char?_toNat (c : Char) : Vigil.Text.Utf8.char? 0 c.toNat = some c := by
  have valid : c.toNat.isValidChar := c.valid
  simp [Vigil.Text.Utf8.char?, valid]

theorem codePoint?_of_hexDigits {digits : List Char}
    (all : digits.all (Vigil.Text.hexDigit? · |>.isSome) = true) :
    codePoint? digits = Vigil.Text.Utf8.char? 0 (Vigil.Text.hexValue digits) := by
  unfold codePoint?
  rw [all]
  rfl

/-- The digits that a control character is written in stand for it. -/
theorem codePoint?_codePoint {c : Char} (control : isControl c = true) :
    ∃ w x y z, codePoint c = ['\\', 'u', w, x, y, z] ∧ codePoint? [w, x, y, z] = some c := by
  have small := toNat_of_isControl control
  have value : 16 * (16 * (16 * (c.toNat / 4096 % 16) + c.toNat / 256 % 16) + c.toNat / 16 % 16) +
      c.toNat % 16 = c.toNat := by omega
  refine ⟨_, _, _, _, rfl, ?_⟩
  have digit (n : Nat) := hexDigit?_digit (Nat.mod_lt n (by decide : 16 > 0))
  rw [codePoint?_of_hexDigits (by simp [digit])]
  simp [digit, Vigil.Text.hexValue, value, char?_toNat]

theorem isPlain_of_not_control {c : Char} (plain : isControl c = false) (apart : c ≠ '\n') :
    isPlain c = true := by
  simpa [isControl, apart] using plain

theorem readBasic_plain {c : Char} (plain : isPlain c = true) (apart : c ≠ '"') (apart' : c ≠ '\\')
    (rest : List Char) : readBasic (c :: rest) = push c (readBasic rest) := by
  have taken : (isPlain c && c != '\\') = true := by simp [plain, apart']
  rw [readBasic.eq_def]
  split
  all_goals simp_all

theorem readLongBasic_plain {c : Char} (plain : isPlain c = true ∨ c = '\n') (apart : c ≠ '"')
    (apart' : c ≠ '\\') (rest : List Char) :
    readLongBasic false (c :: rest) = push c (readLongBasic false rest) := by
  have taken : ((isPlain c && c != '\\') || c == '\n') = true := by
    rcases plain with plain | rfl
    · simp [plain, apart']
    · rfl
  have ended : c ≠ '\r' := by
    rintro rfl
    rcases plain with plain | same
    · exact absurd plain (by decide)
    · exact absurd same (by decide)
  rw [readLongBasic.eq_def]
  split
  case h_7 same =>
    cases same
    simp only [Bool.false_and, Bool.false_eq_true, ↓reduceIte, if_pos taken]
  all_goals simp_all

/-- A character that is written between double quotes is read again. -/
theorem readBasic_escape {c : Char} (apart : c ≠ '"') (rest : List Char) :
    readBasic (escape false c ++ rest) = push c (readBasic rest) := by
  unfold escape
  split
  case h_7 _ _ line _ _ slash =>
    split
    next control =>
      obtain ⟨w, x, y, z, written, read⟩ := codePoint?_codePoint control
      rw [written]
      simp only [List.cons_append, List.nil_append, readBasic, read]
      rfl
    next ordinary =>
      have plain := isPlain_of_not_control (Bool.not_eq_true _ ▸ ordinary) line
      exact readBasic_plain plain apart slash rest
  all_goals simp [readBasic, unescape?]

theorem readLongBasic_escape {c : Char} (apart : c ≠ '"') (rest : List Char) :
    readLongBasic false (escape true c ++ rest) = push c (readLongBasic false rest) := by
  unfold escape
  split
  case h_3 => exact readLongBasic_plain (.inr rfl) (by decide) (by decide) rest
  case h_7 _ _ line _ _ slash =>
    split
    next control =>
      obtain ⟨w, x, y, z, written, read⟩ := codePoint?_codePoint control
      rw [written]
      simp only [List.cons_append, List.nil_append, readLongBasic, read]
      rfl
    next ordinary =>
      have plain := isPlain_of_not_control (Bool.not_eq_true _ ▸ ordinary) line
      exact readLongBasic_plain (.inl plain) apart slash rest
  all_goals simp [readLongBasic, unescape?, endsLine, isBlank]

/-! ### What is in front -/

theorem exists_escape {c : Char} (long : Bool) (apart : c ≠ '"') :
    ∃ d ds, escape long c = d :: ds ∧ d ≠ '"' ∧ d ≠ '\r' ∧ (c ≠ '\n' → d ≠ '\n') := by
  unfold escape
  split
  case h_7 _ _ _ _ ended _ =>
    split
    next control => exact ⟨_, _, rfl, by decide, by decide, fun _ => by decide⟩
    next => exact ⟨c, [], rfl, apart, ended, id⟩
  case h_3 => cases long <;> exact ⟨_, _, rfl, by decide⟩
  all_goals exact ⟨_, _, rfl, by decide⟩

/-- No quote is in front if the text has none there, or has too many in a row. -/
theorem exists_escapeAll (long : Bool) {c : Char} {run : Nat}
    (cause : c ≠ '"' ∨ (if long then 2 else 0) ≤ run) (cs : List Char) :
    ∃ d ds, escapeAll long run (c :: cs) = d :: ds ∧ d ≠ '"' ∧ d ≠ '\r' ∧
      (c ≠ '\n' → d ≠ '\n') := by
  by_cases quote : c = '"'
  · have full := cause.resolve_left fun apart => apart quote
    exact ⟨'\\', '"' :: escapeAll long 0 cs, by simp [escapeAll, quote, full], by decide, by decide,
      fun _ => by decide⟩
  · obtain ⟨d, ds, written, apart⟩ := exists_escape long quote
    exact ⟨d, ds ++ escapeAll long 0 cs, by simp [escapeAll, quote, written], apart⟩

/-- Two quotes stand in front. -/
def Doubled (quote : Char) (cs : List Char) : Prop := ∃ rest, cs = quote :: quote :: rest

/-- The next character is no quote. -/
def Unquoted (rest : List Char) : Prop := ∀ c ∈ rest.head?, c ≠ '"' ∧ c ≠ '\''

/-! ### The short forms -/

theorem readBasic_escapeAll (cs : List Char) (run : Nat) (rest : List Char) :
    readBasic (escapeAll false run cs ++ '"' :: rest) = some (cs, rest) := by
  induction cs generalizing run with
  | nil => simp [escapeAll, readBasic]
  | cons c cs ih =>
    by_cases quote : c = '"'
    · subst quote
      simp [escapeAll, readBasic, unescape?, ih]
    · simp only [escapeAll, quote, ↓reduceIte, List.append_assoc, readBasic_escape quote, ih,
        push_some]

theorem readLiteral_self {cs : List Char} (plain : ∀ c ∈ cs, isPlain c = true ∧ c ≠ '\'')
    (rest : List Char) : readLiteral (cs ++ '\'' :: rest) = some (cs, rest) := by
  induction cs with
  | nil => simp [readLiteral]
  | cons c cs ih =>
    obtain ⟨⟨first, apart⟩, others⟩ := List.forall_mem_cons.mp plain
    simp only [List.cons_append, readLiteral, apart, first, ↓reduceIte, ih others, push_some]

/-! ### The long forms -/

theorem closing_end (quote : Char) {rest : List Char} (ended : quote ∉ rest.head?) :
    closing quote rest = ([], rest) ∧ closing quote (quote :: rest) = ([quote], rest) ∧
      closing quote (quote :: quote :: rest) = ([quote, quote], rest) := by
  cases rest with
  | nil => simp [closing]
  | cons c rest =>
    have apart : c ≠ quote := fun same => ended (same ▸ rfl)
    refine ⟨?_, ?_, ?_⟩
    · cases rest <;> simp [closing, apart]
    · simp [closing, apart]
    · simp [closing]

theorem readLongBasic_quote {rest : List Char} (single : ¬ Doubled '"' rest) :
    readLongBasic false ('"' :: rest) = push '"' (readLongBasic false rest) := by
  rw [readLongBasic.eq_def]
  split
  case h_2 same =>
    cases same
    exact absurd ⟨_, rfl⟩ single
  case h_7 same =>
    cases same
    rfl
  all_goals simp_all

theorem escapeAll_few {run : Nat} (few : run < 2) (cs : List Char) :
    escapeAll true run ('"' :: cs) = '"' :: escapeAll true (run + 1) cs := by
  simp [escapeAll, Nat.not_le.mpr few]

theorem escapeAll_full {run : Nat} (full : 2 ≤ run) (cs : List Char) :
    escapeAll true run ('"' :: cs) = '\\' :: '"' :: escapeAll true 0 cs := by
  simp [escapeAll, full]

/-- Behind a quote, two more are in front only at the end of the text. -/
theorem end_of_doubled {run : Nat} (positive : 0 < run) {cs rest : List Char}
    (doubled : Doubled '"' (escapeAll true run cs ++ '"' :: '"' :: '"' :: rest)) :
    cs = [] ∨ cs = ['"'] ∧ run = 1 := by
  obtain ⟨rest', same⟩ := doubled
  have front {c : Char} {run : Nat} (cs : List Char) (cause : c ≠ '"' ∨ 2 ≤ run) {more : List Char}
      (shown : escapeAll true run (c :: cs) ++ '"' :: '"' :: '"' :: rest = '"' :: more) : False := by
    obtain ⟨d, ds, written, apart, -⟩ := exists_escapeAll true cause cs
    rw [written] at shown
    exact apart (List.cons.inj shown).1
  cases cs with
  | nil => exact .inl rfl
  | cons c cs =>
    by_cases cause : c ≠ '"' ∨ 2 ≤ run
    · exact (front cs cause same).elim
    · obtain ⟨quote, few⟩ := not_or.mp cause
      obtain rfl : c = '"' := Classical.not_not.mp quote
      rw [escapeAll_few (Nat.not_le.mp few)] at same
      cases cs with
      | nil => exact .inr ⟨rfl, by omega⟩
      | cons c cs => exact (front cs (.inr (by omega)) (List.cons.inj same).2).elim

theorem readLongBasic_escapeAll (cs : List Char) (run : Nat) {rest : List Char}
    (unquoted : Unquoted rest) :
    readLongBasic false (escapeAll true run cs ++ '"' :: '"' :: '"' :: rest) = some (cs, rest) := by
  obtain ⟨none_, one, two⟩ := closing_end '"' fun there => (unquoted _ there).1 rfl
  induction cs generalizing run with
  | nil => simp [escapeAll, readLongBasic, none_]
  | cons c cs ih =>
    by_cases quote : c = '"'
    · subst quote
      by_cases full : 2 ≤ run
      · simp [escapeAll_full full, readLongBasic, unescape?, endsLine, isBlank, ih]
      · have few := Nat.not_le.mp full
        by_cases doubled :
            Doubled '"' (escapeAll true (run + 1) cs ++ '"' :: '"' :: '"' :: rest)
        · rcases end_of_doubled run.succ_pos doubled with rfl | ⟨rfl, first⟩
          · rw [escapeAll_few few, escapeAll]
            simp [readLongBasic, one]
          · rw [escapeAll_few few, escapeAll_few (Nat.lt_succ_of_le (Nat.le_of_eq first)), escapeAll]
            simp [readLongBasic, two]
        · rw [escapeAll_few few, List.cons_append, readLongBasic_quote doubled, ih, push_some]
    · simp only [escapeAll, quote, ↓reduceIte, List.append_assoc, readLongBasic_escape quote, ih,
        push_some]

/-! A long literal has no three quotes in a row. -/

theorem le_longestRun (c : Char) (run : Nat) (cs : List Char) : run ≤ longestRun c run cs := by
  induction cs generalizing run with
  | nil => exact Nat.le_refl run
  | cons d cs ih =>
    simp only [longestRun]
    split
    · exact Nat.le_trans run.le_succ (ih (run + 1))
    · exact Nat.le_max_left ..

theorem longestRun_mono {c : Char} {run run' : Nat} (fewer : run ≤ run') (cs : List Char) :
    longestRun c run cs ≤ longestRun c run' cs := by
  induction cs generalizing run run' with
  | nil => exact fewer
  | cons d cs ih =>
    simp only [longestRun]
    split
    · exact ih (Nat.succ_le_succ fewer)
    · omega

theorem readLongLiteral_plain {c : Char} (plain : isPlain c = true ∨ c = '\n') (apart : c ≠ '\'')
    (rest : List Char) : readLongLiteral (c :: rest) = push c (readLongLiteral rest) := by
  have taken : (isPlain c || c == '\n') = true := by simpa using plain
  have ended : c ≠ '\r' := by
    rintro rfl
    exact absurd taken (by decide)
  rw [readLongLiteral.eq_def]
  split
  case h_4 same =>
    cases same
    exact if_pos taken
  all_goals simp_all

theorem readLongLiteral_quote {rest : List Char} (single : ¬ Doubled '\'' rest) :
    readLongLiteral ('\'' :: rest) = push '\'' (readLongLiteral rest) := by
  rw [readLongLiteral.eq_def]
  split
  case h_2 same =>
    cases same
    exact absurd ⟨_, rfl⟩ single
  case h_4 same =>
    cases same
    rfl
  all_goals simp_all

/-- As `end_of_doubled`, for a text that has no three quotes in a row. -/
theorem end_of_doubled_literal {cs rest : List Char} (few : longestRun '\'' 1 cs ≤ 2)
    (doubled : Doubled '\'' (cs ++ '\'' :: '\'' :: '\'' :: rest)) : cs = [] ∨ cs = ['\''] := by
  obtain ⟨rest', same⟩ := doubled
  cases cs with
  | nil => exact .inl rfl
  | cons c cs =>
    simp only [List.cons_append, List.cons.injEq] at same
    obtain ⟨rfl, same⟩ := same
    cases cs with
    | nil => exact .inr rfl
    | cons c cs =>
      simp only [List.cons_append, List.cons.injEq] at same
      obtain ⟨rfl, -⟩ := same
      have three := le_longestRun '\'' 3 cs
      simp only [longestRun, ↓reduceIte] at few
      exact absurd (Nat.le_trans three few) (by decide)

theorem readLongLiteral_self {cs : List Char} (legal : ∀ c ∈ cs, isControl c = false)
    (few : longestRun '\'' 0 cs ≤ 2) {rest : List Char} (unquoted : Unquoted rest) :
    readLongLiteral (cs ++ '\'' :: '\'' :: '\'' :: rest) = some (cs, rest) := by
  obtain ⟨none_, one, two⟩ := closing_end '\'' fun there => (unquoted _ there).2 rfl
  induction cs with
  | nil => simp [readLongLiteral, none_]
  | cons c cs ih =>
    obtain ⟨first, others⟩ := List.forall_mem_cons.mp legal
    by_cases quote : c = '\''
    · subst quote
      simp only [longestRun, ↓reduceIte] at few
      by_cases doubled : Doubled '\'' (cs ++ '\'' :: '\'' :: '\'' :: rest)
      · rcases end_of_doubled_literal few doubled with rfl | rfl
        · simp [readLongLiteral, one]
        · simp [readLongLiteral, two]
      · have fewer := Nat.le_trans (longestRun_mono (Nat.zero_le 1) cs) few
        rw [List.cons_append, readLongLiteral_quote doubled, ih others fewer, push_some]
    · simp only [longestRun, quote, ↓reduceIte, Nat.zero_max] at few
      have plain : isPlain c = true ∨ c = '\n' := by
        by_cases line : c = '\n'
        · exact .inr line
        · exact .inl (isPlain_of_not_control first line)
      rw [List.cons_append, readLongLiteral_plain plain quote, ih others few, push_some]

/-! ### Every form -/

/-- What stands in a long text before its first character. -/
def opening (cs : List Char) : List Char := if cs.contains '\n' then ['\n'] else []

/-- An opening line end is skipped; a text that has no line end does not begin with one. -/
theorem skipLineEnd_opening {cs written : List Char}
    (calm : '\n' ∉ cs → ∃ d ds, written = d :: ds ∧ d ≠ '\r' ∧ d ≠ '\n') :
    skipLineEnd (opening cs ++ written) = written := by
  by_cases lines : '\n' ∈ cs
  · simp [opening, lines, skipLineEnd]
  · obtain ⟨d, ds, rfl, apart, apart'⟩ := calm lines
    have none_ : opening cs = [] := by simp [opening, lines]
    rw [none_, List.nil_append]
    unfold skipLineEnd
    split
    next same => exact absurd (List.cons.inj same).1 apart'
    next same => exact absurd (List.cons.inj same).1 apart
    next => rfl

theorem formOf_literal {cs : List Char} (chosen : formOf cs = .literal) :
    ∀ c ∈ cs, isPlain c = true ∧ c ≠ '\'' := by
  simp only [formOf] at chosen
  split at chosen
  · cases chosen
  · split at chosen
    · next fits =>
      simp only [Bool.and_eq_true, Bool.not_eq_true', List.any_eq_false, List.contains_eq_mem,
        decide_eq_false_iff_not] at fits
      obtain ⟨⟨calm, lines⟩, quotes⟩ := fits
      intro c member
      refine ⟨isPlain_of_not_control (Bool.not_eq_true _ ▸ calm c member) ?_, ?_⟩
      · rintro rfl
        exact lines member
      · rintro rfl
        exact quotes member
    · split at chosen
      · cases chosen
      · split at chosen
        · cases chosen
        · split at chosen <;> cases chosen

theorem formOf_longLiteral {cs : List Char} (chosen : formOf cs = .longLiteral) :
    (∀ c ∈ cs, isControl c = false) ∧ longestRun '\'' 0 cs ≤ 2 := by
  simp only [formOf] at chosen
  split at chosen
  · cases chosen
  · split at chosen
    · cases chosen
    · split at chosen
      · cases chosen
      · split at chosen
        · next fits => simpa using fits
        · split at chosen <;> cases chosen

theorem read_short {quote : Char} (either : quote = '"' ∨ quote = '\'') {cs : List Char}
    (single : ¬ Doubled quote cs) : read (quote :: cs) = readShort (quote :: cs) := by
  unfold read
  split
  next same =>
    obtain ⟨rfl, rfl⟩ := List.cons.inj same
    exact absurd ⟨_, rfl⟩ single
  next same =>
    obtain ⟨rfl, rfl⟩ := List.cons.inj same
    exact absurd ⟨_, rfl⟩ single
  next => rfl

section

variable {cs rest : List Char}

theorem read_basic (unquoted : Unquoted rest) :
    read ('"' :: (escapeAll false 0 cs ++ '"' :: rest)) = some (cs, rest) := by
  have single : ¬ Doubled '"' (escapeAll false 0 cs ++ '"' :: rest) := by
    rintro ⟨more, same⟩
    cases cs with
    | nil =>
      have next : '"' ∈ rest.head? := by simp [(List.cons.inj same).2]
      exact (unquoted _ next).1 rfl
    | cons c cs =>
      obtain ⟨d, ds, written, apart, _⟩ := exists_escapeAll false (.inr (Nat.zero_le 0)) cs
      rw [written] at same
      exact apart (List.cons.inj same).1
  rw [read_short (.inl rfl) single]
  exact readBasic_escapeAll cs 0 rest

theorem read_literal (plain : ∀ c ∈ cs, isPlain c = true ∧ c ≠ '\'') (unquoted : Unquoted rest) :
    read ('\'' :: (cs ++ '\'' :: rest)) = some (cs, rest) := by
  have single : ¬ Doubled '\'' (cs ++ '\'' :: rest) := by
    rintro ⟨more, same⟩
    cases cs with
    | nil =>
      have next : '\'' ∈ rest.head? := by simp [(List.cons.inj same).2]
      exact (unquoted _ next).2 rfl
    | cons c cs => exact (plain c List.mem_cons_self).2 (List.cons.inj same).1
  rw [read_short (.inr rfl) single]
  exact readLiteral_self plain rest

theorem read_longBasic (unquoted : Unquoted rest) :
    read ('"' :: '"' :: '"' :: (opening cs ++ (escapeAll true 0 cs ++ '"' :: '"' :: '"' :: rest))) =
      some (cs, rest) := by
  have calm : '\n' ∉ cs → ∃ d ds, escapeAll true 0 cs ++ '"' :: '"' :: '"' :: rest = d :: ds ∧
      d ≠ '\r' ∧ d ≠ '\n' := by
    intro lines
    cases cs with
    | nil => exact ⟨_, _, rfl, by decide, by decide⟩
    | cons c cs =>
      by_cases quote : c = '"'
      · rw [quote, escapeAll_few (by decide)]
        exact ⟨_, _, rfl, by decide, by decide⟩
      · obtain ⟨d, ds, written, _, ended, lined⟩ := exists_escapeAll true (.inl quote) cs
        exact ⟨d, _, congrArg (· ++ _) written, ended,
          lined fun same => lines (same ▸ List.mem_cons_self)⟩
  rw [read, skipLineEnd_opening calm]
  exact readLongBasic_escapeAll cs 0 unquoted

theorem read_longLiteral (legal : ∀ c ∈ cs, isControl c = false) (few : longestRun '\'' 0 cs ≤ 2)
    (unquoted : Unquoted rest) :
    read ('\'' :: '\'' :: '\'' :: (opening cs ++ (cs ++ '\'' :: '\'' :: '\'' :: rest))) =
      some (cs, rest) := by
  have calm : '\n' ∉ cs → ∃ d ds, cs ++ '\'' :: '\'' :: '\'' :: rest = d :: ds ∧ d ≠ '\r' ∧
      d ≠ '\n' := by
    intro lines
    cases cs with
    | nil => exact ⟨_, _, rfl, by decide, by decide⟩
    | cons c cs =>
      refine ⟨c, _, rfl, ?_, fun same => lines (same ▸ List.mem_cons_self)⟩
      rintro rfl
      exact absurd (legal _ List.mem_cons_self) (by decide)
  rw [read, skipLineEnd_opening calm]
  exact readLongLiteral_self legal few unquoted

end

theorem read_write (cs : List Char) {rest : List Char} (unquoted : Unquoted rest) :
    read (write cs ++ rest) = some (cs, rest) := by
  unfold write
  cases chosen : formOf cs with
  | basic =>
    simpa only [List.cons_append, List.append_assoc, List.nil_append] using read_basic unquoted
  | literal =>
    simpa only [List.cons_append, List.append_assoc, List.nil_append] using
      read_literal (formOf_literal chosen) unquoted
  | longBasic =>
    simpa only [List.cons_append, List.append_assoc, List.nil_append, opening] using
      read_longBasic unquoted
  | longLiteral =>
    obtain ⟨legal, few⟩ := formOf_longLiteral chosen
    simpa only [List.cons_append, List.append_assoc, List.nil_append, opening] using
      read_longLiteral legal few unquoted

end Vigil.Toml.Text
