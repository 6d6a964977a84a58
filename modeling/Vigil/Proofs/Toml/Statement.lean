import Vigil.Proofs.Toml.Number
import Vigil.Proofs.Toml.Text
import Vigil.Toml.Document

/-!
# Written sections can be read

Sections are read as one header each, and an assignment for each of their fields
(`readStatements_writeSections`). Whatever is written ends its line, so that reading goes on with the
rest of the text as if nothing stood in front of it: this is what `Adds` says of a piece of text, and
pieces are put together by `Adds.append`.
-/
namespace Vigil.Toml

/-- A name that needs no quotes. -/
structure BareKey (name : String) : Prop where
  nonempty : name.toList ≠ []
  all : ∀ c ∈ name.toList, isBare c = true

def isBareKey (name : String) : Bool := !name.toList.isEmpty && name.toList.all isBare

theorem isBareKey_iff {name : String} : isBareKey name = true ↔ BareKey name := by
  simp only [isBareKey, Bool.and_eq_true, Bool.not_eq_true', List.isEmpty_eq_false_iff,
    List.all_eq_true]
  exact ⟨fun ⟨nonempty, all⟩ => ⟨nonempty, all⟩, fun ⟨nonempty, all⟩ => ⟨nonempty, all⟩⟩

/-- The character in front is none of a class. -/
def Stops (p : Char → Bool) (rest : List Char) : Prop := ∀ c ∈ rest.head?, p c = false

/-! ### Blanks and line ends -/

theorem skipBlanks_of_stops {cs : List Char} (stops : Stops Text.isBlank cs) : skipBlanks cs = cs := by
  cases cs with
  | nil => rfl
  | cons c cs => simp [skipBlanks, stops c rfl]

theorem isBlank_of_isBare {c : Char} (bare : isBare c = true) : Text.isBlank c = false := by
  simp [Text.isBlank, ne_of_class bare (d := ' ') (by decide),
    ne_of_class bare (d := '\t') (by decide)]

theorem skipLines_of_bare {c : Char} (bare : isBare c = true) (cs : List Char) :
    skipLines false (c :: cs) = c :: cs := by
  have line : c ≠ '\n' := ne_of_class bare (by decide)
  have line' : c ≠ '\r' := ne_of_class bare (by decide)
  have comment : c ≠ '#' := ne_of_class bare (by decide)
  unfold skipLines
  split
  next same => exact absurd same (List.cons_ne_nil c cs)
  next same => exact absurd (List.cons.inj same).1 line
  next same => exact absurd (List.cons.inj same).1 line'
  next same =>
    obtain ⟨rfl, rfl⟩ := List.cons.inj same
    simp [isBlank_of_isBare bare, comment]

/-! ### Keys -/

namespace BareKey

variable {name : String}

theorem exists_front (bare : BareKey name) : ∃ c cs, name.toList = c :: cs ∧ isBare c = true := by
  obtain ⟨c, cs, front⟩ := List.exists_cons_of_ne_nil bare.nonempty
  exact ⟨c, cs, front, bare.all c (front ▸ List.mem_cons_self)⟩

theorem key?_append (bare : BareKey name) {rest : List Char} (stops : Stops isBare rest) :
    key? (name.toList ++ rest) = some (name, rest) := by
  obtain ⟨c, cs, front, -⟩ := bare.exists_front
  unfold key?
  rw [span_append bare.all stops, front]
  simp [← front]

/-- A name is a whole path if no dot follows. -/
theorem path?_append (bare : BareKey name) {rest : List Char} (stops : Stops isBare rest)
    (single : '.' ∉ (skipBlanks rest).head?) :
    path? (name.toList ++ rest) = some ([name], skipBlanks rest) := by
  have ready : skipBlanks (name.toList ++ rest) = name.toList ++ rest := by
    obtain ⟨c, cs, front, first⟩ := bare.exists_front
    apply skipBlanks_of_stops
    simp [Stops, front, isBlank_of_isBare first]
  unfold path? maxDepth keyPath?
  rw [ready, bare.key?_append stops]
  simp only [Option.bind_eq_bind, Option.bind_some]
  split
  next same => exact absurd (by simp [same]) single
  next => rfl

end BareKey

/-! ### Values -/

theorem readWord_line {word : List Char} (all : ∀ c ∈ word, isTokenChar c = true) (rest : List Char) :
    readWord (word ++ '\n' :: rest) = (word? word).map (·, '\n' :: rest) := by
  have stops : Stops isTokenChar ('\n' :: rest) := by simp [Stops]; decide
  unfold readWord
  rw [span_append all stops]
  dsimp only
  cases Moment.isDate word <;> cases word? word <;> rfl

theorem word?_toDigits {n : Nat} (fits : n ≤ maxInt) : word? (Nat.toDigits 10 n) = some (.int n) := by
  have digits := digits_toDigits n
  have below : n < 0x8000000000000000 := Nat.lt_succ_of_le fits
  have yes : Nat.toDigits 10 n ≠ "true".toList := fun same =>
    digits.apart (c := 't') (by decide) (by simp [same])
  have no : Nat.toDigits 10 n ≠ "false".toList := fun same =>
    digits.apart (c := 'f') (by decide) (by simp [same])
  simp only [word?, if_neg yes, if_neg no, Moment.isMoment_digits digits,
    Number.isFraction_digits digits, Number.int?_toDigits below]
  rfl

theorem Text.exists_write (cs : List Char) :
    ∃ quote more, Text.write cs = quote :: more ∧ (quote = '"' ∨ quote = '\'') := by
  unfold Text.write
  dsimp only
  split
  · exact ⟨_, _, rfl, .inl rfl⟩
  · exact ⟨_, _, rfl, .inr rfl⟩
  · exact ⟨_, _, rfl, .inl rfl⟩
  · exact ⟨_, _, rfl, .inr rfl⟩

theorem readValue_word {depth : Nat} {c : Char} (token : isTokenChar c = true) (cs : List Char) :
    readValue depth (c :: cs) = readWord (c :: cs) := by
  have double : c ≠ '"' := ne_of_class token (by decide)
  have single : c ≠ '\'' := ne_of_class token (by decide)
  have bracket : c ≠ '[' := ne_of_class token (by decide)
  have brace : c ≠ '\x7b' := ne_of_class token (by decide)
  unfold readValue
  split
  next same => exact absurd (List.cons.inj same).1 double
  next same => exact absurd (List.cons.inj same).1 single
  next same => exact absurd (List.cons.inj same).1 bracket
  next same => exact absurd (List.cons.inj same).1 brace
  next => rfl

theorem readValue_text {depth : Nat} {quote : Char} (either : quote = '"' ∨ quote = '\'')
    (cs : List Char) : readValue depth (quote :: cs) =
      (Text.read (quote :: cs)).map fun (text, rest) => (.text (String.ofList text), rest) := by
  unfold readValue
  rcases either with rfl | rfl <;> rfl

/-- A word that stands for a value is read up to the end of its line. -/
theorem readValue_line {depth : Nat} {word : List Char} {value : Data}
    (all : ∀ c ∈ word, isTokenChar c = true) (nonempty : word ≠ []) (read : word? word = some value)
    (rest : List Char) :
    readValue depth (word ++ '\n' :: rest) = some (value, '\n' :: rest) := by
  obtain ⟨c, cs, rfl⟩ := List.exists_cons_of_ne_nil nonempty
  rw [List.cons_append, readValue_word (all c List.mem_cons_self), ← List.cons_append,
    readWord_line all, read, Option.map_some]

theorem isTokenChar_of_isDigit {c : Char} (digit : c.isDigit = true) : isTokenChar c = true := by
  simp [isTokenChar, isBare, Char.isAlphanum, digit]

theorem readValue_write {value : Scalar} (writable : value.isWritable = true) (rest : List Char) :
    readValue maxDepth (value.write ++ '\n' :: rest) = some (value.toData, '\n' :: rest) := by
  cases value with
  | text s =>
    have read : Text.read (Text.write s.toList ++ '\n' :: rest) = some (s.toList, '\n' :: rest) :=
      Text.read_write s.toList (by simp [Text.Unquoted])
    obtain ⟨quote, more, written, either⟩ := Text.exists_write s.toList
    rw [written, List.cons_append] at read
    rw [Scalar.write, written, List.cons_append, readValue_text either, read]
    simp [Scalar.toData]
  | int n =>
    have digits := digits_toDigits n
    exact readValue_line (fun c member => isTokenChar_of_isDigit (digits.all c member))
      digits.nonempty (word?_toDigits (by simpa [Scalar.isWritable] using writable)) rest
  | bool b =>
    have read : word? (Scalar.bool b).write = some (.bool b) := by
      cases b <;> simp [word?, Scalar.write]
    have tokens : (Scalar.bool b).write.all isTokenChar = true := by cases b <;> decide
    have nonempty : (Scalar.bool b).write ≠ [] := by cases b <;> decide
    exact readValue_line (List.all_eq_true.mp tokens) nonempty read rest

theorem Scalar.stops_write (value : Scalar) (rest : List Char) :
    Stops Text.isBlank (value.write ++ rest) := by
  cases value with
  | text s =>
    obtain ⟨quote, more, written, either⟩ := Text.exists_write s.toList
    rcases either with rfl | rfl <;> simp [Scalar.write, written, Stops] <;> decide
  | int n =>
    have digits := digits_toDigits n
    obtain ⟨c, cs, written⟩ := List.exists_cons_of_ne_nil digits.nonempty
    have digit := digits.all c (written ▸ List.mem_cons_self)
    simp only [Scalar.write, written, Stops, List.cons_append, List.head?_cons, Option.mem_def,
      Option.some.injEq, forall_eq']
    exact isBlank_of_isBare (by simp [isBare, Char.isAlphanum, digit])
  | bool b => cases b <;> simp [Scalar.write, Stops] <;> decide

/-! ### Statements -/

namespace Section

/-- The names in a section need no quotes. -/
structure Bare (s : Section) : Prop where
  name : BareKey s.name
  keys : ∀ field ∈ s.fields, BareKey field.1

/-- What a section is read as. -/
def opening (s : Section) : Statement := if s.isItem then .openItem [s.name] else .openTable [s.name]

def assignment (field : String × Scalar) : Statement := .assign [field.1] field.2.toData

def statements (s : Section) : List Statement := s.opening :: s.fields.map assignment

end Section

theorem lineEnd?_line (rest : List Char) : lineEnd? false ('\n' :: rest) = some rest := rfl

theorem readStatement_field {field : String × Scalar} (bare : BareKey field.1)
    (writable : field.2.isWritable = true) (rest : List Char) :
    readStatement (Section.writeField field ++ rest) = some (Section.assignment field, rest) := by
  obtain ⟨key, value⟩ := field
  have shape : Section.writeField (key, value) ++ rest =
      key.toList ++ (' ' :: '=' :: ' ' :: (value.write ++ '\n' :: rest)) := by
    simp [Section.writeField]
  have path : path? (key.toList ++ (' ' :: '=' :: ' ' :: (value.write ++ '\n' :: rest))) =
      some ([key], '=' :: ' ' :: (value.write ++ '\n' :: rest)) :=
    bare.path?_append (by simp [Stops]; decide) (by simp [skipBlanks, Text.isBlank])
  have ready : skipBlanks (' ' :: (value.write ++ '\n' :: rest)) = value.write ++ '\n' :: rest :=
    skipBlanks_of_stops (value.stops_write _)
  obtain ⟨c, cs, front, first⟩ := bare.exists_front
  have bracket : c ≠ '[' := ne_of_class first (by decide)
  rw [shape]
  unfold readStatement
  split
  next same => exact absurd (List.cons.inj (front ▸ same)).1 bracket
  next same => exact absurd (List.cons.inj (front ▸ same)).1 bracket
  next =>
    rw [path]
    simp only [Option.bind_eq_bind, Option.bind_some, ready, readValue_write writable, lineEnd?_line]
    rfl

theorem readStatement_header {s : Section} (bare : BareKey s.name) (rest : List Char) :
    readStatement (s.header ++ rest) = some (s.opening, rest) := by
  have path (behind : List Char) :
      path? (s.name.toList ++ ']' :: behind) = some ([s.name], ']' :: behind) :=
    bare.path?_append (by simp [Stops]; decide) (by simp [skipBlanks, Text.isBlank])
  cases item : s.isItem with
  | false =>
    have shape : s.header ++ rest = '[' :: (s.name.toList ++ ']' :: '\n' :: rest) := by
      simp [Section.header, item]
    obtain ⟨c, cs, front, first⟩ := bare.exists_front
    have bracket : c ≠ '[' := ne_of_class first (by decide)
    rw [shape]
    unfold readStatement
    split
    next same => exact absurd (List.cons.inj (List.cons.inj (front ▸ same)).2).1 bracket
    next same =>
      obtain rfl := (List.cons.inj same).2
      simp [path, lineEnd?_line, Section.opening, item]
    next other => exact absurd rfl (other _)
  | true =>
    have shape : s.header ++ rest = '[' :: '[' :: (s.name.toList ++ ']' :: ']' :: '\n' :: rest) := by
      simp [Section.header, item]
    rw [shape]
    simp [readStatement, path, lineEnd?_line, Section.opening, item]

/-! ### Documents -/

/-- A text in front of another one adds statements to those of the other. -/
def Adds (cs : List Char) (added : List Statement) : Prop :=
  ∀ rest found, readStatements rest = some found → readStatements (cs ++ rest) = some (added ++ found)

theorem Adds.nil : Adds [] [] := fun _ _ read => read

theorem Adds.append {cs cs' : List Char} {added added' : List Statement} (first : Adds cs added)
    (second : Adds cs' added') : Adds (cs ++ cs') (added ++ added') := by
  intro rest found read
  rw [List.append_assoc, List.append_assoc]
  exact first _ _ (second _ _ read)

theorem Adds.flatMap {α : Type} {write : α → List Char} {read : α → List Statement} {items : List α}
    (each : ∀ a ∈ items, Adds (write a) (read a)) : Adds (items.flatMap write) (items.flatMap read) := by
  induction items with
  | nil => exact Adds.nil
  | cons a items ih =>
    obtain ⟨first, others⟩ := List.forall_mem_cons.mp each
    exact first.append (ih others)

/-- An empty line changes nothing. -/
theorem adds_line : Adds ['\n'] [] := by
  intro rest found read
  have ready : skipLines false (['\n'] ++ rest) = skipLines false rest := rfl
  rw [readStatements.eq_def] at read ⊢
  rw [ready]
  cases shown : skipLines false rest with
  | nil => simpa [shown] using read
  | cons c cs =>
    simp only [shown] at read ⊢
    cases one : readStatement (c :: cs) with
    | none => simp [one] at read
    | some found' =>
      obtain ⟨statement, rest'⟩ := found'
      simp only [one] at read ⊢
      split at read
      next shorter =>
        have shorter' : rest'.length < (['\n'] ++ rest).length := Nat.lt_succ_of_lt shorter
        rwa [if_pos shorter']
      next => cases read

theorem adds_of_readStatement {c : Char} {cs : List Char} {statement : Statement}
    (ready : ∀ rest, skipLines false (c :: rest) = c :: rest)
    (one : ∀ rest, readStatement (c :: cs ++ rest) = some (statement, rest)) :
    Adds (c :: cs) [statement] := by
  intro rest found read
  have shorter : rest.length < (c :: cs ++ rest).length := by
    rw [List.length_append, List.length_cons]
    omega
  have first := one rest
  rw [readStatements.eq_def, List.cons_append, ready, ← List.cons_append]
  simp only [List.cons_append] at first shorter ⊢
  simp only [first, shorter, ↓reduceIte, read]
  rfl

theorem adds_field {field : String × Scalar} (bare : BareKey field.1)
    (writable : field.2.isWritable = true) :
    Adds (Section.writeField field) [Section.assignment field] := by
  obtain ⟨c, cs, front, first⟩ := bare.exists_front
  obtain ⟨more, shape⟩ : ∃ more, Section.writeField field = c :: more :=
    ⟨_, by simp only [Section.writeField, front, List.cons_append]; rfl⟩
  have one := readStatement_field bare writable
  rw [shape] at one ⊢
  exact adds_of_readStatement (skipLines_of_bare first) one

theorem Section.exists_header (s : Section) : ∃ more, s.header = '[' :: more := by
  unfold Section.header
  dsimp only
  split <;> exact ⟨_, rfl⟩

theorem adds_header {s : Section} (bare : BareKey s.name) : Adds s.header [s.opening] := by
  obtain ⟨more, shape⟩ := s.exists_header
  have one := readStatement_header bare
  rw [shape] at one ⊢
  exact adds_of_readStatement (fun rest => by simp [skipLines, Text.isBlank]) one

theorem adds_section {s : Section} (bare : s.Bare) (writable : s.isWritable = true) :
    Adds s.write s.statements := by
  have fields : Adds (s.fields.flatMap Section.writeField)
      (s.fields.flatMap fun field => [Section.assignment field]) :=
    Adds.flatMap fun field member =>
      adds_field (bare.keys field member) (List.all_eq_true.mp writable field member)
  rw [← List.map_eq_flatMap] at fields
  exact (adds_header bare.name).append fields

theorem adds_writeSections {sections : List Section} (bare : ∀ s ∈ sections, s.Bare)
    (writable : sections.all (·.isWritable) = true) :
    Adds (writeSections sections) (sections.flatMap Section.statements) := by
  induction sections with
  | nil => exact Adds.nil
  | cons s sections ih =>
    obtain ⟨first, others⟩ := List.forall_mem_cons.mp bare
    simp only [List.all_cons, Bool.and_eq_true] at writable
    have head := adds_section first writable.1
    have tail := ih others writable.2
    cases sections with
    | nil => simpa [writeSections] using head
    | cons s' sections =>
      have shape : writeSections (s :: s' :: sections) =
          s.write ++ (['\n'] ++ writeSections (s' :: sections)) := by
        simp [writeSections]
      rw [shape]
      exact head.append (adds_line.append tail)

theorem readStatements_writeSections {sections : List Section} (bare : ∀ s ∈ sections, s.Bare)
    (writable : sections.all (·.isWritable) = true) :
    readStatements (writeSections sections) = some (sections.flatMap Section.statements) := by
  have read := adds_writeSections bare writable [] [] (by rw [readStatements.eq_def]; rfl)
  rwa [List.append_nil, List.append_nil] at read

end Vigil.Toml
