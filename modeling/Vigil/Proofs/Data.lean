import Vigil.Proofs.Toml.Arrangement

/-!
# Spellings of a record

A record is spelled as a table, with its keys in any order and among others, or as a list of its
fields in order. A field whose value is what its absence stands for need not be there, and at the
end of a list it can be left off. However it is spelled, what is read for each field is one of the
field's own spellings, or nothing where nothing will do (`Record.record?_eq`), so that records
within records are spelled independently.
-/
namespace Vigil.Data

variable {α : Type}

/-- A field of a record with a certain value. -/
structure Field where
  key : String
  /-- Whether something stands for the value. -/
  spelled : Data → Prop
  /-- Whether the absence of the field does. -/
  absent : Prop

/-- What is there for a field stands for its value. -/
def Field.Given (f : Field) : Option Data → Prop
  | some d => f.spelled d
  | none => f.absent

/-- Entries for fields in their order, without some of those that need not be there. -/
inductive Entries : List Field → List (String × Data) → Prop where
  | nil : Entries [] []
  | entry {f : Field} {d : Data} {fields : List Field} {entries : List (String × Data)}
      (spelled : f.spelled d) (rest : Entries fields entries) :
      Entries (f :: fields) ((f.key, d) :: entries)
  | gap {f : Field} {fields : List Field} {entries : List (String × Data)} (absent : f.absent)
      (rest : Entries fields entries) : Entries (f :: fields) entries

/-- Values for fields in their order, up to a point from which on none needs to be there. -/
inductive Row : List Field → List Data → Prop where
  | stop {fields : List Field} (absent : ∀ f ∈ fields, f.absent) : Row fields []
  | item {f : Field} {d : Data} {fields : List Field} {items : List Data}
      (spelled : f.spelled d) (rest : Row fields items) : Row (f :: fields) (d :: items)

/-- The spellings of a record with these fields. -/
inductive Record (fields : List Field) : Data → Prop where
  | table {entries known unknown : List (String × Data)} (given : Entries fields known)
      (foreign : ∀ entry ∈ unknown, entry.1 ∉ fields.map Field.key)
      (order : entries.Perm (known ++ unknown)) : Record fields (.table entries)
  | list {items : List Data} (row : Row fields items) : Record fields (.list items)

theorem Entries.record {fields : List Field} {entries : List (String × Data)}
    (given : Entries fields entries) : Record fields (.table entries) :=
  .table given (fun _ none_ => absurd none_ List.not_mem_nil) (.of_eq (List.append_nil _).symm)

variable {fields : List Field}

/-! ### Tables -/

theorem Entries.keys {known : List (String × Data)} (given : Entries fields known) :
    (known.map (·.1)).Sublist (fields.map Field.key) := by
  induction given with
  | nil => exact .slnil
  | entry _ _ ih => exact ih.cons_cons _
  | gap _ _ ih => exact ih.cons _

theorem lookup_eq_none_of_not_mem {entries : List (String × Data)} {key : String}
    (other : key ∉ entries.map (·.1)) : lookup entries key = none := by
  induction entries with
  | nil => rfl
  | cons entry entries ih =>
    rw [List.map_cons, List.mem_cons, not_or] at other
    rw [lookup_cons, if_neg (Ne.symm other.1), ih other.2]

theorem Entries.given {known : List (String × Data)} (given : Entries fields known)
    (distinct : (fields.map Field.key).Nodup) :
    ∀ f ∈ fields, f.Given (lookup known f.key) := by
  induction given with
  | nil => exact fun f member => absurd member List.not_mem_nil
  | @entry f d fields entries spelled rest ih =>
    obtain ⟨alone, distinct'⟩ := List.nodup_cons.mp distinct
    refine List.forall_mem_cons.mpr ⟨?_, fun g member => ?_⟩
    · rw [lookup_cons, if_pos rfl]
      exact spelled
    · have other : f.key ≠ g.key := fun same => alone (same ▸ List.mem_map_of_mem member)
      rw [lookup_cons, if_neg other]
      exact ih distinct' g member
  | gap absent rest ih =>
    obtain ⟨alone, distinct'⟩ := List.nodup_cons.mp distinct
    refine List.forall_mem_cons.mpr ⟨?_, ih distinct'⟩
    rw [lookup_eq_none_of_not_mem fun member => alone (rest.keys.subset member)]
    exact absent

theorem lookup_filter (entries : List (String × Data)) (key : String) :
    lookup (entries.filter (·.1 == key)) key = lookup entries key := by
  simp only [lookup, List.find?_filter, and_self, Bool.decide_eq_true]

/-- Entries with other keys are passed over, wherever they stand. -/
theorem lookup_eq_of_perm_append {entries known unknown : List (String × Data)}
    (order : entries.Perm (known ++ unknown)) (distinct : (known.map (·.1)).Nodup) {key : String}
    (foreign : ∀ entry ∈ unknown, entry.1 ≠ key) : lookup entries key = lookup known key := by
  have others : unknown.filter (·.1 == key) = [] :=
    List.filter_eq_nil_iff.mpr fun entry member => by simpa using foreign entry member
  have here := order.filter (·.1 == key)
  rw [List.filter_append, others, List.append_nil] at here
  have once : ((known.filter (·.1 == key)).map (·.1)).Nodup :=
    distinct.sublist (List.filter_sublist.map _)
  rw [← lookup_filter entries, ← lookup_filter known]
  exact (lookup_eq_of_perm here.symm once key).symm

/-! ### Lists -/

theorem Row.length_le {items : List Data} (row : Row fields items) :
    items.length ≤ fields.length := by
  induction row with
  | stop => exact Nat.zero_le _
  | item _ _ ih => exact Nat.succ_le_succ ih

theorem Row.given {items : List Data} (row : Row fields items) :
    List.Forall₂ Field.Given fields (List.ofFn fun i : Fin fields.length => items[i.val]?) := by
  induction row with
  | @stop fields absent =>
    induction fields with
    | nil => exact .nil
    | cons f fields ih =>
      obtain ⟨first, others⟩ := List.forall_mem_cons.mp absent
      rw [List.length_cons, List.ofFn_succ]
      exact .cons first (ih others)
  | item spelled _ ih =>
    rw [List.length_cons, List.ofFn_succ]
    exact .cons spelled ih

/-! ### Both -/

/-- Whatever spelling it has, the values found for the fields of a record stand for them. -/
theorem Record.record?_eq {data : Data} (record : Record fields data)
    (distinct : (fields.map Field.key).Nodup) (d : Dialect) :
    ∃ values, data.record? d (fields.map Field.key) = some values ∧
      List.Forall₂ Field.Given fields values := by
  cases record with
  | @table entries known unknown given foreign order =>
    refine ⟨_, rfl, ?_⟩
    rw [List.map_map, List.forall₂_map_right_iff, List.forall₂_same]
    intro f member
    have passed : ∀ entry ∈ unknown, entry.1 ≠ f.key := fun entry inside same =>
      foreign entry inside (same ▸ List.mem_map_of_mem member)
    have found := lookup_eq_of_perm_append order (distinct.sublist given.keys) passed
    rw [Function.comp_apply, found]
    exact given.given distinct f member
  | @list items row =>
    have short : (d.allowsSurplus || items.length ≤ (fields.map Field.key).length) = true := by
      simp [row.length_le]
    refine ⟨_, if_pos short, ?_⟩
    have length : (fields.map Field.key).length = fields.length := List.length_map ..
    generalize (fields.map Field.key).length = n at length ⊢
    subst length
    exact row.given

variable {f : Field} {value : Option Data} {a : α}

/-- How a value is read that has one spelling only. -/
theorem reads_of_eq (read : Data → Option α) {spelling : Data} (reads : read spelling = some a) :
    ∀ d, d = spelling → read d = some a := by
  rintro d rfl
  exact reads

variable {read : Data → Option α}

theorem Field.Given.required (given : f.Given value) (needed : ¬ f.absent)
    (reads : ∀ d, f.spelled d → read d = some a) : required read value = some a := by
  cases value with
  | none => exact absurd given needed
  | some d => exact reads d given

theorem Field.Given.defaulted (given : f.Given value) {default : α} (same : f.absent → a = default)
    (reads : ∀ d, f.spelled d → read d = some a) : defaulted default read value = some a := by
  cases value with
  | none => exact congrArg some (same given).symm
  | some d => exact reads d given

end Vigil.Data
