import Vigil.Proofs.Toml.Statement

/-!
# Written documents can be read

A section changes a document all at once: its fields appear in a new table, or in a table more of a
list (`Section.enter?`). Reading a text of sections enters them one by one (`read?_write`).
-/
namespace Vigil.Toml

/-! ### Fields -/

namespace Fields

variable {fields : Fields} {key : String}

theorem get?_cons (entry : String × Node) :
    get? (entry :: fields) key = if entry.1 = key then some entry.2 else fields.get? key := by
  by_cases same : entry.1 = key <;> simp [get?, same]

theorem put_cons (entry : String × Node) (node : Node) :
    put (entry :: fields) key node =
      (if entry.1 = key then (entry.1, node) else entry) :: fields.put key node := by
  simp [put]

theorem put_of_free (free : fields.get? key = none) (node : Node) : fields.put key node = fields := by
  induction fields with
  | nil => rfl
  | cons entry fields ih =>
    rw [get?_cons] at free
    split at free
    next => cases free
    next apart => rw [put_cons, if_neg apart, ih free]

theorem get?_add_self (free : fields.get? key = none) (node : Node) :
    (fields.add key node).get? key = some node := by
  have absent : fields.find? (·.1 == key) = none := by simpa [get?] using free
  simp [get?, add, List.find?_append, absent]

theorem get?_add_of_ne {other : String} (apart : other ≠ key) (node : Node) :
    (fields.add key node).get? other = fields.get? other := by
  simp [get?, add, List.find?_append, apart.symm]

theorem put_add_self (free : fields.get? key = none) (node node' : Node) :
    (fields.add key node).put key node' = fields.add key node' := by
  have apart := put_of_free free node'
  unfold put at apart
  simp only [put, add, List.map_append, apart]
  simp

theorem get?_put_self {node : Node} (there : fields.get? key = some node) (node' : Node) :
    (fields.put key node').get? key = some node' := by
  induction fields with
  | nil => cases there
  | cons entry fields ih =>
    rw [get?_cons] at there
    rw [put_cons, get?_cons]
    split at there
    next same => simp [same]
    next apart => simp [apart, ih there]

theorem get?_put_of_ne {other : String} (apart : other ≠ key) (node : Node) :
    (fields.put key node).get? other = fields.get? other := by
  induction fields with
  | nil => rfl
  | cons entry fields ih =>
    rw [put_cons, get?_cons, get?_cons, ih]
    by_cases here : entry.1 = key
    · simp [here, apart.symm]
    · rw [if_neg here]

theorem put_put (node node' : Node) : (fields.put key node).put key node' = fields.put key node' := by
  induction fields with
  | nil => rfl
  | cons entry fields ih =>
    simp only [put_cons, ih]
    split <;> simp_all

end Fields

/-! ### Sections -/

namespace Section

/-- The section's fields as those of a table. -/
def leaves (s : Section) : Fields := s.fields.map fun field => (field.1, .leaf field.2.toData)

/-- Add the section to a document: a new table, or a table more for a list of tables. -/
def enter? (s : Section) (root : Fields) : Option Fields :=
  if (s.fields.map (·.1)).Nodup then
    match s.isItem, root.get? s.name with
    | false, none => some (root.add s.name (.table false false s.leaves))
    | true, none => some (root.add s.name (.tables [s.leaves]))
    | true, some (.tables items) => some (root.put s.name (.tables (s.leaves :: items)))
    | _, _ => none
  else none

end Section

/-- What is done to the fields below a name is done to those in a part of the document. -/
def Leads (name : String) (whole : Fields → Fields) : Prop :=
  ∀ f part, (whole part).within f [name] = (f part).map whole

theorem leads_table {root : Fields} {name : String} (free : root.get? name = none) :
    Leads name fun part => root.add name (.table false false part) := by
  intro f part
  simp only [Fields.within, Fields.get?_add_self free]
  cases f part <;> simp [Fields.put_add_self free]

theorem leads_item {root : Fields} {name : String} (free : root.get? name = none) :
    Leads name fun part => root.add name (.tables [part]) := by
  intro f part
  simp only [Fields.within, Fields.get?_add_self free]
  cases f part <;> simp [Fields.put_add_self free]

theorem leads_further {root : Fields} {name : String} {items : List Fields}
    (there : root.get? name = some (.tables items)) :
    Leads name fun part => root.put name (.tables (part :: items)) := by
  intro f part
  simp only [Fields.within, Fields.get?_put_self there]
  cases f part <;> simp [Fields.put_put]

theorem apply?_assignment {name : String} {whole : Fields → Fields} (leads : Leads name whole)
    {part : Fields} {field : String × Scalar} (free : part.get? field.1 = none) :
    Draft.apply? { root := whole part, current := [name] } (Section.assignment field) =
      some { root := whole (part.add field.1 (.leaf field.2.toData)), current := [name] } := by
  have assigned := leads (·.assign field.2.toData [field.1]) part
  simp only [Fields.assign, free, Option.map_some] at assigned
  simp only [Section.assignment, Draft.apply?, Fields.assign, assigned, Option.map_some]

theorem foldlM_assignments {name : String} {whole : Fields → Fields} (leads : Leads name whole)
    {fields : List (String × Scalar)} {part : Fields} (distinct : (fields.map (·.1)).Nodup)
    (free : ∀ field ∈ fields, part.get? field.1 = none) :
    (fields.map Section.assignment).foldlM Draft.apply? { root := whole part, current := [name] } =
      some { root := whole (part ++ fields.map fun field => (field.1, .leaf field.2.toData))
             current := [name] } := by
  induction fields generalizing part with
  | nil => simp
  | cons field fields ih =>
    obtain ⟨first, others⟩ := List.forall_mem_cons.mp free
    obtain ⟨apart, distinct'⟩ := List.nodup_cons.mp distinct
    have free' : ∀ field' ∈ fields,
        (part.add field.1 (.leaf field.2.toData)).get? field'.1 = none := by
      intro field' member
      have ne : field'.1 ≠ field.1 := fun same => apart (List.mem_map.mpr ⟨field', member, same⟩)
      rw [Fields.get?_add_of_ne ne]
      exact others field' member
    rw [List.map_cons, List.foldlM_cons, apply?_assignment leads first]
    simp only [Option.bind_eq_bind, Option.bind_some, ih distinct' free']
    simp [Fields.add]

/-- After its header, a section's fields have a place of their own in the document. -/
theorem apply?_opening {s : Section} {d : Draft} {root : Fields}
    (entered : s.enter? d.root = some root) :
    ∃ whole, Leads s.name whole ∧ root = whole s.leaves ∧
      d.apply? s.opening = some { root := whole [], current := [s.name] } := by
  unfold Section.enter? at entered
  split at entered
  next distinct =>
    split at entered
    next item free =>
      cases entered
      exact ⟨_, leads_table free, rfl, by
        simp [Section.opening, item, Draft.apply?, Draft.apply?.open?, Fields.within,
          Fields.openTable, free]⟩
    next item free =>
      cases entered
      exact ⟨_, leads_item free, rfl, by
        simp [Section.opening, item, Draft.apply?, Draft.apply?.open?, Fields.within,
          Fields.openItem, free]⟩
    next item there =>
      cases entered
      exact ⟨_, leads_further there, rfl, by
        simp [Section.opening, item, Draft.apply?, Draft.apply?.open?, Fields.within,
          Fields.openItem, there]⟩
    next => cases entered
  next => cases entered

theorem nodup_of_enter? {s : Section} {root root' : Fields} (entered : s.enter? root = some root') :
    (s.fields.map (·.1)).Nodup := by
  unfold Section.enter? at entered
  split at entered
  next distinct => exact distinct
  next => cases entered

theorem foldlM_statements {s : Section} {d : Draft} {root : Fields}
    (entered : s.enter? d.root = some root) :
    s.statements.foldlM Draft.apply? d = some { root, current := [s.name] } := by
  obtain ⟨whole, leads, rfl, opened⟩ := apply?_opening entered
  have free : ∀ field ∈ s.fields, Fields.get? [] field.1 = none := fun _ _ => rfl
  have assigned := foldlM_assignments leads (nodup_of_enter? entered) free
  rw [Section.statements, List.foldlM_cons, opened]
  exact assigned

theorem foldlM_sections {sections : List Section} {d : Draft} {root : Fields}
    (entered : sections.foldlM (fun root s => s.enter? root) d.root = some root) :
    ∃ current, (sections.flatMap Section.statements).foldlM Draft.apply? d =
      some { root, current } := by
  induction sections generalizing d with
  | nil =>
    cases entered
    exact ⟨d.current, rfl⟩
  | cons s sections ih =>
    rw [List.foldlM_cons] at entered
    obtain ⟨root', first, others⟩ := Option.bind_eq_some_iff.mp entered
    obtain ⟨current, read⟩ := @ih { root := root', current := [s.name] } others
    refine ⟨current, ?_⟩
    rw [List.flatMap_cons, List.foldlM_append, foldlM_statements first]
    exact read

/-! ### Tables and one list of tables -/

/-- The value of a section. -/
def Section.data (s : Section) : Data := .table (s.fields.map fun field => (field.1, field.2.toData))

/-- The sections are tables, each under a name of its own. -/
structure Tables (sections : List Section) : Prop where
  single : ∀ s ∈ sections, s.isItem = false
  names : (sections.map (·.name)).Nodup
  keys : ∀ s ∈ sections, (s.fields.map (·.1)).Nodup

/-- The sections make one list of tables. -/
structure Items (name : String) (sections : List Section) : Prop where
  ofList : ∀ s ∈ sections, s.isItem = true ∧ s.name = name
  keys : ∀ s ∈ sections, (s.fields.map (·.1)).Nodup

theorem foldlM_tables {sections : List Section} (tables : Tables sections) {root : Fields}
    (free : ∀ s ∈ sections, root.get? s.name = none) :
    sections.foldlM (fun root s => s.enter? root) root =
      some (root ++ sections.map fun s => (s.name, .table false false s.leaves)) := by
  obtain ⟨single, names, keys⟩ := tables
  induction sections generalizing root with
  | nil => simp
  | cons s sections ih =>
    obtain ⟨first, others⟩ := List.forall_mem_cons.mp free
    obtain ⟨table, single'⟩ := List.forall_mem_cons.mp single
    obtain ⟨distinct, keys'⟩ := List.forall_mem_cons.mp keys
    obtain ⟨apart, names'⟩ := List.nodup_cons.mp names
    have entered : s.enter? root = some (root.add s.name (.table false false s.leaves)) := by
      simp only [Section.enter?, if_pos distinct, table, first]
    have free' : ∀ s' ∈ sections,
        (root.add s.name (.table false false s.leaves)).get? s'.name = none := by
      intro s' member
      have ne : s'.name ≠ s.name := fun same => apart (List.mem_map.mpr ⟨s', member, same⟩)
      rw [Fields.get?_add_of_ne ne]
      exact others s' member
    rw [List.foldlM_cons, entered]
    simp only [Option.bind_eq_bind, Option.bind_some, ih free' single' names' keys']
    simp [Fields.add]

/-- Further tables of a list are put in front of the earlier ones. -/
theorem foldlM_further {root : Fields} {name : String} (free : root.get? name = none)
    {sections : List Section} (items : Items name sections) (earlier : List Fields) :
    sections.foldlM (fun root s => s.enter? root) (root.add name (.tables earlier)) =
      some (root.add name (.tables ((sections.map Section.leaves).reverse ++ earlier))) := by
  obtain ⟨ofList, keys⟩ := items
  induction sections generalizing earlier with
  | nil => rfl
  | cons s sections ih =>
    obtain ⟨⟨item, named⟩, ofList'⟩ := List.forall_mem_cons.mp ofList
    obtain ⟨distinct, keys'⟩ := List.forall_mem_cons.mp keys
    have entered : s.enter? (root.add name (.tables earlier)) =
        some (root.add name (.tables (s.leaves :: earlier))) := by
      simp only [Section.enter?, if_pos distinct, item, named, Fields.get?_add_self free,
        Fields.put_add_self free]
    rw [List.foldlM_cons, entered]
    simp only [Option.bind_eq_bind, Option.bind_some, ih _ ofList' keys']
    simp

theorem foldlM_items {root : Fields} {name : String} (free : root.get? name = none)
    {sections : List Section} (items : Items name sections) :
    sections.foldlM (fun root s => s.enter? root) root =
      some (if sections.isEmpty then root
        else root.add name (.tables (sections.map Section.leaves).reverse)) := by
  cases sections with
  | nil => rfl
  | cons s sections =>
    obtain ⟨ofList, keys⟩ := items
    obtain ⟨⟨item, named⟩, ofList'⟩ := List.forall_mem_cons.mp ofList
    obtain ⟨distinct, keys'⟩ := List.forall_mem_cons.mp keys
    have entered : s.enter? root = some (root.add name (.tables [s.leaves])) := by
      simp only [Section.enter?, if_pos distinct, item, named, free]
    rw [List.foldlM_cons, entered]
    simp only [Option.bind_eq_bind, Option.bind_some, foldlM_further free ⟨ofList', keys'⟩]
    simp

theorem fieldsToData_eq_map (fields : Fields) :
    Node.fieldsToData fields = fields.map fun entry => (entry.1, entry.2.toData) := by
  induction fields with
  | nil => rfl
  | cons entry fields ih =>
    obtain ⟨key, node⟩ := entry
    rw [Node.fieldsToData, ih, List.map_cons]

theorem itemsToData_eq_map (items : List Fields) :
    Node.itemsToData items = items.map fun fields => .table (Node.fieldsToData fields) := by
  induction items with
  | nil => rfl
  | cons fields items ih => rw [Node.itemsToData, ih, List.map_cons]

theorem table_leaves (s : Section) : Data.table (Node.fieldsToData s.leaves) = s.data := by
  simp [fieldsToData_eq_map, Section.leaves, Section.data, Function.comp_def, Node.toData]

theorem fieldsToData_tables (sections : List Section) :
    Node.fieldsToData (sections.map fun s => (s.name, .table false false s.leaves)) =
      sections.map fun s => (s.name, s.data) := by
  rw [fieldsToData_eq_map, List.map_map]
  exact List.map_congr_left fun s _ => by simp [Node.toData, table_leaves]

theorem fieldsToData_add (fields : Fields) (key : String) (node : Node) :
    Node.fieldsToData (fields.add key node) = Node.fieldsToData fields ++ [(key, node.toData)] := by
  simp [fieldsToData_eq_map, Fields.add]

theorem toData_items (sections : List Section) :
    (Node.tables (sections.map Section.leaves).reverse).toData = .list (sections.map Section.data) := by
  have items : ((sections.map Section.leaves).map fun fields =>
      Data.table (Node.fieldsToData fields)) = sections.map Section.data := by
    rw [List.map_map]
    exact List.map_congr_left fun s _ => table_leaves s
  rw [Node.toData, itemsToData_eq_map, List.map_reverse, List.reverse_reverse, items]

/-! ### Documents -/

/-- What is written begins with a bracket, if it is anything. -/
theorem head?_writeSections (sections : List Section) :
    ∀ c ∈ (writeSections sections).head?, c = '[' := by
  cases sections with
  | nil => exact fun _ front => nomatch front
  | cons s sections =>
    obtain ⟨more, front⟩ := s.exists_header
    cases sections <;> simp [writeSections, Section.write, front]

theorem read?_of_statements {cs : List Char} {statements : List Statement} {draft : Draft}
    (unmarked : '\uFEFF' ∉ cs.head?) (read : readStatements cs = some statements)
    (drafted : statements.foldlM Draft.apply? {} = some draft) :
    read? (String.ofList cs) = some (.table (Node.fieldsToData draft.root)) := by
  unfold read?
  rw [String.toList_ofList]
  dsimp only
  split
  next => exact absurd rfl unmarked
  next => simp [read, drafted]

theorem read?_write {sections : List Section} {text : String} {root : Fields}
    (bare : ∀ s ∈ sections, s.Bare) (written : write? sections = some text)
    (entered : sections.foldlM (fun root s => s.enter? root) [] = some root) :
    read? text = some (.table (Node.fieldsToData root)) := by
  unfold write? at written
  split at written
  next writable =>
    cases written
    obtain ⟨current, drafted⟩ := @foldlM_sections sections {} root entered
    have unmarked : '\uFEFF' ∉ (writeSections sections).head? := fun marked =>
      absurd (head?_writeSections sections _ marked) (by decide)
    exact read?_of_statements unmarked (readStatements_writeSections bare writable) drafted
  next => cases written

/-- What tables and behind them a list of tables are read as. -/
theorem read?_tables_items {tables items : List Section} {name text : String}
    (bare : ∀ s ∈ tables ++ items, s.Bare) (written : write? (tables ++ items) = some text)
    (single : Tables tables) (several : Items name items) (apart : name ∉ tables.map (·.name)) :
    read? text = some (.table ((tables.map fun s => (s.name, s.data)) ++
      if items.isEmpty then [] else [(name, .list (items.map Section.data))])) := by
  have free : ∀ s ∈ tables, Fields.get? [] s.name = none := fun _ _ => rfl
  have free' : Fields.get? (tables.map fun s => (s.name, .table false false s.leaves)) name = none := by
    simpa [Fields.get?] using apart
  have entered := foldlM_tables single free
  have entered' := foldlM_items free' several
  rw [List.nil_append] at entered
  rw [read?_write bare written (by rw [List.foldlM_append, entered]; exact entered')]
  split
  next => rw [fieldsToData_tables, List.append_nil]
  next => rw [fieldsToData_add, fieldsToData_tables, toData_items]

end Vigil.Toml
