import Mathlib.Data.List.Forall2
import Mathlib.Data.List.Induction
import Vigil.Proofs.Toml.Document

/-!
# The order of sections and of their fields

Tables of different names and lists of tables can be written in any order, the tables of a list
between those of others, and the fields of each of them in any order. What is read then is the same
under every name (`Rearranged.read?_shows`): a document is read section by section, and what stands
under a name is made of the sections of that name so far (`Consists.enter`).
-/
namespace Vigil

namespace Data

/-! ### Looking up a key -/

theorem lookup_cons (entry : String × Data) (fields : List (String × Data)) (key : String) :
    lookup (entry :: fields) key = if entry.1 = key then some entry.2 else lookup fields key := by
  by_cases same : entry.1 = key <;> simp [lookup, same]

theorem lookup_eq_some_iff {fields : List (String × Data)} (distinct : (fields.map (·.1)).Nodup)
    {key : String} {d : Data} : lookup fields key = some d ↔ (key, d) ∈ fields := by
  induction fields with
  | nil => simp [lookup]
  | cons entry fields ih =>
    obtain ⟨apart, distinct'⟩ := List.nodup_cons.mp distinct
    rw [lookup_cons, List.mem_cons]
    split
    next same =>
      have gone : (key, d) ∉ fields := fun member =>
        apart (List.mem_map.mpr ⟨_, member, same.symm⟩)
      simp only [gone, or_false, Option.some.injEq]
      exact ⟨fun value => Prod.ext same.symm value.symm, fun pair => (congrArg Prod.snd pair).symm⟩
    next different =>
      rw [ih distinct']
      exact ⟨.inr, fun either => either.resolve_left fun pair =>
        different (congrArg Prod.fst pair).symm⟩

/-- If no key is there twice, the order of the keys does not matter. -/
theorem lookup_eq_of_perm {fields others : List (String × Data)} (perm : fields.Perm others)
    (distinct : (fields.map (·.1)).Nodup) (key : String) :
    lookup fields key = lookup others key := by
  have distinct' : (others.map (·.1)).Nodup := (perm.map _).nodup_iff.mp distinct
  ext d
  rw [lookup_eq_some_iff distinct, lookup_eq_some_iff distinct', perm.mem_iff]

end Data

namespace Toml

open Data (lookup)

theorem Fields.lookup_fieldsToData (fields : Fields) (key : String) :
    lookup (Node.fieldsToData fields) key = (fields.get? key).map Node.toData := by
  rw [fieldsToData_eq_map, lookup, get?, List.find?_map, Option.map_map, Option.map_map]
  rfl

/-- The fields as those of a table that was read. -/
def values (fields : List (String × Scalar)) : List (String × Data) :=
  fields.map fun field => (field.1, field.2.toData)

/-- The table has exactly these fields, in any order. -/
def Has (table : List (String × Data)) (fields : List (String × Scalar)) : Prop :=
  ∀ key, lookup table key = lookup (values fields) key

/-! ### What a name stands for -/

namespace Section

/-- What sections of one name make of it: a table, or all of them a list. -/
def node? : List Section → Option Node
  | [] => none
  | s :: rest =>
    some (if s.isItem then .tables ((s :: rest).map leaves).reverse else .table false false s.leaves)

def value? : List Section → Option Data
  | [] => none
  | s :: rest => some (if s.isItem then .list ((s :: rest).map data) else s.data)

theorem toData_node? (sections : List Section) :
    (node? sections).map Node.toData = value? sections := by
  cases sections with
  | nil => rfl
  | cons s rest =>
    simp only [node?, value?, Option.map_some]
    split
    · rw [toData_items]
    · simp only [Node.toData, table_leaves]

end Section

/-- The sections of a name. -/
def named (name : String) (sections : List Section) : List Section :=
  sections.filter (·.name = name)

theorem mem_named {name : String} {sections : List Section} {s : Section} :
    s ∈ named name sections ↔ s ∈ sections ∧ s.name = name := by
  simp [named]

/-- What stands under a name is what the sections of that name say. -/
def Shows (value : Option Data) : List Section → Prop
  | [] => value = none
  | s :: rest =>
    if s.isItem then
      ∃ tables, value = some (.list (tables.map .table)) ∧
        List.Forall₂ Has tables ((s :: rest).map (·.fields))
    else ∃ table, value = some (.table table) ∧ Has table s.fields

/-- No section has a key twice, and only tables of a list share a name. -/
structure Orderly (sections : List Section) : Prop where
  keys : ∀ s ∈ sections, (s.fields.map (·.1)).Nodup
  apart : sections.Pairwise fun s u => s.name = u.name → s.isItem = true ∧ u.isItem = true

/-- The document is made of these sections. -/
def Consists (root : Fields) (sections : List Section) : Prop :=
  ∀ name, root.get? name = Section.node? (named name sections)

theorem named_append_self (sections : List Section) (s : Section) :
    named s.name (sections ++ [s]) = named s.name sections ++ [s] := by
  simp [named, List.filter_append]

theorem named_append_of_ne {name : String} {s : Section} (other : name ≠ s.name)
    (sections : List Section) : named name (sections ++ [s]) = named name sections := by
  simp [named, List.filter_append, other.symm]

/-- A section more is a new table, or a table more of a list of that name. -/
theorem Consists.enter {root : Fields} {sections : List Section} (consists : Consists root sections)
    {s : Section} (distinct : (s.fields.map (·.1)).Nodup)
    (across : ∀ u ∈ sections, u.name = s.name → u.isItem = true ∧ s.isItem = true) :
    ∃ root', s.enter? root = some root' ∧ Consists root' (sections ++ [s]) := by
  have here := consists s.name
  have mine := named_append_self sections s
  cases earlier : named s.name sections with
  | nil =>
    rw [earlier] at here mine
    simp only [Section.node?] at here
    refine ⟨root.add s.name (if s.isItem then .tables [s.leaves] else .table false false s.leaves),
      ?_, fun name => ?_⟩
    · simp only [Section.enter?, if_pos distinct, here]
      cases s.isItem <;> rfl
    · by_cases same : name = s.name
      · subst same
        rw [Fields.get?_add_self here, mine]
        rfl
      · rw [Fields.get?_add_of_ne same, consists, named_append_of_ne same]
  | cons u rest =>
    obtain ⟨member, same⟩ := mem_named.mp (earlier ▸ List.mem_cons_self)
    obtain ⟨item, item'⟩ := across u member same
    rw [earlier] at here mine
    simp only [Section.node?, item, ↓reduceIte] at here
    refine ⟨root.put s.name (.tables (s.leaves :: ((u :: rest).map Section.leaves).reverse)),
      ?_, fun name => ?_⟩
    · simp only [Section.enter?, if_pos distinct, item', here]
    · by_cases same : name = s.name
      · subst same
        rw [Fields.get?_put_self here, mine]
        simp [Section.node?, item]
      · rw [Fields.get?_put_of_ne same, consists, named_append_of_ne same]

theorem exists_consists {sections : List Section} (orderly : Orderly sections) :
    ∃ root, sections.foldlM (fun root s => s.enter? root) [] = some root ∧
      Consists root sections := by
  induction sections using List.reverseRecOn with
  | nil => exact ⟨[], rfl, fun _ => rfl⟩
  | append_singleton sections s ih =>
    obtain ⟨keys, apart⟩ := orderly
    obtain ⟨apart', -, across⟩ := List.pairwise_append.mp apart
    obtain ⟨root, entered, consists⟩ :=
      ih ⟨fun u member => keys u (List.mem_append_left _ member), apart'⟩
    have last := List.mem_singleton_self s
    obtain ⟨root', entered', consists'⟩ := consists.enter
      (keys s (List.mem_append_right _ last)) fun u member => across u member s last
    refine ⟨root', ?_, consists'⟩
    rw [List.foldlM_append, entered]
    simp [entered']

theorem read?_orderly {sections : List Section} {text : String} (bare : ∀ s ∈ sections, s.Bare)
    (orderly : Orderly sections) (written : write? sections = some text) :
    ∃ root, read? text = some (.table root) ∧
      ∀ name, lookup root name = Section.value? (named name sections) := by
  obtain ⟨root, entered, consists⟩ := exists_consists orderly
  refine ⟨_, read?_write bare written entered, fun name => ?_⟩
  rw [Fields.lookup_fieldsToData, consists, Section.toData_node?]

/-! ### Another order -/

/-- The same section with its fields in another order. -/
structure Reordered (s u : Section) : Prop where
  name : u.name = s.name
  isItem : u.isItem = s.isItem
  fields : u.fields.Perm s.fields

theorem Reordered.has {s u : Section} (reordered : Reordered s u)
    (distinct : (s.fields.map (·.1)).Nodup) : Has (values u.fields) s.fields := by
  have perm : (values s.fields).Perm (values u.fields) := (reordered.fields.map _).symm
  have distinct' : ((values s.fields).map (·.1)).Nodup := by
    rw [values, List.map_map]
    exact distinct
  exact fun key => (Data.lookup_eq_of_perm perm distinct' key).symm

/-- The sections in another order, each with its fields in another order. The tables of a list stay
in the order they have in it. -/
def Rearranged (sections others : List Section) : Prop :=
  ∃ reordered, List.Forall₂ Reordered sections reordered ∧ others.Perm reordered ∧
    others.filter (·.isItem) = reordered.filter (·.isItem)

/-- If only the tables of a list share names, sections of a name are in order once those of lists
are. -/
theorem Orderly.named_eq {sections others : List Section} (orderly : Orderly sections)
    (perm : others.Perm sections) (items : others.filter (·.isItem) = sections.filter (·.isItem))
    (name : String) : named name others = named name sections := by
  have perm' : (named name others).Perm (named name sections) := perm.filter _
  have apart : (named name sections).Pairwise _ := orderly.apart.filter _
  rcases several : named name sections with _ | ⟨s, _ | ⟨u, rest⟩⟩
  · exact List.perm_nil.mp (several ▸ perm')
  · exact List.perm_singleton.mp (several ▸ perm')
  · -- two of a name are tables of a list, and then all of that name are
    rw [← several]
    have ofList : ∀ v ∈ named name sections, v.isItem = true := by
      intro v member
      rw [several] at apart member
      have sameName : ∀ w ∈ s :: u :: rest, w.name = name := fun w inside =>
        (mem_named.mp (several ▸ inside)).2
      obtain ⟨first, -⟩ := List.pairwise_cons.mp apart
      rcases List.mem_cons.mp member with rfl | behind
      · have next := List.mem_cons_self (a := u) (l := rest)
        exact (first u next ((sameName v member).trans (sameName u (.tail _ next)).symm)).1
      · exact (first v behind ((sameName s List.mem_cons_self).trans (sameName v member).symm)).2
    have kept : ∀ {l : List Section}, (∀ v ∈ named name l, v.isItem = true) →
        named name l = named name (l.filter (·.isItem)) := by
      intro l ofList
      unfold named
      rw [List.filter_filter]
      refine List.filter_congr fun v member => ?_
      by_cases same : v.name = name
      · simp [same, ofList v (mem_named.mpr ⟨member, same⟩)]
      · simp [same]
    rw [kept ofList, ← items, ← kept fun v member => ofList v (perm'.mem_iff.mp member)]

namespace Rearranged

variable {sections others : List Section}

theorem of_mem (rearranged : Rearranged sections others) {u : Section} (member : u ∈ others) :
    ∃ s ∈ sections, Reordered s u := by
  obtain ⟨mid, pairs, perm, -⟩ := rearranged
  have inside := perm.mem_iff.mp member
  clear perm member
  induction pairs with
  | nil => cases inside
  | cons pair _ ih =>
    rcases List.mem_cons.mp inside with rfl | behind
    · exact ⟨_, List.mem_cons_self, pair⟩
    · obtain ⟨s, there, reordered⟩ := ih behind
      exact ⟨s, .tail _ there, reordered⟩

theorem orderly (rearranged : Rearranged sections others) (orderly : Orderly sections) :
    Orderly others := by
  constructor
  · intro u member
    obtain ⟨s, there, reordered⟩ := rearranged.of_mem member
    exact (reordered.fields.map _).nodup_iff.mpr (orderly.keys s there)
  · obtain ⟨mid, pairs, perm, -⟩ := rearranged
    let title (s : Section) := (s.name, s.isItem)
    have titles : sections.map title = mid.map title := by
      refine List.forall₂_eq_eq_eq ▸ List.forall₂_map_left_iff.mpr (List.forall₂_map_right_iff.mpr ?_)
      exact pairs.imp fun s u reordered => Prod.ext reordered.name.symm reordered.isItem.symm
    have apart : (mid.map title).Pairwise fun a b => a.1 = b.1 → a.2 = true ∧ b.2 = true :=
      titles ▸ List.pairwise_map.mpr orderly.apart
    refine (perm.pairwise_iff ?_).mpr (List.pairwise_map.mp apart)
    exact fun list same => (list same.symm).symm

/-- Under every name there are the same sections in the same order. -/
theorem named (rearranged : Rearranged sections others) (orderly : Orderly sections)
    (name : String) : List.Forall₂ Reordered (named name sections) (named name others) := by
  obtain ⟨mid, pairs, perm, items⟩ := rearranged
  have orderly' : Orderly mid := Rearranged.orderly ⟨mid, pairs, .refl _, rfl⟩ orderly
  rw [orderly'.named_eq perm items name]
  exact List.rel_filter (fun s u reordered => by simp [reordered.name]) pairs

/-- What a document with these sections is read as: under each name there is what the sections of
that name say, whatever their order and that of their fields. -/
theorem read?_shows {text : String} (rearranged : Rearranged sections others)
    (orderly : Orderly sections) (bare : ∀ u ∈ others, u.Bare) (written : write? others = some text) :
    ∃ root, read? text = some (.table root) ∧
      ∀ name, Shows (lookup root name) (Toml.named name sections) := by
  obtain ⟨root, read, shown⟩ := read?_orderly bare (rearranged.orderly orderly) written
  refine ⟨root, read, fun name => ?_⟩
  rw [shown]
  have pairs := rearranged.named orderly name
  have keys : ∀ s ∈ Toml.named name sections, (s.fields.map (·.1)).Nodup := fun s member =>
    orderly.keys s (mem_named.mp member).1
  have tables : List.Forall₂ Has ((Toml.named name others).map (values ·.fields))
      ((Toml.named name sections).map (·.fields)) := by
    refine List.forall₂_map_left_iff.mpr (List.forall₂_map_right_iff.mpr ?_)
    refine List.Forall₂.flip (List.forall₂_iff_zip.mpr ⟨pairs.length_eq, fun inside => ?_⟩)
    exact (List.forall₂_zip pairs inside).has (keys _ (List.of_mem_zip inside).1)
  generalize Toml.named name sections = before at pairs tables ⊢
  generalize Toml.named name others = after at pairs tables ⊢
  cases pairs with
  | nil => rfl
  | @cons s u rest rest' pair pairs =>
    simp only [Section.value?, Shows, pair.isItem]
    cases s.isItem with
    | false => exact ⟨_, rfl, (List.forall₂_cons.mp tables).1⟩
    | true =>
      refine ⟨_, ?_, tables⟩
      simp only [↓reduceIte, List.map_map]
      rfl

end Rearranged

end Toml

end Vigil
