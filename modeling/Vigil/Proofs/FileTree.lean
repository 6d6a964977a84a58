import Mathlib.Data.List.Induction
import Vigil.FileTree

/-!
# Paths that can be written to

`Writable` says when a file can be written to a path, directories above it made first, in terms of
what is in the tree before. Those are the paths for which writing succeeds (`writable_iff`), and what
was written is found there afterwards (`find?_written`).
-/
namespace Vigil.FileTree

/-- Where a step leads, whatever is there. -/
def after (here : Place) : Path.Step → Place
  | .up => here.dropLast
  | .down name => here ++ [name]

/-- The places that steps come down to. -/
def visited (here : Place) : List Path.Step → List Place
  | [] => []
  | .up :: rest => visited here.dropLast rest
  | .down name :: rest => (here ++ [name]) :: visited (here ++ [name]) rest

/-- A directory is there or can be made there. -/
def Admits (t : FileTree) (place : Place) : Prop :=
  t.lookup place = some .directory ∨
    t.lookup place = none ∧ ∀ name ∈ place.getLast?, isName name = true

/-- The place that a path names in a tree where every directory above it exists. -/
def target (p : Path) : Place := p.steps.foldl after []

/-- The path names a file that can be written, where all directories above it are there or can be
made. -/
structure Writable (t : FileTree) (p : Path) : Prop where
  named : ∃ name, p.steps.getLast? = some (.down name) ∧ isName name = true
  ofFile : p.forDirectory = false
  above : ∀ place ∈ visited [] p.parent.steps, t.Admits place
  /-- Making the directories makes none in the place of the file. -/
  apart : target p ∉ visited [] p.parent.steps
  free : t.lookup (target p) ≠ some .directory

/-- The path leads nowhere, for want of a directory above its end. With the directories made it
leads to a file that is there already. -/
structure Detour (t : FileTree) (p : Path) : Prop where
  broken : t.place? p = none
  writable : t.Writable p
  there : ∃ text, t.lookup (target p) = some (.file text)

/-- Whatever there is is in a directory. -/
def Closed (t : FileTree) : Prop :=
  ∀ place entry, t.lookup place = some entry → t.lookup place.dropLast = some .directory

variable {t : FileTree} {here place : Place} {steps : List Path.Step}

/-! ### Making directories -/

theorem child_ne_nil (here : Place) (name : String) : here ++ [name] ≠ [] := by simp

theorem admits_put (admits : t.Admits here) (below : here ≠ []) (place : Place) :
    (t.put here .directory).Admits place ↔ t.Admits place := by
  by_cases same : place = here
  · subst same
    have there : (t.put place .directory).lookup place = some .directory := by
      rw [lookup_put t below, if_pos rfl]
    exact ⟨fun _ => admits, fun _ => .inl there⟩
  · simp only [Admits, lookup_put t below, if_neg same]

theorem makeDirectoriesFrom_iff :
    (t.makeDirectoriesFrom here steps).2 = true ↔ ∀ place ∈ visited here steps, t.Admits place := by
  induction steps generalizing t here with
  | nil => simp [makeDirectoriesFrom, visited]
  | cons step rest ih =>
    cases step with
    | up => exact ih
    | down name =>
      rw [visited, List.forall_mem_cons]
      cases found : t.lookup (here ++ [name]) with
      | none =>
        by_cases fits : isName name = true
        · have admits : t.Admits (here ++ [name]) := .inr ⟨found, by simpa using fits⟩
          have put := admits_put admits (child_ne_nil here name)
          simp only [makeDirectoriesFrom, found, fits, ↓reduceIte, ih, put, admits, true_and]
        · have refuses : ¬ t.Admits (here ++ [name]) := by simp [Admits, found, fits]
          simp [makeDirectoriesFrom, found, fits, refuses]
      | some entry =>
        cases entry with
        | directory =>
          have admits : t.Admits (here ++ [name]) := .inl found
          simp only [makeDirectoriesFrom, found, ih, admits, true_and]
        | file text =>
          have refuses : ¬ t.Admits (here ++ [name]) := by simp [Admits, found]
          simp [makeDirectoriesFrom, found, refuses]

/-- The directories on the way are there afterwards, and nothing else has changed. -/
theorem lookup_makeDirectoriesFrom (made : (t.makeDirectoriesFrom here steps).2 = true)
    (place : Place) :
    (t.makeDirectoriesFrom here steps).1.lookup place =
      if place ∈ visited here steps then some .directory else t.lookup place := by
  induction steps generalizing t here with
  | nil => simp [makeDirectoriesFrom, visited]
  | cons step rest ih =>
    cases step with
    | up => exact ih made
    | down name =>
      cases found : t.lookup (here ++ [name]) with
      | none =>
        by_cases fits : isName name = true
        · simp only [makeDirectoriesFrom, found, fits, ↓reduceIte] at made ⊢
          rw [ih made, lookup_put t (child_ne_nil here name), visited]
          by_cases same : place = here ++ [name] <;> simp [same]
        · simp [makeDirectoriesFrom, found, fits] at made
      | some entry =>
        cases entry with
        | directory =>
          simp only [makeDirectoriesFrom, found] at made ⊢
          rw [ih made, visited]
          by_cases same : place = here ++ [name] <;> simp [same, found]
        | file text => simp [makeDirectoriesFrom, found] at made

/-- Making directories, be it in vain in the end, changes nothing but that some appear. -/
theorem lookup_after_making (t : FileTree) (here : Place) (steps : List Path.Step) (place : Place) :
    (t.makeDirectoriesFrom here steps).1.lookup place = t.lookup place ∨
      t.lookup place = none ∧
        (t.makeDirectoriesFrom here steps).1.lookup place = some .directory := by
  induction steps generalizing t here with
  | nil => exact .inl rfl
  | cons step rest ih =>
    cases step with
    | up => exact ih t here.dropLast
    | down name =>
      rw [makeDirectoriesFrom]
      split
      next => exact ih t (here ++ [name])
      next => exact .inl rfl
      next free =>
        split
        next =>
          have put := lookup_put t (child_ne_nil here name) .directory place
          rcases ih (t.put (here ++ [name]) .directory) (here ++ [name]) with kept | ⟨none_, new⟩
          · rw [kept, put]
            split
            next same => exact .inr ⟨same ▸ free, rfl⟩
            next => exact .inl rfl
          · refine .inr ⟨?_, new⟩
            rw [put] at none_
            split at none_
            next => cases none_
            next => exact none_
        next => exact .inl rfl

theorem lookup_making {entry : Entry} (there : t.lookup place = some entry) (here : Place)
    (steps : List Path.Step) : (t.makeDirectoriesFrom here steps).1.lookup place = some entry := by
  rcases lookup_after_making t here steps place with kept | ⟨none_, -⟩
  · rw [kept, there]
  · cases none_.symm.trans there

theorem lookup_of_making {text : Option String}
    (there : (t.makeDirectoriesFrom here steps).1.lookup place = some (.file text)) :
    t.lookup place = some (.file text) := by
  rcases lookup_after_making t here steps place with kept | ⟨-, new⟩
  · rw [← kept, there]
  · cases new.symm.trans there

/-! ### Following a path -/

theorem foldl_of_foldlM_enter? {there : Place} (led : steps.foldlM t.enter? here = some there) :
    steps.foldl after here = there := by
  induction steps generalizing here with
  | nil => exact Option.some.inj led
  | cons step rest ih =>
    rw [List.foldlM_cons] at led
    obtain ⟨next, first, others⟩ := Option.bind_eq_some_iff.mp led
    have same : after here step = next := by
      cases step with
      | up => exact Option.some.inj first
      | down name =>
        rw [enter?] at first
        split at first
        next => exact Option.some.inj first
        next => cases first
    rw [List.foldl_cons, same]
    exact ih others

theorem foldlM_enter? (there : ∀ place ∈ visited here steps, t.lookup place = some .directory) :
    steps.foldlM t.enter? here = some (steps.foldl after here) := by
  induction steps generalizing here with
  | nil => rfl
  | cons step rest ih =>
    cases step with
    | up => exact ih there
    | down name =>
      obtain ⟨first, others⟩ := List.forall_mem_cons.mp there
      rw [List.foldlM_cons, enter?, if_pos first]
      exact ih others

theorem target_eq {p : Path} {name : String} (named : p.steps.getLast? = some (.down name)) :
    target p = p.parent.steps.foldl after [] ++ [name] := by
  obtain ⟨steps, split⟩ := List.getLast?_eq_some_iff.mp named
  simp [target, Path.parent, split, after]

theorem place?_eq {p : Path} {name : String} (named : p.steps.getLast? = some (.down name))
    (there : ∀ place ∈ visited [] p.parent.steps, t.lookup place = some .directory) :
    t.place? p = some (target p) := by
  simp only [place?, named, directory?, foldlM_enter? there, Option.map_some, target_eq named]

theorem target_of_place? {p : Path} (led : t.place? p = some place) : target p = place := by
  unfold place? at led
  split at led
  next name named =>
    obtain ⟨above, there, rfl⟩ := Option.map_eq_some_iff.mp led
    rw [target_eq named, foldl_of_foldlM_enter? there]
  next => exact foldl_of_foldlM_enter? led

/-- With the directories above it made, a path leads to the place that it names. -/
theorem place?_made {p : Path} {name : String} (named : p.steps.getLast? = some (.down name))
    (made : (t.makeDirectories p.parent).2 = true) :
    (t.makeDirectories p.parent).1.place? p = some (target p) := by
  refine place?_eq named fun place member => ?_
  rw [makeDirectories, lookup_makeDirectoriesFrom made, if_pos member]

/-! ### Writing -/

/-- The tree after a text was written, directories first. -/
def written (t : FileTree) (p : Path) (text : Option String) : FileTree :=
  (t.makeDirectories p.parent).1.put (target p) (.file text)

theorem target_ne_nil {p : Path} {name : String} (named : p.steps.getLast? = some (.down name)) :
    target p ≠ [] := by
  rw [target_eq named]
  exact child_ne_nil _ name

namespace Writable

variable {p : Path}

theorem made (writable : t.Writable p) : (t.makeDirectories p.parent).2 = true :=
  makeDirectoriesFrom_iff.mpr writable.above

theorem write?_eq (writable : t.Writable p) (text : Option String) :
    (t.makeDirectories p.parent).1.write? p text = some (t.written p text) := by
  obtain ⟨name, named, fits⟩ := writable.named
  have free : (t.makeDirectories p.parent).1.lookup (target p) ≠ some .directory := by
    rw [makeDirectories, lookup_makeDirectoriesFrom writable.made, if_neg writable.apart]
    exact writable.free
  simp only [write?, named, place?_made named writable.made, writable.ofFile, fits, free]
  rfl

/-- What was written is found again. -/
theorem find?_written (writable : t.Writable p) (text : Option String) :
    (t.written p text).find? p = some (.file text) := by
  obtain ⟨name, named, -⟩ := writable.named
  have put (place : Place) := lookup_put (t.makeDirectories p.parent).1 (target_ne_nil named)
    (.file text) place
  have there : ∀ place ∈ visited [] p.parent.steps,
      (t.written p text).lookup place = some .directory := by
    intro place member
    have apart : place ≠ target p := fun same => writable.apart (same ▸ member)
    rw [written, put, if_neg apart, makeDirectories, lookup_makeDirectoriesFrom writable.made,
      if_pos member]
  have here : (t.written p text).lookup (target p) = some (.file text) := by
    rw [written, put, if_pos rfl]
  simp [find?, Path.isEmpty_eq_false named, place?_eq named there, here, writable.ofFile]

end Writable

theorem lookup_written {p : Path} {name : String} (named : p.steps.getLast? = some (.down name))
    (text : Option String) (place : Place) :
    (t.written p text).lookup place =
      if place = target p then some (.file text)
      else (t.makeDirectories p.parent).1.lookup place :=
  lookup_put _ (target_ne_nil named) _ _

/-- Where nothing is found a file can be written to a place that is free, but for detours. -/
theorem Writable.lookup_target {p : Path} (writable : t.Writable p) (unfound : t.find? p = none)
    (straight : ¬ t.Detour p) : t.lookup (target p) = none := by
  cases there : t.lookup (target p) with
  | none => rfl
  | some entry =>
    cases entry with
    | directory => exact absurd there writable.free
    | file text =>
      cases led : t.place? p with
      | none => exact absurd ⟨led, writable, text, there⟩ straight
      | some place =>
        obtain ⟨name, named, -⟩ := writable.named
        rw [find?, led, Option.bind_some, ← target_of_place? led, there] at unfound
        simp [Path.isEmpty_eq_false named, writable.ofFile] at unfound

theorem Detour.find?_eq {p : Path} (detour : t.Detour p) : t.find? p = none := by
  rw [find?, detour.broken]
  split <;> rfl

theorem foldlM_enter?_of_lookup (closed : t.Closed) (downward : .up ∉ steps)
    (there : t.lookup (steps.foldl after []) = some .directory) :
    steps.foldlM t.enter? [] = some (steps.foldl after []) := by
  induction steps using List.reverseRecOn with
  | nil => rfl
  | append_singleton steps step ih =>
    cases step with
    | up => exact absurd (List.mem_append_right steps List.mem_cons_self) downward
    | down name =>
      rw [List.foldl_append, List.foldl_cons, List.foldl_nil, after] at there ⊢
      have above := closed _ _ there
      rw [List.dropLast_concat] at above
      have led := ih (fun member => downward (List.mem_append_left _ member)) above
      rw [List.foldlM_append, led]
      simp [enter?, there]

/-- A path without steps up leads to whatever is in the place that it names. -/
theorem place?_of_lookup (closed : t.Closed) {p : Path} (downward : .up ∉ p.steps) {entry : Entry}
    (there : t.lookup (target p) = some entry) : (t.place? p).isSome = true := by
  cases named : p.steps.getLast? with
  | none =>
    have here : p.steps = [] := List.getLast?_eq_none_iff.mp named
    simp [place?, directory?, here]
  | some step =>
    obtain ⟨front, whole⟩ := List.getLast?_eq_some_iff.mp named
    cases step with
    | up => exact absurd (whole ▸ List.mem_append_right front List.mem_cons_self) downward
    | down name =>
      rw [target_eq named] at there
      have above := closed _ _ there
      rw [List.dropLast_concat] at above
      have parent : p.parent.steps = front := by simp [Path.parent, whole]
      have downward' : .up ∉ p.parent.steps := fun member =>
        downward (whole ▸ List.mem_append_left _ (parent ▸ member))
      simp only [place?, named, directory?, foldlM_enter?_of_lookup closed downward' above,
        Option.map_some, Option.isSome_some]

theorem not_detour_of_downward (closed : t.Closed) {p : Path} (downward : .up ∉ p.steps) :
    ¬ t.Detour p := by
  rintro ⟨broken, -, text, there⟩
  have led := place?_of_lookup closed downward there
  rw [broken] at led
  cases led

/-- Writing succeeds for the paths that can be written to, and for no other. -/
theorem writable_iff {p : Path} (text : Option String) :
    t.Writable p ↔ (t.makeDirectories p.parent).2 = true ∧
      ((t.makeDirectories p.parent).1.write? p text).isSome = true := by
  constructor
  · intro writable
    exact ⟨writable.made, by rw [writable.write?_eq]; rfl⟩
  · rintro ⟨made, wrote⟩
    unfold write? at wrote
    split at wrote
    next name place named found =>
      cases (place?_made named made).symm.trans found
      split at wrote
      next => cases wrote
      next open_ =>
        simp only [Bool.or_eq_true, not_or, Bool.not_eq_true, Bool.not_eq_false',
          decide_eq_true_eq] at open_
        obtain ⟨⟨ofFile, fits⟩, free⟩ := open_
        rw [makeDirectories, lookup_makeDirectoriesFrom made] at free
        split at free
        next => exact absurd rfl free
        next apart =>
          exact {
            named := ⟨name, named, fits⟩
            ofFile
            above := makeDirectoriesFrom_iff.mp made
            apart
            free }
    next => cases wrote

end Vigil.FileTree
