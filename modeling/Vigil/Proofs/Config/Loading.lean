import Vigil.Proofs.Config.RoundTrip

/-!
# Loading a configuration twice, and what it does to the files

A file is written only where the path leads nowhere, and then the directories above it are made
first. Once they are there the path may lead somewhere after all: `new/../c.toml` is `c.toml` as soon
as there is a directory `new`. That is the one way in which a file that was there is overwritten
(`FileTree.Detour`). A path without steps up never comes to it.
-/
namespace Vigil

namespace Path

/-! ### Paths for configurations -/

theorem splitExtension_append {stem extension : String} (named : stem ≠ "")
    (plain : '.' ∉ extension.toList) :
    splitExtension (stem ++ "." ++ extension) = (stem, some extension) := by
  have stop : (stem ++ "." ++ extension).toList.reverse.span (· != '.') =
      (extension.toList.reverse, '.' :: stem.toList.reverse) := by
    simp only [String.toList_append, List.reverse_append, List.append_assoc]
    refine Toml.span_append (fun c member => ?_) (by simp)
    exact bne_iff_ne.mpr fun same => plain (same ▸ List.mem_reverse.mp member)
  have stemmed : stem.toList.reverse ≠ [] := by simpa using named
  unfold splitExtension
  rw [stop]
  cases front : stem.toList.reverse with
  | nil => exact absurd front stemmed
  | cons c rest => simp [← front]

theorem splitExtension_ne_empty {name : String} (named : name ≠ "") :
    (splitExtension name).1 ≠ "" := by
  unfold splitExtension
  dsimp only
  split
  · simp
  · exact named

/-- With its extension a path is as it should be. -/
theorem withExtension_withExtension {p : Path} {extension : String}
    (plain : '.' ∉ extension.toList) (named : .down "" ∉ p.steps) :
    (p.withExtension extension).withExtension extension = p.withExtension extension := by
  cases last : p.steps.getLast? with
  | none => simp [withExtension, last]
  | some step =>
    cases step with
    | up => simp [withExtension, last]
    | down name =>
      by_cases same : (splitExtension name).2 = some extension
      · have kept : p.extension? = some extension := by simp only [extension?, last, same]
        rw [withExtension_self kept, withExtension_self kept]
      · have fresh : name ≠ "" := fun empty =>
          named (List.mem_of_getLast? (empty ▸ last))
        refine withExtension_self ?_
        have parted := splitExtension_append (splitExtension_ne_empty fresh) plain
        simp [withExtension, extension?, last, same, parted]

theorem down_empty_ofText (text : String) : .down "" ∉ (ofText text).steps := by
  intro member
  obtain ⟨part, -, made⟩ := List.mem_filterMap.mp member
  unfold Step.ofPart? at made
  split at made
  next => cases made
  next => cases made
  next => cases made
  next nonempty _ _ => simp_all

end Path

namespace Config

open FileTree (target Detour)

/-- The path that is loaded is loaded again if it is given itself. -/
theorem path?_path? {e : Environment} {given : Option String} {p : Path}
    (meant : path? e (given.map .ofText) = some p) : path? e (some p) = some p := by
  rw [path?]
  cases given with
  | some text =>
    cases meant
    rw [Path.withExtension_withExtension (by decide) (Path.down_empty_ofText text)]
  | none =>
    obtain ⟨above, -, rfl⟩ := Option.map_eq_some_iff.mp meant
    have named : (above.join (.ofText "uptime/config.toml")).steps.getLast? =
        some (.down "config.toml") := by
      have steps : (Path.ofText "uptime/config.toml").steps = [.down "uptime", .down "config.toml"] := by
        decide
      have relative : (Path.ofText "uptime/config.toml").absolute = false := by decide
      simp [Path.join, steps, relative]
    rw [Path.withExtension_self]
    simp only [Path.extension?, named]
    decide

/-! ### What is written -/

theorem exists_write?_default :
    ∃ text, ({} : Config).write? = some text ∧ read? text = some {} := by
  have fits : ∀ n ∈ ({} : Config).integers, n ≤ Toml.maxInt := by decide
  obtain ⟨text, written⟩ := Option.isSome_iff_exists.mp ((write?_isSome_iff {}).mpr fits)
  exact ⟨text, written, read?_written written⟩

/-- The defaults are saved to every path that can be written to. To another one nothing is written,
but directories may be made in vain. -/
theorem save_default (t : FileTree) (p : Path) :
    (t.Writable p → ({} : Config).save t p = (t.written p ({} : Config).write?, .ok ())) ∧
      (¬ t.Writable p → ∃ why,
        ({} : Config).save t p = ((t.makeDirectories p.parent).1, .error why)) := by
  obtain ⟨text, written, -⟩ := exists_write?_default
  constructor
  · intro writable
    simp only [save, written, writable.made, ↓reduceIte, writable.write?_eq]
  · intro unwritable
    rw [FileTree.writable_iff (some text), not_and] at unwritable
    cases made : (t.makeDirectories p.parent).2 with
    | false => exact ⟨.unwritable p.parent, by simp [save, written, made]⟩
    | true =>
      have refused : (t.makeDirectories p.parent).1.write? p (some text) = none := by
        simpa using unwritable made
      exact ⟨.unwritable p, by simp [save, written, made, refused]⟩

/-- The ways in which a configuration is loaded. -/
inductive Loaded (t : FileTree) (p : Path) : FileTree × Except FileError Config → Prop where
  | found {entry : Entry} (there : t.find? p = some entry) : Loaded t p (t, ofEntry p entry)
  | written (unfound : t.find? p = none) (writable : t.Writable p) :
      Loaded t p (t.written p ({} : Config).write?, .ok {})
  | refused (unfound : t.find? p = none) (unwritable : ¬ t.Writable p) (why : FileError) :
      Loaded t p ((t.makeDirectories p.parent).1, .error why)

theorem load_loaded {e : Environment} {given : Option Path} {p : Path}
    (meant : path? e given = some p) (t : FileTree) : Loaded t p (load e t given) := by
  obtain ⟨saved, refused⟩ := save_default t p
  unfold load
  rw [meant]
  dsimp only
  split
  next entry there => exact .found there
  next unfound =>
    by_cases writable : t.Writable p
    · rw [saved writable]
      exact .written unfound writable
    · obtain ⟨why, same⟩ := refused writable
      rw [same]
      exact .refused unfound writable why

variable {t : FileTree} {p : Path} {answer : FileTree × Except FileError Config}

/-- Where the path is no detour whatever was there is there still. -/
theorem Loaded.kept (loaded : Loaded t p answer) {place : Place} {entry : Entry}
    (there : t.lookup place = some entry) (spared : t.Detour p → place ≠ target p) :
    answer.1.lookup place = some entry := by
  cases loaded with
  | found => exact there
  | refused => exact FileTree.lookup_making there [] p.parent.steps
  | written unfound writable =>
    obtain ⟨name, named, -⟩ := writable.named
    rw [FileTree.lookup_written named]
    split
    next same =>
      by_cases detour : t.Detour p
      · exact absurd same (spared detour)
      · rw [same, writable.lookup_target unfound detour] at there
        cases there
    next => exact FileTree.lookup_making there [] p.parent.steps

/-- A file that was not there before holds the defaults and is where the path leads. -/
theorem Loaded.new (loaded : Loaded t p answer) {place : Place} {text : Option String}
    (there : answer.1.lookup place = some (.file text)) :
    t.lookup place = some (.file text) ∨
      place = target p ∧ t.find? p = none ∧ (t.lookup place = none ∨ t.Detour p) ∧
        text = ({} : Config).write? ∧ answer.2 = .ok {} := by
  cases loaded with
  | found => exact .inl there
  | refused => exact .inl (FileTree.lookup_of_making there)
  | written unfound writable =>
    obtain ⟨name, named, -⟩ := writable.named
    rw [FileTree.lookup_written named] at there
    split at there
    next same =>
      cases there
      refine .inr ⟨same, unfound, ?_, rfl, rfl⟩
      rw [same]
      exact Classical.or_iff_not_imp_right.mpr (writable.lookup_target unfound)
    next => exact .inl (FileTree.lookup_of_making there)

theorem Loaded.detour (loaded : Loaded t p answer) (detour : t.Detour p) :
    answer = (t.written p ({} : Config).write?, .ok {}) := by
  cases loaded with
  | found there => cases there.symm.trans detour.find?_eq
  | refused _ unwritable => exact absurd detour.writable unwritable
  | written => rfl

/-- What was loaded is loaded again, and the files stay as they are. -/
theorem Loaded.again (loaded : Loaded t p answer) {c : Config} (success : answer.2 = .ok c)
    {e : Environment} {given : Option Path} (meant : path? e given = some p) :
    load e answer.1 given = (answer.1, .ok c) := by
  cases loaded with
  | found there =>
    simp only [load, meant, there]
    exact congrArg (Prod.mk t) success
  | refused => cases success
  | written unfound writable =>
    cases success
    obtain ⟨text, written, read⟩ := exists_write?_default
    simp only [load, meant, writable.find?_written, written, ofEntry, read, Option.elim_some]

/-- For every tree of files, environment and path. Nothing that is there when a configuration is
loaded is changed or removed, unless the path is a detour; then it is the one file at the end that is
overwritten with the defaults. At most one file is new, the one that the path means, and it was not
there before. What was loaded once is loaded again, by the same path or by the one that it means, and
then nothing is written. No path is a detour that has no steps up. -/
theorem loading_spares_files (e : Environment) (t : FileTree) (given : Option String) :
    let path := path? e (given.map .ofText)
    let loaded := load e t (given.map .ofText)
    (∀ place entry, t.lookup place = some entry →
      (∀ p ∈ path, t.Detour p → place ≠ target p) → loaded.1.lookup place = some entry) ∧
    (∀ p ∈ path, t.Detour p → loaded = (t.written p ({} : Config).write?, .ok {})) ∧
    (∀ place text, loaded.1.lookup place = some (.file text) →
      t.lookup place = some (.file text) ∨
        ∃ p ∈ path, place = target p ∧ t.find? p = none ∧ (t.lookup place = none ∨ t.Detour p) ∧
          text = ({} : Config).write? ∧ loaded.2 = .ok {}) ∧
    (∀ c, loaded.2 = .ok c → load e loaded.1 (given.map .ofText) = (loaded.1, .ok c) ∧
      ∀ p ∈ path, load e loaded.1 (some p) = (loaded.1, .ok c)) ∧
    (t.Closed → ∀ p ∈ path, .up ∉ p.steps → ¬ t.Detour p) := by
  intro path loaded
  cases meant : path? e (given.map .ofText) with
  | none =>
    have unavailable : loaded = (t, .error .pathUnavailable) := by
      simp only [loaded, load, meant]
    simp only [path, meant, unavailable]
    refine ⟨fun _ _ there _ => there, ?_, fun _ _ there => .inl there, ?_, ?_⟩
    · rintro p ⟨⟩
    · rintro c ⟨⟩
    · rintro _ p ⟨⟩
  | some p =>
    have way : Loaded t p loaded := load_loaded meant t
    simp only [path, meant, Option.mem_some_iff, forall_eq', exists_eq_left']
    refine ⟨fun place entry there => way.kept there, way.detour, fun place text => way.new, ?_, ?_⟩
    · exact fun c success => ⟨way.again success meant, way.again success (path?_path? meant)⟩
    · exact fun closed downward => FileTree.not_detour_of_downward closed downward

/-- There is no directory `missing` to come back from, and so `c.toml` is not found. Once there is
one it is written. -/
theorem detour_overwrites :
    let text := "[checker]\ntimeout_seconds = 7\n"
    let t : FileTree := { entries := [(["c.toml"], .file (some text))] }
    let loaded := load {} t (some (.ofText "missing/../c.toml"))
    t.lookup ["c.toml"] = some (.file (some text)) ∧
      read? text = some { checking := { timeout := 7 } } ∧ loaded.2 = .ok {} ∧
      loaded.1.lookup ["c.toml"] = some (.file ({} : Config).write?) ∧
      ({} : Config).write? ≠ some text := by
  intro text t loaded
  let p : Path := .ofText "missing/../c.toml"
  have steps : p.steps = [.down "missing", .up, .down "c.toml"] := by decide
  have here : target p = ["c.toml"] := by decide
  have there : t.lookup ["c.toml"] = some (.file (some text)) := by decide
  have missing : FileTree.isName "missing" = true := (Bool.and_eq_true ..).mpr ⟨by decide, by simp⟩
  have file : FileTree.isName "c.toml" = true := (Bool.and_eq_true ..).mpr ⟨by decide, by simp⟩
  have detour : t.Detour p := {
    broken := by decide
    writable := {
      named := ⟨"c.toml", by decide, file⟩
      ofFile := by decide
      above := by
        simp [Path.parent, steps, FileTree.visited, FileTree.Admits, missing, t, FileTree.lookup]
      apart := by decide
      free := by decide }
    there := ⟨some text, here ▸ there⟩ }
  have meant : path? {} (some p) = some p := by decide
  have same : loaded = (t.written p ({} : Config).write?, .ok {}) :=
    (load_loaded meant t).detour detour
  have named : p.steps.getLast? = some (.down "c.toml") := by decide
  refine ⟨there, by decide +kernel, by rw [same], ?_, by decide +kernel⟩
  rw [same, FileTree.lookup_written named, if_pos here.symm]

end Config

end Vigil
