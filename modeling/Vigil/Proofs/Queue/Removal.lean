import Vigil.Proofs.Queue.Calls

/-!
# Removal is final

A queue knows the ids that are queued or in flight. Only `push` and `upsert` make an id known: a
hand-back is accepted for a known id only, and every other call moves known ids between the heap and
the marks or forgets them (`Change.knows`). Removing an id makes the queue forget it, from whichever
of the two it was in, because it is never in both; so a removed id stays unknown until somebody adds
it again.
-/
namespace Vigil.Queue

variable {ω : Type}

/-- The id is queued or in flight. -/
def Knows (q : Queue ω) (id : String) : Prop := (q.find? id).isSome ∨ id ∈ q.inFlight

theorem not_knows_iff (q : Queue ω) (id : String) :
    ¬ q.Knows id ↔ q.find? id = none ∧ id ∉ q.inFlight := by
  rw [Knows, not_or, Option.not_isSome_iff_eq_none]

theorem not_knows_empty (id : String) : ¬ ({} : Queue ω).Knows id := by
  simp [not_knows_iff, find?, Heap.position]

section

variable {q : Queue ω}

/-- A known id is queued once or in flight, and not both. -/
theorem Sound.copies_of_knows (sound : q.Sound) {id : String} (known : q.Knows id) :
    q.copies id = 1 ∧ id ∉ q.inFlight ∨ q.copies id = 0 ∧ id ∈ q.inFlight := by
  have count := sound.copies_eq id
  by_cases flying : id ∈ q.inFlight
  · rw [sound.apart id flying] at count
    exact .inr ⟨count, flying⟩
  · have queued : (q.find? id).isSome := known.resolve_right flying
    exact .inl ⟨count.trans (if_pos queued), flying⟩

theorem Sound.not_knows_iff_copies (sound : q.Sound) (id : String) :
    ¬ q.Knows id ↔ q.copies id = 0 ∧ id ∉ q.inFlight := by
  rw [not_knows_iff, sound.copies_eq]
  cases q.find? id <;> simp

theorem Sound.knows_place (sound : q.Sound) {t : Task ω} (open_ : q.closed = false)
    (free : q.find? t.id = none) (id : String) : (q.place t).Knows id ↔ t.id = id ∨ q.Knows id := by
  simp only [Knows, (sound.place open_ free).2, mem_inFlight_place]
  by_cases same : t.id = id <;> simp [same]

theorem Sound.knows_rekey (sound : q.Sound) {id : String} {pos : Nat} (due : Int)
    (found : q.heap.position id = some pos) (other : String) :
    (q.rekey pos due).Knows other ↔ q.Knows other := by
  obtain ⟨_, old, there, finds⟩ := sound.rekey due found
  have flying : (q.rekey pos due).inFlight = q.inFlight := rfl
  simp only [Knows, finds, flying]
  by_cases same : id = other
  · subst same
    simp [there]
  · simp [same]

/-- The id that is taken moves from the heap to the marks. -/
theorem Sound.knows_take (sound : q.Sound) {t : Task ω} (open_ : q.closed = false)
    (head : q.heap.peek = some t) (id : String) : (q.take t).Knows id ↔ q.Knows id := by
  obtain ⟨_, _, there, finds⟩ := sound.take open_ head
  simp only [Knows, finds, mem_inFlight_take]
  by_cases same : t.id = id
  · subst same
    simp [there]
  · simp [same]

theorem Without.knows {r : Queue ω} {id : String} (without : q.Without id r) (other : String) :
    r.Knows other ↔ id ≠ other ∧ q.Knows other := by
  simp only [Knows, without.finds, without.flying]
  by_cases same : id = other <;> simp [same]

theorem not_knows_close (q : Queue ω) (id : String) : ¬ q.close.1.Knows id := by
  obtain ⟨_, _, gone, none_⟩ := close_queue q
  exact (not_knows_iff _ id).mpr ⟨gone id, none_ id⟩

end

/-! ### Rows of calls -/

/-- The call adds a task under this id, if it is accepted. -/
def Call.Adds (id : String) : Call ω → Prop
  | .push t | .upsert t => t.id = id
  | _ => False

/-- No other call makes an id known. -/
theorem Change.knows {q r : Queue ω} {c : Call ω} (change : q.Change c r) (sound : q.Sound)
    {id : String} (spared : ¬ c.Adds id) (known : r.Knows id) : q.Knows id := by
  cases change with
  | none => exact known
  | @placed _ t open_ free cause =>
    rcases (sound.knows_place open_ free id).mp known with same | before
    · rcases cause with rfl | rfl | ⟨rfl, flying⟩
      · exact absurd same spared
      · exact absurd same spared
      · exact .inr (same ▸ flying)
    · exact before
  | rekeyed _ due found => exact (sound.knows_rekey due found id).mp known
  | removed other => exact ((sound.remove other).knows id |>.mp known).2
  | taken _ open_ head => exact (sound.knows_take open_ head id).mp known
  | closed => exact absurd known (not_knows_close q id)

theorem Sound.not_knows_run {q : Queue ω} (sound : q.Sound) {id : String} (gone : ¬ q.Knows id)
    {calls : List (Call ω)} (spared : ∀ c ∈ calls, ¬ c.Adds id) : ¬ (q.run calls).Knows id := by
  induction calls generalizing q with
  | nil => exact gone
  | cons c rest ih =>
    obtain ⟨first, others⟩ := List.forall_mem_cons.mp spared
    have change := sound.change c
    exact ih (change.sound sound) (fun known => gone (change.knows sound first known)) others

/-! ### An id the queue does not know -/

section

variable {q : Queue ω} {id : String}

theorem requeue_unknown (gone : ¬ q.Knows id) {t : Task ω} (named : t.id = id) :
    q.requeue t = if q.closed then .error .queueClosed else .ok ⟨q, false, false⟩ := by
  have revoked : q.inFlight.contains t.id = false := by
    rw [named, ← Bool.not_eq_true, ← Std.ExtTreeSet.mem_iff_contains]
    exact ((not_knows_iff q id).mp gone).2
  simp [requeue, revoked]

theorem Sound.remove_unknown (sound : q.Sound) (gone : ¬ q.Knows id) : (q.remove id).2 = false := by
  obtain ⟨free, unclaimed⟩ := (not_knows_iff q id).mp gone
  have absent := (sound.position_eq_none_iff id).mpr free
  rw [Std.ExtTreeSet.mem_iff_contains, Bool.not_eq_true] at unclaimed
  simp only [Queue.remove, absent, unclaimed]

/-- Consumers are handed known tasks only. -/
theorem Sound.poll_unknown (sound : q.Sound) (gone : ¬ q.Knows id) {s : Station ω}
    (at_ : s.queue = q) {c : Consumer} {t : Task ω} (left : (s.poll c).2 = .inr (.task t)) :
    t.id ≠ id := by
  subst at_
  rcases Station.poll_cases sound c with ⟨why, ran⟩ | ⟨u, open_, top, ran⟩ | ⟨wakeAt, _, _, ran⟩
  · rw [ran] at left
    cases left
  · rw [ran] at left
    cases left
    rintro rfl
    exact gone (.inl (by rw [(sound.take open_ top).2.2.1]; rfl))
  · rw [ran] at left
    cases left

end

/-- Once an id was removed, and whatever is called afterwards except to add it again: it is neither
queued nor in flight, no consumer is handed a task of it, none of its tasks can be handed back, and
there is nothing to remove. Nothing is asked of what went before: the id may have been queued,
unknown, or executing in any number of copies. -/
theorem removal_is_final (before later : List (Call ω)) {id : String}
    (spared : ∀ c ∈ later, ¬ c.Adds id) :
    let q := ((({} : Queue ω).run before).remove id).1.run later
    q.contains id = false ∧ id ∉ q.inFlight ∧
      (∀ (s : Station ω) c t, s.queue = q → (s.poll c).2 = .inr (.task t) → t.id ≠ id) ∧
      (∀ t, t.id = id →
        q.requeue t = if q.closed then .error .queueClosed else .ok ⟨q, false, false⟩) ∧
      (q.remove id).2 = false := by
  intro q
  have removed := (sound_empty.run before).remove id
  have forgotten := removed.knows id
  have sound : q.Sound := removed.sound.run later
  have gone : ¬ q.Knows id :=
    removed.sound.not_knows_run (fun known => (forgotten.mp known).1 rfl) spared
  obtain ⟨free, unclaimed⟩ := (not_knows_iff q id).mp gone
  refine ⟨?_, unclaimed, fun s c t at_ left => sound.poll_unknown gone at_ left,
    fun t named => requeue_unknown gone named, sound.remove_unknown gone⟩
  rw [sound.contains_eq, free]
  rfl

/-- Two copies of a task are executing when its id is removed, the second under a new record. Both
are handed back later. -/
theorem removed_with_two_copies :
    let t : Task Unit := { id := "x", due := 0, interval := 1, work := () }
    let later : List (Call Unit) := [.requeue t, .look 7, .update "x" 3, .requeue (t.dueAt 5)]
    (∀ c ∈ later, ¬ c.Adds "x") ∧ ∃ q : Queue Unit,
      q = ((({} : Queue Unit).run [.push t, .look 0, .push t, .look 0]).remove "x").1.run later ∧
        q.contains "x" = false ∧ q.requeue t = .ok ⟨q, false, false⟩ := by
  intro t later
  have spared : ∀ c ∈ later, ¬ c.Adds "x" := by simp [later, Call.Adds]
  obtain ⟨absent, _, _, refused, _⟩ :=
    removal_is_final [.push t, .look 0, .push t, .look 0] later spared
  have open_ : (((({} : Queue Unit).run [.push t, .look 0, .push t, .look 0]).remove "x").1.run
      later).closed = false := by decide +kernel
  exact ⟨spared, _, rfl, absent, (refused t rfl).trans (by rw [open_]; rfl)⟩

end Vigil.Queue
