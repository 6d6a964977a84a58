import Vigil.Proofs.Queue.Outline
import Vigil.Proofs.Queue.Removal
import Vigil.Proofs.Scheduler.Upkeep

/-!
# Replacing records while others register, look and hand back

To replace the record of an id is to forget the id and then to add the new task, and the queue is
free in between. Whoever comes into that gap finds the id missing: a registration puts its own
record there, and the replacement is then refused (`refused_iff`). Consumers and executions alone
cannot do that, because they never make an unknown id known, and they are all that a scheduler does
to a queue by itself (`Scheduler.turns_perform`). Its calls are a registration and the two steps of
a replacement (`register_eq`, `update_eq`).

As long as nobody is refused the gap cannot be told from outside once it is over. While replacements
are under way the queue differs from one at which each is done in one step in this id only
(`Abreast`); the first addition that succeeds makes the two the same again.
-/
namespace Vigil

variable {ω : Type}

/-- An open queue and the replacements under way: ids that were forgotten, and the tasks that are
yet to be added. -/
structure Desk (ω : Type) where
  queue : Queue ω
  pending : List (Task ω) := []

namespace Desk

/-- A step that takes the lock of the queue once. -/
inductive Move (ω : Type) where
  | register (t : Task ω)
  /-- A replacement begins. -/
  | clear (t : Task ω)
  /-- The replacement in this place adds its task and ends. -/
  | add (place : Nat)
  | look (now : Int)
  | handBack (t : Task ω)

namespace Move

/-- A client's step, if it is one, is about this id. -/
def About (id : String) : Move ω → Prop
  | .register t | .clear t => t.id = id
  | _ => True

/-- The step adds nothing on behalf of a client. -/
def Quiet : Move ω → Prop
  | .register _ | .add _ => False
  | _ => True

end Move

/-- What a step does to the queue. -/
def call? (d : Desk ω) : Move ω → Option (Queue.Call ω)
  | .register t => some (.upsert t)
  | .clear t => some (.remove t.id)
  | .add place => d.pending[place]?.map .push
  | .look now => some (.look now)
  | .handBack t => some (.requeue t)

def after (d : Desk ω) (m : Move ω) : Desk ω where
  queue := (d.call? m).elim d.queue d.queue.after
  pending :=
    match m with
    | .clear t => d.pending ++ [t]
    | .add place => d.pending.eraseIdx place
    | _ => d.pending

/-- What the client whose call ends with this step is told. -/
def answer? (d : Desk ω) : Move ω → Option (Except SchedulingError Unit)
  | .register t => some ((d.queue.upsert t).map fun _ => ())
  | .add place => d.pending[place]?.map fun t => (d.queue.push t).map fun _ => ()
  | _ => none

def run (d : Desk ω) (moves : List (Move ω)) : Desk ω := moves.foldl after d

/-- What clients are told, in order. -/
def answers (d : Desk ω) : List (Move ω) → List (Except SchedulingError Unit)
  | [] => []
  | m :: rest => (d.answer? m).toList ++ (d.after m).answers rest

theorem run_append (d : Desk ω) (first second : List (Move ω)) :
    d.run (first ++ second) = (d.run first).run second :=
  List.foldl_append

/-! ### One at a time -/

/-- The step of a row in which each call is done at once, when it ends. Consumers may look more or
less often, but not at other instants. -/
inductive Whole (d : Desk ω) : Move ω → List (Queue.Call ω) → Prop where
  | register (t : Task ω) : d.Whole (.register t) [.upsert t]
  | clear (t : Task ω) : d.Whole (.clear t) []
  | add {place : Nat} {t : Task ω} (waiting : d.pending[place]? = some t) :
      d.Whole (.add place) [.remove t.id, .push t]
  | nobody {place : Nat} (missing : d.pending[place]? = none) : d.Whole (.add place) []
  | look (now : Int) (times : Nat) : d.Whole (.look now) (List.replicate times (.look now))
  | handBack (t : Task ω) : d.Whole (.handBack t) [.requeue t]

/-- The same calls and hand-backs in the order in which they end, each done at once. -/
inductive Serial : Desk ω → List (Move ω) → List (Queue.Call ω) → Prop where
  | done (d : Desk ω) : Serial d [] []
  | move {d : Desk ω} {m : Move ω} {moves : List (Move ω)} {first rest : List (Queue.Call ω)}
      (whole : d.Whole m first) (others : Serial (d.after m) moves rest) :
      Serial d (m :: moves) (first ++ rest)

/-! ### What holds at every desk -/

/-- The queue is open, and what is under way is about this id. -/
structure Manned (id : String) (d : Desk ω) : Prop where
  sound : d.queue.Sound
  open_ : d.queue.closed = false
  named : ∀ t ∈ d.pending, t.id = id

variable {d : Desk ω} {m : Move ω} {id : String}

theorem call?_ne_close {c : Queue.Call ω} (called : d.call? m = some c) : c ≠ .close := by
  rintro rfl
  cases m with
  | add place =>
    obtain ⟨t, _, made⟩ := Option.map_eq_some_iff.mp called
    cases made
  | _ => cases called

theorem Manned.call (manned : d.Manned id) {c : Queue.Call ω} (kept : c ≠ .close) :
    (d.queue.after c).Sound ∧ (d.queue.after c).closed = false := by
  refine ⟨(manned.sound.change c).sound manned.sound, ?_⟩
  have still := congrArg Outline.closed (manned.sound.outline_after c)
  rw [Outline.closed_after kept] at still
  exact still.trans manned.open_

theorem Manned.after (manned : d.Manned id) (about : m.About id) : (d.after m).Manned id := by
  have queue : (d.after m).queue.Sound ∧ (d.after m).queue.closed = false := by
    cases called : d.call? m with
    | none =>
      simp only [Desk.after, called]
      exact ⟨manned.sound, manned.open_⟩
    | some c =>
      simp only [Desk.after, called]
      exact manned.call (call?_ne_close called)
  refine ⟨queue.1, queue.2, ?_⟩
  cases m with
  | clear t =>
    intro u member
    rcases List.mem_append.mp member with old | new
    · exact manned.named u old
    · exact List.mem_singleton.mp new ▸ about
  | add place => exact fun u member => manned.named u (List.mem_of_mem_eraseIdx member)
  | register | look | handBack => exact manned.named

theorem Manned.run (manned : d.Manned id) {moves : List (Move ω)}
    (about : ∀ m ∈ moves, m.About id) : (d.run moves).Manned id := by
  induction moves generalizing d with
  | nil => exact manned
  | cons m rest ih =>
    obtain ⟨first, others⟩ := List.forall_mem_cons.mp about
    exact ih (manned.after first) others

/-! ### Answers -/

/-- An open queue takes every registration. -/
theorem Manned.registers (manned : d.Manned id) (t : Task ω) :
    d.answer? (.register t) = some (.ok ()) := by
  obtain ⟨e, success, _⟩ := manned.sound.upsert_open manned.open_ t
  simp only [answer?, success, Except.map]

/-- A replacement is refused exactly if the id is queued again when it comes to add its task; the
queue is then left as it is. -/
theorem Manned.refused_iff (manned : d.Manned id) {place : Nat} {t : Task ω}
    (waiting : d.pending[place]? = some t) :
    d.answer? (.add place) =
        some (if d.queue.contains id then .error (.duplicateTask id) else .ok ()) ∧
      (d.queue.contains id = true → (d.after (.add place)).queue = d.queue) := by
  have named : t.id = id := manned.named t (List.mem_of_getElem? waiting)
  simp only [answer?, Desk.after, call?, waiting, Option.map_some, Option.elim_some, Queue.after]
  cases present : d.queue.contains id with
  | true =>
    have refused : d.queue.push t = .error (.duplicateTask id) := by
      simp only [Queue.push, manned.open_, named, present, Bool.false_eq_true, ↓reduceIte]
    simp [refused, Except.map, Queue.accept]
  | false =>
    have free : d.queue.find? t.id = none := by
      rw [manned.sound.contains_eq] at present
      simpa [named] using present
    simp [manned.sound.push_free manned.open_ free, Except.map]

/-- Whoever looks, hands back or begins a replacement does not make an unknown id known. -/
theorem Manned.unknown_after (manned : d.Manned id) (quiet : m.Quiet)
    (unknown : ¬ d.queue.Knows id) : ¬ (d.after m).queue.Knows id := by
  have spared {c : Queue.Call ω} (adds : ¬ c.Adds id) : ¬ (d.queue.after c).Knows id :=
    fun known => unknown ((manned.sound.change c).knows manned.sound adds known)
  cases m with
  | register | add => exact quiet.elim
  | clear t => exact spared (c := .remove t.id) not_false
  | look now => exact spared (c := .look now) not_false
  | handBack t => exact spared (c := .requeue t) not_false

theorem Manned.unknown_run (manned : d.Manned id) {moves : List (Move ω)}
    (about : ∀ m ∈ moves, m.About id) (quiet : ∀ m ∈ moves, m.Quiet)
    (unknown : ¬ d.queue.Knows id) : ¬ (d.run moves).queue.Knows id := by
  induction moves generalizing d with
  | nil => exact unknown
  | cons m rest ih =>
    obtain ⟨first, others⟩ := List.forall_mem_cons.mp about
    obtain ⟨silent, silence⟩ := List.forall_mem_cons.mp quiet
    exact ih (manned.after first) others silence (manned.unknown_after silent unknown)

/-- Until a client adds something the id stays unknown after it was forgotten. -/
theorem Manned.absent_in_gap (manned : d.Manned id) {t : Task ω} (named : t.id = id)
    {gap : List (Move ω)} (about : ∀ m ∈ gap, m.About id) (quiet : ∀ m ∈ gap, m.Quiet) :
    ((d.after (.clear t)).run gap).queue.contains id = false := by
  have cleared : (d.after (.clear t)).Manned id := manned.after named
  have unknown : ¬ (d.after (.clear t)).queue.Knows id := fun known =>
    (((manned.sound.remove t.id).knows id).mp known).1 named
  have still := cleared.unknown_run about quiet unknown
  rw [(cleared.run about).sound.contains_eq, ((Queue.not_knows_iff _ id).mp still).1]
  rfl

end Desk

/-! ### Looks at outlines that differ in one id -/

namespace Outline

variable {o p : Outline ω} {id : String}

/-- Either nothing changes but for this id, or the look goes past it. -/
theorem forget_look (o : Outline ω) (id : String) (now : Int) :
    (o.look now).forget id = o.forget id ∨ (o.look now).forget id = (o.forget id).look now := by
  cases first : o.agenda with
  | nil =>
    left
    simp only [look, first]
  | cons t rest =>
    by_cases named : t.id = id
    · exact .inl (forget_look_self first named)
    · exact .inr (forget_look_of_ne first named)

/-- Nothing happens where the first task, and so every task, is due later. -/
theorem look_later {now : Int} (later : ∀ t ∈ o.agenda, now < t.due) : o.look now = o := by
  simp only [look]
  split
  · rfl
  next t rest listed =>
    have notDue := later t (listed ▸ List.mem_cons_self)
    simp [notDue]

/-- Where the id stands in front of the next task, one more look takes it out of the way. -/
theorem exists_looks (sorted : p.agenda.Pairwise (·.due ≤ ·.due)) (open_ : p.closed = false)
    (id : String) (now : Int) :
    ∃ times, ((List.replicate times (Queue.Call.look now)).foldl after p).forget id =
      (p.forget id).look now := by
  generalize listed : p.agenda = tasks
  induction tasks generalizing p with
  | nil =>
    have nothing : ∀ t ∈ (p.forget id).agenda, now < t.due := by
      simp [forget, listed, Agenda.without]
    exact ⟨0, (look_later nothing).symm⟩
  | cons u rest ih =>
    rw [listed] at sorted
    obtain ⟨first, others⟩ := List.pairwise_cons.mp sorted
    by_cases named : u.id = id
    · by_cases due : now < u.due
      · have later : ∀ t ∈ (p.forget id).agenda, now < t.due := by
          intro t member
          simp only [forget, listed, Agenda.without_cons_self named] at member
          have behind := first t (Agenda.mem_without.mp member).1
          omega
        exact ⟨0, (look_later later).symm⟩
      · have taken : p.look now = { p with agenda := rest, flying := p.flying.insert u.id } := by
          simp [look, listed, open_, due]
        have next : (p.look now).agenda = rest := by rw [taken]
        have still : (p.look now).closed = false := by rw [taken, open_]
        obtain ⟨times, caught⟩ := ih (p := p.look now) (by rw [next]; exact others) still next
        rw [forget_look_self listed named] at caught
        exact ⟨times + 1, caught⟩
    · exact ⟨1, forget_look_of_ne listed named⟩

theorem forget_upsert {t : Task ω} (named : t.id = id) :
    (o.after (.upsert t)).forget id = o.forget id := by
  simp only [after]
  split
  · rfl
  · refine forget_enter ?_
    cases found : o.find? t.id with
    | none => exact named
    | some old =>
      have same : old.id = t.id := by simpa using List.find?_some found
      exact same.trans named

/-- Hand-backs of other ids are accepted at both or at none; those of this id do not matter. -/
theorem forget_requeue (apart : o.forget id = p.forget id)
    (first : o.agenda.Pairwise (·.due ≤ ·.due)) (second : p.agenda.Pairwise (·.due ≤ ·.due))
    (t : Task ω) : (o.after (.requeue t)).forget id = (p.after (.requeue t)).forget id := by
  by_cases named : t.id = id
  · have nothing (x : Outline ω) : (x.after (.requeue t)).forget id = x.forget id := by
      simp only [after]
      split
      · rfl
      · exact forget_enter named
    rw [nothing, nothing, apart]
  · have closed : o.closed = p.closed := by
      have same := congrArg Outline.closed apart
      exact same
    have marks : o.flying.contains t.id = p.flying.contains t.id := by
      rw [← contains_forget_of_ne named, apart, contains_forget_of_ne named]
    simp only [after, closed, marks]
    split
    · exact apart
    · rw [forget_enter_of_ne named first, forget_enter_of_ne named second, apart]

end Outline

/-! ### Beside a queue at which everything is done at once -/

namespace Desk

variable {d : Desk ω} {m : Move ω} {id : String} {r : Queue ω}

/-- At `r` each replacement is done at once. The two differ in this id at most, and not even in that
if none is under way. -/
structure Abreast (id : String) (d : Desk ω) (r : Queue ω) : Prop where
  desk : d.Manned id
  other : Manned id { queue := r }
  apart : d.queue.outline.forget id = r.outline.forget id
  level : d.pending = [] → d.queue.outline = r.outline

theorem Abreast.serve (abreast : Abreast id d r) (about : m.About id) {calls : List (Queue.Call ω)}
    (kept : ∀ c ∈ calls, c ≠ .close)
    (apart : (d.after m).queue.outline.forget id = (r.run calls).outline.forget id)
    (level : (d.after m).pending = [] → (d.after m).queue.outline = (r.run calls).outline) :
    Abreast id (d.after m) (r.run calls) := by
  refine ⟨abreast.desk.after about, ?_, apart, level⟩
  have other := abreast.other
  clear apart level abreast
  induction calls generalizing r with
  | nil => exact other
  | cons c rest ih =>
    obtain ⟨first, others⟩ := List.forall_mem_cons.mp kept
    obtain ⟨sound, open_⟩ := other.call first
    exact ih others ⟨sound, open_, other.named⟩

/-- A call that leaves alone what is under way is made at both queues. -/
theorem Abreast.both (abreast : Abreast id d r) (about : m.About id) {c : Queue.Call ω}
    (kept : c ≠ .close) (called : d.call? m = some c) (pending : (d.after m).pending = d.pending)
    (apart : (d.queue.outline.after c).forget id = (r.outline.after c).forget id) :
    Abreast id (d.after m) (r.run [c]) := by
  have queue : (d.after m).queue.outline = d.queue.outline.after c := by
    rw [← abreast.desk.sound.outline_after]
    simp only [Desk.after, called]
    rfl
  have other : (r.run [c]).outline = r.outline.after c := abreast.other.sound.outline_after c
  refine abreast.serve about (List.forall_mem_singleton.mpr kept) ?_ fun idle => ?_
  · rw [queue, other, apart]
  · rw [queue, other, abreast.level (pending ▸ idle)]

/-- A replacement ends at one queue, and is done at the other: the two are the same then. -/
theorem Abreast.add (abreast : Abreast id d r) {place : Nat} {t : Task ω}
    (waiting : d.pending[place]? = some t) (absent : d.queue.contains id = false) :
    Abreast id (d.after (.add place)) (r.run [.remove t.id, .push t]) := by
  have sound := abreast.desk.sound
  have named : t.id = id := abreast.desk.named t (List.mem_of_getElem? waiting)
  have free : d.queue.find? t.id = none := by
    rw [sound.contains_eq] at absent
    simpa [named] using absent
  have here : (d.after (.add place)).queue.outline = d.queue.outline.enter t := by
    have placed := sound.outline_place free
    simpa [Desk.after, call?, waiting, Queue.after, Queue.accept,
      sound.push_free abreast.desk.open_ free] using placed
  have removed := abreast.other.sound.remove t.id
  have gone : (r.remove t.id).1.find? t.id = none := (removed.finds t.id).trans (if_pos rfl)
  have there : (r.run [.remove t.id, .push t]).outline = r.outline.enter t := by
    have placed := removed.sound.outline_place gone
    rw [abreast.other.sound.outline_remove, Outline.enter_forget rfl] at placed
    simpa [Queue.run, Queue.after, Queue.accept,
      removed.sound.push_free (removed.closed.trans abreast.other.open_) gone] using placed
  have level : (d.after (.add place)).queue.outline =
      (r.run [.remove t.id, .push t]).outline := by
    rw [here, there, ← Outline.enter_forget named, abreast.apart, Outline.enter_forget named]
  have about : (Move.add place : Move ω).About id := trivial
  exact abreast.serve about (by simp) (congrArg (·.forget id) level) fun _ => level

/-- While a replacement is under way a look can be followed by none, or by one more. -/
theorem Abreast.look (abreast : Abreast id d r) (now : Int) (busy : d.pending ≠ []) :
    ∃ times, Abreast id (d.after (.look now)) (r.run (List.replicate times (.look now))) := by
  have looked : (d.after (.look now)).queue.outline = d.queue.outline.look now :=
    abreast.desk.sound.outline_after (.look now)
  have open_ : r.outline.closed = false := abreast.other.open_
  obtain ⟨times, caught⟩ : ∃ times, (d.queue.outline.look now).forget id =
      ((List.replicate times (Queue.Call.look now)).foldl Outline.after r.outline).forget id := by
    rcases d.queue.outline.forget_look id now with same | past
    · exact ⟨0, same.trans abreast.apart⟩
    · obtain ⟨times, caught⟩ := Outline.exists_looks abreast.other.sound.sorted open_ id now
      exact ⟨times, by rw [past, abreast.apart, caught]⟩
  have about : (Move.look now : Move ω).About id := trivial
  refine ⟨times, abreast.serve about ?_ ?_ fun idle => absurd idle busy⟩
  · intro c member
    rw [List.eq_of_mem_replicate member]
    simp
  · rw [looked, caught, ← abreast.other.sound.outline_run]

/-- A step that is not refused can be followed at the other queue. -/
theorem Abreast.step (abreast : Abreast id d r) (about : m.About id)
    (accepted : ∀ answer ∈ d.answer? m, answer = .ok ()) :
    ∃ calls, d.Whole m calls ∧ Abreast id (d.after m) (r.run calls) := by
  cases m with
  | register t =>
    refine ⟨_, .register t, abreast.both about (by simp) rfl rfl ?_⟩
    rw [Outline.forget_upsert about, Outline.forget_upsert about, abreast.apart]
  | clear t =>
    have named : t.id = id := about
    have forgotten : (d.after (.clear t)).queue.outline = d.queue.outline.forget t.id :=
      abreast.desk.sound.outline_remove t.id
    refine ⟨_, .clear t, abreast.serve about (List.forall_mem_nil _) ?_ fun idle => ?_⟩
    · rw [forgotten, named, Outline.forget_forget]
      exact abreast.apart
    · exact absurd idle (List.append_ne_nil_of_right_ne_nil _ (List.cons_ne_nil t []))
  | add place =>
    cases waiting : d.pending[place]? with
    | none =>
      have kept : d.pending.eraseIdx place = d.pending :=
        List.eraseIdx_of_length_le (List.getElem?_eq_none_iff.mp waiting)
      have same : d.after (.add place) = d := by
        simp only [Desk.after, call?, waiting, kept, Option.map_none, Option.elim_none]
      refine ⟨_, .nobody waiting, ?_⟩
      rw [same]
      exact abreast
    | some t =>
      refine ⟨_, .add waiting, abreast.add waiting ?_⟩
      rw [← Bool.not_eq_true]
      intro present
      have refused := (abreast.desk.refused_iff waiting).1
      rw [if_pos present] at refused
      cases accepted _ refused
  | look now =>
    by_cases idle : d.pending = []
    · exact ⟨_, .look now 1, abreast.both about (by simp) rfl rfl (by rw [abreast.level idle])⟩
    · obtain ⟨times, next⟩ := abreast.look now idle
      exact ⟨_, .look now times, next⟩
  | handBack t =>
    exact ⟨_, .handBack t, abreast.both about (by simp) rfl rfl
      (Outline.forget_requeue abreast.apart abreast.desk.sound.sorted abreast.other.sound.sorted t)⟩

/-- A run in which nobody is refused can be followed to its end. -/
theorem Abreast.run (abreast : Abreast id d r) {moves : List (Move ω)}
    (about : ∀ m ∈ moves, m.About id) (accepted : ∀ answer ∈ d.answers moves, answer = .ok ()) :
    ∃ calls, Serial d moves calls ∧ Abreast id (d.run moves) (r.run calls) := by
  induction moves generalizing d r with
  | nil => exact ⟨[], .done d, abreast⟩
  | cons m rest ih =>
    obtain ⟨first, others⟩ := List.forall_mem_cons.mp about
    obtain ⟨now, later⟩ := List.forall_mem_append.mp accepted
    obtain ⟨calls, whole, next⟩ := abreast.step first fun answer told =>
      now answer (Option.mem_toList.mpr told)
    obtain ⟨more, serial, final⟩ := ih next others later
    refine ⟨calls ++ more, .move whole serial, ?_⟩
    rw [Queue.run_append]
    exact final

/-- Clients register and replace tasks of one id at an open queue, each step of theirs coming when
it may, while consumers look at the queue and executions hand back. A registration is never refused.
A replacement is refused exactly if the id is queued when it adds its task, and then changes
nothing. It is not refused if between its two steps no other client's call ends. If nobody is
refused and nothing is under way any more, the queue has the tasks, in order, and the marks that it
has if the same calls are made one at a time in the order in which they ended, with the same
hand-backs, and looks at the same instants. -/
theorem interleaved_replacements {q : Queue ω} (sound : q.Sound) (open_ : q.closed = false)
    {id : String} {moves : List (Move ω)} (about : ∀ m ∈ moves, m.About id) :
    let start : Desk ω := { queue := q }
    (∀ before m after, moves = before ++ m :: after →
      let d := start.run before
      (∀ t, m = .register t → d.answer? m = some (.ok ())) ∧
      ∀ place t, m = .add place → d.pending[place]? = some t →
        d.answer? m = some (if d.queue.contains id then .error (.duplicateTask id) else .ok ()) ∧
          (d.queue.contains id = true → (d.after m).queue = d.queue)) ∧
    (∀ before t gap after, moves = before ++ .clear t :: gap ++ after → (∀ m ∈ gap, m.Quiet) →
      (start.run (before ++ .clear t :: gap)).queue.contains id = false) ∧
    ((∀ answer ∈ start.answers moves, answer = .ok ()) → (start.run moves).pending = [] →
      ∃ calls, Serial start moves calls ∧
        (q.run calls).outline = (start.run moves).queue.outline) := by
  intro start
  have manned : start.Manned id := ⟨sound, open_, List.forall_mem_nil _⟩
  refine ⟨?_, ?_, ?_⟩
  · rintro before m after rfl
    have here := manned.run (List.forall_mem_append.mp about).1
    exact ⟨fun t same => same ▸ here.registers t,
      fun place t same waiting => same ▸ here.refused_iff waiting⟩
  · rintro before t gap after rfl quiet
    obtain ⟨early, later⟩ := List.forall_mem_append.mp (List.forall_mem_append.mp about).1
    obtain ⟨named, others⟩ := List.forall_mem_cons.mp later
    rw [run_append]
    exact (manned.run early).absent_in_gap named others quiet
  · intro accepted idle
    have abreast : Abreast id start q := ⟨manned, manned, rfl, fun _ => rfl⟩
    obtain ⟨calls, serial, final⟩ := abreast.run about accepted
    exact ⟨calls, serial, (final.level idle).symm⟩

/-- An execution hands the old record back while it is being replaced, and a consumer looks. -/
theorem replaced_beside_execution :
    let old : Task Nat := { id := "a", due := 0, interval := 9, work := 0 }
    let new : Task Nat := { old with due := 5, work := 1 }
    let moves := [.register old, .look 0, .clear new, .handBack old, .look 7, .add 0]
    (∀ m ∈ moves, m.About "a") ∧ ∃ calls, Serial { queue := {} } moves calls ∧
      (({} : Queue Nat).run calls).outline = (run { queue := {} } moves).queue.outline := by
  intro old new moves
  have about : ∀ m ∈ moves, m.About "a" := by simp [moves, Move.About, old, new]
  have accepted : ∀ answer ∈ answers { queue := {} } moves, answer = .ok () := by decide +kernel
  obtain ⟨_, _, followed⟩ := interleaved_replacements Queue.sound_empty rfl about
  exact ⟨about, followed accepted (by decide +kernel)⟩

/-- Somebody registers the id between the two steps. The replacement is refused, and the queue ends
with the registered record, which it has in neither order of the two calls. -/
theorem registered_in_gap :
    let old : Task Nat := { id := "a", due := 1000, interval := 1000, work := 0 }
    let registered : Task Nat := { old with due := 2000, work := 1 }
    let updated : Task Nat := { old with due := 2000, work := 2 }
    let q : Queue Nat := ({} : Queue Nat).run [.push old]
    let moves := [.clear updated, .register registered, .add 0]
    (∀ m ∈ moves, m.About "a") ∧ (run { queue := q } moves).pending = [] ∧
      answers { queue := q } moves = [.ok (), .error (.duplicateTask "a")] ∧
      (q.run [.remove "a", .push updated, .upsert registered]).outline ≠
        (run { queue := q } moves).queue.outline ∧
      (q.run [.upsert registered, .remove "a", .push updated]).outline ≠
        (run { queue := q } moves).queue.outline := by
  intro old registered updated q moves
  have about : ∀ m ∈ moves, m.About "a" := by simp [moves, Move.About, old, updated, registered]
  refine ⟨about, by decide +kernel, by decide +kernel, ?_, ?_⟩
  · exact mt (congrArg Outline.agenda) (by decide +kernel)
  · exact mt (congrArg Outline.agenda) (by decide +kernel)

/-! ### A scheduler's calls -/

section

variable {s : Scheduler ω} {name : String} {q : Queue ω}

theorem register_eq (here : s.queue? name = some q) (t : Task ω) :
    (s.register name t).scheduler.queue? name = some (run { queue := q } [.register t]).queue ∧
      answers { queue := q } [.register t] = [(s.register name t).answer] := by
  simp only [Scheduler.register, here, run, List.foldl, after, call?, Option.elim_some,
    Queue.after, answers, answer?]
  cases q.upsert t with
  | error why => exact ⟨here, rfl⟩
  | ok e =>
    refine ⟨?_, rfl⟩
    rw [Scheduler.queue?_putQueue here]
    exact if_pos rfl

/-- Where nothing comes between its two steps, a replacement is the one that the scheduler makes. -/
theorem update_eq (here : s.queue? name = some q) (t : Task ω) :
    (s.update name t).scheduler.queue? name = some (run { queue := q } [.clear t, .add 0]).queue ∧
      answers { queue := q } [.clear t, .add 0] = [(s.update name t).answer] := by
  have put (r : Queue ω) (wakes : Bool) : (s.putQueue name r wakes).queue? name = some r := by
    rw [Scheduler.queue?_putQueue here]
    exact if_pos rfl
  have waiting : ([] ++ [t])[0]? = some t := rfl
  simp only [Scheduler.update, here, run, List.foldl, after, call?, Option.elim_some, waiting,
    Option.map_some, Queue.after, answers, answer?]
  cases (q.remove t.id).1.push t with
  | error why => exact ⟨put _ _, rfl⟩
  | ok e => exact ⟨put _ _, rfl⟩

end

end Desk

end Vigil
