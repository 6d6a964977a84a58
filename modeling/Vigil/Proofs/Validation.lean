import Vigil.Proofs.Toml.Number
import Vigil.Validation

/-!
# Which targets are accepted

A target for TCP is any text with a host in front of its last colon and a port behind it
(`checkHostAndPort_eq_ok`). Nothing is asked of the host but that it is there, so a URL that ends in
a port passes for one (`checkTarget_tcp_of_scheme`). A URL has one scheme, and check types of
different families allow different ones (`CheckType.schemes_apart`).
-/
namespace Vigil

open Toml (Digits)

namespace Text

variable {cs : List Char} {n : Nat}

theorem digits?_eq_some {acc : Nat} :
    digits? acc cs = some n ↔ (∀ c ∈ cs, c.isDigit = true) ∧ Nat.ofDigitChars 10 cs acc = n := by
  induction cs generalizing acc with
  | nil => simp [digits?]
  | cons c cs ih =>
    rw [digits?, List.forall_mem_cons, Nat.ofDigitChars_cons]
    split
    next digit => rw [ih, and_iff_right digit]
    next other => simp [other]

/-- A row of digits for `n`, with or without a plus sign in front of it. -/
def Denotes (cs : List Char) (n : Nat) : Prop :=
  ∃ ds, (cs = ds ∨ cs = '+' :: ds) ∧ Digits ds ∧ Nat.ofDigitChars 10 ds 0 = n

theorem Denotes.apart (denotes : Denotes cs n) {c : Char} (other : c.isDigit = false)
    (unsigned : c ≠ '+') : c ∉ cs := by
  obtain ⟨ds, rfl | rfl, digits, -⟩ := denotes
  · exact digits.apart other
  · exact List.not_mem_cons_of_ne_of_not_mem unsigned (digits.apart other)

theorem numeral?_eq_some {max : Nat} : numeral? max cs = some n ↔ Denotes cs n ∧ n ≤ max := by
  have read (ds : List Char) :
      (if ds.isEmpty then none else (digits? 0 ds).filter (· ≤ max)) = some n ↔
        (Digits ds ∧ Nat.ofDigitChars 10 ds 0 = n) ∧ n ≤ max := by
    cases ds with
    | nil => simpa using fun digits : Digits [] => absurd rfl digits.nonempty
    | cons d ds =>
      have nonempty : d :: ds ≠ [] := List.cons_ne_nil d ds
      rw [if_neg (by simp), Option.filter_eq_some_iff, digits?_eq_some, decide_eq_true_iff]
      exact and_congr_left' (and_congr_left' ⟨fun all => ⟨nonempty, all⟩, Digits.all⟩)
  unfold numeral?
  split
  next ds =>
    rw [read]
    refine and_congr_left' ⟨fun row => ⟨ds, .inr rfl, row⟩, ?_⟩
    rintro ⟨ds', rfl | same, row⟩
    · exact absurd List.mem_cons_self (row.1.apart (by decide))
    · exact List.tail_eq_of_cons_eq same ▸ row
  next unsigned =>
    rw [read]
    refine and_congr_left' ⟨fun row => ⟨cs, .inl rfl, row⟩, ?_⟩
    rintro ⟨ds, rfl | signed, row⟩
    · exact row
    · exact absurd signed (unsigned ds)

end Text

theorem Url.splitLast?_eq_some {c : Char} {cs before after : List Char} :
    splitLast? c cs = some (before, after) ↔ cs = before ++ c :: after ∧ c ∉ after := by
  constructor
  · intro split_
    unfold splitLast? at split_
    rw [List.span_eq_takeWhile_dropWhile] at split_
    split at split_
    next after' d before' parts =>
      obtain ⟨taken, dropped⟩ := Prod.mk.inj parts
      cases split_
      have stops : (d != c) = false := by
        have first := List.head?_dropWhile_not (· != c) cs.reverse
        rwa [dropped] at first
      have joined : cs.reverse = after' ++ d :: before' := by
        rw [← taken, ← dropped, List.takeWhile_append_dropWhile]
      refine ⟨?_, fun member => ?_⟩
      · rw [← bne_eq_false_iff_eq.mp stops, ← List.reverse_reverse cs, joined]
        simp
      · rw [List.mem_reverse, ← taken] at member
        simpa using List.all_eq_true.mp List.all_takeWhile c member
    next => cases split_
  · rintro ⟨rfl, last⟩
    have stop : (before ++ c :: after).reverse.span (· != c) = (after.reverse, c :: before.reverse) := by
      rw [List.reverse_append, List.reverse_cons, List.append_assoc]
      refine Toml.span_append (fun d member => ?_) (by simp)
      have inside := List.mem_reverse.mp member
      exact bne_iff_ne.mpr fun same => last (same ▸ inside)
    rw [splitLast?, stop]
    simp

namespace CheckType

/-- The kinds of targets that there are. -/
inductive Family where
  | web | webSocket | hostAndPort
  deriving DecidableEq, Repr

def family : CheckType → Family
  | http | https => .web
  | webSocket => .webSocket
  | tcp => .hostAndPort

/-- The schemes that the URLs of a check type may have; for TCP there are no URLs. -/
def schemes : CheckType → List String
  | http => ["http", "https"]
  | https => ["https"]
  | webSocket => ["ws", "wss"]
  | tcp => []

theorem schemes_apart {a b : CheckType} (apart : a.family ≠ b.family) :
    ∀ scheme ∈ a.schemes, scheme ∉ b.schemes := by
  cases a <;> cases b <;> first | exact absurd rfl apart | decide

end CheckType

namespace Validation

theorem eq_ok_of_isOk {answer : Except Defect Unit} (passed : answer.isOk = true) :
    answer = .ok () := by
  cases answer with
  | error _ => cases passed
  | ok _ => rfl

/-- A port, which may have a plus sign and leading zeros. -/
def IsPort (cs : List Char) : Prop := ∃ n, Text.Denotes cs n ∧ 1 ≤ n ∧ n ≤ 65535

/-- Behind its last colon the target has a port. -/
def EndsInPort (target : String) : Prop :=
  ∃ front port, target.toList = front ++ ':' :: port ∧ IsPort port

/-- Somewhere in the target there is `://`. -/
def HasScheme (target : String) : Prop := [':', '/', '/'] <:+: target.toList

variable {target : String}

theorem IsPort.apart {port : List Char} (isPort : IsPort port) {c : Char} (other : c.isDigit = false)
    (unsigned : c ≠ '+') : c ∉ port := by
  obtain ⟨n, denotes, -⟩ := isPort
  exact denotes.apart other unsigned

theorem isPort_iff {port : List Char} :
    (Text.numeral? 65535 port).elim (.error Defect.noNumber) checkPort = .ok () ↔ IsPort port := by
  constructor
  · intro passed
    cases read : Text.numeral? 65535 port with
    | none =>
      rw [read] at passed
      cases passed
    | some n =>
      obtain ⟨denotes, most⟩ := Text.numeral?_eq_some.mp read
      refine ⟨n, denotes, Nat.pos_of_ne_zero fun zero => ?_, most⟩
      rw [read, zero] at passed
      cases passed
  · rintro ⟨n, denotes, least, most⟩
    rw [Text.numeral?_eq_some.mpr ⟨denotes, most⟩, Option.elim_some, checkPort,
      if_neg (Nat.pos_iff_ne_zero.mp least)]

theorem checkHostAndPort_eq_ok :
    checkHostAndPort target = .ok () ↔
      ∃ host port, target.toList = host ++ ':' :: port ∧ host ≠ [] ∧ IsPort port := by
  constructor
  · intro passed
    unfold checkHostAndPort at passed
    split at passed
    next => cases passed
    next host port parts =>
      split at passed
      next => cases passed
      next there =>
        exact ⟨host, port, (Url.splitLast?_eq_some.mp parts).1, by simpa using there,
          isPort_iff.mp passed⟩
  · rintro ⟨host, port, parts, there, isPort⟩
    have last : ':' ∉ port := isPort.apart (by decide) (by decide)
    have empty : host.isEmpty = false := by simpa using there
    rw [checkHostAndPort, Url.splitLast?_eq_some.mpr ⟨parts, last⟩]
    simp only [empty, Bool.false_eq_true, ↓reduceIte]
    exact isPort_iff.mpr isPort

theorem EndsInPort.not_allBlank (ends : EndsInPort target) : Text.allBlank target = false := by
  obtain ⟨front, port, parts, -⟩ := ends
  have colon : ':' ∈ target.toList := parts ▸ by simp
  rw [Text.allBlank, List.all_eq_false]
  exact ⟨':', colon, by decide⟩

/-- Where the scheme's colon is not the last one, it has the host for TCP in front of the last. -/
theorem checkTarget_tcp_of_scheme (scheme : HasScheme target) :
    checkTarget target .tcp = .ok () ↔ EndsInPort target := by
  have pass : Text.allBlank target = false →
      checkTarget target .tcp = checkHostAndPort target := fun shown => by
    rw [checkTarget, shown, if_neg Bool.false_ne_true]
  constructor
  · intro passed
    cases shown : Text.allBlank target with
    | true =>
      rw [checkTarget, if_pos shown] at passed
      cases passed
    | false =>
      rw [pass shown, checkHostAndPort_eq_ok] at passed
      obtain ⟨host, port, parts, -, isPort⟩ := passed
      exact ⟨host, port, parts, isPort⟩
  · intro ends
    rw [pass ends.not_allBlank, checkHostAndPort_eq_ok]
    obtain ⟨front, port, parts, isPort⟩ := ends
    refine ⟨front, port, parts, ?_, isPort⟩
    rintro rfl
    -- the only colon would be the scheme's, and a slash would follow it
    have slash : '/' ∈ port := by
      obtain ⟨before, after, whole⟩ := scheme
      rw [parts] at whole
      cases before with
      | nil => exact List.tail_eq_of_cons_eq whole ▸ List.mem_cons_self
      | cons c before =>
        have inside := List.tail_eq_of_cons_eq whole
        exact inside ▸ by simp
    exact isPort.apart (by decide) (by decide) slash

/-! ### URLs -/

theorem checkUrl_eq_ok {allowed : List String} :
    checkUrl allowed target = .ok () ↔
      ∃ url, Url.parse target = .ok url ∧ url.scheme ∈ allowed ∧ url.hasHost = true ∧
        ∀ port ∈ url.port, port ≠ 0 := by
  have port (url : Url) :
      url.port.elim (Except.ok ()) checkPort = .ok () ↔ ∀ port ∈ url.port, port ≠ 0 := by
    cases url.port with
    | none => simp
    | some n => by_cases zero : n = 0 <;> simp [checkPort, zero]
  unfold checkUrl
  cases Url.parse target with
  | error e => simp
  | ok url =>
    simp only [Except.ok.injEq, exists_eq_left']
    by_cases scheme : url.scheme ∈ allowed
    · cases host : url.hasHost <;> simp [scheme, port]
    · simp [scheme]

theorem checkTarget_url {type : CheckType} (url : type ≠ .tcp)
    (passed : checkTarget target type = .ok ()) : checkUrl type.schemes target = .ok () := by
  unfold checkTarget at passed
  split at passed
  next => cases passed
  next =>
    cases type with
    | tcp => exact absurd rfl url
    | http | https | webSocket => exact passed

/-- No URL has schemes of two families. -/
theorem checkTarget_apart {a b : CheckType} (apart : a.family ≠ b.family) (urlA : a ≠ .tcp)
    (urlB : b ≠ .tcp) (passed : checkTarget target a = .ok ()) : checkTarget target b ≠ .ok () := by
  intro passed'
  obtain ⟨url, read, scheme, -⟩ := checkUrl_eq_ok.mp (checkTarget_url urlA passed)
  obtain ⟨url', read', scheme', -⟩ := checkUrl_eq_ok.mp (checkTarget_url urlB passed')
  cases read.symm.trans read'
  exact CheckType.schemes_apart apart _ scheme scheme'

end Validation

end Vigil
