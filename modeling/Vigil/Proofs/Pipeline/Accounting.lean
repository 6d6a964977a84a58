import Vigil.Proofs.Pipeline.Ledger
import Vigil.Proofs.Recorder.Window

/-!
# What becomes of the checks of a monitor

Results are lost on no way, neither in the channel nor in the recorder, so what counts is whether
an execution has a result at all (`verdict`). One that ends by itself has the one its probe was
judged to have, unless the probe broke down; one that is cut off at the time limit is dropped
before its token is cancelled, and has none.
-/
namespace Vigil

namespace Pipeline

namespace Ledger

variable (c : Checks)

/-- The result that the end of an execution comes with. -/
def verdict : Vigil.Event Monitor → Option CheckResult
  | .ended t _ => c.result t
  | _ => none

/-- Whether it is an execution of this monitor's check that is over. -/
def isOf (m : MonitorId) : Vigil.Event Monitor → Bool
  | .ended t _ | .dropped t => t.work.id = m
  | _ => false

/-! ### The balance -/

structure Balanced (m : MonitorId) (l : Ledger) : Prop where
  fed : l.pipeline.inbox.isOpen = true ∧ l.pipeline.inbox.listening = true ∧
    l.pipeline.inbox.stopped = false
  results : l.delivered ++ l.pipeline.inbox.waiting = l.endings.filterMap (verdict c)
  positive : 0 < l.pipeline.inbox.recorder.capacity
  window : l.pipeline.inbox.recorder.entries[m.value]? =
    some ((l.delivered.filter (Recorder.isFrom m)).rtake l.pipeline.inbox.recorder.capacity)

variable {c} {m : MonitorId} {l : Ledger}

/-- An open channel takes the results of the executions that are over, in order. -/
theorem observe_inbox (ahead : Nat) (p : Pipeline) (open_ : p.inbox.isOpen = true)
    (events : List (Vigil.Event Monitor)) :
    (observe c ahead p events).1.inbox =
      { p.inbox with waiting := p.inbox.waiting ++ events.filterMap (verdict c) } := by
  induction events generalizing p with
  | nil => simp [observe]
  | cons event rest ih =>
    cases event with
    | ended t ending =>
      simp only [observe]
      cases judged : c.result t with
      | none => simp only [ih p open_, List.filterMap_cons, verdict, judged]
      | some r =>
        have sent : (p.send ahead r).inbox =
            { p.inbox with waiting := p.inbox.waiting ++ [r] } := by
          simp [send, Inbox.send?, open_]
        have still : (p.send ahead r).inbox.isOpen = true := by
          rw [sent]
          exact open_
        simp only [ih _ still, sent, List.filterMap_cons, verdict, judged, List.append_assoc,
          List.singleton_append]
    | _ => exact ih p open_

theorem filterMap_verdict (events : List (Vigil.Event Monitor)) :
    (events.filter endsExecution).filterMap (verdict c) = events.filterMap (verdict c) := by
  rw [List.filterMap_filter]
  congr 1
  funext event
  cases event <;> rfl

theorem Balanced.observe (balanced : Balanced c m l) (p : Pipeline)
    (same : p.inbox = l.pipeline.inbox) (ahead : Nat) (events : List (Vigil.Event Monitor)) :
    Balanced c m
      { l with
        pipeline := (Pipeline.observe c ahead p events).1
        endings := l.endings ++ events.filter endsExecution } := by
  obtain ⟨fed, results, positive, window⟩ := balanced
  rw [← same] at fed results positive window
  have inbox := observe_inbox (c := c) ahead p fed.1 events
  refine ⟨?_, ?_, ?_, ?_⟩
  · rw [inbox]
    exact fed
  · rw [inbox, List.filterMap_append, filterMap_verdict, ← results, List.append_assoc]
  · rw [inbox]
    exact positive
  · rw [inbox]
    exact window

theorem Balanced.step (balanced : Balanced c m l) {move : Move} (keeps : move ≠ .forget m) :
    Balanced c m (l.step c move) := by
  have ⟨fed, results, positive, window⟩ := balanced
  cases move with
  | client name call => exact ⟨fed, results, positive, window⟩
  | cancel => exact ⟨fed, results, positive, window⟩
  | shutdown => exact ⟨fed, results, positive, window⟩
  | take name =>
    simp only [Ledger.step]
    split <;> exact ⟨fed, results, positive, window⟩
  | wait duration => exact ⟨fed, results, positive, window⟩
  | work place =>
    simp only [Ledger.step]
    split
    next => exact balanced
    next job found => exact balanced.observe _ (by rfl) _ _
  | record =>
    obtain ⟨open_, listens, goes⟩ := fed
    obtain ⟨capacity, recorded⟩ :=
      Recorder.recordAll_window positive window l.pipeline.inbox.waiting
    simp only [Ledger.step, Pipeline.record, Inbox.drain, listens, goes, Bool.not_false,
      Bool.and_self, ↓reduceIte]
    have sender : l.pipeline.inbox.hasSender = true := (Bool.and_eq_true_iff.mp open_).1
    refine ⟨⟨open_, rfl, by simp [sender]⟩, ?_, ?_, ?_⟩
    · simpa using results
    · rw [capacity]
      exact positive
    · rw [capacity, List.filter_append]
      exact recorded
  | track other =>
    refine ⟨fed, results, positive, ?_⟩
    simp only [Ledger.step, withRecorder, Recorder.track, Std.ExtTreeMap.getElem?_insertIfNew]
    rw [if_neg, window]
    rintro ⟨same, fresh⟩
    rw [Std.compare_eq_iff_eq] at same
    rw [same, Std.ExtTreeMap.mem_iff_isSome_getElem?, window] at fresh
    exact fresh rfl
  | forget other =>
    refine ⟨fed, results, positive, ?_⟩
    simp only [Ledger.step, withRecorder, Recorder.forget, Std.ExtTreeMap.getElem?_erase]
    rw [if_neg, window]
    intro same
    rw [Std.compare_eq_iff_eq] at same
    apply keeps
    cases other
    cases m
    exact congrArg (fun n => Move.forget ⟨n⟩) same

theorem Reached.balanced (reached : Reached c m l) : Balanced c m l := by
  induction reached with
  | fresh config now capacity =>
    refine ⟨⟨rfl, rfl, rfl⟩, rfl, ?_, ?_⟩
    · simp only [Recorder.track, Recorder.ofCapacity]
      omega
    · simp only [Recorder.track, Recorder.ofCapacity, Std.ExtTreeMap.getElem?_insertIfNew]
      simp
  | step _ move keeps ih => exact ih.step keeps

/-! ### One monitor -/

theorem monitor_of_verdict {event : Vigil.Event Monitor} {r : CheckResult}
    (judged : verdict c event = some r) : Recorder.isFrom m r = isOf m event := by
  cases event with
  | ended t ending =>
    have same : r.monitor = t.work.id := by
      simp only [verdict, Checks.result, Check.judge] at judged
      split at judged
      · cases judged
        split <;> rfl
      · cases judged
        rfl
      · cases judged
    simp only [Recorder.isFrom, isOf, same]
  | notice n => cases judged
  | started t => cases judged
  | dropped t => cases judged
  | cancelled t => cases judged

theorem filter_verdict (events : List (Vigil.Event Monitor)) :
    (events.filterMap (verdict c)).filter (Recorder.isFrom m) =
      (events.filter (isOf m)).filterMap (verdict c) := by
  rw [List.filter_filterMap, List.filterMap_filter]
  congr 1
  funext event
  cases judged : verdict c event with
  | none => simp
  | some r =>
    rw [← monitor_of_verdict judged]
    simp [Option.filter]

/-- For every run in which a monitor is tracked and its recorder is fed. The results recorded for
the monitor, and those that wait for the recorder, are those of the executions of its check that
are over, in order; the recorder shows the last of them. Each execution contributes exactly one
result exactly if all of them ended by themselves, with a probe that did not break down. -/
theorem results_of_executions (reached : Reached c m l) :
    let made := l.endings.filter (isOf m)
    let results := (l.delivered ++ l.pipeline.inbox.waiting).filter (Recorder.isFrom m)
    results = made.filterMap (verdict c) ∧
      l.pipeline.inbox.recorder.history m =
        (l.delivered.filter (Recorder.isFrom m)).rtake l.pipeline.inbox.recorder.capacity ∧
      (results.length = made.length ↔
        ∀ event ∈ made, ∃ t ending r, event = .ended t ending ∧ c.result t = some r) := by
  intro made results
  obtain ⟨_, sent, _, window⟩ := reached.balanced
  have same : results = made.filterMap (verdict c) := by
    simp only [results, made, sent, filter_verdict]
  refine ⟨same, by simp [Recorder.history, window], ?_⟩
  rw [same, List.length_filterMap_eq_countP, List.countP_eq_length]
  constructor
  · intro all event member
    obtain ⟨r, judged⟩ := Option.isSome_iff_exists.mp (all event member)
    cases event with
    | ended t ending => exact ⟨t, ending, r, rfl, judged⟩
    | notice n => cases judged
    | started t => cases judged
    | dropped t => cases judged
    | cancelled t => cases judged
  · intro all event member
    obtain ⟨t, ending, r, rfl, judged⟩ := all event member
    simp [verdict, judged]
/-! ### An execution that hangs -/

def monitor : Monitor where
  id := ⟨1⟩
  name := "site"
  checkType := .tcp
  target := "localhost:80"
  interval := 10
  enabled := true
  createdAt := 0
  updatedAt := 0

/-- Every probe answers in time, but only after five seconds. -/
def slow : Checks where
  threshold := 1000
  probe _ _ := { delay := Duration.ofSeconds 5, answer := .reached 10 none }

/-- A pipeline that cuts executions off after `limit` checks the monitor once and then waits for
`limit` milliseconds. -/
def checkedOnce (limit : Nat) : Ledger :=
  ({ pipeline :=
    { scheduler := { config := { executionTimeout := some (Duration.ofMillis limit) } }
      inbox := { recorder := (Recorder.ofCapacity 3).track monitor.id, listening := true } } } :
        Ledger).run slow
    [.client "health" .addQueue, .client "health" (.register (monitor.task 0)),
      .wait (Duration.ofSeconds 10), .work 0, .work 0, .wait (Duration.ofMillis limit), .work 0,
      .record]

theorem reached_checkedOnce (limit : Nat) : Reached slow monitor.id (checkedOnce limit) := by
  refine (Reached.fresh _ 0 3).run slow ?_
  simp

/-- The law that each execution contributes a result does not hold: after one second the execution
is over, and nothing is recorded for it. -/
theorem cut_off_execution_unrecorded :
    ¬ ∀ (c : Checks) (m : MonitorId) (l : Ledger), Reached c m l → l.pipeline.inbox.waiting = [] →
      (l.delivered.filter (Recorder.isFrom m)).length = (l.endings.filter (isOf m)).length := by
  intro law
  have counted := law slow monitor.id (checkedOnce 1000) (reached_checkedOnce 1000)
    (by decide +kernel)
  revert counted
  decide +kernel

/-- With a limit of ten seconds the execution ends by itself, and contributes one result. -/
theorem completed_execution_recorded :
    let l := checkedOnce 10000
    (l.endings.filter (isOf monitor.id)).length = 1 ∧
      ((l.delivered ++ l.pipeline.inbox.waiting).filter (Recorder.isFrom monitor.id)).length = 1 ∧
      ∀ event ∈ l.endings.filter (isOf monitor.id),
        ∃ t ending r, event = .ended t ending ∧ slow.result t = some r := by
  intro l
  obtain ⟨_, _, counted⟩ := results_of_executions (reached_checkedOnce 10000)
  have made : (l.endings.filter (isOf monitor.id)).length = 1 := by decide +kernel
  have results : ((l.delivered ++ l.pipeline.inbox.waiting).filter
      (Recorder.isFrom monitor.id)).length = 1 := by decide +kernel
  exact ⟨made, results, counted.mp (results.trans made.symm)⟩

end Ledger

end Pipeline

end Vigil
