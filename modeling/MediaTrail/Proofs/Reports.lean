/-
**Reports of requests.** What is reported of requests and responses comes from the monitor itself. The
sinks and the tasks behind them tell of records and of their own troubles, so that nothing that is
waited for, in the course of a request or between requests, adds a report.

* `Event.isReport`: whether an event tells of a request or of a response;
* `noReport_emit`, `noReport_handOn`: one line given to a sink, one step of a task;
* `noReport_settle`, `noReport_pause`: all turns of all tasks;
* `settle_of_idle`: where nobody has anything left to do, nothing happens.
-/

import MediaTrail.Monitor

namespace MediaTrail

/-- Whether an event tells of a request or of a response. -/
def Event.isReport : Event → Bool
  | .request .. | .requestBody _ | .mediaResponse .. | .response .. | .responseBody _ => true
  | .recorded .. | .rejected _ | .channelEnded | .initialized .. => false

/-- Events none of which tells of a request or of a response. -/
def NoReport (events : List Event) : Prop := ∀ event ∈ events, event.isReport = false

@[simp] theorem noReport_nil : NoReport [] := fun _ member => nomatch member

@[simp] theorem noReport_cons (event : Event) (events : List Event) :
    NoReport (event :: events) ↔ event.isReport = false ∧ NoReport events :=
  List.forall_mem_cons

@[simp] theorem noReport_append (first second : List Event) :
    NoReport (first ++ second) ↔ NoReport first ∧ NoReport second :=
  List.forall_mem_append

@[simp] theorem noReport_reverse (events : List Event) : NoReport events.reverse ↔ NoReport events := by
  simp only [NoReport, List.mem_reverse]

/-! ### Sinks -/

namespace Sink

/-- A sink reports a record at most. -/
theorem noReport_emit (sink : Sink) (record : Record) (line : String) :
    NoReport (sink.emit record line).events := by
  cases sink with
  | memory kept => exact noReport_nil
  | diagnostics => simp [emit, Event.isReport]
  | host behaviour handed => exact noReport_nil
  | console writer poisoned =>
    cases poisoned with
    | true => exact noReport_nil
    | false =>
      simp only [emit]
      split <;> exact noReport_nil
  | channel task waiting delegate => cases task <;> exact noReport_nil

theorem noReport_handOn (task : TaskState) (waiting : Queue Entrusted) (delegate : Sink) :
    NoReport (handOn task waiting delegate).2.1 := by
  unfold handOn
  split
  · exact noReport_nil
  · exact noReport_nil
  · simp [Event.isReport]
  · rename_i record line later _ _
    have given := delegate.noReport_emit record line
    dsimp only
    split
    · exact given
    · simp [given, Event.isReport]
    · exact given

theorem noReport_turnOf (steps : Nat) (sink : Sink) : NoReport (turnOf steps sink).events := by
  induction steps generalizing sink with
  | zero => exact noReport_nil
  | succ steps ih =>
    cases sink with
    | channel task waiting delegate =>
      have step := noReport_handOn task waiting delegate
      unfold turnOf
      rcases result : handOn task waiting delegate with ⟨after, events, onward⟩
      rw [result] at step
      cases onward with
      | rest => exact step
      | step => exact (noReport_append _ _).mpr ⟨step, ih after⟩
    | memory kept | diagnostics | console writer poisoned | host behaviour handed =>
      exact noReport_nil

theorem noReport_turn (depth : Nat) (sink : Sink) : NoReport (sink.turn depth).events := by
  induction depth generalizing sink with
  | zero => exact noReport_turnOf turnSize sink
  | succ depth ih =>
    cases sink with
    | channel task waiting delegate => exact ih delegate
    | memory kept | diagnostics | console writer poisoned | host behaviour handed =>
      exact noReport_nil

end Sink

/-! ### Tasks -/

namespace Outlets

theorem Progress.noReport_turn {progress : Progress} (silent : NoReport progress.events)
    (task : TaskId) : NoReport (progress.turn task).events := by
  unfold Progress.turn
  split
  · exact silent
  · rename_i sink _
    show NoReport ((sink.turn task.depth).events.reverseAux progress.events)
    rw [List.reverseAux_eq, noReport_append, noReport_reverse]
    exact ⟨sink.noReport_turn task.depth, silent⟩

theorem Progress.noReport_run (turns : Nat) {progress : Progress}
    (silent : NoReport progress.events) : NoReport (Progress.run turns progress).events := by
  induction turns generalizing progress with
  | zero => exact silent
  | succ turns ih =>
    unfold Progress.run
    split
    · exact silent
    · rename_i task agenda _
      have before : NoReport { progress with agenda := agenda }.events := silent
      exact ih (Progress.noReport_turn before task)

/-- **The tasks behind the sinks report no request**, however many turns they take. -/
theorem noReport_settle (outlets : Outlets) (place : WokenFrom) :
    NoReport (outlets.settle place).2 :=
  (noReport_reverse _).mpr (Progress.noReport_run _ noReport_nil)

/-- Where nobody has anything left to do, nothing happens. -/
theorem settle_of_idle {outlets : Outlets} {place : WokenFrom}
    (idle : (outlets.agenda place).next? = none) :
    (outlets.settle place).1.sinks = outlets.sinks ∧ (outlets.settle place).2 = [] := by
  have still (turns : Nat) :
      Progress.run turns ⟨outlets.sinks, outlets.agenda place, []⟩ =
        ⟨outlets.sinks, outlets.agenda place, []⟩ := by
    cases turns with
    | zero => rfl
    | succ turns => simp only [Progress.run, idle]
  unfold settle
  rw [still]
  exact ⟨rfl, rfl⟩

end Outlets

namespace Monitor

theorem noReport_pause (monitor : Monitor) (waits : Bool) : NoReport (monitor.pause waits).2 := by
  cases waits with
  | true => exact monitor.trail.outlets.noReport_settle .within
  | false => exact noReport_nil

theorem pause_of_idle {monitor : Monitor}
    (idle : (monitor.trail.outlets.agenda .within).next? = none) (waits : Bool) :
    (monitor.pause waits).1.trail.sinks = monitor.trail.sinks ∧ (monitor.pause waits).2 = [] := by
  cases waits with
  | true => exact Outlets.settle_of_idle idle
  | false => exact ⟨rfl, rfl⟩

end Monitor

end MediaTrail
