/-
**Requests that cannot be read.** The body of a request may fail while it is read. It is read in front
of the handler only where it has to be captured: for queries, and in debug mode for requests of no
interest that are no `GET`. Then the failure is what the client is told, the handler is not called, and
nobody is told of the request. In all other cases the body is left alone: the handler gets the request
as it came in, and meets the failure itself if it reads so far.

* `capturesRequest_iff`: which bodies are read in front of the handler;
* `letIn_of_unreadable`, `letIn_of_uncaptured`: a request whose body fails, and one that is not read;
* `handle_of_unreadable`: any request whose body fails.
-/

import MediaTrail.Proofs.Reports
import MediaTrail.Proofs.Transparency

namespace MediaTrail

namespace Monitor

section

variable {β : Type}

/-- Whether the body of a request is read before its handler is called. -/
def ReadsBody (monitor : Monitor) (request : Request β) : Prop :=
  monitor.categoryOf request = .listQuery ∨ monitor.categoryOf request = .getQuery ∨
    monitor.trail.mode = .debug ∧
      (monitor.categoryOf request = .ignored ∨ monitor.categoryOf request = .other) ∧
      request.method ≠ "GET"

instance (monitor : Monitor) (request : Request β) : Decidable (monitor.ReadsBody request) :=
  inferInstanceAs (Decidable (_ ∨ _ ∨ _ ∧ (_ ∨ _) ∧ _))

theorem capturesRequest_iff (monitor : Monitor) (request : Request β) :
    monitor.capturesRequest (monitor.categoryOf request) request.method = true ↔
      monitor.ReadsBody request := by
  unfold capturesRequest ReadsBody Trail.isDebug
  generalize monitor.categoryOf request = category
  cases category <;> simp [Category.needsCapture]

/-- What is captured is not passed by. -/
theorem not_passesBy_of_readsBody {monitor : Monitor} {request : Request β}
    (reads : monitor.ReadsBody request) :
    ¬ monitor.passesBy (monitor.categoryOf request) = true := by
  unfold passesBy Trail.isDebug
  rcases reads with list | get | ⟨debug, -⟩
  · rw [list]
    simp
  · rw [get]
    simp
  · rw [debug]
    simp

variable [Content β]

/-- The tasks behind the sinks change nothing of how a request is taken. -/
theorem receive_pause (monitor : Monitor) (waits : Bool) (received : Moment) (request : Request β) :
    (monitor.pause waits).1.receive received request = monitor.receive received request := by
  cases waits <;> rfl

/-! ### On the way to the handler -/

/-- **A request whose body fails while it is read** is refused. The monitor did nothing but wait. -/
theorem letIn_of_unreadable {monitor : Monitor} {request : Request β} {error : ReadError}
    (reads : monitor.ReadsBody request) (unreadable : Reads request.body (.error error))
    (received : Moment) :
    monitor.letIn received request =
      ((monitor.pause (monitor.waitsFor request)).1, .refused error,
        (monitor.pause (monitor.waitsFor request)).2) := by
  have refused := monitor.receive_of_unreadable received
    ((monitor.capturesRequest_iff request).mpr reads)
    ((Content.collect_eq_some_iff _ _).mpr unreadable)
  unfold letIn
  rw [if_neg (not_passesBy_of_readsBody reads)]
  simp only [receive_pause, refused, List.append_nil]

/-- **A request that is not read** is let in as it is, if not at once. -/
theorem letIn_of_uncaptured {monitor : Monitor} {request : Request β}
    (spared : ¬ monitor.ReadsBody request) (received : Moment) : ∃ waits admission events,
      monitor.letIn received request = ((monitor.pause waits).1, .admitted admission, events) ∧
        admission.request = request := by
  unfold letIn
  by_cases passes : monitor.passesBy (monitor.categoryOf request) = true
  · rw [if_pos passes]
    exact ⟨false, _, _, rfl, rfl⟩
  · have taken := monitor.receive_of_uncaptured received
      (mt (monitor.capturesRequest_iff request).mp spared)
    rw [if_neg passes]
    simp only [receive_pause, taken]
    exact ⟨_, _, _, rfl, rfl⟩

end

/-! ### Bodies that fail -/

/-- **A request whose body fails.** Where the body is read in front of the handler, the client is told
of the failure and the handler is not called. All that the monitor did is to wait: no sink was given a
line, no event tells of a request or of a response, and where nothing was under way to a sink there is
no event at all. In all other cases the handler gets the very request, and its answer is the client's
as long as no sink goes down. -/
theorem handle_of_unreadable {β : Type} [Content β] (monitor : Monitor)
    (received answered : Moment) (request : Request β) (handler : Handler β) {error : ReadError}
    (unreadable : Reads request.body (.error error)) :
    let handled := monitor.handle received answered request handler
    (monitor.ReadsBody request →
      handled.given = none ∧ handled.result = .failed (.requestBody error) ∧
        (handled.monitor, handled.before) = monitor.pause (monitor.waitsFor request) ∧
        handled.after = [] ∧ NoReport handled.before ∧
        (∀ (position : Nat) (kept : Journal String),
          monitor.trail.sinks[position]? = some (.memory kept) →
            handled.monitor.trail.sinks[position]? = some (.memory kept)) ∧
        ((monitor.trail.outlets.agenda .within).next? = none →
          handled.monitor.trail.sinks = monitor.trail.sinks ∧ handled.before = [])) ∧
    (¬ monitor.ReadsBody request →
      handled.given = some request ∧
        (∀ text, handler.answer request = .error text →
          handled.result = .failed (.handler text)) ∧
        ((∀ sink ∈ monitor.trail.sinks, sink.StaysUp) →
          ∀ response, handler.answer request = .ok response → ∃ passed,
            handled.result = .answered passed ∧ passed.status = response.status ∧
              passed.headers = response.headers ∧
              ∀ probes, watch passed.body probes = watch response.body probes)) := by
  intro handled
  refine ⟨fun reads => ?_, fun spared => ?_⟩
  · have refused : handled = ⟨(monitor.pause (monitor.waitsFor request)).1, none,
        .failed (.requestBody error), (monitor.pause (monitor.waitsFor request)).2, []⟩ := by
      show monitor.handle received answered request handler = _
      unfold handle
      rw [letIn_of_unreadable reads unreadable]
    rw [refused]
    exact ⟨rfl, rfl, rfl, rfl, monitor.noReport_pause _,
      fun position kept memory => monitor.memory_pause _ memory, fun idle => pause_of_idle idle _⟩
  · obtain ⟨waits, admission, events, admitted, same⟩ := letIn_of_uncaptured spared received
    obtain ⟨given, fails, gives⟩ := handle_of_admitted admitted answered handler
    rw [same] at given fails gives
    exact ⟨given, fails, fun staysUp => gives ((goesBy_self staysUp).pause waits)⟩

/-- The same body in debug mode: a `POST` is refused before its handler is called, and the handler of
a `GET` reads up to the failure. -/
theorem handle_of_unreadable_debug :
    let classifier : Classifier := ⟨.ofList ["mp4"], ["/static"], "/api/list", "/api/get", []⟩
    let monitor : Monitor := ⟨classifier, ⟨classifier.extensions, .name⟩, .principal,
      ⟨.debug, .columns, .aggregated, 10, .ofList [.memory .empty, .diagnostics]⟩⟩
    let now : Moment := ⟨⟨2024, 1, 2, 3, 4, 5⟩, 0⟩
    let request (method : String) : Request Body := ⟨method, .origin "/api/me".toList, [], {},
      .stream [.chunk [1], .pending, .failure .aborted, .chunk [2]] []⟩
    let handler : Handler Body := ⟨fun request => match Source.drainRounds 3 [] request.body with
      | (⟨chunks, .failure _⟩, left) => .ok ⟨chunks.length, [], left⟩
      | _ => .error "unread", fun _ => true⟩
    let refused := monitor.handle now now (request "POST") handler
    let handled := monitor.handle now now (request "GET") handler
    (refused.given = none ∧ refused.result = .failed (.requestBody .aborted) ∧
      refused.before = [] ∧ refused.after = []) ∧
    handled.given = some (request "GET") ∧ ∃ passed, handled.result = .answered passed ∧
      passed.status = 1 ∧ ∀ probes, watch passed.body probes =
        watch (Body.stream [.chunk [2]] []) probes := by
  intro classifier monitor now request handler refused handled
  have unreadable (method : String) : Reads (request method).body (.error .aborted) :=
    Body.reads_collect (request method).body
  have readsPost : monitor.ReadsBody (request "POST") := .inr (.inr (by decide))
  have sparesGet : ¬ monitor.ReadsBody (request "GET") := by decide
  have staysUp : ∀ sink ∈ monitor.trail.sinks, sink.StaysUp :=
    List.forall_mem_cons.mpr ⟨trivial, List.forall_mem_singleton.mpr trivial⟩
  have onPost := (monitor.handle_of_unreadable now now (request "POST") handler
    (unreadable "POST")).1 readsPost
  have onGet := (monitor.handle_of_unreadable now now (request "GET") handler
    (unreadable "GET")).2 sparesGet
  obtain ⟨given, result, -, after, -, -, quiet⟩ := onPost
  obtain ⟨passed, isPassed, status, -, watched⟩ :=
    onGet.2.2 staysUp ⟨1, [], .stream [.chunk [2]] []⟩ rfl
  exact ⟨⟨given, result, (quiet rfl).2, after⟩, onGet.1, passed, isPassed, status, watched⟩

end Monitor

end MediaTrail
