/-
**What passes through.** A handler gets what came in and a client gets what the handler answered, as
if nobody stood between them. A body can be polled for data and for trailing fields in any order, and
at every moment it can be asked whether it has ended and how much is to come; the body that a client
gets says in all this what the handler's own would say (`Outgoing.Carries`). One poll keeps that
(`probe_carries`), and so does any number of them (`watch_eq`). Nothing is assumed of the answers of a
body: it may find nothing yet, fail and go on, for its data as well as for its trailing fields.

* `letIn_content`: a request whose body can be read reaches its handler with the same content;
* `conduct_carries`: a response is passed on, unless a sink goes down;
* `handle_transparent`: what the handler and the client of a request get.
-/

import MediaTrail.Proofs.KeptLines

namespace MediaTrail

open Text (Bytes)

/-! ### Watching a body -/

/-- What can be asked of a body that changes it. -/
inductive Probe where
  | poll
  | pollTrailers
deriving DecidableEq, Repr

/-- What a body says then. -/
inductive Reading where
  | polled (polled : Polled)
  | trailers (trailers : TrailersPolled)
deriving DecidableEq, Repr

/-- A moment of a body: what it has just said, and what is known without asking. -/
structure Look where
  reading : Option Reading
  atEnd : Bool
  size : SizeBounds
deriving DecidableEq, Repr

section

variable {β : Type} [Source β]

instance : Source (Outgoing β) where
  poll body := (body.poll.1, body.poll.2.1)
  pollTrailers := Outgoing.pollTrailers
  atEnd := Outgoing.atEnd
  size := Outgoing.size

def probe (body : β) : Probe → Reading × β
  | .poll => (.polled (Source.poll body).1, (Source.poll body).2)
  | .pollTrailers => (.trailers (Source.pollTrailers body).1, (Source.pollTrailers body).2)

/-- All moments of a body under some probes, from the one before the first of them. -/
def watchFrom (reading : Option Reading) (body : β) : List Probe → List Look
  | [] => [⟨reading, Source.atEnd body, Source.size body⟩]
  | next :: later =>
    ⟨reading, Source.atEnd body, Source.size body⟩ ::
      watchFrom (some (probe body next).1) (probe body next).2 later

def watch (body : β) (probes : List Probe) : List Look :=
  watchFrom none body probes

/-! ### Bodies that are passed on -/

/-- A body that was passed on is one of the handler's. -/
inductive Outgoing.Carries (body : β) : Outgoing β → Prop
  | plain : Carries body (.plain body)
  | captured (recorder : Recorder) : Carries body (.captured ⟨body, recorder⟩)

variable {body : β} {outgoing : Outgoing β}

theorem look_carries (carries : outgoing.Carries body) :
    Source.atEnd outgoing = Source.atEnd body ∧ Source.size outgoing = Source.size body := by
  cases carries with
  | plain => exact ⟨rfl, rfl⟩
  | captured recorder => exact ⟨rfl, rfl⟩

/-- **One probe.** Whatever the recorder makes of it, the body behind it is the handler's. -/
theorem probe_carries (carries : outgoing.Carries body) (next : Probe) :
    (probe outgoing next).1 = (probe body next).1 ∧
      (probe outgoing next).2.Carries (probe body next).2 := by
  cases carries with
  | plain =>
    cases next with
    | poll => exact ⟨rfl, .plain⟩
    | pollTrailers => exact ⟨rfl, .plain⟩
  | captured recorder =>
    cases next with
    | poll => exact ⟨rfl, .captured _⟩
    | pollTrailers => exact ⟨rfl, .captured _⟩

theorem watchFrom_eq (carries : outgoing.Carries body) (reading : Option Reading)
    (probes : List Probe) :
    watchFrom reading outgoing probes = watchFrom reading body probes := by
  induction probes generalizing body outgoing reading with
  | nil =>
    obtain ⟨ends, size⟩ := look_carries carries
    rw [watchFrom, watchFrom, ends, size]
  | cons next later ih =>
    obtain ⟨ends, size⟩ := look_carries carries
    obtain ⟨same, after⟩ := probe_carries carries next
    rw [watchFrom, watchFrom, ends, size, same, ih after]

theorem watch_eq (carries : outgoing.Carries body) (probes : List Probe) :
    watch outgoing probes = watch body probes :=
  watchFrom_eq carries none probes

/-! ### Requests on their way -/

/-- Two requests that differ at most in how the bytes of their bodies come. -/
structure Request.SameContent (first second : Request β) : Prop where
  method : first.method = second.method
  target : first.target = second.target
  headers : first.headers = second.headers
  peer : first.peer = second.peer
  body : ∀ result, Reads first.body result ↔ Reads second.body result

theorem Request.SameContent.refl (request : Request β) : request.SameContent request :=
  ⟨rfl, rfl, rfl, rfl, fun _ => Iff.rfl⟩

/-- A handler that does not see how the bytes of a body come. -/
def Handler.SeesContent (handler : Handler β) : Prop :=
  ∀ first second : Request β, first.SameContent second → handler.answer first = handler.answer second

end

/-- What is collected of both is the same. -/
theorem Request.SameContent.collect {β : Type} [Content β] {first second : Request β}
    (same : first.SameContent second) :
    Content.collect first.body = Content.collect second.body := by
  ext result
  rw [Content.collect_eq_some_iff, Content.collect_eq_some_iff]
  exact same.body result

namespace Monitor

section

variable {β : Type} [Content β] (monitor : Monitor) (now : Moment) {request : Request β}

theorem receive_of_captured {bytes : Bytes}
    (captures : monitor.capturesRequest (monitor.categoryOf request) request.method = true)
    (readable : Content.collect request.body = some (.ok bytes)) :
    monitor.receive now request =
      (.admitted (.watched ⟨{ request with body := Content.ofBytes bytes },
          monitor.categoryOf request, monitor.visitOf request, bytes, now.steady⟩),
        monitor.trail.reportRequest request.method request.target.pathAndQuery bytes) := by
  simp only [receive, if_pos captures, readable]
  rfl

theorem receive_of_unreadable {error : ReadError}
    (captures : monitor.capturesRequest (monitor.categoryOf request) request.method = true)
    (unreadable : Content.collect request.body = some (.error error)) :
    monitor.receive now request = (.refused error, []) := by
  simp only [receive, if_pos captures, unreadable]

theorem receive_of_endless
    (captures : monitor.capturesRequest (monitor.categoryOf request) request.method = true)
    (endless : Content.collect request.body = none) :
    monitor.receive now request = (.unread, []) := by
  simp only [receive, if_pos captures, endless]

theorem receive_of_uncaptured
    (spared : ¬ monitor.capturesRequest (monitor.categoryOf request) request.method = true) :
    monitor.receive now request =
      (.admitted (.watched ⟨request, monitor.categoryOf request, monitor.visitOf request, [],
          now.steady⟩),
        monitor.trail.reportRequest request.method request.target.pathAndQuery []) := by
  simp only [receive, if_neg spared]
  rfl

/-- A request that is watched reaches its handler with the same content, whether its body is captured
or not. -/
theorem receive_content {bytes : Bytes} (readable : Reads request.body (.ok bytes)) :
    ∃ passage reports, monitor.receive now request = (.admitted (.watched passage), reports) ∧
      passage.request.SameContent request := by
  by_cases captures : monitor.capturesRequest (monitor.categoryOf request) request.method = true
  · refine ⟨_, _, monitor.receive_of_captured now captures
      ((Content.collect_eq_some_iff _ _).mpr readable), ⟨rfl, rfl, rfl, rfl, fun result => ?_⟩⟩
    exact ⟨fun reads => (Content.reads_ofBytes bytes).unique reads ▸ readable,
      fun reads => readable.unique reads ▸ Content.reads_ofBytes bytes⟩
  · exact ⟨_, _, monitor.receive_of_uncaptured now captures, .refl request⟩

/-- **A request whose body can be read** is let in, with its content. -/
theorem letIn_content {origin : Monitor} (rules : origin.GoesBy monitor) {bytes : Bytes}
    (readable : Reads request.body (.ok bytes)) : ∃ later admission events,
      monitor.letIn now request = (later, .admitted admission, events) ∧
        admission.request.SameContent request ∧ origin.GoesBy later := by
  unfold letIn
  by_cases passes : monitor.passesBy (monitor.categoryOf request) = true
  · rw [if_pos passes]
    exact ⟨_, _, _, rfl, .refl request, rules⟩
  · rw [if_neg passes]
    have paused := rules.pause (monitor.waitsFor request)
    rcases result : monitor.pause (monitor.waitsFor request) with ⟨later, meanwhile⟩
    rw [result] at paused
    obtain ⟨passage, reports, received, same⟩ := later.receive_content now readable
    simp only [received]
    exact ⟨_, _, _, rfl, same, paused⟩

end

section

variable {β : Type} [Content β] {origin monitor : Monitor} (rules : origin.GoesBy monitor)

include rules

/-- A response is passed on with its status and its fields, and with a body of the handler's. -/
theorem conduct_carries (now : Moment) (admission : Admission β) (response : Response β) :
    ∃ passed, (monitor.conduct now admission (.ok response)).2.1 = .answered passed ∧
      passed.status = response.status ∧ passed.headers = response.headers ∧
        passed.body.Carries response.body := by
  cases admission with
  | passing request => exact ⟨_, rfl, rfl, rfl, .plain⟩
  | watched passage =>
    show ∃ passed, (monitor.respond now passage response).2.1 = _ ∧ _
    unfold respond
    by_cases captures : monitor.capturesResponse passage.category = true
    · have finish := (rules.concludeIf now
        (Capture.start response.body (passage.exchange response.status)).2).2
      simp only [if_pos captures, finish]
      refine ⟨_, rfl, rfl, rfl, ?_⟩
      unfold Capture.start
      by_cases ended : Source.atEnd response.body = true
      · rw [if_pos ended]
        exact .captured _
      · rw [if_neg ended]
        exact .captured _
    · have finish := (rules.concludeDirect now passage response.status).2
      simp only [if_neg captures, finish]
      exact ⟨_, rfl, rfl, rfl, .plain⟩

end

/-- **A request that was let in** is given to the handler, whose answer is the client's. -/
theorem handle_of_admitted {β : Type} [Content β] {origin monitor later : Monitor}
    {received : Moment} {request : Request β} {admission : Admission β} {events : List Event}
    (admitted : monitor.letIn received request = (later, .admitted admission, events))
    (answered : Moment) (handler : Handler β) :
    let handled := monitor.handle received answered request handler
    handled.given = some admission.request ∧
      (∀ text, handler.answer admission.request = .error text →
        handled.result = .failed (.handler text)) ∧
      (origin.GoesBy later → ∀ response, handler.answer admission.request = .ok response →
        ∃ passed, handled.result = .answered passed ∧ passed.status = response.status ∧
          passed.headers = response.headers ∧
          ∀ probes, watch passed.body probes = watch response.body probes) := by
  have paused : (monitor.handle received answered request handler).result =
      ((later.pause (handler.waits admission.request)).1.conduct answered admission
        (handler.answer admission.request)).2.1 := by
    unfold handle
    rw [admitted]
  refine ⟨?_, fun text fails => ?_, fun rules response gives => ?_⟩
  · unfold handle
    rw [admitted]
  · rw [paused, fails]
    cases admission with
    | passing request => rfl
    | watched passage => rfl
  · obtain ⟨passed, result, status, headers, carries⟩ :=
      conduct_carries (rules.pause (handler.waits admission.request)) answered admission response
    rw [paused, gives]
    exact ⟨passed, result, status, headers, watch_eq carries⟩

/-- **A handler and a client see nothing of the monitor.** A request whose body can be read reaches
its handler, with its method, its target, its fields and all bytes of its body. What the handler
fails with is what the client is told, and a response that it gives is the client's, with a body that
says at every moment what the handler's own would say. No sink goes down meanwhile. -/
theorem handle_transparent {β : Type} [Content β] (monitor : Monitor)
    (staysUp : ∀ sink ∈ monitor.trail.sinks, sink.StaysUp) (received answered : Moment)
    (request : Request β) (handler : Handler β) {bytes : Bytes}
    (readable : Reads request.body (.ok bytes)) (seesContent : handler.SeesContent) :
    (∃ given, (monitor.handle received answered request handler).given = some given ∧
      given.method = request.method ∧ given.target = request.target ∧
        given.headers = request.headers ∧ Reads given.body (.ok bytes)) ∧
    (∀ text, handler.answer request = .error text →
      (monitor.handle received answered request handler).result = .failed (.handler text)) ∧
    ∀ response, handler.answer request = .ok response → ∃ passed,
      (monitor.handle received answered request handler).result = .answered passed ∧
        passed.status = response.status ∧ passed.headers = response.headers ∧
        ∀ probes, watch passed.body probes = watch response.body probes := by
  obtain ⟨later, admission, events, admitted, same, rules⟩ :=
    monitor.letIn_content received (goesBy_self staysUp) readable
  have answers : handler.answer admission.request = handler.answer request :=
    seesContent _ _ same
  obtain ⟨given, fails, gives⟩ := handle_of_admitted admitted answered handler
  rw [answers] at fails gives
  exact ⟨⟨admission.request, given, same.method, same.target, same.headers,
    (same.body _).mpr readable⟩, fails, gives rules⟩

/-- A body that stalls is captured on its way in. On its way out it is of known length, or it fails and
goes on, and its trailing fields stall and fail as well. -/
theorem handle_transparent_debug :
    let classifier : Classifier := ⟨.ofList ["mp4"], ["/static"], "/api/list", "/api/get", []⟩
    let monitor : Monitor := ⟨classifier, ⟨classifier.extensions, .name⟩, .principal,
      ⟨.debug, .columns, .aggregated, 10, .ofList [.memory .empty]⟩⟩
    let now : Moment := ⟨⟨2024, 1, 2, 3, 4, 5⟩, 0⟩
    let request : Request Body := ⟨"POST", .origin "/api/me".toList, [], {},
      .stream [.chunk [1], .pending, .chunk [2]] []⟩
    let handler (body : Body) : Handler Body := ⟨fun request => match Content.collect request.body with
      | some (.ok [1, 2]) => .ok ⟨200, [], body⟩
      | _ => .error "other", fun _ => true⟩
    let handled (body : Body) := monitor.handle now now request (handler body)
    let bodies : List Body := [.sized [[3], [], [4, 5]],
      .stream [.pending, .chunk [3], .failure .aborted, .chunk [4], .ended, .chunk [5]]
        [.pending, .failure (.stream "reset"), .fields (some []), .fields none]]
    ∀ body ∈ bodies, ∃ passed, (handled body).result = .answered passed ∧
      passed.body.isCaptured = true ∧ ∀ probes, watch passed.body probes = watch body probes := by
  intro classifier monitor now request handler handled bodies body member
  have staysUp : ∀ sink ∈ monitor.trail.sinks, sink.StaysUp :=
    List.forall_mem_singleton.mpr trivial
  have seesContent : (handler body).SeesContent := by
    intro first second same
    simp only [handler, same.collect]
  have readable : Reads request.body (.ok [1, 2]) := Body.reads_collect request.body
  have general :=
    monitor.handle_transparent staysUp now now request (handler body) readable seesContent
  obtain ⟨passed, result, -, -, watched⟩ := general.2.2 ⟨200, [], body⟩ rfl
  have captured : ∀ body ∈ bodies, (match (handled body).result with
      | .answered response => response.body.isCaptured
      | _ => false) = true := by
    decide +kernel
  have here := captured body member
  rw [show (handled body).result = .answered passed from result] at here
  exact ⟨passed, result, here, watched⟩

end Monitor

end MediaTrail
