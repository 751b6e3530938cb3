/-
**The fate of a request.** In debug mode every request is told of twice: before its handler gets it,
and once its answer is complete. A `Fate` is how far a request has come in this respect: whether it
was let in, whether its handler answered, and what became of the body of the answer. What was reported
of the request can be read off its fate (`Fate.reports`), and each thing that a monitor does for it
reports what is new and nothing else (`Leads`).

An access to a media file itself is complete once its handler has answered, and all other answers once
their bodies have ended. That the monitor goes by this is `capturesResponse_iff`, and which requests it
is blind to is `passesBy_iff`.

* `Fate.happen`: what happens to a request;
* `Fate.Follows`: a fate goes along with what a session has left of its request;
* `letIn_leads`, `conduct_leads`, `pollBody_leads`, `drainRounds_leads`: one law for each thing that a
  monitor does for a request.
-/

import MediaTrail.Proofs.OneRequest
import MediaTrail.Proofs.UnreadableRequests

namespace MediaTrail

open Text (Bytes)

/-! ### What there is to report -/

/-- What is reported of a request before its handler gets it: its line, and its body if one was
captured and is not empty. -/
def Monitor.Passage.opening {β : Type} (passage : Monitor.Passage β) : List Event :=
  .request passage.visit.method passage.visit.pathAndQuery ::
    if passage.requestBody = [] then [] else [.requestBody (Text.Utf8.lossy passage.requestBody)]

namespace Monitor

/-- The records of an access: of a media file itself, or of the hits of an exchange. -/
def recordsOf (monitor : Monitor) (now : Moment) (exchange : Exchange) : List Record :=
  if exchange.category = .directMedia then
    [Trail.directRecord now exchange.visit exchange.status (now.since exchange.started)]
  else monitor.hitRecords now exchange

/-- What is reported of a request once its answer is complete: its outcome, in short if it produced a
record, and the beginning of the body if one was captured and is not empty. -/
def closing (monitor : Monitor) (now : Moment) (exchange : Exchange) : List Event :=
  (if monitor.recordsOf now exchange ≠ [] then
      .mediaResponse exchange.status (now.since exchange.started)
    else
      .response exchange.visit.method exchange.visit.pathAndQuery exchange.status
        (now.since exchange.started)) ::
    if exchange.responseBody = [] then []
    else [.responseBody (excerpt exchange.responseBody monitor.trail.bodyLimit)]

/-- Whether requests of a class pass by unseen. -/
def Overlooks (monitor : Monitor) (category : Category) : Prop :=
  monitor.trail.mode = .standard ∧ (category = .ignored ∨ category = .other)

instance (monitor : Monitor) (category : Category) : Decidable (monitor.Overlooks category) :=
  inferInstanceAs (Decidable (_ ∧ (_ ∨ _)))

theorem passesBy_iff (monitor : Monitor) (category : Category) :
    monitor.passesBy category = true ↔ monitor.Overlooks category := by
  unfold passesBy Overlooks Trail.isDebug
  cases monitor.trail.mode <;> simp

/-- Of all requests that are seen, those for media files themselves have the bodies of their answers
left alone. -/
theorem capturesResponse_iff {monitor : Monitor} {category : Category}
    (seen : ¬ monitor.Overlooks category) :
    monitor.capturesResponse category = true ↔ category ≠ .directMedia := by
  unfold Overlooks at seen
  unfold capturesResponse Trail.isDebug
  cases mode : monitor.trail.mode with
  | standard =>
    rw [mode] at seen
    cases category <;> simp_all [Category.needsCapture]
  | debug => cases category <;> simp [Category.needsCapture]

end Monitor

/-- How far a request has come. -/
inductive Fate (β : Type) where
  /-- It has not come in. -/
  | unknown
  /-- It came in. -/
  | arriving (received : Moment) (request : Request β)
  /-- Its body had to be captured and failed or has no end, or it was given up before it was read. -/
  | refused
  /-- It is of no interest, and passed by. -/
  | passedBy
  /-- Its handler has it. -/
  | asked (passage : Monitor.Passage β)
  /-- The body of its answer is captured. This is to come, and this was seen of it so far. -/
  | watched (passage : Monitor.Passage β) (exchange : Exchange) (flow : Flow β) (past : List Sight)
  /-- Its answer is complete. -/
  | answered (passage : Monitor.Passage β) (now : Moment) (exchange : Exchange)
  /-- Its handler failed, it was given up before it was answered, or the body of its answer failed or
  was dropped before it was complete. -/
  | lost (passage : Monitor.Passage β)

namespace Fate

section

variable {β : Type} (monitor : Monitor) (now : Moment)

/-- A request was read, as far as it has to be captured. -/
def read [Content β] : Fate β → Fate β
  | .arriving received request =>
    let category := monitor.categoryOf request
    let visit := monitor.visitOf request
    if monitor.Overlooks category then .passedBy
    else if monitor.ReadsBody request then
      match Content.collect request.body with
      | some (.ok bytes) =>
        .asked ⟨{ request with body := Content.ofBytes bytes }, category, visit, bytes,
          received.steady⟩
      | some (.error _) | none => .refused
    else .asked ⟨request, category, visit, [], received.steady⟩
  | fate => fate

/-- A moment of the body of an answer, which may be its last one. -/
def look (passage : Monitor.Passage β) (exchange : Exchange) (flow : Flow β) (past : List Sight)
    (sight : Sight) : Fate β :=
  if sight.reportsEnd then .answered passage now (exchange.answeredBy (past ++ [sight]))
  else if sight.isFailure then .lost passage
  else .watched passage exchange flow (past ++ [sight])

/-- The handler of a request answered, or failed. Where a media file itself was asked for the answer is
complete; otherwise it is once its body has ended. -/
def answer [Source β] (fate : Fate β) (answer : Except String (Response β)) : Fate β :=
  match fate, answer with
  | .asked passage, .ok response =>
    let exchange := passage.exchange response.status
    if passage.category = .directMedia then .answered passage now exchange
    else
      look now passage exchange ⟨response.body, false⟩ [] (.opened (Source.atEnd response.body))
  | .asked passage, .error _ => .lost passage
  | fate, _ => fate

/-- The body of an answer is polled for data. -/
def poll [Source β] : Fate β → Fate β
  | .watched passage exchange flow past =>
    let (polled, flow) := flow.poll
    look now passage exchange flow past (.polled polled flow.atEnd)
  | fate => fate

/-- The body of an answer is polled for data several times. -/
def polls [Source β] (rounds : Nat) (fate : Fate β) : Fate β :=
  match rounds with
  | 0 => fate
  | rounds + 1 => polls rounds (fate.poll now)

/-- The body of an answer is polled for trailing fields. -/
def pollTrailers [Source β] : Fate β → Fate β
  | .watched passage exchange flow past => .watched passage exchange flow.pollTrailers past
  | fate => fate

/-- The body of an answer is turned into one of the server's kind. -/
def convert : Fate β → Fate β
  | .watched passage exchange flow past => .watched passage exchange flow.convert past
  | fate => fate

/-- The body of an answer is dropped. -/
def drop : Fate β → Fate β
  | .watched passage .. => .lost passage
  | fate => fate

/-- A request is given up before it is answered. -/
def abandon : Fate β → Fate β
  | .arriving .. => .refused
  | .asked passage => .lost passage
  | fate => fate

/-- What was reported of a request, if anything is reported at all. -/
def reports : Fate β → List Event
  | .unknown | .arriving .. | .refused | .passedBy => []
  | .asked passage | .watched passage .. | .lost passage => passage.opening
  | .answered passage now exchange => passage.opening ++ monitor.closing now exchange

/-- The records that a request produced. -/
def records : Fate β → List Record
  | .answered _ now exchange => monitor.recordsOf now exchange
  | _ => []

variable [Content β]

/-- A request comes in, and is read and answered at once. -/
def handle (request : Request β) (handler : Handler β) : Fate β :=
  match read monitor (.arriving now request) with
  | .asked passage => answer now (.asked passage) (handler.answer passage.request)
  | fate => fate

/-- What happens to a request. -/
def happen (fate : Fate β) : Happening β → Fate β
  | .step (.request request handler) => handle monitor now request handler
  | .step (.poll _) => fate.poll now
  | .step (.pollTrailers _) => fate.pollTrailers
  | .step (.drain _ rounds) => fate.polls now rounds
  | .step (.drop _) => fate.drop
  | .step (.convert _) => fate.convert
  | .arrive request => .arriving now request
  | .read _ => fate.read monitor
  | .answer _ answer => fate.answer now answer
  | .abandon _ => fate.abandon

/-- The fate of a request after some happenings. -/
def after (fate : Fate β) (happenings : List (Moment × Happening β)) : Fate β :=
  happenings.foldl (fun fate entry => fate.happen monitor entry.1 entry.2) fate

end

/-- What was reported of a request: nothing except in debug mode. -/
def shown {β : Type} (monitor : Monitor) (fate : Fate β) : List Event :=
  if monitor.trail.isDebug then fate.reports monitor else []

end Fate

/-- Nothing comes of a request whose body was to be captured and fails, or has no end. -/
theorem Fate.read_of_unreadable {β : Type} [Content β] {monitor : Monitor} {request : Request β}
    (received : Moment) (seen : ¬ monitor.Overlooks (monitor.categoryOf request))
    (reads : monitor.ReadsBody request)
    (unreadable : ∀ bytes, Content.collect request.body ≠ some (.ok bytes)) :
    read monitor (.arriving received request) = .refused := by
  simp only [read, if_neg seen, if_pos reads]
  split
  · rename_i bytes collected
    exact absurd collected (unreadable bytes)
  · rfl
  · rfl

/-! ### Reports among events -/

/-- The reports among some events. -/
def reportsAmong (events : List Event) : List Event := events.filter Event.isReport

@[simp] theorem reportsAmong_nil : reportsAmong [] = [] := rfl

@[simp] theorem reportsAmong_append (first second : List Event) :
    reportsAmong (first ++ second) = reportsAmong first ++ reportsAmong second :=
  List.filter_append ..

theorem reportsAmong_of_noReport {events : List Event} (silent : NoReport events) :
    reportsAmong events = [] :=
  List.filter_eq_nil_iff.mpr fun event member => by simp [silent event member]

/-- Sinks that are given a line report nothing. -/
theorem Outlets.noReport_emit (outlets : Outlets) (record : Record) (line : String) :
    NoReport (outlets.emit record line).2.2 := by
  have silent (sinks : List Sink) :
      NoReport ((emissionsOf record line sinks).flatMap Emission.events) := by
    induction sinks with
    | nil => exact noReport_nil
    | cons sink behind ih =>
      have here := sink.noReport_emit record line
      unfold emissionsOf
      dsimp only
      split
      · simpa using here
      · exact (noReport_append _ _).mpr ⟨here, ih⟩
      · exact (noReport_append _ _).mpr ⟨here, ih⟩
  exact silent outlets.sinks

namespace Trail

theorem noReport_emit (trail : Trail) (record : Record) : NoReport (trail.emit record).2.2 :=
  trail.outlets.noReport_emit record _

/-- Records that are given to sinks are no reports. -/
theorem noReport_emitAll (trail : Trail) (records : List Record) :
    NoReport (trail.emitAll records).2.2 := by
  induction records generalizing trail with
  | nil => exact noReport_nil
  | cons record later ih =>
    have here := trail.noReport_emit record
    unfold emitAll
    rcases result : trail.emit record with ⟨after, finish, events⟩
    rw [result] at here
    cases finish with
    | regular => exact (noReport_append _ _).mpr ⟨here, ih after⟩
    | crashed => exact here

theorem reportsAmong_reportRequest {β : Type} (trail : Trail) (passage : Monitor.Passage β) :
    reportsAmong (trail.reportRequest passage.visit.method passage.visit.pathAndQuery
      passage.requestBody) = if trail.isDebug then passage.opening else [] := by
  unfold reportRequest Monitor.Passage.opening
  cases trail.isDebug with
  | false => rfl
  | true => cases passage.requestBody <;> rfl

theorem reportsAmong_reportResponse (trail : Trail) (isMedia : Bool) (visit : Visit) (status : Nat)
    (latency : Span) (body : Bytes) :
    reportsAmong (trail.reportResponse isMedia visit status latency body) =
      trail.reportResponse isMedia visit status latency body := by
  unfold reportResponse
  cases trail.isDebug with
  | false => rfl
  | true => cases isMedia <;> cases body <;> rfl

end Trail

/-! ### Rules and reports -/

namespace Monitor

theorem reportResponse_eq (monitor : Monitor) (now : Moment) (exchange : Exchange) {isMedia : Bool}
    (produced : isMedia = true ↔ monitor.recordsOf now exchange ≠ []) :
    monitor.trail.reportResponse isMedia exchange.visit exchange.status
        (now.since exchange.started) exchange.responseBody =
      if monitor.trail.isDebug then monitor.closing now exchange else [] := by
  unfold Trail.reportResponse closing
  simp only [← produced, List.isEmpty_iff]

/-- An exchange that is complete is reported as it should be. -/
theorem conclude_reports {origin monitor : Monitor} (rules : origin.GoesBy monitor) (now : Moment)
    {exchange : Exchange} (notDirect : exchange.category ≠ .directMedia) :
    reportsAmong (monitor.conclude now exchange).2.2 =
      if origin.trail.isDebug then origin.closing now exchange else [] := by
  have records : origin.recordsOf now exchange = origin.hitRecords now exchange := if_neg notDirect
  have produced : decide (0 < (origin.hitRecords now exchange).length) = true ↔
      origin.recordsOf now exchange ≠ [] := by
    rw [records, decide_eq_true_eq, List.length_pos_iff]
  rw [rules.conclude_eq now exchange, reportsAmong_append,
    reportsAmong_of_noReport (Trail.noReport_emitAll _ _), List.nil_append,
    Trail.reportsAmong_reportResponse, origin.reportResponse_eq now exchange produced]

end Monitor

/-! ### What a session has left of a request -/

/-- A place from which no answer is awaited any more. -/
def Place.IsIdle {β : Type} : Place β → Prop
  | .vacant => True
  | .passed outgoing =>
    ∀ recorder flow, outgoing.captured? = some (recorder, flow) → recorder.awaited = none
  | .arriving .. | .awaiting _ => False

namespace Outgoing

variable {β : Type}

theorem isIdle_of_uncaptured {outgoing : Outgoing β} (uncaptured : outgoing.captured? = none) :
    (Place.passed outgoing).IsIdle :=
  fun _ _ captured => nomatch uncaptured ▸ captured

/-- From an idle place nothing is delivered. -/
theorem poll_of_idle [Source β] {outgoing : Outgoing β} (idle : (Place.passed outgoing).IsIdle) :
    outgoing.poll.2.2 = none ∧ (Place.passed outgoing.poll.2.1).IsIdle := by
  cases held : outgoing.captured? with
  | none =>
    obtain ⟨still, delivered⟩ := poll_of_uncaptured held
    exact ⟨delivered, isIdle_of_uncaptured still⟩
  | some found =>
    obtain ⟨recorder, flow⟩ := found
    have unawaited := idle recorder flow held
    obtain ⟨delivered, -, left⟩ := poll_of_captured held
    have nothing : (recorder.observe flow.poll.1 flow.poll.2.atEnd).2 = none :=
      congrArg Prod.snd (recorder.observe_idle _ _ unawaited)
    refine ⟨delivered.trans nothing, ?_⟩
    rcases left with goesOn | ⟨letGo, -⟩
    · intro other behind same
      cases goesOn.symm.trans same
      exact Recorder.awaited_observe unawaited _ _
    · exact isIdle_of_uncaptured letGo

end Outgoing

namespace Fate

/-- There is nothing more to come of a request. -/
inductive IsOver {β : Type} : Fate β → Prop
  | refused : IsOver .refused
  | passedBy : IsOver .passedBy
  | answered (passage : Monitor.Passage β) (now : Moment) (exchange : Exchange) :
    IsOver (.answered passage now exchange)
  | lost (passage : Monitor.Passage β) : IsOver (.lost passage)

/-- A fate goes along with a place in a session, or with none while its request has not come in. -/
inductive Follows {β : Type} [Content β] (origin : Monitor) : Fate β → Option (Place β) → Prop
  | unknown : Follows origin .unknown none
  | arriving (received : Moment) (request : Request β) :
    Follows origin (.arriving received request) (some (.arriving received request))
  | endless (received : Moment) (request : Request β)
    (unread : read origin (.arriving received request) = .refused) :
    Follows origin .refused (some (.arriving received request))
  | passing (request : Request β) : Follows origin .passedBy (some (.awaiting (.passing request)))
  | asked (passage : Monitor.Passage β) (seen : ¬ origin.Overlooks passage.category) :
    Follows origin (.asked passage) (some (.awaiting (.watched passage)))
  | watched (passage : Monitor.Passage β) (exchange : Exchange) (outgoing : Outgoing β)
    (recorder : Recorder) (flow : Flow β) (past : List Sight)
    (captured : outgoing.captured? = some (recorder, flow))
    (kept : recorder.Keeps exchange past) (stillOpen : undecided past = true)
    (notDirect : exchange.category ≠ .directMedia) :
    Follows origin (.watched passage exchange flow past) (some (.passed outgoing))
  | finished (fate : Fate β) (place : Place β) (isOver : fate.IsOver) (idle : place.IsIdle) :
    Follows origin fate (some place)

namespace IsOver

/-! What is over stays as it is. -/

variable {β : Type} {fate : Fate β} (isOver : fate.IsOver)

include isOver

theorem read [Content β] (monitor : Monitor) : fate.read monitor = fate := by cases isOver <;> rfl

theorem abandon : fate.abandon = fate := by cases isOver <;> rfl

theorem drop : fate.drop = fate := by cases isOver <;> rfl

theorem convert : fate.convert = fate := by cases isOver <;> rfl

variable [Source β]

theorem answer (now : Moment) (answer : Except String (Response β)) :
    fate.answer now answer = fate := by cases isOver <;> rfl

theorem poll (now : Moment) : fate.poll now = fate := by cases isOver <;> rfl

theorem polls (now : Moment) (rounds : Nat) : fate.polls now rounds = fate := by
  induction rounds with
  | zero => rfl
  | succ rounds ih => rw [Fate.polls, isOver.poll, ih]

theorem pollTrailers : fate.pollTrailers = fate := by cases isOver <;> rfl

end IsOver

/-- What is done with a body matters only to requests whose answers are watched. -/
structure NeedsWatched {β : Type} (next : Fate β → Fate β) : Prop where
  unknown : next .unknown = .unknown
  arriving : ∀ received request, next (.arriving received request) = .arriving received request
  asked : ∀ passage, next (.asked passage) = .asked passage
  isOver : ∀ fate, fate.IsOver → next fate = fate

theorem needsWatched_poll {β : Type} [Source β] (now : Moment) :
    NeedsWatched fun fate : Fate β => fate.poll now :=
  ⟨rfl, fun _ _ => rfl, fun _ => rfl, fun _ isOver => isOver.poll now⟩

theorem NeedsWatched.polls {β : Type} [Source β] (now : Moment) (rounds : Nat) :
    NeedsWatched fun fate : Fate β => fate.polls now rounds := by
  have still {fate : Fate β} (same : fate.poll now = fate) : fate.polls now rounds = fate := by
    induction rounds with
    | zero => rfl
    | succ rounds ih => rw [Fate.polls, same, ih]
  exact ⟨still rfl, fun _ _ => still rfl, fun _ => still rfl, fun _ isOver => isOver.polls now rounds⟩

section

variable {β : Type} [Content β] {origin : Monitor} {fate : Fate β} {place : Option (Place β)}

theorem Follows.eq_unknown (follows : fate.Follows origin none) : fate = .unknown := by
  cases follows
  rfl

theorem Follows.unwatched (follows : fate.Follows origin place)
    (gone : place.bind Place.body? = none) {next : Fate β → Fate β} (needs : NeedsWatched next) :
    next fate = fate := by
  cases follows with
  | watched passage exchange outgoing recorder flow past captured kept stillOpen notDirect =>
    cases gone
  | finished fate place isOver idle => exact needs.isOver fate isOver
  | endless received request unread => exact needs.isOver _ .refused
  | unknown => exact needs.unknown
  | arriving received request => exact needs.arriving received request
  | passing request => exact needs.isOver _ .passedBy
  | asked passage seen => exact needs.asked passage

/-! Requests are read, answered and given up where they are. -/

/-- A request that is still to be read is read as one that has just come in, and nothing was reported
of it yet. -/
theorem Follows.read_eq {received : Moment} {request : Request β}
    (follows : fate.Follows origin (some (.arriving received request))) (monitor : Monitor) :
    fate.read origin = read origin (.arriving received request) ∧
      fate.reports monitor = [] ∧ fate.abandon = .refused := by
  cases follows with
  | arriving received request => exact ⟨rfl, rfl, rfl⟩
  | endless received request unread => exact ⟨unread.symm, rfl, rfl⟩
  | finished fate place isOver idle => exact idle.elim

theorem Follows.read_elsewhere (follows : fate.Follows origin place) (monitor : Monitor)
    (elsewhere : ∀ received request, place ≠ some (.arriving received request)) :
    fate.read monitor = fate := by
  cases follows with
  | arriving received request | endless received request unread =>
    exact absurd rfl (elsewhere received request)
  | finished fate place isOver idle => exact isOver.read monitor
  | unknown | passing request | asked passage seen
  | watched passage exchange outgoing recorder flow past captured kept stillOpen notDirect => rfl

theorem Follows.answer_elsewhere (follows : fate.Follows origin place) (now : Moment)
    (answer : Except String (Response β))
    (elsewhere : ∀ admission, place ≠ some (.awaiting admission)) :
    fate.answer now answer = fate := by
  cases follows with
  | passing request | asked passage seen => exact absurd rfl (elsewhere _)
  | finished fate place isOver idle => exact isOver.answer now answer
  | unknown | arriving received request | endless received request unread
  | watched passage exchange outgoing recorder flow past captured kept stillOpen notDirect => rfl

theorem Follows.abandon_elsewhere (follows : fate.Follows origin place)
    (notArriving : ∀ received request, place ≠ some (.arriving received request))
    (notAwaiting : ∀ admission, place ≠ some (.awaiting admission)) : fate.abandon = fate := by
  cases follows with
  | arriving received request | endless received request unread =>
    exact absurd rfl (notArriving received request)
  | passing request | asked passage seen => exact absurd rfl (notAwaiting _)
  | finished fate place isOver idle => exact isOver.abandon
  | unknown
  | watched passage exchange outgoing recorder flow past captured kept stillOpen notDirect => rfl

/-- A request that is given up leaves nothing behind, and nobody is told. -/
theorem Follows.abandon_awaiting {admission : Monitor.Admission β}
    (follows : fate.Follows origin (some (.awaiting admission))) (monitor : Monitor) :
    fate.abandon.IsOver ∧ fate.abandon.reports monitor = fate.reports monitor := by
  cases follows with
  | passing request => exact ⟨.passedBy, rfl⟩
  | asked passage seen => exact ⟨.lost passage, rfl⟩
  | finished fate place isOver idle => exact idle.elim

end

/-- From one fate of a request to the next one, a monitor reports what is new. -/
structure Leads {β : Type} (origin : Monitor) (fate next : Fate β) (told : Monitor × List Event) :
    Prop where
  rules : origin.GoesBy told.1
  reports : next.shown origin = fate.shown origin ++ reportsAmong told.2

section

variable {β : Type} {origin monitor later : Monitor} {fate next last : Fate β}
  {events more : List Event}

theorem Leads.silent (rules : origin.GoesBy monitor) (silent : NoReport events) :
    Leads origin fate fate (monitor, events) :=
  ⟨rules, by rw [reportsAmong_of_noReport silent, List.append_nil]⟩

/-- A change of which nobody is told. -/
theorem Leads.unseen (rules : origin.GoesBy monitor)
    (same : next.reports origin = fate.reports origin) : Leads origin fate next (monitor, []) :=
  ⟨rules, by rw [shown, shown, same, reportsAmong_nil, List.append_nil]⟩

theorem Leads.trans (first : Leads origin fate next (monitor, events))
    (second : Leads origin next last (later, more)) :
    Leads origin fate last (later, events ++ more) :=
  ⟨second.rules, by rw [second.reports, first.reports, reportsAmong_append, List.append_assoc]⟩

theorem Leads.pause (rules : origin.GoesBy monitor) (waits : Bool) :
    Leads origin fate fate (monitor.pause waits) :=
  .silent (rules.pause waits) (monitor.noReport_pause waits)

/-- **A moment of the body of an answer** is reported if the answer is complete with it. -/
theorem look_leads (rules : origin.GoesBy monitor) (now : Moment) {passage : Monitor.Passage β}
    {exchange : Exchange} (notDirect : exchange.category ≠ .directMedia)
    (opened : fate.reports origin = passage.opening) (flow : Flow β) {past : List Sight}
    (stillOpen : undecided past = true) (sight : Sight) :
    let concluded := monitor.concludeIf now (owed exchange past sight)
    Leads origin fate (look now passage exchange flow past sight) (concluded.1, concluded.2.2) := by
  intro concluded
  refine ⟨(rules.concludeIf now _).1, ?_⟩
  show _ = fate.shown origin ++ reportsAmong (monitor.concludeIf now (owed exchange past sight)).2.2
  unfold owed look
  rw [stillOpen, Bool.true_and]
  cases ends : sight.reportsEnd with
  | true =>
    have answered : (exchange.answeredBy (past ++ [sight])).category ≠ .directMedia := notDirect
    show shown origin (.answered ..) = fate.shown origin ++ reportsAmong (monitor.conclude ..).2.2
    rw [Monitor.conclude_reports rules now answered, shown, shown, opened]
    cases origin.trail.isDebug <;> rfl
  | false =>
    show shown origin (if sight.isFailure = true then _ else _) = fate.shown origin ++ []
    rw [List.append_nil, shown, shown, opened]
    cases sight.isFailure <;> rfl

theorem isOver_look_of_isLast (now : Moment) (passage : Monitor.Passage β) (exchange : Exchange)
    (flow : Flow β) (past : List Sight) {polled : Polled} (atEnd : Bool)
    (isLast : polled.isLast = true) :
    (look now passage exchange flow past (.polled polled atEnd)).IsOver := by
  cases polled with
  | chunk bytes | pending => cases isLast
  | failure error => exact .lost passage
  | ended => exact .answered passage now _

/-- An access to a media file itself is recorded and reported when its handler has answered. -/
theorem direct_leads (rules : origin.GoesBy monitor) (now : Moment) {passage : Monitor.Passage β}
    (direct : passage.category = .directMedia) (status : Nat) :
    let concluded := monitor.concludeDirect now passage status
    Leads origin (.asked passage) (.answered passage now (passage.exchange status))
      (concluded.1, concluded.2.2) := by
  intro concluded
  have records : origin.recordsOf now (passage.exchange status) =
      [Trail.directRecord now passage.visit status (now.since passage.started)] := if_pos direct
  have reported : origin.trail.reportResponse true passage.visit status
      (now.since passage.started) [] =
        if origin.trail.isDebug then origin.closing now (passage.exchange status) else [] :=
    origin.reportResponse_eq now (passage.exchange status)
      (iff_of_true rfl (by rw [records]; exact List.cons_ne_nil _ _))
  refine ⟨(rules.concludeDirect now passage status).1, ?_⟩
  show _ = _ ++ reportsAmong (monitor.concludeDirect now passage status).2.2
  rw [rules.concludeDirect_eq now passage status direct, reportsAmong_append,
    reportsAmong_of_noReport (Trail.noReport_emitAll _ _), List.nil_append,
    Trail.reportsAmong_reportResponse, reported, shown, shown]
  cases origin.trail.isDebug <;> rfl

/-- A fate of which nothing is reported. -/
theorem shown_of_silent (origin : Monitor) (silent : fate.reports origin = []) :
    fate.shown origin = [] := by
  rw [shown, silent, ite_self]

variable [Content β]

/-- A recorder that keeps what it should goes along with the fate of its request. -/
theorem look_follows (now : Moment) (passage : Monitor.Passage β) {outgoing : Outgoing β}
    {recorder : Recorder} {flow : Flow β} {exchange : Exchange} {past : List Sight} {sight : Sight}
    (captured : outgoing.captured? = some (recorder, flow)) (stillOpen : undecided past = true)
    (kept : recorder.Keeps exchange (past ++ [sight]))
    (notDirect : exchange.category ≠ .directMedia) :
    (look now passage exchange flow past sight).Follows origin (some (.passed outgoing)) := by
  have idle (decided : undecided (past ++ [sight]) = false) : (Place.passed outgoing).IsIdle := by
    intro other behind same
    cases captured.symm.trans same
    exact (kept.of_decided decided).1
  unfold look
  cases ends : sight.reportsEnd with
  | true => exact .finished _ _ (.answered ..) (idle (by simp [ends]))
  | false =>
    cases fails : sight.isFailure with
    | true => exact .finished _ _ (.lost _) (idle (by simp [fails]))
    | false =>
      have still : undecided (past ++ [sight]) = true := by simp [stillOpen, ends, fails]
      exact .watched passage exchange outgoing recorder flow _ captured kept still notDirect

/-- **The body of an answer is captured** from its first moment on. -/
theorem start_leads (rules : origin.GoesBy monitor) (now : Moment) {passage : Monitor.Passage β}
    (notDirect : passage.category ≠ .directMedia) (status : Nat) (body : β) :
    let started := Capture.start body (passage.exchange status)
    let concluded := monitor.concludeIf now started.2
    let next := look now passage (passage.exchange status) ⟨body, false⟩ []
      (.opened (Source.atEnd body))
    Leads origin (.asked passage) next (concluded.1, concluded.2.2) ∧
      next.Follows origin (some (.passed (.captured started.1))) := by
  intro started concluded next
  obtain ⟨stage, same⟩ := MediaTrail.start_follows body (passage.exchange status)
  have delivered : started.2 = owed (passage.exchange status) [] (.opened (Source.atEnd body)) :=
    stage.delivered
  have captured : (Outgoing.captured started.1).captured? =
      some (started.1.recorder, ⟨body, false⟩) := by
    rw [Outgoing.captured?, same]
  refine ⟨?_, look_follows now passage captured rfl (stage.kept _ rfl) notDirect⟩
  show Leads origin _ next ((monitor.concludeIf now started.2).1,
    (monitor.concludeIf now started.2).2.2)
  rw [delivered]
  exact look_leads rules now notDirect rfl ⟨body, false⟩ rfl (.opened (Source.atEnd body))

/-- **The handler of a watched request answered.** -/
theorem respond_leads (rules : origin.GoesBy monitor) (now : Moment) {passage : Monitor.Passage β}
    (seen : ¬ origin.Overlooks passage.category) (response : Response β) :
    let responded := monitor.respond now passage response
    let next := Fate.answer now (.asked passage) (.ok response)
    Leads origin (.asked passage) next (responded.1, responded.2.2) ∧
      next.Follows origin (some (Session.placeOf responded.2.1)) := by
  intro responded next
  have captures : monitor.capturesResponse passage.category = true ↔
      passage.category ≠ .directMedia := by
    cases rules with
    | of outlets staysUp => exact Monitor.capturesResponse_iff seen
  by_cases direct : passage.category = .directMedia
  · have isNext : next = .answered passage now (passage.exchange response.status) := if_pos direct
    have spared : ¬ monitor.capturesResponse passage.category = true :=
      fun captured => captures.mp captured direct
    have finish := (rules.concludeDirect now passage response.status).2
    have isResponded : responded =
        ((monitor.concludeDirect now passage response.status).1,
          .answered ⟨response.status, response.headers, .plain response.body⟩,
          (monitor.concludeDirect now passage response.status).2.2) := by
      show monitor.respond now passage response = _
      unfold Monitor.respond
      simp only [if_neg spared, finish]
    rw [isNext, isResponded]
    exact ⟨direct_leads rules now direct response.status,
      .finished _ _ (.answered ..) (Outgoing.isIdle_of_uncaptured rfl)⟩
  · have isNext : next = look now passage (passage.exchange response.status) ⟨response.body, false⟩
        [] (.opened (Source.atEnd response.body)) := if_neg direct
    have captured := captures.mpr direct
    let started := Capture.start response.body (passage.exchange response.status)
    have finish := (rules.concludeIf now started.2).2
    have isResponded : responded =
        ((monitor.concludeIf now started.2).1,
          .answered ⟨response.status, response.headers, .captured started.1⟩,
          (monitor.concludeIf now started.2).2.2) := by
      show monitor.respond now passage response = _
      unfold Monitor.respond
      simp only [if_pos captured, started, finish]
    rw [isNext, isResponded]
    exact start_leads rules now direct response.status response.body

/-- **The handler of a request is done.** -/
theorem conduct_leads {admission : Monitor.Admission β} (rules : origin.GoesBy monitor)
    (follows : fate.Follows origin (some (.awaiting admission))) (now : Moment)
    (answer : Except String (Response β)) :
    let conducted := monitor.conduct now admission answer
    let next := fate.answer now answer
    Leads origin fate next (conducted.1, conducted.2.2) ∧
      next.Follows origin (some (Session.placeOf conducted.2.1)) := by
  cases follows with
  | finished fate place isOver idle => exact idle.elim
  | passing request =>
    refine ⟨?_, ?_⟩
    · cases answer <;> exact .silent rules noReport_nil
    · cases answer with
      | error text => exact .finished _ _ .passedBy trivial
      | ok response => exact .finished _ _ .passedBy (Outgoing.isIdle_of_uncaptured rfl)
  | asked passage seen =>
    cases answer with
    | error text => exact ⟨⟨rules, (List.append_nil _).symm⟩, .finished _ _ (.lost passage) trivial⟩
    | ok response => exact respond_leads rules now seen response

/-- What came of a request that is seen: it is given to its handler with its report, or its body cannot
be read, and it is refused or still there. -/
inductive Received (origin : Monitor) (received : Moment) (request : Request β) :
    Monitor.Entry β × List Event → Prop
  | admitted (passage : Monitor.Passage β) (reports : List Event)
    (isNext : read origin (.arriving received request) = .asked passage)
    (seen : ¬ origin.Overlooks passage.category)
    (opened : reportsAmong reports = if origin.trail.isDebug then passage.opening else []) :
    Received origin received request (.admitted (.watched passage), reports)
  | refused (error : ReadError) (isNext : read origin (.arriving received request) = .refused) :
    Received origin received request (.refused error, [])
  | unread (isNext : read origin (.arriving received request) = .refused) :
    Received origin received request (.unread, [])

theorem receive_reads (rules : origin.GoesBy monitor) (received : Moment) {request : Request β}
    (seen : ¬ origin.Overlooks (origin.categoryOf request)) :
    Received origin received request (monitor.receive received request) := by
  obtain ⟨outlets, staysUp⟩ := rules
  by_cases reads : origin.ReadsBody request
  · have captures : origin.capturesRequest (origin.categoryOf request) request.method = true :=
      (origin.capturesRequest_iff request).mpr reads
    cases collected : Content.collect request.body with
    | none =>
      rw [(origin.withOutlets outlets).receive_of_endless received captures collected]
      exact .unread (read_of_unreadable received seen reads (by simp [collected]))
    | some result =>
      cases result with
      | ok bytes =>
        rw [(origin.withOutlets outlets).receive_of_captured received captures collected]
        exact .admitted _ _ (by simp only [read, if_neg seen, if_pos reads, collected]; rfl) seen
          (origin.trail.reportsAmong_reportRequest
            ⟨{ request with body := Content.ofBytes bytes }, origin.categoryOf request,
              origin.visitOf request, bytes, received.steady⟩)
      | error error =>
        rw [(origin.withOutlets outlets).receive_of_unreadable received captures collected]
        exact .refused error (read_of_unreadable received seen reads (by simp [collected]))
  · have spared : ¬ origin.capturesRequest (origin.categoryOf request) request.method = true :=
      mt (origin.capturesRequest_iff request).mp reads
    rw [(origin.withOutlets outlets).receive_of_uncaptured received spared]
    exact .admitted _ _ (by simp only [read, if_neg seen, if_neg reads]; rfl) seen
      (origin.trail.reportsAmong_reportRequest ⟨request, origin.categoryOf request,
        origin.visitOf request, [], received.steady⟩)

/-- **A request is read.** -/
theorem letIn_leads (rules : origin.GoesBy monitor) (received : Moment) (request : Request β)
    (unheard : fate.reports origin = []) :
    let entered := monitor.letIn received request
    let next := read origin (.arriving received request)
    Leads origin fate next (entered.1, entered.2.2) ∧
      next.Follows origin (some (Session.placeWithin received request entered.2.1)) := by
  have overlooks : monitor.passesBy (monitor.categoryOf request) = true ↔
      origin.Overlooks (origin.categoryOf request) := by
    cases rules with
    | of outlets staysUp => exact origin.passesBy_iff _
  have nothing := shown_of_silent origin unheard
  unfold Monitor.letIn
  by_cases passes : origin.Overlooks (origin.categoryOf request)
  · have isNext : read origin (.arriving received request) = .passedBy := if_pos passes
    rw [if_pos (overlooks.mpr passes), isNext]
    exact ⟨⟨rules, by rw [nothing, shown_of_silent origin rfl]; rfl⟩, .passing request⟩
  · rw [if_neg (mt overlooks.mp passes)]
    have paused := rules.pause (monitor.waitsFor request)
    have waited := monitor.noReport_pause (monitor.waitsFor request)
    rcases result : monitor.pause (monitor.waitsFor request) with ⟨later, meanwhile⟩
    rw [result] at paused waited
    have taken := receive_reads paused received passes
    rcases entered : later.receive received request with ⟨entry, reports⟩
    rw [entered] at taken
    simp only [entered]
    cases taken with
    | admitted passage reports isNext seen opened =>
      rw [isNext]
      refine ⟨⟨paused, ?_⟩, .asked passage seen⟩
      rw [nothing, reportsAmong_append, reportsAmong_of_noReport waited, opened]
      rfl
    | refused error isNext =>
      rw [isNext]
      refine ⟨⟨paused, ?_⟩, .finished _ _ .refused trivial⟩
      rw [nothing, shown_of_silent origin rfl, List.append_nil, reportsAmong_of_noReport waited]
      rfl
    | unread isNext =>
      rw [isNext]
      refine ⟨⟨paused, ?_⟩, .endless received request isNext⟩
      rw [nothing, shown_of_silent origin rfl, List.append_nil, reportsAmong_of_noReport waited]
      rfl

/-- **A request is handled at once.** What is reported before its handler gets it is what is reported
of a request that was read. -/
theorem handle_leads (rules : origin.GoesBy monitor) (now : Moment) (request : Request β)
    (handler : Handler β) :
    let handled := monitor.handle now now request handler
    let next := Fate.handle origin now request handler
    Leads origin .unknown next (handled.monitor, handled.before ++ handled.after) ∧
      next.Follows origin (some (Session.placeAfter now request handled.result)) := by
  obtain ⟨within, follows⟩ : Leads origin .unknown _ _ ∧ _ := letIn_leads rules now request rfl
  unfold Monitor.handle Fate.handle
  rcases entered : monitor.letIn now request with ⟨later, result, before⟩
  rw [entered] at within follows
  generalize read origin (.arriving now request) = fate at follows within ⊢
  cases result with
  | refused error =>
    have left : fate.Follows origin (some .vacant) := follows
    have refused := within.trans (.silent within.rules noReport_nil)
    cases left with
    | finished fate place isOver idle =>
      cases isOver with
      | refused => exact ⟨refused, .finished _ _ .refused trivial⟩
      | passedBy => exact ⟨refused, .finished _ _ .passedBy trivial⟩
      | answered passage now exchange => exact ⟨refused, .finished _ _ (.answered ..) trivial⟩
      | lost passage => exact ⟨refused, .finished _ _ (.lost passage) trivial⟩
  | unread =>
    have left : fate.Follows origin (some (.arriving now request)) := follows
    have unread := within.trans (.silent within.rules noReport_nil)
    cases left with
    | arriving received request => exact ⟨unread, .arriving _ _⟩
    | endless received request isNext => exact ⟨unread, .endless _ _ isNext⟩
    | finished fate place isOver idle => exact idle.elim
  | admitted admission =>
    have left : fate.Follows origin (some (.awaiting admission)) := follows
    have paused : Leads origin fate fate (later.pause (handler.waits admission.request)) :=
      .pause within.rules _
    obtain ⟨conducted, goesOn⟩ :=
      conduct_leads paused.rules left now (handler.answer admission.request)
    have whole := within.trans (paused.trans conducted)
    rw [← Session.placeAfter_conduct now request] at goesOn
    cases left with
    | finished fate place isOver idle => exact idle.elim
    | passing request => exact ⟨whole, goesOn⟩
    | asked passage seen => exact ⟨whole, goesOn⟩

/-- **The body of an answer is polled.** Once it has ended or failed, nothing is left to report. What
the recorder behind the body saw is what the fate sees of its flow. -/
theorem pollBody_leads {outgoing : Outgoing β} (rules : origin.GoesBy monitor)
    (follows : fate.Follows origin (some (.passed outgoing))) (now : Moment) :
    let polled := Session.pollBody monitor now outgoing
    let next := fate.poll now
    Leads origin fate next (polled.2.2.1, polled.2.2.2.2) ∧ polled.2.2.2.1 = .regular ∧
      next.Follows origin (some (.passed polled.2.1)) ∧ (polled.1.isLast = true → next.IsOver) := by
  have finish := (rules.concludeIf now outgoing.poll.2.2).2
  cases follows with
  | finished fate place isOver idle =>
    obtain ⟨nothing, still⟩ := Outgoing.poll_of_idle idle
    unfold Session.pollBody
    rcases result : outgoing.poll with ⟨polled, after, delivered⟩
    rw [result] at nothing still
    obtain rfl : delivered = none := nothing
    rw [isOver.poll]
    exact ⟨.silent rules noReport_nil, rfl, .finished _ _ isOver still, fun _ => isOver⟩
  | watched passage exchange outgoing recorder flow past captured kept stillOpen notDirect =>
    obtain ⟨delivered, last, left⟩ := Outgoing.poll_of_captured captured
    let sight : Sight := .polled flow.poll.1 flow.poll.2.atEnd
    obtain ⟨after, isOwed⟩ := Recorder.observe_keeps kept flow.poll.1 flow.poll.2.atEnd
    have same : outgoing.poll.2.2 = owed exchange past sight := delivered.trans isOwed
    have isOver (isLast : flow.poll.1.isLast = true) :
        (look now passage exchange flow.poll.2 past sight).IsOver :=
      isOver_look_of_isLast now passage exchange _ past _ isLast
    have leads : Leads origin (.watched passage exchange flow past)
        (look now passage exchange flow.poll.2 past sight)
        ((monitor.concludeIf now outgoing.poll.2.2).1,
          (monitor.concludeIf now outgoing.poll.2.2).2.2) := by
      rw [same]
      exact look_leads rules now notDirect rfl _ stillOpen sight
    refine ⟨leads, finish, ?_, fun isLast => isOver (last ▸ isLast)⟩
    show (look now passage exchange flow.poll.2 past sight).Follows origin _
    rcases left with goesOn | ⟨letGo, isLast⟩
    · exact look_follows now passage goesOn stillOpen after notDirect
    · exact .finished _ _ (isOver isLast) (Outgoing.isIdle_of_uncaptured letGo)

/-- **Several polls of the body of an answer**, which stop when it has ended or failed. What they
report comes behind what was reported since some earlier fate. -/
theorem drainRounds_leads (rounds : Nat) {start : Fate β} {outgoing : Outgoing β}
    (follows : fate.Follows origin (some (.passed outgoing))) (now : Moment) (done : List Bytes)
    (before : Leads origin start fate (monitor, events.reverse)) :
    let drained := Session.drainRounds rounds done events monitor now outgoing
    let last := fate.polls now rounds
    Leads origin start last (drained.2.2.1, drained.2.2.2.2) ∧ drained.2.2.2.1 = .regular ∧
      last.Follows origin (some (.passed drained.2.1)) := by
  induction rounds generalizing monitor fate outgoing done events with
  | zero => exact ⟨before, rfl, follows⟩
  | succ rounds ih =>
    obtain ⟨reported, finish, goesOn, stops⟩ := pollBody_leads before.rules follows now
    unfold Session.drainRounds Fate.polls
    rcases result : Session.pollBody monitor now outgoing with ⟨polled, after, later, told, fresh⟩
    rw [result] at reported finish goesOn stops
    obtain rfl : told = .regular := finish
    have further : Leads origin start (fate.poll now) (later, (fresh.reverseAux events).reverse) := by
      rw [List.reverseAux_eq, List.reverse_append, List.reverse_reverse]
      exact before.trans reported
    have fixed (isLast : polled.isLast = true) :
        (fate.poll now).polls now rounds = fate.poll now :=
      (stops isLast).polls now rounds
    cases polled with
    | chunk bytes => exact ih goesOn _ further
    | pending => exact ih goesOn _ further
    | failure error | ended =>
      simp only [fixed rfl]
      exact ⟨further, trivial, goesOn⟩

end

section

variable {β : Type} [Content β] {origin : Monitor} {fate : Fate β} {outgoing : Outgoing β}
  (follows : fate.Follows origin (some (.passed outgoing)))

include follows

theorem Follows.pollTrailers :
    fate.pollTrailers.Follows origin (some (.passed outgoing.pollTrailers.2)) := by
  cases follows with
  | finished fate place isOver idle =>
    rw [isOver.pollTrailers]
    refine .finished _ _ isOver fun recorder flow same => ?_
    cases held : outgoing.captured? with
    | none => cases (Outgoing.pollTrailers_of_uncaptured held).symm.trans same
    | some found =>
      cases (Outgoing.pollTrailers_of_captured held).symm.trans same
      exact idle _ _ held
  | watched passage exchange outgoing recorder flow past captured kept stillOpen notDirect =>
    exact .watched passage exchange _ recorder _ past (Outgoing.pollTrailers_of_captured captured)
      kept stillOpen notDirect

theorem Follows.drop : fate.drop.Follows origin (some .vacant) := by
  cases follows with
  | finished fate place isOver idle =>
    rw [isOver.drop]
    exact .finished _ _ isOver trivial
  | watched passage exchange outgoing recorder flow past captured kept stillOpen notDirect =>
    exact .finished _ _ (.lost passage) trivial

theorem Follows.toServer : fate.convert.Follows origin (some (.passed outgoing.toServer)) := by
  cases follows with
  | finished fate place isOver idle =>
    rw [isOver.convert]
    refine .finished _ _ isOver fun recorder flow same => ?_
    cases held : outgoing.captured? with
    | none => cases (Outgoing.toServer_of_uncaptured held).symm.trans same
    | some found =>
      cases (Outgoing.toServer_of_captured held).symm.trans same
      exact idle _ _ held
  | watched passage exchange outgoing recorder flow past captured kept stillOpen notDirect =>
    exact .watched passage exchange _ recorder _ past (Outgoing.toServer_of_captured captured) kept
      stillOpen notDirect

end

end Fate

end MediaTrail
