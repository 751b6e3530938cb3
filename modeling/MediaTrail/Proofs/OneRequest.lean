/-
**The course of one request.** What is told of a request depends on that request alone: an access to
a media file is told of when its handler has answered, and a query when the body of its answer has
ended without a failure before. A `Course` is how far a request has come in this respect. It knows
of no other request, and of no sink.

* `Flow`: what is to come of a body that is passed on;
* `Course.happen`: what happens to a request, and the lines that tell of it;
* `Course.Follows`: a course goes along with what a session has left of its request;
* `letIn_follows`, `conduct_follows`, `pollBody_follows`, `drainRounds_follows`: one law for each thing
  that a monitor does for a request.
-/

import MediaTrail.Proofs.Delivery
import MediaTrail.Proofs.Transparency
import MediaTrail.Session

namespace MediaTrail

open Text (Bytes)

/-! ### Bodies that are passed on -/

/-- What is to come of a body that is passed on. Once it was turned into one of the server's kind, polls
for trailing fields do not reach it. -/
structure Flow (β : Type) where
  source : β
  converted : Bool

namespace Flow

variable {β : Type} [Source β]

def poll (flow : Flow β) : Polled × Flow β :=
  let (polled, source) := Source.poll flow.source
  (polled, { flow with source := source })

def atEnd (flow : Flow β) : Bool := Source.atEnd flow.source

def pollTrailers (flow : Flow β) : Flow β :=
  if flow.converted then flow else { flow with source := (Source.pollTrailers flow.source).2 }

def convert (flow : Flow β) : Flow β := { flow with converted := true }

end Flow

/-- How far a request has come, as long as something of it may still be told. -/
inductive Course (β : Type) where
  /-- There is nothing to tell of it. -/
  | quiet
  /-- It came in. -/
  | arriving (received : Moment) (request : Request β)
  /-- Its handler has it. -/
  | asked (passage : Monitor.Passage β)
  /-- The body of its answer is passed on. This is to come, and this was seen of it so far. -/
  | passed (exchange : Exchange) (flow : Flow β) (past : List Sight)

namespace Course

section

variable {β : Type} (monitor : Monitor) (now : Moment)

/-- A query was read. There is nothing to tell of it if its body fails or has no end. -/
def readQuery [Content β] (received : Moment) (request : Request β) : Course β :=
  match Content.collect request.body with
  | some (.ok bytes) =>
    .asked ⟨{ request with body := Content.ofBytes bytes }, monitor.categoryOf request,
      monitor.visitOf request, bytes, received.steady⟩
  | some (.error _) | none => .quiet

/-- A request was read. Those that name no media file and ask for none are of no interest. -/
def read [Content β] : Course β → Course β
  | .arriving received request =>
    match monitor.categoryOf request with
    | .directMedia =>
      .asked ⟨request, monitor.categoryOf request, monitor.visitOf request, [], received.steady⟩
    | .listQuery | .getQuery => readQuery monitor received request
    | .ignored | .other => .quiet
  | course => course

/-- A moment of the body of an answer. The hits of the exchange are told if the body ends here; if it
ends or fails, nothing is left to tell. -/
def look (exchange : Exchange) (flow : Flow β) (past : List Sight) (sight : Sight) :
    Course β × List String :=
  (if undecided (past ++ [sight]) then .passed exchange flow (past ++ [sight]) else .quiet,
    monitor.hitLines now (owed exchange past sight))

/-- The handler of a request answered, or failed. An access to a media file is told here. -/
def answer [Source β] (course : Course β) (answer : Except String (Response β)) :
    Course β × List String :=
  match course, answer with
  | .asked passage, .ok response =>
    if passage.category = .directMedia then
      (.quiet, [monitor.directLine now passage response.status])
    else
      look monitor now (passage.exchange response.status) ⟨response.body, false⟩ []
        (.opened (Source.atEnd response.body))
  | .asked _, .error _ => (.quiet, [])
  | course, _ => (course, [])

/-- The body of an answer is polled for data. -/
def poll [Source β] : Course β → Course β × List String
  | .passed exchange flow past =>
    let (polled, flow) := flow.poll
    look monitor now exchange flow past (.polled polled flow.atEnd)
  | course => (course, [])

/-- The body of an answer is polled for data several times. -/
def polls [Source β] (rounds : Nat) (course : Course β) : Course β × List String :=
  match rounds with
  | 0 => (course, [])
  | rounds + 1 =>
    let (next, lines) := course.poll monitor now
    let (last, later) := polls rounds next
    (last, lines ++ later)

/-- The body of an answer is polled for trailing fields. -/
def pollTrailers [Source β] : Course β → Course β
  | .passed exchange flow past => .passed exchange flow.pollTrailers past
  | course => course

/-- The body of an answer is turned into one of the server's kind. -/
def convert : Course β → Course β
  | .passed exchange flow past => .passed exchange flow.convert past
  | course => course

/-- The body of an answer is dropped. -/
def drop : Course β → Course β
  | .passed .. => .quiet
  | course => course

/-- A request is given up before it is answered. -/
def abandon : Course β → Course β
  | .arriving .. | .asked _ => .quiet
  | course => course

variable [Content β]

/-- A request comes in, and is read and answered at once. -/
def handle (request : Request β) (handler : Handler β) : Course β × List String :=
  match read monitor (.arriving now request) with
  | .asked passage => answer monitor now (.asked passage) (handler.answer passage.request)
  | course => (course, [])

/-- What happens to a request, and the lines that tell of it. -/
def happen (course : Course β) : Happening β → Course β × List String
  | .step (.request request handler) => handle monitor now request handler
  | .step (.poll _) => course.poll monitor now
  | .step (.pollTrailers _) => (course.pollTrailers, [])
  | .step (.drain _ rounds) => course.polls monitor now rounds
  | .step (.drop _) => (course.drop, [])
  | .step (.convert _) => (course.convert, [])
  | .arrive request => (.arriving now request, [])
  | .read _ => (course.read monitor, [])
  | .answer _ answer => course.answer monitor now answer
  | .abandon _ => (course.abandon, [])

end

end Course

/-! ### What is captured -/

/-- Whether a poll tells that nothing more is to be polled for. -/
def Polled.isLast : Polled → Bool
  | .ended | .failure _ => true
  | .chunk _ | .pending => false

namespace Outgoing

variable {β : Type}

/-- What is captured of a body that was passed on: its recorder, and what is to come behind it. -/
def captured? : Outgoing β → Option (Recorder × Flow β)
  | .captured capture => some (capture.recorder, ⟨capture.body, false⟩)
  | .adapted (some capture) => some (capture.recorder, ⟨capture.body, true⟩)
  | .plain _ | .converted _ | .adapted none => none

theorem toServer_of_uncaptured {outgoing : Outgoing β} (uncaptured : outgoing.captured? = none) :
    outgoing.toServer.captured? = none := by
  cases outgoing with
  | plain body | converted body | adapted capture => exact uncaptured
  | captured capture => cases uncaptured

theorem toServer_of_captured {outgoing : Outgoing β} {recorder : Recorder} {flow : Flow β}
    (captured : outgoing.captured? = some (recorder, flow)) :
    outgoing.toServer.captured? = some (recorder, flow.convert) := by
  cases outgoing with
  | plain body | converted body => cases captured
  | captured capture =>
    cases captured
    rfl
  | adapted held =>
    cases held with
    | none => cases captured
    | some capture =>
      cases captured
      rfl

variable [Source β]

theorem poll_of_uncaptured {outgoing : Outgoing β} (uncaptured : outgoing.captured? = none) :
    outgoing.poll.2.1.captured? = none ∧ outgoing.poll.2.2 = none := by
  cases outgoing with
  | plain body | converted body => exact ⟨rfl, rfl⟩
  | captured capture => cases uncaptured
  | adapted held =>
    cases held with
    | none => exact ⟨rfl, rfl⟩
    | some capture => cases uncaptured

/-- A body of any kind is polled as what is captured of it, which a body of the server's kind lets go
of once it has ended. -/
theorem poll_of_captured {outgoing : Outgoing β} {recorder : Recorder} {flow : Flow β}
    (captured : outgoing.captured? = some (recorder, flow)) :
    let observed := recorder.observe flow.poll.1 flow.poll.2.atEnd
    outgoing.poll.2.2 = observed.2 ∧ outgoing.poll.1.isLast = flow.poll.1.isLast ∧
      (outgoing.poll.2.1.captured? = some (observed.1, flow.poll.2) ∨
        outgoing.poll.2.1.captured? = none ∧ flow.poll.1.isLast = true) := by
  cases outgoing with
  | plain body | converted body => cases captured
  | captured capture =>
    cases captured
    exact ⟨rfl, rfl, .inl rfl⟩
  | adapted held =>
    cases held with
    | none => cases captured
    | some capture =>
      cases captured
      simp only [Outgoing.poll, Flow.poll, Flow.atEnd, Capture.poll]
      rcases Source.poll capture.body with ⟨polled, after⟩
      cases polled with
      | ended => exact ⟨rfl, rfl, .inr ⟨rfl, rfl⟩⟩
      | failure error => exact ⟨rfl, rfl, .inl rfl⟩
      | chunk bytes | pending => exact ⟨rfl, rfl, .inl rfl⟩

theorem pollTrailers_of_uncaptured {outgoing : Outgoing β} (uncaptured : outgoing.captured? = none) :
    outgoing.pollTrailers.2.captured? = none := by
  cases outgoing with
  | plain body | converted body => rfl
  | captured capture => cases uncaptured
  | adapted capture => exact uncaptured

theorem pollTrailers_of_captured {outgoing : Outgoing β} {recorder : Recorder} {flow : Flow β}
    (captured : outgoing.captured? = some (recorder, flow)) :
    outgoing.pollTrailers.2.captured? = some (recorder, flow.pollTrailers) := by
  cases outgoing with
  | plain body | converted body => cases captured
  | captured capture =>
    cases captured
    rfl
  | adapted held =>
    cases held with
    | none => cases captured
    | some capture =>
      cases captured
      rfl

end Outgoing

/-! ### What a session has left of a request -/

/-- A recorder that may wait for an answer, but for none that is of interest. -/
def Recorder.IsQuiet (recorder : Recorder) : Prop :=
  ∀ exchange, recorder.awaited = some exchange → exchange.category.needsCapture = false

theorem Recorder.Keeps.isQuiet {exchange : Exchange} {past : List Sight} {recorder : Recorder}
    (kept : recorder.Keeps exchange past) (unneeded : exchange.category.needsCapture = false) :
    recorder.IsQuiet := by
  intro awaited isAwaited
  rw [kept.awaited] at isAwaited
  split at isAwaited
  · obtain rfl := Option.some.inj isAwaited
    exact unneeded
  · cases isAwaited

theorem Recorder.isQuiet_idle : Recorder.idle.IsQuiet :=
  fun _ awaited => nomatch awaited

theorem Recorder.IsQuiet.complete {recorder : Recorder} (quiet : recorder.IsQuiet) :
    recorder.complete.1.IsQuiet ∧
      ∀ exchange, recorder.complete.2 = some exchange → exchange.category.needsCapture = false := by
  cases awaited : recorder.awaited with
  | none =>
    rw [Recorder.complete, awaited]
    exact ⟨quiet, fun _ delivered => by cases delivered⟩
  | some exchange =>
    rw [complete_of_awaited awaited]
    refine ⟨isQuiet_idle, fun _ delivered => ?_⟩
    obtain rfl := Option.some.inj delivered
    exact quiet exchange awaited

/-- A recorder that waits for nothing of interest delivers nothing of interest. -/
theorem Recorder.IsQuiet.observe {recorder : Recorder} (quiet : recorder.IsQuiet) (polled : Polled)
    (atEnd : Bool) : (recorder.observe polled atEnd).1.IsQuiet ∧
      ∀ exchange, (recorder.observe polled atEnd).2 = some exchange →
        exchange.category.needsCapture = false := by
  have nothing : ∀ exchange : Exchange, none = some exchange →
      exchange.category.needsCapture = false := by
    intro exchange delivered
    cases delivered
  cases polled with
  | chunk bytes =>
    simp only [Recorder.observe]
    have noted : (if recorder.awaited.isSome = true then
        { recorder with copied := recorder.copied.append bytes } else recorder).IsQuiet := by
      split <;> exact quiet
    cases atEnd with
    | true => exact noted.complete
    | false => exact ⟨noted, nothing⟩
  | failure error => exact ⟨isQuiet_idle, nothing⟩
  | pending => exact ⟨quiet, nothing⟩
  | ended => exact quiet.complete

/-! Media files themselves are never captured. -/

theorem Monitor.notDirect_of_capturesRequest {monitor : Monitor} {category : Category}
    {method : String} (captures : monitor.capturesRequest category method = true) :
    category ≠ .directMedia := by
  rintro rfl
  simp [capturesRequest, Category.needsCapture] at captures

theorem Monitor.notDirect_of_capturesResponse {monitor : Monitor} {category : Category}
    (captures : monitor.capturesResponse category = true) : category ≠ .directMedia := by
  rintro rfl
  simp [capturesResponse, Category.needsCapture] at captures

/-- Nothing is told of an answer that is of no interest. -/
theorem Monitor.hitLines_owed (monitor : Monitor) (now : Moment) {exchange : Exchange}
    (unneeded : exchange.category.needsCapture = false) (past : List Sight) (sight : Sight) :
    monitor.hitLines now (owed exchange past sight) = [] := by
  unfold owed
  split
  · exact monitor.hitLines_of_unneeded now unneeded
  · rfl

/-! Queries are captured, and no others are needed. -/

theorem Category.needsCapture_iff {category : Category} :
    category.needsCapture = true ↔ category = .listQuery ∨ category = .getQuery := by
  cases category <;> simp [needsCapture]

/-- A request whose handler is done was read. -/
theorem Session.placeAfter_conduct {β : Type} [Source β] (received : Moment) (request : Request β)
    {monitor : Monitor} {now : Moment} {admission : Monitor.Admission β}
    {answer : Except String (Response β)} :
    placeAfter received request (monitor.conduct now admission answer).2.1 =
      placeOf (monitor.conduct now admission answer).2.1 := by
  cases answer with
  | error text => cases admission <;> rfl
  | ok response =>
    cases admission with
    | passing request => rfl
    | watched passage =>
      unfold Monitor.conduct Monitor.respond
      dsimp only
      split
      · cases (monitor.concludeIf now _).2.1 <;> rfl
      · cases (monitor.concludeDirect now passage response.status).2.1 <;> rfl

namespace Course

/-- A course goes along with a place in a session: what is in the place can tell nothing that the
course does not know of. -/
inductive Follows {β : Type} [Content β] (origin : Monitor) : Course β → Place β → Prop
  | vacant : Follows origin .quiet .vacant
  | arriving (received : Moment) (request : Request β) :
    Follows origin (.arriving received request) (.arriving received request)
  | endless (received : Moment) (request : Request β)
    (unread : read origin (.arriving received request) = .quiet) :
    Follows origin .quiet (.arriving received request)
  | passing (request : Request β) : Follows origin .quiet (.awaiting (.passing request))
  | unnoticed (passage : Monitor.Passage β) (otherwise : passage.category ≠ .directMedia)
    (unneeded : passage.category.needsCapture = false) :
    Follows origin .quiet (.awaiting (.watched passage))
  | asked (passage : Monitor.Passage β)
    (noticed : passage.category = .directMedia ∨ passage.category.needsCapture = true) :
    Follows origin (.asked passage) (.awaiting (.watched passage))
  | silent (outgoing : Outgoing β)
    (silent : ∀ recorder flow, outgoing.captured? = some (recorder, flow) → recorder.IsQuiet) :
    Follows origin .quiet (.passed outgoing)
  | passed (outgoing : Outgoing β) (recorder : Recorder) (flow : Flow β) (exchange : Exchange)
    (past : List Sight) (captured : outgoing.captured? = some (recorder, flow))
    (kept : recorder.Keeps exchange past) (stillOpen : undecided past = true) :
    Follows origin (.passed exchange flow past) (.passed outgoing)

theorem unnoticed_of_passesBy {monitor : Monitor} {category : Category}
    (passes : monitor.passesBy category = true) :
    category ≠ .directMedia ∧ category.needsCapture = false := by
  rw [Monitor.passesBy, Bool.and_eq_true, Bool.or_eq_true, beq_iff_eq, beq_iff_eq] at passes
  rcases passes.2 with rfl | rfl
  · exact ⟨nofun, rfl⟩
  · exact ⟨nofun, rfl⟩

section

variable {β : Type} [Content β] {origin : Monitor} {request : Request β} (received : Moment)

theorem read_of_unnoticed (otherwise : origin.categoryOf request ≠ .directMedia)
    (unneeded : (origin.categoryOf request).needsCapture = false) :
    read origin (.arriving received request) = .quiet := by
  cases known : origin.categoryOf request with
  | directMedia => exact absurd known otherwise
  | listQuery | getQuery =>
    rw [known] at unneeded
    cases unneeded
  | ignored | other => simp only [read, known]

theorem read_of_direct (direct : origin.categoryOf request = .directMedia) :
    read origin (.arriving received request) =
      .asked ⟨request, origin.categoryOf request, origin.visitOf request, [], received.steady⟩ := by
  simp only [read, direct]

theorem read_of_needed (needed : (origin.categoryOf request).needsCapture = true) :
    read origin (.arriving received request) = readQuery origin received request := by
  rcases Category.needsCapture_iff.mp needed with known | known <;> simp only [read, known]

/-- A request whose body was captured on its way is at its handler, if it is of interest. -/
theorem follows_readable {bytes : Bytes} (otherwise : origin.categoryOf request ≠ .directMedia)
    (readable : Content.collect request.body = some (.ok bytes)) :
    (read origin (.arriving received request)).Follows origin
      (.awaiting (.watched ⟨{ request with body := Content.ofBytes bytes },
        origin.categoryOf request, origin.visitOf request, bytes, received.steady⟩)) := by
  by_cases needed : (origin.categoryOf request).needsCapture = true
  · rw [read_of_needed received needed]
    simp only [readQuery, readable]
    exact .asked _ (.inr needed)
  · rw [read_of_unnoticed received otherwise (Bool.eq_false_iff.mpr needed)]
    exact .unnoticed _ otherwise (Bool.eq_false_iff.mpr needed)

/-- There is nothing to tell of one whose body was to be captured and fails, or has no end. -/
theorem read_of_unreadable (otherwise : origin.categoryOf request ≠ .directMedia)
    (unreadable : ∀ bytes, Content.collect request.body ≠ some (.ok bytes)) :
    read origin (.arriving received request) = .quiet := by
  by_cases needed : (origin.categoryOf request).needsCapture = true
  · rw [read_of_needed received needed, readQuery]
    split
    · rename_i bytes collected
      exact absurd collected (unreadable bytes)
    · rfl
    · rfl
  · exact read_of_unnoticed received otherwise (Bool.eq_false_iff.mpr needed)

/-- One whose body was left alone is at its handler. -/
theorem follows_uncaptured (unneeded : (origin.categoryOf request).needsCapture = false) :
    (read origin (.arriving received request)).Follows origin
      (.awaiting (.watched ⟨request, origin.categoryOf request, origin.visitOf request, [],
        received.steady⟩)) := by
  by_cases direct : origin.categoryOf request = .directMedia
  · rw [read_of_direct received direct]
    exact .asked _ (.inl direct)
  · rw [read_of_unnoticed received direct unneeded]
    exact .unnoticed _ direct unneeded

end

/-- A request that is still to be read is read as one that has just come in. -/
theorem Follows.read_eq {β : Type} [Content β] {origin : Monitor} {course : Course β}
    {received : Moment} {request : Request β}
    (follows : course.Follows origin (.arriving received request)) :
    course.read origin = read origin (.arriving received request) := by
  cases follows with
  | arriving received request => rfl
  | endless received request unread => exact unread.symm

section

variable {β : Type} [Content β] (origin : Monitor)

theorem quiet_of_uncaptured {outgoing : Outgoing β} (uncaptured : outgoing.captured? = none) :
    Follows origin .quiet (.passed outgoing) :=
  .silent outgoing fun _ _ captured => nomatch uncaptured ▸ captured

/-- A recorder that keeps what it should goes along with the course of its exchange. -/
theorem look_follows (now : Moment) {outgoing : Outgoing β} {recorder : Recorder} {flow : Flow β}
    {exchange : Exchange} {past : List Sight} {sight : Sight}
    (captured : outgoing.captured? = some (recorder, flow))
    (kept : recorder.Keeps exchange (past ++ [sight])) :
    (look origin now exchange flow past sight).1.Follows origin (.passed outgoing) := by
  unfold look
  by_cases stillOpen : undecided (past ++ [sight]) = true
  · rw [if_pos stillOpen]
    exact .passed outgoing recorder flow exchange _ captured kept stillOpen
  · rw [if_neg stillOpen]
    apply Follows.silent
    intro other behind same awaited isAwaited
    cases captured.symm.trans same
    rw [(kept.of_decided (Bool.eq_false_iff.mpr stillOpen)).1] at isAwaited
    cases isAwaited

omit [Content β] in
theorem look_of_isLast (now : Moment) {exchange : Exchange} {flow : Flow β} {past : List Sight}
    {polled : Polled} {atEnd : Bool} (isLast : polled.isLast = true) :
    (look origin now exchange flow past (.polled polled atEnd)).1 = .quiet := by
  have decided : undecided (past ++ [.polled polled atEnd]) = false := by
    cases polled with
    | chunk bytes | pending => cases isLast
    | failure error => simp [Sight.isFailure]
    | ended => simp [Sight.reportsEnd]
  simp [look, decided]

end

section

variable {β : Type} [Content β] {origin monitor : Monitor} {position : Nat} {kept : Journal String}
  (holds : origin.Holds position kept monitor)

include holds

theorem receive_follows (received : Moment) (request : Request β) :
    (read origin (.arriving received request)).Follows origin
      (Session.placeWithin received request (monitor.receive received request).1) := by
  obtain ⟨⟨outlets, staysUp⟩, -⟩ := holds
  by_cases captures : origin.capturesRequest (origin.categoryOf request) request.method = true
  · have otherwise : origin.categoryOf request ≠ .directMedia :=
      Monitor.notDirect_of_capturesRequest captures
    cases collected : Content.collect request.body with
    | none =>
      rw [(origin.withOutlets outlets).receive_of_endless received captures collected]
      have unread : read origin (.arriving received request) = .quiet :=
        read_of_unreadable received otherwise (by simp [collected])
      rw [unread]
      exact .endless received request unread
    | some result =>
      cases result with
      | ok bytes =>
        rw [(origin.withOutlets outlets).receive_of_captured received captures collected]
        exact follows_readable received otherwise collected
      | error error =>
        rw [(origin.withOutlets outlets).receive_of_unreadable received captures collected,
          read_of_unreadable received otherwise (by simp [collected])]
        exact .vacant
  · have unneeded : (origin.categoryOf request).needsCapture = false := by
      rw [Monitor.capturesRequest, Bool.or_eq_true, not_or] at captures
      exact Bool.eq_false_iff.mpr captures.1
    rw [(origin.withOutlets outlets).receive_of_uncaptured received captures]
    exact follows_uncaptured received unneeded

/-- **A request is read.** -/
theorem letIn_follows (received : Moment) (request : Request β) :
    origin.Holds position kept (monitor.letIn received request).1 ∧
      (read origin (.arriving received request)).Follows origin
        (Session.placeWithin received request (monitor.letIn received request).2.1) := by
  unfold Monitor.letIn
  by_cases passes : monitor.passesBy (monitor.categoryOf request) = true
  · rw [if_pos passes]
    refine ⟨holds, ?_⟩
    obtain ⟨⟨outlets, staysUp⟩, -⟩ := holds
    obtain ⟨otherwise, unneeded⟩ := unnoticed_of_passesBy passes
    have quiet : read origin (.arriving received request) = .quiet :=
      read_of_unnoticed received otherwise unneeded
    rw [quiet]
    exact .passing request
  · rw [if_neg passes]
    have paused := holds.pause (monitor.waitsFor request)
    exact ⟨paused, receive_follows paused received request⟩

/-- **The body of an answer is captured** from its first moment on, if the query is of interest. -/
theorem start_follows (now : Moment) (exchange : Exchange) (body : β) :
    let started := Capture.start body exchange
    let looked := look origin now exchange ⟨body, false⟩ [] (.opened (Source.atEnd body))
    origin.Holds position (kept.append looked.2) (monitor.concludeIf now started.2).1 ∧
      looked.1.Follows origin (.passed (.captured started.1)) := by
  obtain ⟨stage, same⟩ := MediaTrail.start_follows body exchange
  refine ⟨?_, ?_⟩
  · have told := holds.conclude now (Capture.start body exchange).2
    rw [show (Capture.start body exchange).2 = _ from stage.delivered] at told ⊢
    exact told
  · have isCaptured : (Outgoing.captured (Capture.start body exchange).1).captured? =
        some (_, _) := rfl
    have follows := look_follows origin now isCaptured (stage.kept _ rfl)
    rw [same] at follows
    exact follows

/-- A response of no interest may be captured, but nothing is told of it. -/
theorem respond_unnoticed (now : Moment) {passage : Monitor.Passage β} (response : Response β)
    (otherwise : passage.category ≠ .directMedia)
    (unneeded : passage.category.needsCapture = false) :
    origin.Holds position kept (monitor.respond now passage response).1 ∧
      Follows origin .quiet (Session.placeOf (monitor.respond now passage response).2.1) := by
  unfold Monitor.respond
  by_cases captures : monitor.capturesResponse passage.category = true
  · have told := (start_follows holds now (passage.exchange response.status) response.body).1
    have finish := (holds.rules.concludeIf now
      (Capture.start response.body (passage.exchange response.status)).2).2
    obtain ⟨stage, -⟩ := MediaTrail.start_follows response.body (passage.exchange response.status)
    have silence : (look origin now (passage.exchange response.status) ⟨response.body, false⟩ []
        (.opened (Source.atEnd response.body))).2 = [] :=
      origin.hitLines_owed now unneeded _ _
    rw [silence, Journal.append_nil] at told
    simp only [if_pos captures, finish]
    refine ⟨told, .silent _ fun recorder flow same => ?_⟩
    cases same
    exact (stage.kept _ rfl).isQuiet unneeded
  · rw [if_neg captures, monitor.concludeDirect_of_other now response.status otherwise]
    exact ⟨holds, quiet_of_uncaptured origin rfl⟩

theorem respond_direct (now : Moment) {passage : Monitor.Passage β} (response : Response β)
    (direct : passage.category = .directMedia) :
    origin.Holds position (kept.append [origin.directLine now passage response.status])
        (monitor.respond now passage response).1 ∧
      Follows origin .quiet (Session.placeOf (monitor.respond now passage response).2.1) := by
  have spared : ¬ monitor.capturesResponse passage.category = true :=
    fun captures => Monitor.notDirect_of_capturesResponse captures direct
  have told := holds.concludeDirect now response.status direct
  have finish := (holds.rules.concludeDirect now passage response.status).2
  unfold Monitor.respond
  simp only [if_neg spared, finish]
  exact ⟨told, quiet_of_uncaptured origin rfl⟩

theorem respond_query (now : Moment) {passage : Monitor.Passage β} (response : Response β)
    (needed : passage.category.needsCapture = true) :
    let looked := look origin now (passage.exchange response.status) ⟨response.body, false⟩ []
      (.opened (Source.atEnd response.body))
    origin.Holds position (kept.append looked.2) (monitor.respond now passage response).1 ∧
      looked.1.Follows origin (Session.placeOf (monitor.respond now passage response).2.1) := by
  have captures : monitor.capturesResponse passage.category = true := by
    rw [Monitor.capturesResponse, needed, Bool.true_or]
  have finish := (holds.rules.concludeIf now
    (Capture.start response.body (passage.exchange response.status)).2).2
  unfold Monitor.respond
  simp only [if_pos captures, finish]
  exact start_follows holds now (passage.exchange response.status) response.body

/-- **The handler of a request is done.** -/
theorem conduct_follows {course : Course β} {admission : Monitor.Admission β}
    (follows : course.Follows origin (.awaiting admission)) (now : Moment)
    (answer : Except String (Response β)) :
    let conducted := monitor.conduct now admission answer
    let answered := course.answer origin now answer
    origin.Holds position (kept.append answered.2) conducted.1 ∧
      answered.1.Follows origin (Session.placeOf conducted.2.1) := by
  cases follows with
  | passing request =>
    cases answer with
    | error text => exact ⟨holds, .vacant⟩
    | ok response => exact ⟨holds, quiet_of_uncaptured origin rfl⟩
  | unnoticed passage otherwise unneeded =>
    cases answer with
    | error text => exact ⟨holds, .vacant⟩
    | ok response => exact respond_unnoticed holds now response otherwise unneeded
  | asked passage noticed =>
    cases answer with
    | error text => exact ⟨holds, .vacant⟩
    | ok response =>
      dsimp only [Course.answer]
      by_cases direct : passage.category = .directMedia
      · rw [if_pos direct]
        exact respond_direct holds now response direct
      · rw [if_neg direct]
        exact respond_query holds now response (noticed.resolve_left direct)

/-- **A request is handled at once.** -/
theorem handle_follows (now : Moment) (request : Request β) (handler : Handler β) :
    let handled := monitor.handle now now request handler
    let course := Course.handle origin now request handler
    origin.Holds position (kept.append course.2) handled.monitor ∧
      course.1.Follows origin (Session.placeAfter now request handled.result) := by
  obtain ⟨within, follows⟩ := letIn_follows holds now request
  unfold Monitor.handle Course.handle
  rcases result : monitor.letIn now request with ⟨later, entered, before⟩
  rw [result] at within follows
  generalize read origin (.arriving now request) = course at follows ⊢
  cases entered with
  | refused error =>
    have left : course.Follows origin .vacant := follows
    cases left with
    | vacant => exact ⟨within, .vacant⟩
  | unread =>
    have left : course.Follows origin (.arriving now request) := follows
    cases left with
    | arriving received request => exact ⟨within, .arriving _ _⟩
    | endless received request unread => exact ⟨within, .endless _ _ unread⟩
  | admitted admission =>
    have left : course.Follows origin (.awaiting admission) := follows
    have paused := within.pause (handler.waits admission.request)
    obtain ⟨told, goesOn⟩ := conduct_follows paused left now (handler.answer admission.request)
    rw [← Session.placeAfter_conduct now request] at goesOn
    cases left with
    | passing request => exact ⟨told, goesOn⟩
    | unnoticed passage otherwise unneeded => exact ⟨told, goesOn⟩
    | asked passage noticed => exact ⟨told, goesOn⟩

/-- A body of which there is nothing to tell stays so when it is polled. -/
theorem pollBody_silent {outgoing : Outgoing β}
    (silent : ∀ recorder flow, outgoing.captured? = some (recorder, flow) → recorder.IsQuiet)
    (now : Moment) :
    origin.Holds position kept (Session.pollBody monitor now outgoing).2.2.1 ∧
      Follows origin .quiet (.passed (Session.pollBody monitor now outgoing).2.1) := by
  have told := holds.conclude now outgoing.poll.2.2
  cases held : outgoing.captured? with
  | none =>
    obtain ⟨still, delivered⟩ := Outgoing.poll_of_uncaptured held
    have nothing : origin.hitLines now outgoing.poll.2.2 = [] := by rw [delivered]; rfl
    rw [nothing] at told
    exact ⟨told, quiet_of_uncaptured origin still⟩
  | some found =>
    obtain ⟨recorder, flow⟩ := found
    obtain ⟨delivered, -, left⟩ := Outgoing.poll_of_captured held
    obtain ⟨after, unneeded⟩ := (silent recorder flow held).observe flow.poll.1 flow.poll.2.atEnd
    have nothing : origin.hitLines now outgoing.poll.2.2 = [] := by
      rw [delivered]
      cases fresh : (recorder.observe flow.poll.1 flow.poll.2.atEnd).2 with
      | none => rfl
      | some exchange => exact origin.hitLines_of_unneeded now (unneeded exchange fresh)
    rw [nothing] at told
    refine ⟨told, .silent _ fun other behind same => ?_⟩
    rcases left with goesOn | ⟨letGo, -⟩
    · cases goesOn.symm.trans same
      exact after
    · cases letGo.symm.trans same

/-- **The body of an answer is polled.** Once it has ended or failed, nothing is left to tell. -/
theorem pollBody_follows {course : Course β} {outgoing : Outgoing β}
    (follows : course.Follows origin (.passed outgoing)) (now : Moment) :
    let polled := Session.pollBody monitor now outgoing
    let next := course.poll origin now
    origin.Holds position (kept.append next.2) polled.2.2.1 ∧ polled.2.2.2.1 = .regular ∧
      next.1.Follows origin (.passed polled.2.1) ∧ (polled.1.isLast = true → next.1 = .quiet) := by
  have finish := (holds.rules.concludeIf now outgoing.poll.2.2).2
  cases follows with
  | silent outgoing silent =>
    obtain ⟨told, goesOn⟩ := pollBody_silent holds silent now
    exact ⟨told, finish, goesOn, fun _ => rfl⟩
  | passed outgoing recorder flow exchange past captured keeps stillOpen =>
    have told := holds.conclude now outgoing.poll.2.2
    obtain ⟨delivered, last, left⟩ := Outgoing.poll_of_captured captured
    let sight : Sight := .polled flow.poll.1 flow.poll.2.atEnd
    obtain ⟨after, isOwed⟩ := Recorder.observe_keeps keeps flow.poll.1 flow.poll.2.atEnd
    have same : origin.hitLines now outgoing.poll.2.2 =
        origin.hitLines now (owed exchange past sight) :=
      congrArg (origin.hitLines now) (delivered.trans isOwed)
    have stops (isLast : flow.poll.1.isLast = true) :
        (look origin now exchange flow.poll.2 past sight).1 = .quiet :=
      look_of_isLast origin now isLast
    rw [same] at told
    refine ⟨told, finish, ?_, fun isLast => stops (last ▸ isLast)⟩
    show (look origin now exchange flow.poll.2 past sight).1.Follows origin _
    rcases left with goesOn | ⟨letGo, isLast⟩
    · exact look_follows origin now goesOn after
    · rw [stops isLast]
      exact quiet_of_uncaptured origin letGo

omit holds in
theorem polls_quiet (origin : Monitor) (now : Moment) (rounds : Nat) :
    polls origin now rounds (.quiet : Course β) = (.quiet, []) := by
  induction rounds with
  | zero => rfl
  | succ rounds ih => simp [polls, poll, ih]

omit holds in
theorem polls_arriving (origin : Monitor) (now : Moment) (rounds : Nat) (received : Moment)
    (request : Request β) : polls origin now rounds (.arriving received request) =
      (.arriving received request, []) := by
  induction rounds with
  | zero => rfl
  | succ rounds ih => simp [polls, poll, ih]

omit holds in
theorem polls_asked (origin : Monitor) (now : Moment) (rounds : Nat)
    (passage : Monitor.Passage β) :
    polls origin now rounds (.asked passage) = (.asked passage, []) := by
  induction rounds with
  | zero => rfl
  | succ rounds ih => simp [polls, poll, ih]

/-- **Several polls of the body of an answer**, which stop when it has ended or failed. -/
theorem drainRounds_follows (rounds : Nat) {course : Course β} {outgoing : Outgoing β}
    (follows : course.Follows origin (.passed outgoing)) (now : Moment) (done : List Bytes)
    (events : List Event) :
    let drained := Session.drainRounds rounds done events monitor now outgoing
    let last := course.polls origin now rounds
    origin.Holds position (kept.append last.2) drained.2.2.1 ∧ drained.2.2.2.1 = .regular ∧
      last.1.Follows origin (.passed drained.2.1) := by
  induction rounds generalizing monitor kept course outgoing done events with
  | zero => exact ⟨holds, rfl, follows⟩
  | succ rounds ih =>
    obtain ⟨isTold, finish, goesOn, stops⟩ := pollBody_follows holds follows now
    have split : polls origin now (rounds + 1) course =
        ((polls origin now rounds (course.poll origin now).1).1,
          (course.poll origin now).2 ++ (polls origin now rounds (course.poll origin now).1).2) := rfl
    rw [split]
    unfold Session.drainRounds
    rcases result : Session.pollBody monitor now outgoing with ⟨polled, after, later, told, fresh⟩
    rw [result] at isTold finish goesOn stops
    obtain rfl : told = .regular := finish
    dsimp only
    rw [Journal.append_append]
    cases polled with
    | chunk bytes => exact ih isTold goesOn _ _
    | pending => exact ih isTold goesOn _ _
    | failure error | ended =>
      rw [stops rfl] at goesOn ⊢
      rw [polls_quiet]
      exact ⟨isTold, rfl, goesOn⟩

end

section

variable {β : Type} [Content β] {origin : Monitor} {course : Course β} {outgoing : Outgoing β}

theorem Follows.pollTrailers (follows : course.Follows origin (.passed outgoing)) :
    course.pollTrailers.Follows origin (.passed outgoing.pollTrailers.2) := by
  cases follows with
  | silent outgoing silent =>
    refine .silent _ fun recorder flow same => ?_
    cases held : outgoing.captured? with
    | none => cases (Outgoing.pollTrailers_of_uncaptured held).symm.trans same
    | some found =>
      cases (Outgoing.pollTrailers_of_captured held).symm.trans same
      exact silent _ _ held
  | passed outgoing recorder flow exchange past captured keeps stillOpen =>
    exact .passed _ recorder _ exchange past (Outgoing.pollTrailers_of_captured captured) keeps
      stillOpen

theorem Follows.drop (follows : course.Follows origin (.passed outgoing)) :
    course.drop.Follows origin .vacant := by
  cases follows with
  | silent outgoing silent => exact .vacant
  | passed outgoing recorder flow exchange past captured keeps stillOpen => exact .vacant

theorem Follows.toServer (follows : course.Follows origin (.passed outgoing)) :
    course.convert.Follows origin (.passed outgoing.toServer) := by
  cases follows with
  | silent outgoing silent =>
    refine .silent _ fun recorder flow same => ?_
    cases held : outgoing.captured? with
    | none => cases (Outgoing.toServer_of_uncaptured held).symm.trans same
    | some found =>
      cases (Outgoing.toServer_of_captured held).symm.trans same
      exact silent _ _ held
  | passed outgoing recorder flow exchange past captured keeps stillOpen =>
    exact .passed _ recorder _ exchange past (Outgoing.toServer_of_captured captured) keeps stillOpen

end

end Course

end MediaTrail
