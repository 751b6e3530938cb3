/-
**The monitor.** Stands between a server and its handler. What it passes on is what came in; what
it learns on the way goes to the trail.

* `Monitor.build`: a monitor of settings that break no rule;
* `Monitor.receive`: before the handler, which gets the request unless its body has to be captured
  and cannot be read;
* `Monitor.respond`: after the handler, whose body is passed on as it is or captured;
* `Monitor.letIn`, `Monitor.conduct`: the same for requests of any class;
* `Monitor.handle`: both, with the handler between them;
* `Outgoing.poll`: polls of a body that was passed on, with what the trail makes of them.
-/

import MediaTrail.Capture
import MediaTrail.LineFilter
import MediaTrail.Settings.Reader
import MediaTrail.Target
import MediaTrail.Visitor

namespace MediaTrail

open Text (Bytes)

/-- A request, with what the host knows of its sender. -/
structure Request (β : Type) where
  method : String
  target : Target
  headers : Headers
  peer : Peer
  body : β
deriving DecidableEq, Repr

/-- A response with a body of some kind. -/
structure Response (β : Type) where
  status : Nat
  headers : Headers
  body : β
deriving DecidableEq, Repr

/-- Answers requests, or fails with a text. -/
structure Handler (β : Type) where
  answer : Request β → Except String (Response β)
  /-- Whether it waits for something before it answers. -/
  waits : Request β → Bool

/-- Why a request was not answered. -/
inductive Failure where
  /-- Its body could not be read. -/
  | requestBody (error : ReadError)
  /-- The handler failed. -/
  | handler (text : String)
deriving DecidableEq, Repr

/-- What the monitor knows and holds. -/
structure Monitor where
  classifier : Classifier
  inspector : Inspector
  identity : Identity
  trail : Trail

/-- A body that the monitor passed on. -/
inductive Outgoing (β : Type) where
  /-- The handler's own. -/
  | plain (body : β)
  /-- Captured while it is passed on. -/
  | captured (capture : Capture β)
  /-- The handler's own, as a body of the server. -/
  | converted (body : β)
  /-- Captured, as a stream of the server, which lets go of it once it has ended. -/
  | adapted (capture : Option (Capture β))
deriving DecidableEq, Repr

/-- What came of a request. -/
inductive Outcome (β : Type) where
  | answered (response : Response (Outgoing β))
  | failed (failure : Failure)
  /-- Its body has no end, so that it is still being read. -/
  | unread
  /-- A sink went down over a record of it, and took it down. -/
  | crashed
deriving DecidableEq, Repr

namespace Monitor

/-- A monitor of settings that break no rule, with the usual sinks if none are given. -/
def build (settings : Settings) (sinks : Option (List Sink)) (identity : Identity) :
    Except Settings.LoadError (Monitor × List Event) := do
  let settings ← settings.checked
  let classifier := Classifier.ofSettings settings
  let monitor : Monitor := {
    classifier := classifier
    inspector := ⟨classifier.extensions, settings.pathStyle⟩
    identity := identity
    trail := .ofSettings settings (sinks.getD (Trail.usualSinks settings)) }
  return (monitor, [.initialized classifier.extensions.size settings.mode])

/-- A line filter by the same classes, in front of a writer. -/
def lineFilter (monitor : Monitor) (writer : Writer) : LineFilter :=
  ⟨monitor.classifier, writer⟩

section

variable {β : Type}

/-- The class of a request. -/
def categoryOf (monitor : Monitor) (request : Request β) : Category :=
  monitor.classifier.classify request.target.path

/-- Who asked for what. -/
def visitOf (monitor : Monitor) (request : Request β) : Visit where
  path := request.target.path
  pathAndQuery := request.target.pathAndQuery
  method := request.method
  clientAddress := clientAddress request.headers request.peer
  user := monitor.identity.user request.headers request.peer

/-- Whether requests of a class are of no interest. -/
def passesBy (monitor : Monitor) (category : Category) : Bool :=
  !monitor.trail.isDebug && (category == .ignored || category == .other)

/-- Whether responses of a class are captured: those that name files, and in debug mode all but
the media files themselves. -/
def capturesResponse (monitor : Monitor) (category : Category) : Bool :=
  category.needsCapture || (monitor.trail.isDebug && category != .directMedia)

/-- Whether the body of a request is captured. In debug mode one without content is spared. -/
def capturesRequest (monitor : Monitor) (category : Category) (method : String) : Bool :=
  category.needsCapture ||
    (monitor.trail.isDebug && category != .directMedia && method != "GET")

/-- Whether the monitor waits for the body of a request that is of interest. -/
def waitsFor [Content β] (monitor : Monitor) (request : Request β) : Bool :=
  monitor.capturesRequest (monitor.categoryOf request) request.method && Content.waits request.body

/-- Lets the tasks behind the sinks take their turns until none has anything left to do. -/
def settle (monitor : Monitor) (place : WokenFrom) : Monitor × List Event :=
  let (trail, events) := monitor.trail.settle place
  ({ monitor with trail := trail }, events)

/-- Something may have to be waited for in the course of a request. The tasks behind the sinks take
their turns meanwhile. -/
def pause (monitor : Monitor) (waits : Bool) : Monitor × List Event :=
  if waits then monitor.settle .within else (monitor, [])

/-- A request on its way to the handler. -/
structure Passage (β : Type) where
  /-- What the handler gets. -/
  request : Request β
  category : Category
  visit : Visit
  /-- The captured body of the request. -/
  requestBody : Bytes
  started : Nat
deriving DecidableEq, Repr

/-- A request that was let in, as its handler has it. -/
inductive Admission (β : Type) where
  /-- It is of no interest, and passes by. -/
  | passing (request : Request β)
  /-- It is watched. -/
  | watched (passage : Passage β)
deriving DecidableEq, Repr

/-- What the handler gets. -/
def Admission.request : Admission β → Request β
  | .passing request => request
  | .watched passage => passage.request

/-- What came of a request on its way to the handler. -/
inductive Entry (β : Type) where
  | admitted (admission : Admission β)
  /-- Its body could not be read. -/
  | refused (error : ReadError)
  /-- Its body has no end, so that it is still being read. -/
  | unread
deriving DecidableEq, Repr

/-- Takes a request that is of interest: what the handler gets, and the report of it. -/
def receive [Content β] (monitor : Monitor) (now : Moment) (request : Request β) :
    Entry β × List Event :=
  let category := monitor.categoryOf request
  let visit := monitor.visitOf request
  let enter (request : Request β) (bytes : Bytes) : Entry β × List Event :=
    (.admitted (.watched ⟨request, category, visit, bytes, now.steady⟩),
      monitor.trail.reportRequest visit.method visit.pathAndQuery bytes)
  if monitor.capturesRequest category request.method then
    match Content.collect request.body with
    | some (.ok bytes) => enter { request with body := Content.ofBytes bytes } bytes
    | some (.error error) => (.refused error, [])
    | none => (.unread, [])
  else enter request []

/-- The exchange of an answered request, without its response body. -/
def Passage.exchange (passage : Passage β) (status : Nat) : Exchange where
  category := passage.category
  visit := passage.visit
  status := status
  requestBody := passage.requestBody
  responseBody := []
  started := passage.started

/-- An exchange is complete: records its hits and reports it. -/
def conclude (monitor : Monitor) (now : Moment) (exchange : Exchange) :
    Monitor × Finish × List Event :=
  let latency := now.since exchange.started
  let inspection :=
    monitor.inspector.inspect exchange.category exchange.requestBody exchange.responseBody
  match monitor.trail.logInspection now exchange latency inspection with
  | (trail, count, .regular, events) =>
    ({ monitor with trail := trail }, .regular,
      events ++ trail.reportResponse (0 < count) exchange.visit exchange.status latency
        exchange.responseBody)
  | (trail, _, .crashed, events) => ({ monitor with trail := trail }, .crashed, events)

/-- Concludes an exchange, if one was delivered. -/
def concludeIf (monitor : Monitor) (now : Moment) (delivered : Option Exchange) :
    Monitor × Finish × List Event :=
  match delivered with
  | some exchange => monitor.conclude now exchange
  | none => (monitor, .regular, [])

/-- An access that is not captured is complete: records it if it was one to a media file, and reports
it. -/
def concludeDirect (monitor : Monitor) (now : Moment) (passage : Passage β) (status : Nat) :
    Monitor × Finish × List Event :=
  let latency := now.since passage.started
  let isMedia := passage.category == .directMedia
  let logged :=
    if isMedia then monitor.trail.logDirect now passage.visit status latency
    else (monitor.trail, .regular, [])
  match logged with
  | (trail, .regular, events) =>
    ({ monitor with trail := trail }, .regular,
      events ++ trail.reportResponse isMedia passage.visit status latency [])
  | (trail, .crashed, events) => ({ monitor with trail := trail }, .crashed, events)

/-- Takes the handler's response: what is passed on, and what the trail makes of it. -/
def respond [Source β] (monitor : Monitor) (now : Moment) (passage : Passage β)
    (response : Response β) : Monitor × Outcome β × List Event :=
  let passOn (body : Outgoing β) : Finish → Outcome β
    | .regular => .answered ⟨response.status, response.headers, body⟩
    | .crashed => .crashed
  if monitor.capturesResponse passage.category then
    let (capture, delivered) := Capture.start response.body (passage.exchange response.status)
    let (monitor, finish, events) := monitor.concludeIf now delivered
    (monitor, passOn (.captured capture) finish, events)
  else
    let (monitor, finish, events) := monitor.concludeDirect now passage response.status
    (monitor, passOn (.plain response.body) finish, events)

/-- Lets a request in, unless its body has to be captured and cannot be read. -/
def letIn [Content β] (monitor : Monitor) (received : Moment) (request : Request β) :
    Monitor × Entry β × List Event :=
  if monitor.passesBy (monitor.categoryOf request) then
    (monitor, .admitted (.passing request), [])
  else
    let (monitor, meanwhile) := monitor.pause (monitor.waitsFor request)
    let (entry, reports) := monitor.receive received request
    (monitor, entry, meanwhile ++ reports)

/-- Takes what came of the handler. Its failure is passed on as it is. -/
def conduct [Source β] (monitor : Monitor) (answered : Moment) (admission : Admission β)
    (answer : Except String (Response β)) : Monitor × Outcome β × List Event :=
  match admission, answer with
  | _, .error text => (monitor, .failed (.handler text), [])
  | .passing _, .ok response =>
    (monitor, .answered ⟨response.status, response.headers, .plain response.body⟩, [])
  | .watched passage, .ok response => monitor.respond answered passage response

/-- What came of a request, and of the monitor with it. -/
structure Handled (β : Type) where
  monitor : Monitor
  /-- What the handler got, if it was called. -/
  given : Option (Request β)
  result : Outcome β
  /-- The events before the handler was called. -/
  before : List Event
  /-- The events after it was called. -/
  after : List Event

/-- Handles a request that came in at one moment and was answered at another. -/
def handle [Content β] (monitor : Monitor) (received answered : Moment) (request : Request β)
    (handler : Handler β) : Handled β :=
  match monitor.letIn received request with
  | (monitor, .refused error, before) => ⟨monitor, none, .failed (.requestBody error), before, []⟩
  | (monitor, .unread, before) => ⟨monitor, none, .unread, before, []⟩
  | (monitor, .admitted admission, before) =>
    let (monitor, meanwhile) := monitor.pause (handler.waits admission.request)
    let (monitor, result, after) :=
      monitor.conduct answered admission (handler.answer admission.request)
    ⟨monitor, some admission.request, result, before, meanwhile ++ after⟩

end

end Monitor

namespace Outgoing

variable {β : Type}

/-- Whether the body is captured while it is passed on. -/
def isCaptured : Outgoing β → Bool
  | .captured _ => true
  | _ => false

/-- Turns a body into one of the server's own kind. -/
def toServer : Outgoing β → Outgoing β
  | .plain body => .converted body
  | .captured capture => .adapted (some capture)
  | body => body

variable [Source β]

/-- Polls for data, and tells which exchange was delivered, if one was. -/
def poll : Outgoing β → Polled × Outgoing β × Option Exchange
  | .plain body =>
    let (polled, body) := Source.poll body
    (polled, .plain body, none)
  | .converted body =>
    let (polled, body) := Source.poll body
    (polled, .converted body, none)
  | .captured capture =>
    let (polled, capture, delivered) := capture.poll
    (polled, .captured capture, delivered)
  | .adapted none => (.ended, .adapted none, none)
  | .adapted (some capture) =>
    match capture.poll with
    | (.ended, _, delivered) => (.ended, .adapted none, delivered)
    | (.failure error, capture, delivered) =>
      (.failure (.relayed error), .adapted (some capture), delivered)
    | (polled, capture, delivered) => (polled, .adapted (some capture), delivered)

/-- Polls for trailing fields, which an adapted body does not keep. -/
def pollTrailers : Outgoing β → TrailersPolled × Outgoing β
  | .plain body =>
    let (trailers, body) := Source.pollTrailers body
    (trailers, .plain body)
  | .converted body =>
    let (trailers, body) := Source.pollTrailers body
    (trailers, .converted body)
  | .captured capture =>
    let (trailers, capture) := capture.pollTrailers
    (trailers, .captured capture)
  | .adapted capture => (.fields none, .adapted capture)

/-- Whether the body is known to have ended. -/
def atEnd : Outgoing β → Bool
  | .plain body | .converted body => Source.atEnd body
  | .captured capture => Source.atEnd capture.body
  | .adapted _ => false

/-- What is known of the number of bytes to come. -/
def size : Outgoing β → SizeBounds
  | .plain body | .converted body => Source.size body
  | .captured capture => Source.size capture.body
  | .adapted _ => ⟨0, none⟩

end Outgoing

end MediaTrail
