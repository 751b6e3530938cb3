/-
**Sessions.** A monitor together with the bodies it has passed on. Requests come in, and their
bodies are polled, drained, converted and dropped in any order; each body has the number of its
request. A request may also be with its handler while others come in and are answered.

What a request does between two of its waits is one event of the session, and others come in between
only where it waits. This is so if all requests share a thread; it is an assumption on the host, since
nothing in a monitor keeps two threads apart.

* `Session.step`: one of these events, with all that can be seen of it;
* `Session.arrive`, `Session.read`, `Session.answer`: a request that takes its time to be read, and a
  handler that takes its time to answer;
* `Session.after`: a series of events of all kinds.
-/

import MediaTrail.Monitor

namespace MediaTrail

open Text (Bytes)

/-- What is left of a request. -/
inductive Place (β : Type) where
  /-- The request came in, and its body may still have to be read. -/
  | arriving (received : Moment) (request : Request β)
  /-- The request is with its handler. -/
  | awaiting (admission : Monitor.Admission β)
  /-- The body of its response, which was passed on. -/
  | passed (body : Outgoing β)
  /-- Nothing: the body was dropped, or never came to be. -/
  | vacant
deriving DecidableEq, Repr

/-- The body that was passed on, if it is still there. -/
def Place.body? {β : Type} : Place β → Option (Outgoing β)
  | .passed body => some body
  | _ => none

/-- A monitor and what is left of its requests, by their numbers. -/
structure Session (β : Type) where
  monitor : Monitor
  places : List (Place β)

/-- What can happen in a session. -/
inductive SessionStep (β : Type) where
  /-- A request is handled. -/
  | request (request : Request β) (handler : Handler β)
  /-- A body is polled for data. -/
  | poll (slot : Nat)
  /-- A body is polled for trailing fields. -/
  | pollTrailers (slot : Nat)
  /-- A body is polled so many times at most, until it ends or fails. -/
  | drain (slot rounds : Nat)
  /-- A body is dropped. -/
  | drop (slot : Nat)
  /-- A body is turned into one of the server's kind. -/
  | convert (slot : Nat)

/-- Where a step wakes the tasks behind the sinks: a request is handled in turn with them, and all
else happens between their turns. -/
def SessionStep.wakes {β : Type} : SessionStep β → WokenFrom
  | .request .. => .within
  | _ => .outside

/-- What is seen of a step. -/
inductive Seen (β : Type) where
  /-- What the handler got, and what came of the request. -/
  | handled (given : Option (Request β)) (result : Outcome β)
  | polled (polled : Polled)
  | trailers (trailers : TrailersPolled)
  | drained (drained : Drained)
  | dropped
  | converted
  /-- There is no such body. -/
  | gone
  /-- A sink went down, and took whoever polled with it. -/
  | crashed

/-- A step that was taken: the session after it, what is seen, and the events. -/
structure Taking (β : Type) where
  session : Session β
  seen : Seen β
  events : List Event

namespace Session

section

variable {β : Type}

/-- A session before its first request. -/
def start (monitor : Monitor) : Session β := ⟨monitor, []⟩

/-- The bodies that were passed on, by the number of their request. -/
def bodies (session : Session β) : List (Option (Outgoing β)) := session.places.map Place.body?

/-- The body of a request, if it is still there. -/
def body? (session : Session β) (slot : Nat) : Option (Outgoing β) :=
  (session.places[slot]?).bind Place.body?

/-- The session with something else in a place. -/
def setPlace (session : Session β) (slot : Nat) (place : Place β) : Session β :=
  { session with places := session.places.set slot place }

/-- What is left of a request whose handler answered, or failed. -/
def placeOf (result : Outcome β) : Place β :=
  match result with
  | .answered response => .passed response.body
  | .failed _ | .unread | .crashed => .vacant

/-- What is left of a request that was handled. -/
def placeAfter (received : Moment) (request : Request β) (result : Outcome β) : Place β :=
  match result with
  | .unread => .arriving received request
  | result => placeOf result

/-- What is left of a body that was polled. -/
def placeOfPolled (body : Outgoing β) : Finish → Place β
  | .regular => .passed body
  | .crashed => .vacant

/-- Takes a step with a body that is there. -/
def withBody (session : Session β) (slot : Nat) (take : Outgoing β → Taking β) : Taking β :=
  match session.body? slot with
  | some body => take body
  | none => ⟨session, .gone, []⟩

/-- Lets the tasks behind the sinks take their turns until none has anything left to do. -/
def settle (session : Session β) (place : WokenFrom) : Session β × List Event :=
  let (monitor, events) := session.monitor.settle place
  ({ session with monitor := monitor }, events)

/-- What is left of a request that was let in, or not. -/
def placeWithin (received : Moment) (request : Request β) : Monitor.Entry β → Place β
  | .admitted admission => .awaiting admission
  | .refused _ => .vacant
  | .unread => .arriving received request

/-- A request comes in. -/
def arrive (session : Session β) (now : Moment) (request : Request β) : Session β :=
  { session with places := session.places ++ [.arriving now request] }

/-- A client goes away before its request is answered. -/
def abandon (session : Session β) (slot : Nat) : Session β :=
  match session.places[slot]? with
  | some (.arriving ..) | some (.awaiting _) => session.setPlace slot .vacant
  | _ => session

variable [Content β]

/-- Handles a request. -/
def request (session : Session β) (received answered : Moment) (request : Request β)
    (handler : Handler β) : Taking β :=
  let handled := session.monitor.handle received answered request handler
  ⟨⟨handled.monitor, session.places ++ [placeAfter received request handled.result]⟩,
    .handled handled.given handled.result, handled.before ++ handled.after⟩

/-- Polls a body for data. -/
def pollBody (monitor : Monitor) (now : Moment) (body : Outgoing β) :
    Polled × Outgoing β × Monitor × Finish × List Event :=
  let (polled, body, delivered) := body.poll
  let (monitor, finish, events) := monitor.concludeIf now delivered
  (polled, body, monitor, finish, events)

/-- Polls a body at most `rounds` times, until it ends or fails. The chunks so far are `done`, and
the events so far `events`, last ones first. -/
def drainRounds (rounds : Nat) (done : List Bytes) (events : List Event) (monitor : Monitor)
    (now : Moment) (body : Outgoing β) : Drained × Outgoing β × Monitor × Finish × List Event :=
  match rounds with
  | 0 => (⟨done.reverse, .brokenOff⟩, body, monitor, .regular, events.reverse)
  | rounds + 1 =>
    let (polled, body, monitor, finish, fresh) := pollBody monitor now body
    let events := fresh.reverseAux events
    match finish, polled with
    | .crashed, _ => (⟨done.reverse, .brokenOff⟩, body, monitor, .crashed, events.reverse)
    | .regular, .chunk bytes => drainRounds rounds (bytes :: done) events monitor now body
    | .regular, .pending => drainRounds rounds done events monitor now body
    | .regular, .failure error =>
      (⟨done.reverse, .failure error⟩, body, monitor, .regular, events.reverse)
    | .regular, .ended => (⟨done.reverse, .ended⟩, body, monitor, .regular, events.reverse)

/-- Leaves a body that was polled in its place, unless a sink went down. -/
def leave (session : Session β) (slot : Nat) (body : Outgoing β) (monitor : Monitor)
    (finish : Finish) (seen : Seen β) (events : List Event) : Taking β :=
  ⟨{ session with monitor := monitor }.setPlace slot (placeOfPolled body finish),
    match finish with
    | .regular => seen
    | .crashed => .crashed,
    events⟩

/-- Takes a step. -/
def take (session : Session β) (now : Moment) : SessionStep β → Taking β
  | .request request handler => session.request now now request handler
  | .poll slot => session.withBody slot fun body =>
    let (polled, body, monitor, finish, events) := pollBody session.monitor now body
    session.leave slot body monitor finish (.polled polled) events
  | .pollTrailers slot => session.withBody slot fun body =>
    let (trailers, body) := body.pollTrailers
    ⟨session.setPlace slot (.passed body), .trailers trailers, []⟩
  | .drain slot rounds => session.withBody slot fun body =>
    let (drained, body, monitor, finish, events) :=
      drainRounds rounds [] [] session.monitor now body
    session.leave slot body monitor finish (.drained drained) events
  | .drop slot => session.withBody slot fun _ =>
    ⟨session.setPlace slot .vacant, .dropped, []⟩
  | .convert slot => session.withBody slot fun body =>
    ⟨session.setPlace slot (.passed body.toServer), .converted, []⟩

/-- Takes a step, and lets the tasks behind the sinks take their turns. -/
def step (session : Session β) (now : Moment) (step : SessionStep β) : Taking β :=
  let taking := session.take now step
  let (session, later) := taking.session.settle step.wakes
  ⟨session, taking.seen, taking.events ++ later⟩

/-! ### Requests that overlap -/

/-- A request that came in was read, as far as it has to be: what its handler gets, unless its body
cannot be read. -/
def read (session : Session β) (slot : Nat) :
    Session β × Option (Monitor.Entry β) × List Event :=
  match session.places[slot]? with
  | some (.arriving received request) =>
    let (monitor, entry, events) := session.monitor.letIn received request
    ({ session with monitor := monitor }.setPlace slot (placeWithin received request entry),
      some entry, events)
  | _ => (session, none, [])

/-- The handler of a request is done: what its client gets, if it is still waiting. -/
def answer (session : Session β) (now : Moment) (slot : Nat)
    (answer : Except String (Response β)) : Session β × Option (Outcome β) × List Event :=
  match session.places[slot]? with
  | some (.awaiting admission) =>
    let (monitor, result, events) := session.monitor.conduct now admission answer
    ({ session with monitor := monitor }.setPlace slot (placeOf result), some result, events)
  | _ => (session, none, [])

end

end Session

/-- What can happen in a session whose requests overlap. -/
inductive Happening (β : Type) where
  /-- A step that is over at once. -/
  | step (step : SessionStep β)
  /-- A request comes in. -/
  | arrive (request : Request β)
  /-- The body of a request was read, and the request is given to its handler. -/
  | read (slot : Nat)
  /-- The handler of a request is done. -/
  | answer (slot : Nat) (answer : Except String (Response β))
  /-- A request is given up before it is answered. -/
  | abandon (slot : Nat)

namespace Session

variable {β : Type} [Content β]

/-- The session after something happened and the tasks behind the sinks took their turns. -/
def happen (session : Session β) (now : Moment) : Happening β → Session β
  | .step step => (session.step now step).session
  | .arrive request => ((session.arrive now request).settle .within).1
  | .read slot => ((session.read slot).1.settle .within).1
  | .answer slot answer => ((session.answer now slot answer).1.settle .within).1
  | .abandon slot => ((session.abandon slot).settle .within).1

/-- The session after some happenings, each at its moment. -/
def after (session : Session β) (happenings : List (Moment × Happening β)) : Session β :=
  happenings.foldl (fun session happening => session.happen happening.1 happening.2) session

end Session

end MediaTrail
