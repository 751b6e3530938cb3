/-
**The trail.** Turns accesses into records and records into lines, and gives every line to every
sink. What a sink says about it changes nothing: the next sink gets the same line. Only a sink that
goes down takes the call down with it, so that nothing is given to the sinks behind it.

* `Trail.logDirect`: one record for an access to a media file itself;
* `Trail.logInspection`: the records of an exchange, none if it hit no media file;
* `Trail.serve`: what a host calls a trail for, and the number of records that it is told;
* `Trail.reportRequest`, `Trail.reportResponse`: events in debug mode, none otherwise;
* `Trail.settle`: the tasks behind the sinks take their turns.
-/

import MediaTrail.Excerpt
import MediaTrail.Inspection
import MediaTrail.Outlets

namespace MediaTrail

open Text (Bytes)

/-- A request and its response, as far as they are captured. -/
structure Exchange where
  category : Category
  visit : Visit
  status : Nat
  requestBody : Bytes
  responseBody : Bytes
  /-- When the request came in, in nanoseconds of a steady clock. -/
  started : Nat
deriving DecidableEq, Repr

/-- A reading of the clocks: the time of day, and the nanoseconds of a steady clock. -/
structure Moment where
  time : Timestamp
  steady : Nat
deriving DecidableEq, Repr

/-- The span since a reading of the steady clock. -/
def Moment.since (moment : Moment) (started : Nat) : Span := ⟨moment.steady - started⟩

/-- How a call ends. -/
inductive Finish where
  | regular
  /-- A sink went down over a record, and took the call down with it. -/
  | crashed
deriving DecidableEq, Repr

/-- How a call ends in which sinks took a line. -/
def Finish.ofTaken : List Taken → Finish
  | [] => .regular
  | .crashed :: _ => .crashed
  | _ :: later => ofTaken later

/-- Writes records and reports. -/
structure Trail where
  mode : Mode
  layout : Layout
  grouping : Grouping
  bodyLimit : Nat
  outlets : Outlets

/-- The remark of a direct access. -/
def directRemark : String := "直接访问媒体文件"

/-- Texts with spaces between them. -/
def spaced (texts : List String) : String :=
  " ".intercalate texts

/-- The remark of hits in a directory. -/
def listRemark (directory : String) (shown : List String) : String :=
  "目录: " ++ directory ++ " | 媒体文件: [" ++ spaced shown ++ "]"

/-- The remark of an object. -/
def hitRemark (hit : Hit) : String :=
  "访问媒体文件: " ++ hit.name ++ " | 路径: " ++ hit.shown

namespace Trail

/-- The trail of some settings, with given sinks. -/
def ofSettings (settings : Settings) (sinks : List Sink) : Trail where
  mode := settings.mode
  layout := settings.layout
  grouping := settings.grouping
  bodyLimit := settings.bodyLimit
  outlets := .ofList sinks

/-- The sinks where none are given: events, and the standard output if it is wanted. -/
def usualSinks (settings : Settings) : List Sink :=
  .diagnostics :: if settings.consoleEcho then [.console .unlimited false] else []

/-- Whether requests and responses are reported. -/
def isDebug (trail : Trail) : Bool := trail.mode == .debug

def sinks (trail : Trail) : List Sink := trail.outlets.sinks

def addSink (trail : Trail) (sink : Sink) : Trail :=
  { trail with outlets := trail.outlets.add sink }

/-! ### Giving lines to sinks -/

/-- Renders a record and gives it to the sinks. -/
def emit (trail : Trail) (record : Record) : Trail × Finish × List Event :=
  let (outlets, taken, events) := trail.outlets.emit record (trail.layout.render record)
  ({ trail with outlets := outlets }, .ofTaken taken, events)

/-- Renders records and gives them to the sinks, one after the other, as long as none goes down. -/
def emitAll (trail : Trail) : List Record → Trail × Finish × List Event
  | [] => (trail, .regular, [])
  | record :: later =>
    match trail.emit record with
    | (trail, .crashed, events) => (trail, .crashed, events)
    | (trail, .regular, events) =>
      let (trail, finish, more) := trail.emitAll later
      (trail, finish, events ++ more)

/-- Lets the tasks behind the sinks take their turns until none has anything left to do. Those that
were given lines were woken at the place named. -/
def settle (trail : Trail) (place : WokenFrom) : Trail × List Event :=
  let (outlets, events) := trail.outlets.settle place
  ({ trail with outlets := outlets }, events)

/-! ### Records -/

/-- The record of a direct access. -/
def directRecord (now : Moment) (visit : Visit) (status : Nat) (latency : Span) : Record :=
  .ofVisit now.time visit status latency directRemark

/-- Records a direct access. -/
def logDirect (trail : Trail) (now : Moment) (visit : Visit) (status : Nat) (latency : Span) :
    Trail × Finish × List Event :=
  trail.emit (directRecord now visit status latency)

/-- The path that a sentence names for a hit. -/
def auditedPath (category : Category) (hit : Hit) : String :=
  match category with
  | .listQuery => joinPath hit.path hit.name
  | _ => hit.shown

/-- The records of an exchange that hit media files. A sentence has room for one path only, so that
each hit has its own; a listing in columns may be told in one record. -/
def recordsOf (trail : Trail) (now : Moment) (exchange : Exchange) (latency : Span)
    (inspection : Inspection) : List Record :=
  let base := Record.ofVisit now.time exchange.visit exchange.status latency
  match trail.layout, exchange.category, trail.grouping with
  | .sentence, category, _ =>
    inspection.hits.map fun hit => { base "" with path := auditedPath category hit }
  | .columns, .listQuery, .aggregated =>
    [base (listRemark inspection.queriedPath (inspection.hits.map Hit.shown))]
  | .columns, .listQuery, .perHit =>
    inspection.hits.map fun hit => base (listRemark inspection.queriedPath [hit.shown])
  | .columns, _, _ => inspection.hits.map fun hit => base (hitRemark hit)

/-- The records of an exchange, none if it hit no media file. -/
def inspectionRecords (trail : Trail) (now : Moment) (exchange : Exchange) (latency : Span)
    (inspection : Inspection) : List Record :=
  if inspection.hits.isEmpty then [] else trail.recordsOf now exchange latency inspection

/-- Records the hits of an exchange, and tells how many records there were. -/
def logInspection (trail : Trail) (now : Moment) (exchange : Exchange) (latency : Span)
    (inspection : Inspection) : Trail × Nat × Finish × List Event :=
  let records := trail.inspectionRecords now exchange latency inspection
  let (trail, finish, events) := trail.emitAll records
  (trail, records.length, finish, events)

/-! ### Calls -/

/-- What a host calls a trail for. -/
inductive Call where
  | logDirect (now : Moment) (visit : Visit) (status : Nat) (latency : Span)
  | logInspection (now : Moment) (exchange : Exchange) (latency : Span) (inspection : Inspection)
  | emit (record : Record)
  | addSink (sink : Sink)

/-- What a host is told of a call: the number of records, if the call comes back. -/
def told (count : Nat) : Finish → Option Nat
  | .regular => some count
  | .crashed => none

/-- Does what it is called for. A host that has an access recorded is told how many records there
were. -/
def serve (trail : Trail) (call : Call) : Trail × Option Nat × Finish × List Event :=
  match call with
  | .logDirect now visit status latency =>
    let (trail, finish, events) := trail.logDirect now visit status latency
    (trail, told 1 finish, finish, events)
  | .logInspection now exchange latency inspection =>
    let (trail, count, finish, events) := trail.logInspection now exchange latency inspection
    (trail, told count finish, finish, events)
  | .emit record =>
    let (trail, finish, events) := trail.emit record
    (trail, none, finish, events)
  | .addSink sink => (trail.addSink sink, none, .regular, [])

/-! ### Reports in debug mode -/

/-- The report of a request. -/
def reportRequest (trail : Trail) (method pathAndQuery : String) (body : Bytes) : List Event :=
  if trail.isDebug then
    .request method pathAndQuery ::
      if body.isEmpty then [] else [.requestBody (Text.Utf8.lossy body)]
  else []

/-- The report of a response, short if it led to a record, and the beginning of its body if there is
one. -/
def reportResponse (trail : Trail) (isMedia : Bool) (visit : Visit) (status : Nat) (latency : Span)
    (body : Bytes) : List Event :=
  if trail.isDebug then
    (if isMedia then .mediaResponse status latency
      else .response visit.method visit.pathAndQuery status latency) ::
      if body.isEmpty then [] else [.responseBody (excerpt body trail.bodyLimit)]
  else []

end Trail

end MediaTrail
