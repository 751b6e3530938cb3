/-
**Sinks.** Where the lines of records go. A sink takes a line, or says why not; a channel takes
lines at once and has a task in the background that hands them to the sink behind it later.

* `Sink.emit`: gives a sink a record and its line;
* `Sink.handOn`: one step of the task of a channel;
* `Sink.turn`: a turn of the task at some depth of nested channels, of at most `turnSize` lines;
* `Sink.letGo`: nobody gives the sink another line, so that its task ends when it is done.
-/

import MediaTrail.Event
import MediaTrail.Queue

namespace MediaTrail

/-- A record and its line. -/
abbrev Entrusted := Record × String

/-- How a sink behaves that its host brought along: the error for the next record and line, if there
is one, given all that it was handed before. -/
abbrev HostBehaviour := Journal Entrusted → Entrusted → Option SinkError

/-- What the task of a channel is about. -/
inductive TaskState where
  /-- It hands on what comes. -/
  | running
  /-- It hands on what is under way, and ends: nothing more will come. -/
  | closing
  | ended
deriving DecidableEq, Repr

/-- A place for lines. -/
inductive Sink where
  /-- Keeps the lines. -/
  | memory (kept : Journal String)
  /-- Reports each record as an event. -/
  | diagnostics
  /-- Writes each line to a stream, which is poisoned once it went down in use. -/
  | console (writer : Writer) (poisoned : Bool)
  /-- A sink of the host, with all that it was handed. -/
  | host (behaviour : HostBehaviour) (handed : Journal Entrusted)
  /-- A channel in front of a sink, with the lines under way. -/
  | channel (task : TaskState) (waiting : Queue Entrusted) (delegate : Sink)

/-- How a sink took a line. -/
inductive Taken where
  | accepted
  | refused (error : SinkError)
  | crashed
deriving DecidableEq, Repr

/-- What came of giving a sink a line. -/
structure Emission where
  sink : Sink
  taken : Taken
  events : List Event

namespace Sink

/-- Writes a line and a newline to a stream, and flushes it. -/
def writeLine (writer : Writer) (line : String) : Writer × Written :=
  match writer.writeAll (Text.Utf8.encode line) with
  | (writer, .done) =>
    match writer.writeAll [0x0A] with
    | (writer, .done) => writer.flush
    | stopped => stopped
  | stopped => stopped

def emit (sink : Sink) (record : Record) (line : String) : Emission :=
  match sink with
  | .memory kept => ⟨.memory (kept.push line), .accepted, []⟩
  | .diagnostics => ⟨.diagnostics, .accepted, [.recorded record line]⟩
  | .console writer true => ⟨.console writer true, .refused .poisoned, []⟩
  | .console writer false =>
    match writeLine writer line with
    | (writer, .done) => ⟨.console writer false, .accepted, []⟩
    | (writer, .failed fault) => ⟨.console writer false, .refused (.io fault), []⟩
    | (writer, .crashed) => ⟨.console writer true, .crashed, []⟩
  | .host behaviour handed =>
    let taken := match behaviour handed (record, line) with
      | some error => .refused error
      | none => .accepted
    ⟨.host behaviour (handed.push (record, line)), taken, []⟩
  | .channel .ended waiting delegate => ⟨.channel .ended waiting delegate, .refused .closed, []⟩
  | .channel task waiting delegate =>
    ⟨.channel task (waiting.push (record, line)) delegate, .accepted, []⟩

/-- Lets go of a sink: nobody gives it another line. -/
def letGo : Sink → Sink
  | .channel .running waiting delegate => .channel .closing waiting delegate
  | sink => sink

/-- A channel in front of a sink. -/
def behindChannel (delegate : Sink) : Sink := .channel .running .empty delegate

/-- A channel whose task is gone, and let go of the sink behind it. -/
def behindClosedChannel (delegate : Sink) : Sink := .channel .ended .empty delegate.letGo

/-! ### Tasks -/

/-- What a task goes on with after a step. -/
inductive Onward where
  /-- The next step. -/
  | step
  /-- Nothing, until something comes. -/
  | rest
deriving DecidableEq, Repr

/-- A step of the task of a channel. It hands the first waiting line to the sink behind the channel;
where none waits, it rests, or ends if nothing more will come. A sink that crashes takes the task
with it, and the lines under way are lost. -/
def handOn (task : TaskState) (waiting : Queue Entrusted) (delegate : Sink) :
    Sink × List Event × Onward :=
  match task, waiting.pop? with
  | .ended, _ => (.channel .ended waiting delegate, [], .rest)
  | .running, none => (.channel .running waiting delegate, [], .rest)
  | .closing, none => (.channel .ended .empty delegate.letGo, [.channelEnded], .rest)
  | task, some ((record, line), later) =>
    let emission := delegate.emit record line
    match emission.taken with
    | .accepted => (.channel task later emission.sink, emission.events, .step)
    | .refused error =>
      (.channel task later emission.sink, emission.events ++ [.rejected error], .step)
    | .crashed => (.channel .ended .empty emission.sink.letGo, emission.events, .rest)

/-- A turn of a task that was taken. -/
structure Turn where
  sink : Sink
  events : List Event
  /-- Whether it was cut short, and not because there was nothing to do. -/
  paused : Bool

def turnSize : Nat := 128

/-- A turn of the task of a sink, of some steps at most. -/
def turnOf (steps : Nat) (sink : Sink) : Turn :=
  match steps, sink with
  | 0, sink => ⟨sink, [], true⟩
  | steps + 1, .channel task waiting delegate =>
    match handOn task waiting delegate with
    | (sink, events, .rest) => ⟨sink, events, false⟩
    | (sink, events, .step) =>
      let turn := turnOf steps sink
      { turn with events := events ++ turn.events }
  | _, sink => ⟨sink, [], false⟩

/-- A turn of the task at a depth: of the sink itself at depth zero, of the one behind it at depth
one. -/
def turn : Nat → Sink → Turn
  | 0, sink => turnOf turnSize sink
  | depth + 1, .channel task waiting delegate =>
    let turn := turn depth delegate
    { turn with sink := .channel task waiting turn.sink }
  | _, sink => ⟨sink, [], false⟩

/-- Whether the task at a depth has something to do. -/
def hasWork : Nat → Sink → Bool
  | 0, .channel .running waiting _ => !waiting.isEmpty
  | 0, .channel .closing _ _ => true
  | depth + 1, .channel _ _ delegate => delegate.hasWork depth
  | _, _ => false

/-- The depths at which tasks have not ended, inner ones first. Depths count from `depth`. -/
def depthsFrom (depth : Nat) : Sink → List Nat
  | .channel .ended _ delegate => delegate.depthsFrom (depth + 1)
  | .channel _ _ delegate => delegate.depthsFrom (depth + 1) ++ [depth]
  | _ => []

def depth : Sink → Nat
  | .channel _ _ delegate => delegate.depth + 1
  | _ => 0

/-- A bound for the steps and ends that are still to come: every waiting line passes the channels
in front of the innermost sink, each of which may end once. -/
def labour : Sink → Nat
  | .channel _ waiting delegate => (waiting.size + 1) * (delegate.depth + 1) + delegate.labour
  | _ => 0

/-! ### What a sink holds -/

/-- The sink at the end of a row of channels. -/
def innermost : Sink → Sink
  | .channel _ _ delegate => delegate.innermost
  | sink => sink

/-- The lines that a sink keeps in memory. -/
def lines? (sink : Sink) : Option (List String) :=
  match sink.innermost with
  | .memory kept => some kept.toList
  | _ => none

/-- The stream that a sink writes to. -/
def writer? (sink : Sink) : Option Writer :=
  match sink.innermost with
  | .console writer _ => some writer
  | _ => none

end Sink

end MediaTrail
