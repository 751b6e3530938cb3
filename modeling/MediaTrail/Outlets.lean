/-
**Outlets.** A row of sinks that all get the same lines, with the tasks behind their channels. What
a sink says about a line changes nothing for the others.

A sink that goes down over a line is another matter: it takes the whole call down with it.

* `Outlets.emit`: gives the sinks a record and its line, and tells how they took it;
* `Outlets.settle`: lets the tasks take their turns until none has anything left to do.
-/

import MediaTrail.Agenda
import MediaTrail.Sink

namespace MediaTrail

/-- A row of sinks, and the tasks behind them that have not had a turn yet, first one first. -/
structure Outlets where
  sinks : List Sink
  fresh : List TaskId

namespace Outlets

/-- The tasks that a sink brings along, as the one at some position of the row. -/
def tasksOf (position : Nat) (sink : Sink) : List TaskId :=
  (sink.depthsFrom 0).map (TaskId.mk position)

/-- A row without sinks. -/
def empty : Outlets := ⟨[], []⟩

/-- The row with one more sink. -/
def add (outlets : Outlets) (sink : Sink) : Outlets :=
  ⟨outlets.sinks ++ [sink], outlets.fresh ++ tasksOf outlets.sinks.length sink⟩

/-- A row of sinks. -/
def ofList (sinks : List Sink) : Outlets := sinks.foldl add empty

/-- What comes of giving sinks a record and its line, one after the other. Those behind a sink that goes
down over it do not get the line. -/
def emissionsOf (record : Record) (line : String) : List Sink → List Emission
  | [] => []
  | sink :: behind =>
    let emission := sink.emit record line
    match emission.taken with
    | .crashed => [emission]
    | .accepted | .refused _ => emission :: emissionsOf record line behind

/-- Gives the sinks a record and its line, and tells how they took it. -/
def emit (outlets : Outlets) (record : Record) (line : String) :
    Outlets × List Taken × List Event :=
  let emissions := emissionsOf record line outlets.sinks
  ({ outlets with sinks := emissions.map Emission.sink ++ outlets.sinks.drop emissions.length },
    emissions.map Emission.taken, emissions.flatMap Emission.events)

/-- Lets go of all sinks. -/
def letGo (outlets : Outlets) : Outlets :=
  { outlets with sinks := outlets.sinks.map Sink.letGo }

/-! ### Turns -/

/-- A row of sinks, the tasks that have something to do, and the events so far, last one first. -/
structure Progress where
  sinks : List Sink
  agenda : Agenda
  events : List Event

/-- A turn of a task. The task behind it is woken if it got something to do. -/
def Progress.turn (progress : Progress) (task : TaskId) : Progress :=
  match progress.sinks[task.sink]? with
  | none => progress
  | some sink =>
    let turn := sink.turn task.depth
    let behind : TaskId := { task with depth := task.depth + 1 }
    let agenda :=
      if turn.sink.hasWork behind.depth then progress.agenda.wake .within behind
      else progress.agenda
    { sinks := progress.sinks.set task.sink turn.sink
      agenda := if turn.paused then agenda.pause task else agenda
      events := turn.events.reverseAux progress.events }

/-- Turns, so many at most, until none has anything left to do. -/
def Progress.run (turns : Nat) (progress : Progress) : Progress :=
  match turns with
  | 0 => progress
  | turns + 1 =>
    match progress.agenda.next? with
    | none => progress
    | some (task, agenda) => run turns ({ progress with agenda := agenda }.turn task)

/-- The tasks of the sinks themselves that have something to do. -/
def busy (outlets : Outlets) : List TaskId :=
  outlets.sinks.zipIdx.filterMap fun (sink, position) =>
    if sink.hasWork 0 then some ⟨position, 0⟩ else none

/-- Who has something to do: tasks that have not had a turn yet, and those that were given lines. -/
def agenda (outlets : Outlets) (place : WokenFrom) : Agenda :=
  let fresh : Agenda := { outside := .ofList outlets.fresh }
  outlets.busy.foldl (fun agenda task => agenda.wake place task) fresh

/-- A bound for the steps and ends that are still to come. -/
def labour (outlets : Outlets) : Nat :=
  outlets.sinks.foldl (fun labour sink => labour + sink.labour) 0

/-- A bound for the turns until none has anything left to do: a task has a turn because it is on the
agenda now, because a step or an end gave it something to do, or because its last turn was cut short
after some steps. -/
def turnBound (outlets : Outlets) (place : WokenFrom) : Nat :=
  (outlets.agenda place).size + 2 * outlets.labour + 1

/-- Lets the tasks take their turns until none has anything left to do. Those that were given lines
were woken at the place named. -/
def settle (outlets : Outlets) (place : WokenFrom) : Outlets × List Event :=
  let done := Progress.run (outlets.turnBound place) ⟨outlets.sinks, outlets.agenda place, []⟩
  (⟨done.sinks, []⟩, done.events.reverse)

end Outlets

end MediaTrail
