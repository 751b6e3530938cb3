/-
**Agendas.** Whose turn it is: the tasks behind channels that have something to do. Tasks that were
woken in the course of a turn go ahead of those woken between turns; a task whose turn was cut short
goes on once nobody else is left, the last such task first.

* `Agenda.next?`: the task whose turn it is;
* `Agenda.wake`: a task gets something to do, and is named once however often that happens.
-/

import MediaTrail.Queue

namespace MediaTrail

/-- The task of a channel: of which sink in a row, and at which depth of it. -/
structure TaskId where
  sink : Nat
  depth : Nat
deriving DecidableEq, Repr

/-- Where a task was woken. -/
inductive WokenFrom where
  /-- In the course of a turn. -/
  | within
  /-- Between turns. -/
  | outside
deriving DecidableEq, Repr

/-- The tasks that have something to do. -/
structure Agenda where
  /-- Those woken in the course of a turn. -/
  within : Queue TaskId := .empty
  /-- Those woken between turns. -/
  outside : Queue TaskId := .empty
  /-- Those whose turn was cut short, last one first. -/
  paused : List TaskId := []

namespace Agenda

def toList (agenda : Agenda) : List TaskId :=
  agenda.within.toList ++ agenda.outside.toList ++ agenda.paused

def empty : Agenda := {}

def size (agenda : Agenda) : Nat :=
  agenda.within.size + agenda.outside.size + agenda.paused.length

/-- A task gets something to do. -/
def wake (agenda : Agenda) (place : WokenFrom) (task : TaskId) : Agenda :=
  if agenda.toList.contains task then agenda
  else
    match place with
    | .within => { agenda with within := agenda.within.push task }
    | .outside => { agenda with outside := agenda.outside.push task }

/-- A turn was cut short. -/
def pause (agenda : Agenda) (task : TaskId) : Agenda :=
  { agenda with paused := task :: agenda.paused }

/-- The task whose turn it is, and the agenda without it. -/
def next? (agenda : Agenda) : Option (TaskId × Agenda) :=
  match agenda.within.pop?, agenda.outside.pop?, agenda.paused with
  | some (task, within), _, _ => some (task, { agenda with within := within })
  | none, some (task, outside), _ => some (task, { agenda with outside := outside })
  | none, none, task :: paused => some (task, { within := .ofList paused })
  | none, none, [] => none

end Agenda

end MediaTrail
