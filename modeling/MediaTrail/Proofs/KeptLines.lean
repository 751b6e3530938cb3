/-
**Lines kept in memory.** A sink in memory is the plainest witness of what a monitor tells: it keeps
every line and loses none. Nothing but the recording of accesses changes it; the tasks behind other
sinks pass it by, and so do requests until they are answered. All this is so as long as no sink goes
down, for a sink that does takes the request with it (`Monitor.GoesBy`).

* `Monitor.GoesBy`: a monitor goes by the rules that it started with, and its sinks stay up;
* `GoesBy.conclude_eq`, `GoesBy.concludeDirect_eq`: what comes of an exchange and of an access that is
  not captured;
* `Monitor.Holds`: such a monitor has kept some lines;
* `Holds.settle`, `Holds.pause`: waiting changes nothing of that;
* `Holds.tell`: records are told one after the other;
* `Holds.conclude`, `Holds.concludeDirect`: what is told of an exchange and of a direct access.
-/

import MediaTrail.Monitor
import MediaTrail.Proofs.Channels
import MediaTrail.Proofs.Emission

namespace MediaTrail

@[simp] theorem Journal.append_nil {α : Type} (journal : Journal α) : journal.append [] = journal :=
  rfl

@[simp] theorem Journal.append_append {α : Type} (journal : Journal α) (first second : List α) :
    journal.append (first ++ second) = (journal.append first).append second := by
  simp [append]

/-! ### Sinks that are given lines, and whose tasks take steps -/

namespace Sink

theorem takeAll_memory (kept : Journal String) (entries : List Entrusted) :
    (Sink.memory kept).takeAll entries = .memory (kept.append (entries.map Prod.snd)) := by
  induction entries generalizing kept with
  | nil => rfl
  | cons entry rest ih =>
    rw [takeAll, List.foldl_cons, ← takeAll]
    exact ih (kept.push entry.2)

/-- What a sink in memory keeps. -/
def memory? : Sink → Option (Journal String)
  | .memory kept => some kept
  | _ => none

theorem memory?_eq_some_iff {sink : Sink} {kept : Journal String} :
    sink.memory? = some kept ↔ sink = .memory kept := by
  cases sink <;> simp [memory?]

theorem Stepped.staysUp {before after : List Sink} (stepped : Stepped before after)
    (staysUp : ∀ sink ∈ before, sink.StaysUp) : ∀ sink ∈ after, sink.StaysUp := by
  have same : after.map StaysUp = before.map StaysUp := stepped.map_eq fun _ _ _ => rfl
  have up : ∀ holds ∈ before.map StaysUp, holds := List.forall_mem_map.mpr staysUp
  rw [← same] at up
  exact fun sink member => up _ (List.mem_map_of_mem member)

/-- No task stands behind a sink in memory. -/
theorem Stepped.memory {before after : List Sink} (stepped : Stepped before after) {position : Nat}
    {kept : Journal String} (memory : before[position]? = some (.memory kept)) :
    after[position]? = some (.memory kept) := by
  have same : after.map memory? = before.map memory? := stepped.map_eq fun _ _ _ => rfl
  have here : (after.map memory?)[position]? = some (some kept) := by
    rw [same, List.getElem?_map, memory]
    rfl
  rw [List.getElem?_map, Option.map_eq_some_iff] at here
  obtain ⟨sink, found, isMemory⟩ := here
  rw [found, memory?_eq_some_iff.mp isMemory]

end Sink

namespace Monitor

/-- What is waited for does not change what sinks in memory keep. -/
theorem memory_pause (monitor : Monitor) (waits : Bool) {position : Nat} {kept : Journal String}
    (memory : monitor.trail.sinks[position]? = some (.memory kept)) :
    (monitor.pause waits).1.trail.sinks[position]? = some (.memory kept) := by
  cases waits with
  | true => exact (monitor.trail.outlets.settle_stepped .within).memory memory
  | false => exact memory

/-! ### Rules -/

/-- The monitor with other outlets. -/
def withOutlets (monitor : Monitor) (outlets : Outlets) : Monitor :=
  { monitor with trail := { monitor.trail with outlets := outlets } }

/-- A monitor that goes by the rules of the one at the origin, whatever its sinks have taken. None of
them goes down. -/
inductive GoesBy (origin : Monitor) : Monitor → Prop
  | of (outlets : Outlets) (staysUp : ∀ sink ∈ outlets.sinks, sink.StaysUp) :
    GoesBy origin (origin.withOutlets outlets)

theorem goesBy_self {monitor : Monitor} (staysUp : ∀ sink ∈ monitor.trail.sinks, sink.StaysUp) :
    monitor.GoesBy monitor :=
  .of monitor.trail.outlets staysUp

/-- The lines of some records. -/
def linesOf (monitor : Monitor) (records : List Record) : List String :=
  (monitor.trail.entries records).map Prod.snd

/-- The records of the hits of an exchange. -/
def hitRecords (monitor : Monitor) (now : Moment) (exchange : Exchange) : List Record :=
  monitor.trail.inspectionRecords now exchange (now.since exchange.started)
    (monitor.inspector.inspect exchange.category exchange.requestBody exchange.responseBody)

/-- The monitor after some records were given to its sinks. -/
def tell (monitor : Monitor) (records : List Record) : Monitor :=
  { monitor with trail := (monitor.trail.emitAll records).1 }

/-- Telling records changes nothing of what is reported of a response. -/
theorem reportResponse_tell (monitor : Monitor) (records : List Record) :
    (monitor.tell records).trail.reportResponse = monitor.trail.reportResponse := by
  rw [tell, Trail.emitAll_eq]
  rfl

/-- Where no sink goes down over its records, an exchange is told and reported. -/
theorem conclude_of_regular (monitor : Monitor) (now : Moment) (exchange : Exchange)
    (regular : (monitor.trail.emitAll (monitor.hitRecords now exchange)).2.1 = .regular) :
    let records := monitor.hitRecords now exchange
    monitor.conclude now exchange = (monitor.tell records, .regular,
      (monitor.trail.emitAll records).2.2 ++ monitor.trail.reportResponse (0 < records.length)
        exchange.visit exchange.status (now.since exchange.started) exchange.responseBody) := by
  intro records
  have logged : monitor.trail.logInspection now exchange (now.since exchange.started)
      (monitor.inspector.inspect exchange.category exchange.requestBody exchange.responseBody) =
        ((monitor.trail.emitAll records).1, records.length, (monitor.trail.emitAll records).2) := rfl
  have finish : (monitor.trail.emitAll records).2.1 = .regular := regular
  rw [← monitor.reportResponse_tell records]
  unfold conclude tell
  simp only [logged]
  rcases result : monitor.trail.emitAll records with ⟨later, told, events⟩
  rw [result] at finish
  obtain rfl : told = .regular := finish
  rfl

/-- The same for an access to a media file itself. -/
theorem concludeDirect_of_media {β : Type} (monitor : Monitor) (now : Moment)
    {passage : Passage β} (status : Nat) (media : passage.category = .directMedia)
    (regular : (monitor.trail.emitAll [Trail.directRecord now passage.visit status
      (now.since passage.started)]).2.1 = .regular) :
    let records :=
      [Trail.directRecord now passage.visit status (now.since passage.started)]
    monitor.concludeDirect now passage status = (monitor.tell records, .regular,
      (monitor.trail.emitAll records).2.2 ++ monitor.trail.reportResponse true passage.visit status
        (now.since passage.started) []) := by
  intro records
  have isMedia : (passage.category == .directMedia) = true := beq_iff_eq.mpr media
  have logged : monitor.trail.logDirect now passage.visit status (now.since passage.started) =
      monitor.trail.emitAll records := monitor.trail.logDirect_eq now _ _ _
  have finish : (monitor.trail.emitAll records).2.1 = .regular := regular
  rw [← monitor.reportResponse_tell records]
  unfold concludeDirect tell
  simp only [isMedia, if_true, logged]
  rcases result : monitor.trail.emitAll records with ⟨later, told, events⟩
  rw [result] at finish
  obtain rfl : told = .regular := finish
  rfl

/-- An access of another class that is not captured leaves no record. -/
theorem concludeDirect_of_other {β : Type} (monitor : Monitor) (now : Moment)
    {passage : Passage β} (status : Nat) (other : passage.category ≠ .directMedia) :
    monitor.concludeDirect now passage status = (monitor, .regular,
      monitor.trail.reportResponse false passage.visit status (now.since passage.started) []) := by
  have notMedia : (passage.category == .directMedia) = false := beq_eq_false_iff_ne.mpr other
  unfold concludeDirect
  simp only [notMedia, Bool.false_eq_true, if_false, List.nil_append]

section

variable {origin monitor : Monitor} {β : Type} (rules : origin.GoesBy monitor)

include rules

theorem GoesBy.settle (place : WokenFrom) : origin.GoesBy (monitor.settle place).1 := by
  cases rules with
  | of outlets staysUp => exact .of _ ((outlets.settle_stepped place).staysUp staysUp)

theorem GoesBy.pause (waits : Bool) : origin.GoesBy (monitor.pause waits).1 := by
  cases waits with
  | true => exact rules.settle .within
  | false => exact rules

/-- Records are given to all sinks, and none of them goes down. -/
theorem GoesBy.tell (records : List Record) : origin.GoesBy (monitor.tell records) ∧
    (monitor.trail.emitAll records).2.1 = .regular ∧
    (monitor.tell records).trail.sinks =
      monitor.trail.sinks.map (Sink.takeAll · (origin.trail.entries records)) := by
  cases rules with
  | of outlets staysUp =>
    have finish := @Trail.finish_emitAll (origin.withOutlets outlets).trail staysUp records
    have taken := Trail.sinks_emitAll finish
    refine ⟨?_, finish, taken⟩
    have still : ∀ sink ∈ ((origin.withOutlets outlets).trail.emitAll records).1.sinks,
        sink.StaysUp := by
      rw [taken]
      exact List.forall_mem_map.mpr fun sink member => (staysUp sink member).takeAll _
    rw [Monitor.tell, Trail.emitAll_eq]
    exact .of _ still

/-- **An exchange that is complete** has its records told, and is reported. -/
theorem GoesBy.conclude_eq (now : Moment) (exchange : Exchange) :
    let records := origin.hitRecords now exchange
    monitor.conclude now exchange = (monitor.tell records, .regular,
      (monitor.trail.emitAll records).2.2 ++ origin.trail.reportResponse (0 < records.length)
        exchange.visit exchange.status (now.since exchange.started) exchange.responseBody) := by
  have finish := (rules.tell (origin.hitRecords now exchange)).2.1
  cases rules with
  | of outlets staysUp => exact (origin.withOutlets outlets).conclude_of_regular now exchange finish

/-- **An access that is not captured** has one record if it was one to a media file itself. -/
theorem GoesBy.concludeDirect_eq (now : Moment) (passage : Passage β) (status : Nat)
    (media : passage.category = .directMedia) :
    let records :=
      [Trail.directRecord now passage.visit status (now.since passage.started)]
    monitor.concludeDirect now passage status = (monitor.tell records, .regular,
      (monitor.trail.emitAll records).2.2 ++ origin.trail.reportResponse true passage.visit status
        (now.since passage.started) []) := by
  have finish := (rules.tell
    [Trail.directRecord now passage.visit status (now.since passage.started)]).2.1
  cases rules with
  | of outlets staysUp =>
    exact (origin.withOutlets outlets).concludeDirect_of_media now status media finish

/-- Whatever is delivered, the call comes back. -/
theorem GoesBy.concludeIf (now : Moment) (delivered : Option Exchange) :
    origin.GoesBy (monitor.concludeIf now delivered).1 ∧
      (monitor.concludeIf now delivered).2.1 = .regular := by
  cases delivered with
  | none => exact ⟨rules, rfl⟩
  | some exchange =>
    rw [Monitor.concludeIf, rules.conclude_eq now exchange]
    exact ⟨(rules.tell _).1, rfl⟩

/-- The same for any access that is not captured. -/
theorem GoesBy.concludeDirect (now : Moment) (passage : Passage β) (status : Nat) :
    origin.GoesBy (monitor.concludeDirect now passage status).1 ∧
      (monitor.concludeDirect now passage status).2.1 = .regular := by
  by_cases media : passage.category = .directMedia
  · rw [rules.concludeDirect_eq now passage status media]
    exact ⟨(rules.tell _).1, rfl⟩
  · rw [monitor.concludeDirect_of_other now status media]
    exact ⟨rules, rfl⟩

end

/-! ### Lines -/

/-- A monitor that goes by the rules of the one at the origin, and has kept these lines in the sink at
some position. -/
structure Holds (origin : Monitor) (position : Nat) (kept : Journal String) (monitor : Monitor) :
    Prop where
  rules : origin.GoesBy monitor
  memory : monitor.trail.sinks[position]? = some (.memory kept)

/-- The line of a direct access. -/
def directLine {β : Type} (monitor : Monitor) (now : Moment) (passage : Passage β) (status : Nat) :
    String :=
  monitor.trail.layout.render
    (Trail.directRecord now passage.visit status (now.since passage.started))

/-- The lines of the hits of an exchange, none if there was no such exchange. -/
def hitLines (monitor : Monitor) (now : Moment) (delivered : Option Exchange) : List String :=
  match delivered with
  | some exchange => monitor.linesOf (monitor.hitRecords now exchange)
  | none => []

/-- Exchanges whose bodies are not looked at name no files. -/
theorem hitLines_of_unneeded (monitor : Monitor) (now : Moment) {exchange : Exchange}
    (unneeded : exchange.category.needsCapture = false) :
    monitor.hitLines now (some exchange) = [] := by
  have missed (request response : Text.Bytes) :
      monitor.inspector.inspect exchange.category request response = {} := by
    cases known : exchange.category with
    | listQuery | getQuery => simp [known, Category.needsCapture] at unneeded
    | ignored | directMedia | other => rfl
  rw [hitLines, hitRecords, missed]
  rfl

section

variable {origin monitor : Monitor} {position : Nat} {kept : Journal String} {β : Type}
  (holds : origin.Holds position kept monitor)

include holds

theorem Holds.settle (place : WokenFrom) : origin.Holds position kept (monitor.settle place).1 :=
  ⟨holds.rules.settle place, (monitor.trail.outlets.settle_stepped place).memory holds.memory⟩

theorem Holds.pause (waits : Bool) : origin.Holds position kept (monitor.pause waits).1 :=
  ⟨holds.rules.pause waits, monitor.memory_pause waits holds.memory⟩

/-- **Records are told** one after the other, by the rules of the origin. -/
theorem Holds.tell (records : List Record) :
    origin.Holds position (kept.append (origin.linesOf records)) (monitor.tell records) := by
  obtain ⟨rules, -, taken⟩ := holds.rules.tell records
  refine ⟨rules, ?_⟩
  rw [taken, List.getElem?_map, holds.memory]
  exact congrArg some (Sink.takeAll_memory kept _)

/-- An exchange that is delivered has its hits told. -/
theorem Holds.conclude (now : Moment) (delivered : Option Exchange) :
    origin.Holds position (kept.append (origin.hitLines now delivered))
        (monitor.concludeIf now delivered).1 := by
  cases delivered with
  | none => exact holds
  | some exchange =>
    rw [concludeIf, holds.rules.conclude_eq now exchange]
    exact holds.tell _

/-- A direct access is told of in one line. -/
theorem Holds.concludeDirect (now : Moment) {passage : Passage β} (status : Nat)
    (media : passage.category = .directMedia) :
    origin.Holds position (kept.append [origin.directLine now passage status])
        (monitor.concludeDirect now passage status).1 := by
  rw [holds.rules.concludeDirect_eq now passage status media]
  exact holds.tell [_]

end

end Monitor

end MediaTrail
