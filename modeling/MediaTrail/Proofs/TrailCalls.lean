/-
**Calls of a trail.** A host calls for records, gives records of its own and adds sinks, in any order,
while the tasks behind channels take their steps. A sink in memory keeps the lines of all records since
it came, in their order. No other sink of the row has a part in it: those that refuse lines are passed
over, as long as none goes down.

* `Trail.Incident`, `Trail.undergo`: what can happen to a trail;
* `Trail.serve_withOutlets`: what one call does to the sinks, and the number that it tells;
* `Trail.arrivals`: the sinks that a trail has, with all that happened since they came;
* `Trail.memory_keeps_lines`: what sinks in memory have kept, whatever happened.
-/

import MediaTrail.Proofs.Channels
import MediaTrail.Proofs.KeptLines

namespace MediaTrail

namespace Sink

/-! ### What a sink in memory keeps -/

/-- The lines that a sink in memory keeps. -/
def kept? : Sink → Option (List String)
  | .memory kept => some kept.toList
  | _ => none

theorem kept?_takeAll (sink : Sink) (entries : List Entrusted) :
    (sink.takeAll entries).kept? = sink.kept?.map (· ++ entries.map Prod.snd) := by
  induction entries generalizing sink with
  | nil => cases sink <;> simp [takeAll, kept?]
  | cons entry rest ih =>
    have one : (sink.emit entry.1 entry.2).sink.kept? = sink.kept?.map (· ++ [entry.2]) := by
      cases sink with
      | memory kept => simp [emit, kept?]
      | diagnostics | host behaviour handed => rfl
      | console writer poisoned =>
        cases poisoned with
        | true => rfl
        | false =>
          simp only [emit]
          split <;> rfl
      | channel task waiting delegate => cases task <;> rfl
    rw [takeAll, List.foldl_cons, ← takeAll, ih, one, Option.map_map]
    cases sink.kept? <;> simp

theorem Stepped.kept?_eq {before after : List Sink} (stepped : Stepped before after) :
    after.map kept? = before.map kept? :=
  stepped.map_eq fun _ _ _ => rfl

end Sink

namespace Outlets

/-- A step of a task behind one of the sinks. -/
def step (outlets : Outlets) (task : TaskId) : Outlets :=
  match outlets.sinks[task.sink]? with
  | none => outlets
  | some sink =>
    { outlets with sinks := outlets.sinks.set task.sink (sink.steps [task.depth]).sink }

theorem step_stepped (outlets : Outlets) (task : TaskId) :
    Sink.Stepped outlets.sinks (outlets.step task).sinks := by
  unfold step
  split
  · exact .refl _
  · rename_i sink found
    exact .set found [task.depth]

theorem sinks_ofList (sinks : List Sink) : (ofList sinks).sinks = sinks := by
  have added (before : Outlets) : (sinks.foldl add before).sinks = before.sinks ++ sinks := by
    induction sinks generalizing before with
    | nil => exact (List.append_nil _).symm
    | cons sink rest ih =>
      rw [List.foldl_cons, ih, add, List.append_assoc]
      rfl
  exact added empty

end Outlets

namespace Trail

/-! ### One call -/

/-- The records that a call has written by the rules of some settings. -/
def Call.records (settings : Settings) : Call → List Record
  | .logDirect now visit status latency => [directRecord now visit status latency]
  | .logInspection now exchange latency inspection =>
    (ofSettings settings []).inspectionRecords now exchange latency inspection
  | .emit record => [record]
  | .addSink _ => []

/-- The lines of a call. -/
def Call.lines (settings : Settings) (call : Call) : List String :=
  (call.records settings).map settings.layout.render

/-- Whether a call tells of an access. -/
def Call.isAccess : Call → Bool
  | .logDirect .. | .logInspection .. => true
  | _ => false

/-- The sink that a call adds, if it adds one. -/
def Call.added : Call → List Sink
  | .addSink sink => [sink]
  | _ => []

/-- The trail of some settings, with given outlets. -/
def withOutlets (settings : Settings) (outlets : Outlets) : Trail :=
  { ofSettings settings [] with outlets := outlets }

section

variable (settings : Settings)

/-- Records leave the rules as they are, and every sink takes them. -/
theorem emitAll_withOutlets {outlets : Outlets} (staysUp : ∀ sink ∈ outlets.sinks, sink.StaysUp)
    (records : List Record) :
    let told := (withOutlets settings outlets).emitAll records
    (∃ later, told.1 = withOutlets settings later ∧ later.sinks =
      outlets.sinks.map (Sink.takeAll · ((ofSettings settings []).entries records))) ∧
        told.2.1 = .regular := by
  have finish := @finish_emitAll (withOutlets settings outlets) staysUp records
  exact ⟨⟨_, emitAll_eq _ _, sinks_emitAll finish⟩, finish⟩

/-- **One call.** It leaves the rules as they are; every sink takes the lines of the call, and a sink
that is added comes last. A call that tells of an access is answered with the number of its lines. -/
theorem serve_withOutlets {outlets : Outlets} (staysUp : ∀ sink ∈ outlets.sinks, sink.StaysUp)
    (call : Call) :
    (∃ later, ((withOutlets settings outlets).serve call).1 = withOutlets settings later ∧
      later.sinks = outlets.sinks.map (Sink.takeAll · ((ofSettings settings []).entries
        (call.records settings))) ++ call.added) ∧
    ((withOutlets settings outlets).serve call).2.1 =
      if call.isAccess then some (call.lines settings).length else none := by
  have all := emitAll_withOutlets settings staysUp
  cases call with
  | logDirect now visit status latency =>
    obtain ⟨⟨later, rules, taken⟩, finish⟩ := all [directRecord now visit status latency]
    rw [← logDirect_eq] at rules finish
    refine ⟨⟨later, rules, taken.trans (List.append_nil _).symm⟩, ?_⟩
    show told 1 ((withOutlets settings outlets).logDirect now visit status latency).2.1 = _
    rw [finish]
    rfl
  | logInspection now exchange latency inspection =>
    obtain ⟨⟨later, rules, taken⟩, finish⟩ :=
      all ((ofSettings settings []).inspectionRecords now exchange latency inspection)
    refine ⟨⟨later, rules, taken.trans (List.append_nil _).symm⟩, ?_⟩
    have same : (withOutlets settings outlets).inspectionRecords = (ofSettings settings
        []).inspectionRecords := rfl
    show told ((withOutlets settings outlets).inspectionRecords _ _ _ _).length
      ((withOutlets settings outlets).emitAll _).2.1 = _
    rw [same, finish, Call.isAccess, if_pos rfl, Call.lines, List.length_map]
    rfl
  | emit record =>
    obtain ⟨⟨later, rules, taken⟩, -⟩ := all [record]
    rw [emitAll_singleton] at rules
    exact ⟨⟨later, rules, taken.trans (List.append_nil _).symm⟩, rfl⟩
  | addSink sink =>
    have untouched : outlets.sinks.map (Sink.takeAll · []) = outlets.sinks := List.map_id _
    exact ⟨⟨_, rfl, congrArg (· ++ [sink]) untouched.symm⟩, rfl⟩

/-- Sinks in memory keep the lines of a call. -/
theorem kept_serve {outlets : Outlets} (staysUp : ∀ sink ∈ outlets.sinks, sink.StaysUp)
    (call : Call) :
    ((withOutlets settings outlets).serve call).1.sinks.map Sink.kept? =
      outlets.sinks.map (fun sink => sink.kept?.map (· ++ call.lines settings)) ++
        call.added.map Sink.kept? := by
  obtain ⟨⟨later, rules, taken⟩, -⟩ := serve_withOutlets settings staysUp call
  have written : ((ofSettings settings []).entries (call.records settings)).map Prod.snd =
      call.lines settings := by
    rw [entries, List.map_map]
    rfl
  rw [rules]
  show later.sinks.map Sink.kept? = _
  rw [taken, List.map_append, List.map_map, ← written]
  exact congrArg (· ++ _) (List.map_congr_left fun sink _ => sink.kept?_takeAll _)

/-! ### Calls and steps -/

/-- What can happen to a trail. -/
inductive Incident where
  | called (call : Call)
  /-- A task behind one of the sinks takes a step. -/
  | stepped (task : TaskId)
  /-- The tasks behind the sinks take their turns until none has anything left to do. -/
  | settled (place : WokenFrom)

def undergo (trail : Trail) : Incident → Trail
  | .called call => (trail.serve call).1
  | .stepped task => { trail with outlets := trail.outlets.step task }
  | .settled place => (trail.settle place).1

/-- A trail after some incidents. -/
def after (trail : Trail) (incidents : List Incident) : Trail := incidents.foldl undergo trail

namespace Incident

/-- The lines of an incident. -/
def lines : Incident → List String
  | .called call => call.lines settings
  | _ => []

/-- The sink that comes with an incident, if one comes. -/
def added : Incident → List Sink
  | .called call => call.added
  | _ => []

end Incident

/-- Sinks that come in the course of some incidents, each with what happens from then on. -/
def additions : List Incident → List (Sink × List Incident)
  | [] => []
  | incident :: later => incident.added.map (·, later) ++ additions later

/-- The sinks that a trail is given and those that come later, each with what happens from then on. -/
def arrivals (sinks : List Sink) (incidents : List Incident) : List (Sink × List Incident) :=
  sinks.map (·, incidents) ++ additions incidents

/-- What a sink in memory has kept in the end: what it came with, and all lines since then. -/
def keptSince (arrival : Sink × List Incident) : Option (List String) :=
  arrival.1.kept?.map (· ++ arrival.2.flatMap (Incident.lines settings))

/-- **One incident.** Sinks in memory keep its lines, and the others do not go down. -/
theorem undergo_withOutlets (outlets : Outlets) (incident : Incident)
    (staysUp : ∀ sink ∈ outlets.sinks ++ incident.added, sink.StaysUp) :
    ∃ later, (withOutlets settings outlets).undergo incident = withOutlets settings later ∧
      later.sinks.map Sink.kept? =
        outlets.sinks.map (fun sink => sink.kept?.map (· ++ incident.lines settings)) ++
          incident.added.map Sink.kept? ∧
      ∀ sink ∈ later.sinks, sink.StaysUp := by
  have noLines : outlets.sinks.map (fun sink => sink.kept?.map (· ++ [])) ++ [] =
      outlets.sinks.map Sink.kept? := by
    simp
  have before := (List.forall_mem_append.mp staysUp).1
  cases incident with
  | called call =>
    obtain ⟨⟨later, rules, taken⟩, -⟩ := serve_withOutlets settings before call
    have kept := kept_serve settings before call
    rw [rules] at kept
    refine ⟨later, rules, kept, ?_⟩
    rw [taken]
    exact List.forall_mem_append.mpr ⟨List.forall_mem_map.mpr fun sink member =>
      (before sink member).takeAll _, (List.forall_mem_append.mp staysUp).2⟩
  | stepped task =>
    have stepped := outlets.step_stepped task
    exact ⟨_, rfl, stepped.kept?_eq.trans noLines.symm, stepped.staysUp before⟩
  | settled place =>
    have stepped := outlets.settle_stepped place
    exact ⟨_, rfl, stepped.kept?_eq.trans noLines.symm, stepped.staysUp before⟩

/-- **Incidents of any number.** -/
theorem after_withOutlets (outlets : Outlets) (incidents : List Incident)
    (staysUp : ∀ arrival ∈ arrivals outlets.sinks incidents, arrival.1.StaysUp) :
    ∃ later, (withOutlets settings outlets).after incidents = withOutlets settings later ∧
      later.sinks.map Sink.kept? = (arrivals outlets.sinks incidents).map (keptSince settings) ∧
      ∀ sink ∈ later.sinks, sink.StaysUp := by
  induction incidents generalizing outlets with
  | nil =>
    refine ⟨outlets, rfl, ?_, fun sink member => ?_⟩
    · simp [arrivals, additions, keptSince, Function.comp_def]
    · exact staysUp (sink, []) (by simpa [arrivals, additions] using member)
  | cons incident incidents ih =>
    rw [arrivals, additions, List.forall_mem_append, List.forall_mem_map, List.forall_mem_append,
      List.forall_mem_map] at staysUp
    obtain ⟨given, added, additional⟩ := staysUp
    obtain ⟨middle, rules, kept, up⟩ := undergo_withOutlets settings outlets incident
      (List.forall_mem_append.mpr ⟨given, added⟩)
    obtain ⟨later, rest, keptLater, upLater⟩ := ih middle
      (List.forall_mem_append.mpr ⟨List.forall_mem_map.mpr up, additional⟩)
    refine ⟨later, ?_, ?_, upLater⟩
    · rw [← rest, ← rules]
      rfl
    · have onward (sinks : List Sink) : sinks.map (keptSince settings ∘ (·, incidents)) =
          (sinks.map Sink.kept?).map
            (Option.map (· ++ incidents.flatMap (Incident.lines settings))) := by
        rw [List.map_map]
        rfl
      rw [keptLater, arrivals, arrivals, additions, List.map_append, List.map_append,
        List.map_append, List.map_map, List.map_map, List.map_map, onward, kept, onward,
        List.map_append, List.map_map, List.append_assoc]
      refine congrArg (· ++ _) (List.map_congr_left fun sink _ => ?_)
      simp [keptSince, Function.comp_def, Option.map_map]

/-- **Sinks in memory keep all lines since they came.** Whatever sinks a trail has beside them, in
whatever order it is called and tasks take their steps: each has the lines of all calls since then, in
order. No sink goes down over a record, and a call that tells of an access is answered with the number
of lines that each of these sinks gets by it. -/
theorem memory_keeps_lines (sinks : List Sink) (incidents : List Incident)
    (staysUp : ∀ arrival ∈ arrivals sinks incidents, arrival.1.StaysUp) :
    let trail := (ofSettings settings sinks).after incidents
    trail.sinks.map Sink.kept? = (arrivals sinks incidents).map (keptSince settings) ∧
      (∀ sink ∈ trail.sinks, ∀ record line, (sink.emit record line).taken ≠ .crashed) ∧
      ∀ call, (trail.serve call).1.sinks.map Sink.kept? =
          trail.sinks.map (fun sink => sink.kept?.map (· ++ call.lines settings)) ++
            call.added.map Sink.kept? ∧
        (trail.serve call).2.1 =
          if call.isAccess then some (call.lines settings).length else none := by
  obtain ⟨outlets, rules, kept, up⟩ := after_withOutlets settings (.ofList sinks) incidents
    (by rwa [Outlets.sinks_ofList])
  have start : withOutlets settings (.ofList sinks) = ofSettings settings sinks := rfl
  rw [Outlets.sinks_ofList] at kept
  rw [start] at rules
  dsimp only
  rw [rules]
  refine ⟨kept, fun sink member record line => ((up sink member).emit record line).2, fun call =>
    ⟨kept_serve settings up call, (serve_withOutlets settings up call).2⟩⟩

end

/-- A sink in memory beside a stream that is full, and one that comes later. An exchange with two hits
is told in two lines, which both of them keep. -/
theorem memory_keeps_lines_of_full_stream :
    let settings : Settings := { grouping := .perHit }
    let now : Moment := ⟨⟨2024, 5, 1, 12, 0, 0⟩, 0⟩
    let visit : Visit := ⟨"/d/a.mp4", "/d/a.mp4", "GET", "10.1.2.3", "alice"⟩
    let record := directRecord now visit 200 ⟨0⟩
    let line := settings.layout.render record
    let full : Writer := .limited none (some 0) (.refuses ⟨.brokenPipe, "closed"⟩) none
    let sinks : List Sink := [.console full false, .memory .empty]
    let incidents : List Incident := [.called (.emit record), .settled .outside,
      .called (.addSink (.memory .empty)), .called (.logDirect now visit 200 ⟨0⟩)]
    let trail := (ofSettings settings sinks).after incidents
    let call : Call := .logInspection now ⟨.listQuery, visit, 200, [], [], 0⟩ ⟨0⟩
      ⟨"/d", [⟨"a.mp4", "/d", "a.mp4"⟩, ⟨"b.mp4", "/d", "b.mp4"⟩]⟩
    (∀ arrival ∈ arrivals sinks incidents, arrival.1.StaysUp) ∧
      trail.sinks.map Sink.kept? = [none, some [line, line], some [line]] ∧
      (trail.serve call).1.sinks.map Sink.kept? =
        [none, some ([line, line] ++ call.lines settings), some ([line] ++ call.lines settings)] ∧
      (trail.serve call).2.1 = some 2 := by
  intro settings now visit record line full sinks incidents
  have fullStays : full.StaysUp := Writer.staysUp_limited none (some 0) Reply.noConfusion none
  have staysUp : ∀ arrival ∈ arrivals sinks incidents, arrival.1.StaysUp := by
    refine List.forall_mem_cons.mpr ⟨fullStays, List.forall_mem_cons.mpr ⟨trivial, ?_⟩⟩
    exact List.forall_mem_singleton.mpr trivial
  have general := memory_keeps_lines settings sinks incidents staysUp
  generalize (ofSettings settings sinks).after incidents = trail at general ⊢
  obtain ⟨kept, -, served⟩ := general
  intro trail call
  have lines : trail.sinks.map Sink.kept? = [none, some [line, line], some [line]] := kept
  refine ⟨staysUp, lines, ?_, (served call).2⟩
  have onward : (trail.serve call).1.sinks.map Sink.kept? =
      (trail.sinks.map Sink.kept?).map (Option.map (· ++ call.lines settings)) := by
    rw [List.map_map]
    exact (served call).1.trans (List.append_nil _)
  rw [onward, lines]
  rfl

end Trail

end MediaTrail
