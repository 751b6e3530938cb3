/-
**Records in any mode.** In debug mode a monitor does more: it captures more bodies, it waits for
bodies that it would leave alone, it refuses requests whose bodies cannot be read, and it concludes
exchanges that are of no interest. None of this is told to a sink. What is told of a request is its
course, and a course asks for the classes of requests, for their visits and for the layout of records,
and never for the mode (`happen_withMode`).

Two sessions in which the same happens at other moments tell the same but for times and latencies.
The courses of their requests differ in readings of the clocks only (`Course.SameButTimes`), and stay
so whatever happens to them (`Course.SameButTimes.happen`).

* `Record.untimed`, `Layout.SameLines`: lines of records that differ in their times only;
* `build_withMode`: settings are valid in both modes or in none, and the monitors differ in mode only;
* `sameLines_tellings`: what is told of the same happenings at other moments;
* `lines_in_any_mode`: what a sink in memory keeps in one mode and in the other.
-/

import Mathlib.Data.List.Forall2
import MediaTrail.Proofs.Interleaving

namespace MediaTrail

/-! ### Lines but for their times -/

/-- A record without its time and its latency. -/
def Record.untimed (record : Record) : Record :=
  { record with
    time := ⟨0, 0, 0, 0, 0, 0⟩
    latency := record.latency.map fun _ => ⟨0⟩ }

namespace Layout

/-- Lines of two records that differ at most in their times and latencies. -/
def SameLine (layout : Layout) (line other : String) : Prop :=
  ∃ record record' : Record, record.untimed = record'.untimed ∧
    line = layout.render record ∧ other = layout.render record'

/-- Lines that tell of the same, one by one. -/
abbrev SameLines (layout : Layout) : List String → List String → Prop :=
  List.Forall₂ layout.SameLine

variable {layout : Layout}

theorem SameLines.append {first first' second second' : List String}
    (same : layout.SameLines first first') (later : layout.SameLines second second') :
    layout.SameLines (first ++ second) (first' ++ second') :=
  List.rel_append same later

theorem sameLines_render {records records' : List Record}
    (same : records.map Record.untimed = records'.map Record.untimed) :
    layout.SameLines (records.map layout.render) (records'.map layout.render) := by
  have pairs : List.Forall₂ (fun record record' : Record => record.untimed = record'.untimed)
      records records' := by
    rw [← List.forall₂_eq_eq_eq] at same
    exact List.forall₂_map_left_iff.mp (List.forall₂_map_right_iff.mp same)
  refine List.forall₂_map_left_iff.mpr (List.forall₂_map_right_iff.mpr ?_)
  exact pairs.imp fun record record' untimed => ⟨record, record', untimed, rfl, rfl⟩

end Layout

/-- The records of an exchange, at one moment and at another, of a request that came in at one moment
and at another. -/
theorem Trail.untimed_inspectionRecords (trail : Trail) (now now' : Moment) (exchange : Exchange)
    (started : Nat) (latency latency' : Span) (inspection : Inspection) :
    (trail.inspectionRecords now exchange latency inspection).map Record.untimed =
      (trail.inspectionRecords now' { exchange with started := started } latency' inspection).map
        Record.untimed := by
  unfold inspectionRecords
  split
  · rfl
  · obtain ⟨category, visit, status, request, response, began⟩ := exchange
    have each {tell tell' : Hit → Record} (same : ∀ hit, (tell hit).untimed = (tell' hit).untimed) :
        (inspection.hits.map tell).map Record.untimed =
          (inspection.hits.map tell').map Record.untimed := by
      rw [List.map_map, List.map_map]
      exact List.map_congr_left fun hit _ => same hit
    simp only [recordsOf]
    split
    · exact each fun _ => rfl
    · rfl
    · exact each fun _ => rfl
    · exact each fun _ => rfl

namespace Monitor

variable (monitor : Monitor) (now now' : Moment)

theorem sameLines_direct {β : Type} (passage : Passage β) (started status : Nat) :
    monitor.trail.layout.SameLines [monitor.directLine now passage status]
      [monitor.directLine now' { passage with started := started } status] :=
  .cons ⟨Trail.directRecord now passage.visit status (now.since passage.started),
    Trail.directRecord now' passage.visit status (now'.since started), rfl, rfl, rfl⟩ .nil

theorem sameLines_hits (delivered : Option Exchange) (started : Nat) :
    monitor.trail.layout.SameLines (monitor.hitLines now delivered)
      (monitor.hitLines now' (delivered.map fun exchange => { exchange with started := started })) := by
  cases delivered with
  | none => exact .nil
  | some exchange =>
    simp only [hitLines, linesOf, Trail.entries, Option.map_some, List.map_map]
    exact Layout.sameLines_render (monitor.trail.untimed_inspectionRecords now now' exchange started
      _ _ _)

end Monitor

/-! ### Courses but for their times -/

theorem owed_started (exchange : Exchange) (started : Nat) (past : List Sight) (sight : Sight) :
    owed { exchange with started := started } past sight =
      (owed exchange past sight).map fun exchange => { exchange with started := started } := by
  unfold owed
  split <;> rfl

namespace Course

section

variable {β : Type}

/-- Requests that have come equally far, but came in at moments of their own. -/
inductive SameButTimes : Course β → Course β → Prop
  | quiet : SameButTimes .quiet .quiet
  | arriving (received received' : Moment) (request : Request β) :
    SameButTimes (.arriving received request) (.arriving received' request)
  | asked (passage : Monitor.Passage β) (started : Nat) :
    SameButTimes (.asked passage) (.asked { passage with started := started })
  | passed (exchange : Exchange) (started : Nat) (flow : Flow β) (past : List Sight) :
    SameButTimes (.passed exchange flow past)
      (.passed { exchange with started := started } flow past)

/-- The same is told of both, and they stay the same. -/
def SameStep (monitor : Monitor) (told told' : Course β × List String) : Prop :=
  told.1.SameButTimes told'.1 ∧ monitor.trail.layout.SameLines told.2 told'.2

variable {course course' : Course β} (monitor : Monitor) (now now' : Moment)

theorem SameStep.silent {monitor : Monitor} (same : course.SameButTimes course') :
    SameStep monitor (course, []) (course', []) :=
  ⟨same, .nil⟩

theorem sameStep_look (exchange : Exchange) (started : Nat) (flow : Flow β) (past : List Sight)
    (sight : Sight) :
    SameStep monitor (look monitor now exchange flow past sight)
      (look monitor now' { exchange with started := started } flow past sight) := by
  have lines := monitor.sameLines_hits now now' (owed exchange past sight) started
  rw [← owed_started] at lines
  refine ⟨?_, lines⟩
  unfold look
  dsimp only
  split
  · exact .passed exchange started flow _
  · exact .quiet

theorem sameButTimes_readQuery [Content β] (received received' : Moment) (request : Request β) :
    (readQuery monitor received request).SameButTimes (readQuery monitor received' request) := by
  unfold readQuery
  cases Content.collect request.body with
  | none => exact .quiet
  | some result =>
    cases result with
    | ok bytes => exact .asked _ _
    | error error => exact .quiet

theorem SameButTimes.read [Content β] (same : course.SameButTimes course') :
    (course.read monitor).SameButTimes (course'.read monitor) := by
  cases same with
  | arriving received received' request =>
    simp only [Course.read]
    cases monitor.categoryOf request with
    | directMedia => exact .asked _ _
    | listQuery | getQuery => exact sameButTimes_readQuery monitor received received' request
    | ignored | other => exact .quiet
  | quiet => exact .quiet
  | asked passage started => exact .asked passage started
  | passed exchange started flow past => exact .passed exchange started flow past

theorem SameButTimes.answer [Source β] (same : course.SameButTimes course')
    (answer : Except String (Response β)) :
    SameStep monitor (course.answer monitor now answer) (course'.answer monitor now' answer) := by
  cases same with
  | asked passage started =>
    cases answer with
    | error text => exact .silent .quiet
    | ok response =>
      dsimp only [Course.answer]
      split
      · exact ⟨.quiet, monitor.sameLines_direct now now' passage started response.status⟩
      · exact sameStep_look monitor now now' (passage.exchange response.status) started _ _ _
  | quiet => exact .silent .quiet
  | arriving received received' request => exact .silent (.arriving received received' request)
  | passed exchange started flow past => exact .silent (.passed exchange started flow past)

theorem SameButTimes.poll [Source β] (same : course.SameButTimes course') :
    SameStep monitor (course.poll monitor now) (course'.poll monitor now') := by
  cases same with
  | passed exchange started flow past =>
    exact sameStep_look monitor now now' exchange started _ past _
  | quiet => exact .silent .quiet
  | arriving received received' request => exact .silent (.arriving received received' request)
  | asked passage started => exact .silent (.asked passage started)

theorem SameButTimes.polls [Source β] (same : course.SameButTimes course') (rounds : Nat) :
    SameStep monitor (course.polls monitor now rounds) (course'.polls monitor now' rounds) := by
  induction rounds generalizing course course' with
  | zero => exact .silent same
  | succ rounds ih =>
    obtain ⟨next, lines⟩ := same.poll monitor now now'
    obtain ⟨last, later⟩ := ih next
    exact ⟨last, lines.append later⟩

theorem SameButTimes.pollTrailers [Source β] (same : course.SameButTimes course') :
    course.pollTrailers.SameButTimes course'.pollTrailers := by
  cases same with
  | passed exchange started flow past => exact .passed exchange started flow.pollTrailers past
  | quiet => exact .quiet
  | arriving received received' request => exact .arriving received received' request
  | asked passage started => exact .asked passage started

theorem SameButTimes.convert (same : course.SameButTimes course') :
    course.convert.SameButTimes course'.convert := by
  cases same with
  | passed exchange started flow past => exact .passed exchange started flow.convert past
  | quiet => exact .quiet
  | arriving received received' request => exact .arriving received received' request
  | asked passage started => exact .asked passage started

theorem SameButTimes.drop (same : course.SameButTimes course') :
    course.drop.SameButTimes course'.drop := by
  cases same with
  | passed exchange started flow past => exact .quiet
  | quiet => exact .quiet
  | arriving received received' request => exact .arriving received received' request
  | asked passage started => exact .asked passage started

theorem SameButTimes.abandon (same : course.SameButTimes course') :
    course.abandon.SameButTimes course'.abandon := by
  cases same with
  | passed exchange started flow past => exact .passed exchange started flow past
  | quiet | arriving received received' request | asked passage started => exact .quiet

variable [Content β]

theorem sameStep_handle (request : Request β) (handler : Handler β) :
    SameStep monitor (handle monitor now request handler)
      (handle monitor now' request handler) := by
  have same := (SameButTimes.arriving now now' request).read monitor
  unfold handle
  generalize read monitor (.arriving now request) = course at same ⊢
  generalize read monitor (.arriving now' request) = course' at same ⊢
  cases same with
  | asked passage started =>
    exact (SameButTimes.asked passage started).answer monitor now now' (handler.answer passage.request)
  | quiet => exact .silent .quiet
  | arriving received received' request => exact .silent (.arriving received received' request)
  | passed exchange started flow past => exact .silent (.passed exchange started flow past)

/-- **The same happens** to both, each at its moment. -/
theorem SameButTimes.happen (same : course.SameButTimes course') (happening : Happening β) :
    SameStep monitor (course.happen monitor now happening)
      (course'.happen monitor now' happening) := by
  cases happening with
  | step step =>
    cases step with
    | request request handler => exact sameStep_handle monitor now now' request handler
    | poll slot => exact same.poll monitor now now'
    | pollTrailers slot => exact .silent same.pollTrailers
    | drain slot rounds => exact same.polls monitor now now' rounds
    | drop slot => exact .silent same.drop
    | convert slot => exact .silent same.convert
  | arrive request => exact .silent (.arriving now now' request)
  | read slot => exact .silent (same.read monitor)
  | answer slot answer => exact same.answer monitor now now' answer
  | abandon slot => exact .silent same.abandon

end

end Course

/-- **The same happens** in two sessions, at moments of their own. Each time one course takes a step,
and all others are where they were. -/
theorem sameLines_tellings {β : Type} [Content β] (monitor : Monitor) (fresh : Nat)
    {courses courses' : Nat → Course β}
    (same : ∀ number, (courses number).SameButTimes (courses' number))
    {first second : List (Moment × Happening β)}
    (happenings : first.map Prod.snd = second.map Prod.snd) :
    monitor.trail.layout.SameLines
      ((tellings monitor courses (numbered fresh first)).flatMap Prod.snd)
      ((tellings monitor courses' (numbered fresh second)).flatMap Prod.snd) := by
  induction first generalizing second fresh courses courses' with
  | nil =>
    obtain rfl := List.map_eq_nil_iff.mp happenings.symm
    exact .nil
  | cons entry later ih =>
    obtain ⟨now, happening⟩ := entry
    obtain ⟨⟨now', happening'⟩, later', rfl, here, there⟩ := List.map_eq_cons_iff.mp happenings.symm
    obtain rfl : happening' = happening := here
    obtain ⟨next, lines⟩ := (same (happening'.number fresh)).happen monitor now now' happening'
    refine lines.append (ih _ (fun number => ?_) there.symm)
    by_cases own : number = happening'.number fresh
    · subst own
      rw [Function.update_self, Function.update_self]
      exact next
    · rw [Function.update_of_ne own, Function.update_of_ne own]
      exact same number

/-! ### Modes -/

/-- The monitor in another mode. -/
def Monitor.withMode (monitor : Monitor) (mode : Mode) : Monitor :=
  { monitor with trail := { monitor.trail with mode := mode } }

/-- Settings are valid in both modes or in none. -/
theorem Monitor.build_withMode (settings : Settings) (mode : Mode) (sinks : Option (List Sink))
    (identity : Identity) :
    Monitor.build { settings with mode := mode } sinks identity =
      (Monitor.build settings sinks identity).map fun built =>
        (built.1.withMode mode, [.initialized built.1.classifier.extensions.size mode]) := by
  have problems : Settings.problems { settings with mode := mode } = settings.problems := rfl
  unfold Monitor.build Settings.checked
  rw [problems]
  cases settings.problems with
  | nil => rfl
  | cons problem more => rfl

section

variable {β : Type} [Content β] (monitor : Monitor) (mode : Mode)

theorem Course.polls_withMode (now : Moment) (rounds : Nat) (course : Course β) :
    polls (monitor.withMode mode) now rounds course = polls monitor now rounds course := by
  induction rounds generalizing course with
  | zero => rfl
  | succ rounds ih =>
    have here : course.poll (monitor.withMode mode) now = course.poll monitor now := rfl
    simp only [polls, here, ih]

/-- **A course does not know the mode.** -/
theorem Course.happen_withMode (now : Moment) (course : Course β) (happening : Happening β) :
    course.happen (monitor.withMode mode) now happening = course.happen monitor now happening := by
  cases happening with
  | step step =>
    cases step with
    | drain slot rounds => exact polls_withMode monitor mode now rounds course
    | request request handler | poll slot | drop slot | pollTrailers slot | convert slot => rfl
  | arrive request | read slot | answer slot answer | abandon slot => rfl

theorem tellings_withMode (courses : Nat → Course β)
    (entries : List (Nat × Moment × Happening β)) :
    tellings (monitor.withMode mode) courses entries = tellings monitor courses entries := by
  induction entries generalizing courses with
  | nil => rfl
  | cons entry later ih =>
    obtain ⟨number, now, happening⟩ := entry
    simp only [tellings, Course.happen_withMode, ih]

/-- Two sessions that differ in mode, and in the moments at which the same happens. Both go along with
courses of one monitor, which differ in their moments only. -/
theorem Monitor.lines_withMode (staysUp : ∀ sink ∈ monitor.trail.sinks, sink.StaysUp)
    {position : Nat} {kept : Journal String}
    (memory : monitor.trail.sinks[position]? = some (.memory kept))
    {first second : List (Moment × Happening β)}
    (happenings : first.map Prod.snd = second.map Prod.snd) : ∃ lines lines',
      ((Session.start monitor).after first).monitor.trail.sinks[position]? =
          some (.memory (kept.append lines)) ∧
        ((Session.start (monitor.withMode mode)).after second).monitor.trail.sinks[position]? =
          some (.memory (kept.append lines')) ∧
        monitor.trail.layout.SameLines lines lines' ∧ (first = second → lines = lines') := by
  have staysUp' : ∀ sink ∈ (monitor.withMode mode).trail.sinks, sink.StaysUp := staysUp
  have memory' : (monitor.withMode mode).trail.sinks[position]? = some (.memory kept) := memory
  obtain ⟨last, follows⟩ := Session.after_follows (Session.start_follows staysUp memory) first
  obtain ⟨last', follows'⟩ := Session.after_follows (Session.start_follows staysUp' memory') second
  rw [tellings_withMode] at follows'
  refine ⟨_, _, follows.holds.memory, follows'.holds.memory, ?_, ?_⟩
  · exact sameLines_tellings monitor 0 (fun _ => .quiet) happenings
  · rintro rfl
    rfl

end

theorem Monitor.layout_of_build {settings : Settings} {sinks : Option (List Sink)}
    {identity : Identity} {monitor : Monitor} {reports : List Event}
    (valid : Monitor.build settings sinks identity = .ok (monitor, reports)) :
    monitor.trail.layout = settings.layout := by
  unfold Monitor.build Settings.checked at valid
  cases broken : settings.problems with
  | nil =>
    rw [broken] at valid
    obtain ⟨rfl, -⟩ := Prod.mk.inj (Except.ok.inj valid)
    rfl
  | cons problem more =>
    rw [broken] at valid
    cases valid

/-- **The mode changes no record.** If settings are valid in one mode, they are in any other. Whatever
happens in two sessions that differ in mode only, requests and bodies that fail included, a sink in
memory keeps the same lines in the same order, as long as no sink goes down. If the moments differ at
which it happens, the lines differ at most in their times and latencies. -/
theorem lines_in_any_mode {β : Type} [Content β] (settings : Settings) (mode : Mode)
    (sinks : Option (List Sink)) (identity : Identity) {monitor : Monitor} {reports : List Event}
    (valid : Monitor.build settings sinks identity = .ok (monitor, reports))
    (staysUp : ∀ sink ∈ monitor.trail.sinks, sink.StaysUp) :
    ∃ other reports', Monitor.build { settings with mode := mode } sinks identity =
        .ok (other, reports') ∧
      ∀ (position : Nat) (kept : Journal String),
        monitor.trail.sinks[position]? = some (.memory kept) →
        ∀ first second : List (Moment × Happening β), first.map Prod.snd = second.map Prod.snd →
          ∃ lines lines',
            ((Session.start monitor).after first).monitor.trail.sinks[position]? =
                some (.memory (kept.append lines)) ∧
              ((Session.start other).after second).monitor.trail.sinks[position]? =
                some (.memory (kept.append lines')) ∧
              settings.layout.SameLines lines lines' ∧ (first = second → lines = lines') := by
  have built := Monitor.build_withMode settings mode sinks identity
  rw [valid] at built
  refine ⟨monitor.withMode mode, _, built, fun position kept memory first second happenings => ?_⟩
  rw [← Monitor.layout_of_build valid]
  exact monitor.lines_withMode mode staysUp memory happenings

/-- Two requests of no interest, one of them unreadable, then an unreadable query, a listing, one that
fails on its way, and a media file. In both modes two lines are kept. -/
theorem lines_in_debug_mode :
    let settings : Settings := { extensions := ["mp4"] }
    let build (mode : Mode) : Except Settings.LoadError (Monitor × List Event) :=
      Monitor.build { settings with mode := mode } (some [.memory .empty]) .principal
    let request (path : String) (body : Body) (items : List Item) : SessionStep Body :=
      .request ⟨"POST", .origin path.toList, [], {}, body⟩
        ⟨fun _ => .ok ⟨200, [], .stream items []⟩, fun _ => true⟩
    let opening := Item.chunk (Json.ascii "\x7b\"code\":200,\"content\":[")
    let entry := Item.chunk (Json.ascii "\x7b\"name\":\"a.mp4\"\x7d]\x7d")
    let broken := Item.failure (.stream "reset")
    let happenings : List (Happening Body) := [
      request "/me" (.stream [.chunk [1], broken] []) [], request "/me" (.full [1]) [entry],
      request "/api/fs/list" (.stream [broken] []) [], request "/api/fs/list" .empty [
        opening, .pending, entry], request "/api/fs/list" .empty [opening, broken, entry],
      .poll 3, request "/c.mp4" .empty [opening], .drain 4 3, .drain 3 3, .drain 1 3, .drop 5].map .step
    let kept (monitor : Monitor) (now : Moment) : Option (List String) :=
      ((Session.start monitor).after
        (happenings.map (Prod.mk now))).monitor.trail.sinks[0]?.bind Sink.lines?
    ∃ monitor reports other reports' lines lines',
      build .standard = .ok (monitor, reports) ∧ build .debug = .ok (other, reports') ∧
        kept monitor ⟨⟨2024, 1, 2, 3, 4, 5⟩, 0⟩ = some lines ∧
        kept other ⟨⟨2024, 1, 2, 3, 4, 6⟩, 7⟩ = some lines' ∧
        lines.length = 2 ∧ settings.layout.SameLines lines lines' := by
  intro settings build request opening entry broken happenings kept
  let monitor : Monitor := ⟨.ofSettings settings, ⟨.ofList settings.extensions, settings.pathStyle⟩,
    .principal, .ofSettings settings [.memory .empty]⟩
  have sound : settings.problems = [] := by decide
  have standard : build .standard = .ok (monitor, [.initialized 1 .standard]) := by
    show Monitor.build settings _ _ = _
    unfold Monitor.build Settings.checked
    rw [sound]
    rfl
  have staysUp : ∀ sink ∈ monitor.trail.sinks, sink.StaysUp := by
    intro sink member
    obtain rfl := List.mem_singleton.mp member
    trivial
  obtain ⟨other, reports', debug, general⟩ :=
    @lines_in_any_mode Body _ settings .debug (some [.memory .empty]) .principal _ _ standard staysUp
  obtain ⟨lines, lines', first, second, same, -⟩ := general 0 .empty rfl
    (happenings.map (Prod.mk ⟨⟨2024, 1, 2, 3, 4, 5⟩, 0⟩))
    (happenings.map (Prod.mk ⟨⟨2024, 1, 2, 3, 4, 6⟩, 7⟩)) rfl
  have keptLines (lines : List String) :
      Sink.lines? (.memory (Journal.empty.append lines)) = some lines :=
    congrArg some (Journal.toList_append _ _)
  have firstLines : kept monitor ⟨⟨2024, 1, 2, 3, 4, 5⟩, 0⟩ = some lines := by
    show Option.bind _ _ = _
    rw [first]
    exact keptLines lines
  have secondLines : kept other ⟨⟨2024, 1, 2, 3, 4, 6⟩, 7⟩ = some lines' := by
    show Option.bind _ _ = _
    rw [second]
    exact keptLines lines'
  have two : (kept monitor ⟨⟨2024, 1, 2, 3, 4, 5⟩, 0⟩).map List.length = some 2 := by
    decide +kernel
  rw [firstLines] at two
  exact ⟨monitor, _, other, reports', lines, lines', standard, debug, firstLines, secondLines,
    Option.some.inj two, same⟩

end MediaTrail
