/-
**Reports of a session.** In debug mode every request of a session is reported as its own fate has it,
whatever else goes on (`shown_after`): its line and its captured body once it was read, and so before
its handler gets it, and its outcome once its answer is complete. In standard mode nothing is ever
reported.

* `Session.reports`: what each happening of a session reports, and of which request;
* `Session.Fated`: a session goes along with the fates of its requests;
* `happen_moves`: a happening reports what is new in the fate of its request;
* `reports_of_session`: the reports of any session, in both modes.
-/

import MediaTrail.Proofs.FateRecords

namespace MediaTrail

/-- A fate knows nothing of the number of its request. -/
theorem Fate.after_moved {β : Type} [Content β] (monitor : Monitor) (fate : Fate β) (slot : Nat)
    (happenings : List (Moment × Happening β)) :
    fate.after monitor (happenings.map fun entry => (entry.1, entry.2.moved slot)) =
      fate.after monitor happenings := by
  induction happenings generalizing fate with
  | nil => rfl
  | cons entry later ih =>
    obtain ⟨now, happening⟩ := entry
    have same : fate.happen monitor now (happening.moved slot) =
        fate.happen monitor now happening := by
      cases happening with
      | step step => cases step <;> rfl
      | arrive request | read slot | answer slot answer | abandon slot => rfl
    rw [List.map_cons, after, List.foldl_cons, ← after, same, ih]
    rfl

namespace Session

section

variable {β : Type} [Content β]

/-! ### What is reported -/

/-- The events of a happening, with those of the tasks behind the sinks. -/
def eventsOf (session : Session β) (now : Moment) : Happening β → List Event
  | .step step => (session.step now step).events
  | .arrive request => ((session.arrive now request).settle .within).2
  | .read slot => (session.read slot).2.2 ++ ((session.read slot).1.settle .within).2
  | .answer slot answer =>
    (session.answer now slot answer).2.2 ++ ((session.answer now slot answer).1.settle .within).2
  | .abandon slot => ((session.abandon slot).settle .within).2

/-- What each happening reports, and to which request it belongs. -/
def reports (session : Session β) : List (Moment × Happening β) → List (Nat × List Event)
  | [] => []
  | (now, happening) :: later =>
    (happening.number session.places.length, reportsAmong (session.eventsOf now happening)) ::
      (session.happen now happening).reports later

/-! ### Fates -/

/-- A session goes along with the fates of its requests. -/
structure Fated (origin : Monitor) (fates : Nat → Fate β) (session : Session β) : Prop where
  rules : origin.GoesBy session.monitor
  places : ∀ number, (fates number).Follows origin session.places[number]?

/-- One fate goes on, and its session with it. The events report what is new in it. -/
structure Moves (origin : Monitor) (fates : Nat → Fate β) (number : Nat) (next : Fate β)
    (session : Session β) (events : List Event) : Prop where
  fated : session.Fated origin (Function.update fates number next)
  reports : next.shown origin = (fates number).shown origin ++ reportsAmong events

variable {origin monitor : Monitor} {fates : Nat → Fate β} {session : Session β} {slot : Nat}
  {place there : Place β} {next : Fate β} {events : List Event}

theorem Moves.settle (moves : session.Moves origin fates slot next events) (wakes : WokenFrom) :
    (session.settle wakes).1.Moves origin fates slot next
      (events ++ (session.settle wakes).2) where
  fated := ⟨moves.fated.rules.settle wakes, moves.fated.places⟩
  reports := by
    have silent : NoReport (session.settle wakes).2 :=
      session.monitor.trail.outlets.noReport_settle wakes
    rw [moves.reports, reportsAmong_append, reportsAmong_of_noReport silent, List.append_nil]

/-- **Nothing happens** to a request. -/
theorem Fated.still (fated : session.Fated origin fates) (same : next = fates slot) :
    session.Moves origin fates slot next [] := by
  subst same
  refine ⟨?_, (List.append_nil _).symm⟩
  rw [Function.update_eq_self]
  exact fated

/-- **One place changes**, and with it one fate. -/
theorem Fated.setPlace (fated : session.Fated origin fates)
    (found : session.places[slot]? = some there)
    (leads : Fate.Leads origin (fates slot) next (monitor, events))
    (goesOn : next.Follows origin (some place)) :
    ({ session with monitor := monitor }.setPlace slot place).Moves origin fates slot next
      events where
  fated := {
    rules := leads.rules
    places := related_set (Fate.Follows origin) fated.places
      (List.getElem?_eq_some_iff.mp found).1 goesOn }
  reports := leads.reports

theorem Fated.unknown (fated : session.Fated origin fates) :
    fates session.places.length = .unknown := by
  have here := fated.places session.places.length
  rw [List.getElem?_eq_none (Nat.le_refl _)] at here
  exact here.eq_unknown

/-- **A request comes in**, and has a fate from then on. -/
theorem Fated.open (fated : session.Fated origin fates)
    (leads : Fate.Leads origin .unknown next (monitor, events))
    (goesOn : next.Follows origin (some place)) :
    Moves origin fates session.places.length next ⟨monitor, session.places ++ [place]⟩ events where
  fated := {
    rules := leads.rules
    places := related_concat (Fate.Follows origin) fated.places goesOn }
  reports := by
    rw [fated.unknown]
    exact leads.reports

/-- **Something is done with a body**, if it is there. -/
theorem withBody_moves (fated : session.Fated origin fates) {take : Outgoing β → Taking β}
    (unwatched : ((session.places[slot]?).bind Place.body? = none) → next = fates slot)
    (takes : ∀ outgoing, session.places[slot]? = some (.passed outgoing) →
      (fates slot).Follows origin (some (.passed outgoing)) →
      (take outgoing).session.Moves origin fates slot next (take outgoing).events) :
    (session.withBody slot take).session.Moves origin fates slot next
      (session.withBody slot take).events := by
  unfold withBody
  cases found : session.body? slot with
  | none => exact fated.still (unwatched found)
  | some outgoing =>
    have inPlaces := passed_of_body? found
    exact takes outgoing inPlaces (inPlaces ▸ fated.places slot)

/-- **A step that is over at once** goes on with the fate of one request. -/
theorem take_moves (fated : session.Fated origin fates) (now : Moment) (step : SessionStep β) :
    let number := (Happening.step step).number session.places.length
    (session.take now step).session.Moves origin fates number
      ((fates number).happen origin now (.step step)) (session.take now step).events := by
  cases step with
  | request request handler =>
    obtain ⟨leads, goesOn⟩ := Fate.handle_leads fated.rules now request handler
    exact fated.open leads goesOn
  | poll slot =>
    refine withBody_moves fated
      (fun gone => (fated.places slot).unwatched gone (Fate.needsWatched_poll now))
      fun outgoing found here => ?_
    obtain ⟨leads, finish, goesOn, -⟩ := Fate.pollBody_leads fated.rules here now
    simp only [Session.leave, finish]
    exact fated.setPlace found leads goesOn
  | pollTrailers slot =>
    have needs : Fate.NeedsWatched fun fate : Fate β => fate.pollTrailers :=
      ⟨rfl, fun _ _ => rfl, fun _ => rfl, fun _ isOver => isOver.pollTrailers⟩
    refine withBody_moves fated (fun gone => (fated.places slot).unwatched gone needs)
      fun outgoing found here => ?_
    have same : (fates slot).pollTrailers.reports origin = (fates slot).reports origin := by
      cases fates slot <;> rfl
    exact fated.setPlace found (.unseen fated.rules same) here.pollTrailers
  | drain slot rounds =>
    refine withBody_moves fated
      (fun gone => (fated.places slot).unwatched gone (.polls now rounds))
      fun outgoing found here => ?_
    have before : Fate.Leads origin (fates slot) (fates slot) (session.monitor, [].reverse) :=
      .silent fated.rules noReport_nil
    obtain ⟨leads, finish, goesOn⟩ := Fate.drainRounds_leads rounds here now [] before
    simp only [Session.leave, finish]
    exact fated.setPlace found leads goesOn
  | drop slot =>
    have needs : Fate.NeedsWatched fun fate : Fate β => fate.drop :=
      ⟨rfl, fun _ _ => rfl, fun _ => rfl, fun _ isOver => isOver.drop⟩
    refine withBody_moves fated (fun gone => (fated.places slot).unwatched gone needs)
      fun outgoing found here => ?_
    have same : (fates slot).drop.reports origin = (fates slot).reports origin := by
      cases fates slot <;> rfl
    exact fated.setPlace found (.unseen fated.rules same) here.drop
  | convert slot =>
    have needs : Fate.NeedsWatched fun fate : Fate β => fate.convert :=
      ⟨rfl, fun _ _ => rfl, fun _ => rfl, fun _ isOver => isOver.convert⟩
    refine withBody_moves fated (fun gone => (fated.places slot).unwatched gone needs)
      fun outgoing found here => ?_
    have same : (fates slot).convert.reports origin = (fates slot).reports origin := by
      cases fates slot <;> rfl
    exact fated.setPlace found (.unseen fated.rules same) here.toServer

/-- **A request that came in is read**, unless it was read or given up before. -/
theorem read_moves (fated : session.Fated origin fates) (slot : Nat) :
    (session.read slot).1.Moves origin fates slot ((fates slot).read origin)
      (session.read slot).2.2 := by
  have here := fated.places slot
  unfold Session.read
  split
  · rename_i received request found
    rw [found] at here
    obtain ⟨isNext, unheard, -⟩ := here.read_eq origin
    obtain ⟨leads, goesOn⟩ := Fate.letIn_leads fated.rules received request unheard
    rw [isNext]
    exact fated.setPlace found leads goesOn
  · rename_i elsewhere
    exact fated.still (here.read_elsewhere origin elsewhere)

/-- **The handler of a request is done**, if it has one. -/
theorem answer_moves (fated : session.Fated origin fates) (now : Moment) (slot : Nat)
    (answer : Except String (Response β)) :
    (session.answer now slot answer).1.Moves origin fates slot
      ((fates slot).answer now answer) (session.answer now slot answer).2.2 := by
  have here := fated.places slot
  unfold Session.answer
  split
  · rename_i admission found
    rw [found] at here
    obtain ⟨leads, goesOn⟩ := Fate.conduct_leads fated.rules here now answer
    exact fated.setPlace found leads goesOn
  · rename_i elsewhere
    exact fated.still (here.answer_elsewhere now answer elsewhere)

/-- **A request is given up**, if it is not answered yet. -/
theorem abandon_moves (fated : session.Fated origin fates) (slot : Nat) :
    (session.abandon slot).Moves origin fates slot (fates slot).abandon [] := by
  have here := fated.places slot
  unfold Session.abandon
  split
  · rename_i received request found
    rw [found] at here
    obtain ⟨-, unheard, isNext⟩ := here.read_eq origin
    have leads : Fate.Leads origin (fates slot) .refused (session.monitor, []) :=
      .unseen fated.rules unheard.symm
    rw [isNext]
    exact fated.setPlace found leads (.finished _ _ .refused trivial)
  · rename_i admission found
    rw [found] at here
    obtain ⟨isOver, same⟩ := here.abandon_awaiting origin
    exact fated.setPlace found (.unseen fated.rules same) (.finished _ _ isOver trivial)
  · rename_i notArriving notAwaiting
    exact fated.still (here.abandon_elsewhere notArriving notAwaiting)

/-- **Whatever happens** goes on with the fate of one request, and reports what is new in it. -/
theorem happen_moves (fated : session.Fated origin fates) (now : Moment) (happening : Happening β) :
    let number := happening.number session.places.length
    (session.happen now happening).Moves origin fates number
      ((fates number).happen origin now happening) (session.eventsOf now happening) := by
  cases happening with
  | step step => exact (take_moves fated now step).settle step.wakes
  | arrive request =>
    have leads : Fate.Leads origin .unknown (.arriving now request) (session.monitor, []) :=
      .unseen fated.rules rfl
    exact (fated.open leads (.arriving now request)).settle .within
  | read slot => exact (read_moves fated slot).settle .within
  | answer slot answer => exact (answer_moves fated now slot answer).settle .within
  | abandon slot => exact (abandon_moves fated slot).settle .within

/-- A request has what happens to it, whatever happens to others. -/
theorem after_update (origin : Monitor) (fates : Nat → Fate β) (fresh : Nat) (now : Moment)
    (happening : Happening β) (later : List (Moment × Happening β)) (number : Nat) :
    let owner := happening.number fresh
    let next := Function.update fates owner ((fates owner).happen origin now happening)
    (next number).after origin (ownOf number (fresh + happening.opened) later) =
      (fates number).after origin (ownOf number fresh ((now, happening) :: later)) := by
  intro owner next
  by_cases own : owner = number
  · have isNext : next number = (fates number).happen origin now happening := by
      subst own
      exact Function.update_self ..
    rw [ownOf_cons_of_eq now later own, isNext]
    rfl
  · have isNext : next number = fates number := Function.update_of_ne (Ne.symm own) ..
    rw [ownOf_cons_of_ne now later own, isNext]

/-- **A whole session** goes along with the fates of its requests. -/
theorem after_fated (fated : session.Fated origin fates) (happenings : List (Moment × Happening β)) :
    (session.after happenings).Fated origin fun number =>
      (fates number).after origin (ownOf number session.places.length happenings) := by
  induction happenings generalizing session fates with
  | nil => exact fated
  | cons entry later ih =>
    obtain ⟨now, happening⟩ := entry
    have rest := ih (happen_moves fated now happening).fated
    rw [length_happen] at rest
    simp only [after_update] at rest
    exact rest

/-- **What a session reports** of each request is what is new in its fate. -/
theorem shown_after (fated : session.Fated origin fates) (happenings : List (Moment × Happening β))
    (number : Nat) :
    ((fates number).after origin (ownOf number session.places.length happenings)).shown origin =
      (fates number).shown origin ++
        ((session.reports happenings).filter (·.1 = number)).flatMap Prod.snd := by
  induction happenings generalizing session fates with
  | nil => exact (List.append_nil _).symm
  | cons entry later ih =>
    obtain ⟨now, happening⟩ := entry
    have moves := happen_moves fated now happening
    have rest := ih moves.fated
    rw [length_happen, after_update] at rest
    rw [rest, Session.reports]
    by_cases own : happening.number session.places.length = number
    · subst own
      simp only [Function.update_self, List.filter_cons, decide_true, if_true, List.flatMap_cons,
        moves.reports, List.append_assoc]
    · have other : number ≠ happening.number session.places.length := fun same => own same.symm
      simp only [Function.update_of_ne other, List.filter_cons, own, decide_false,
        Bool.false_eq_true, if_false]

/-- In standard mode nothing is reported. -/
theorem reports_of_standard (fated : session.Fated origin fates)
    (standard : origin.trail.mode = .standard) (happenings : List (Moment × Happening β)) :
    ∀ entry ∈ session.reports happenings, entry.2 = [] := by
  have nothing (fate : Fate β) : fate.shown origin = [] := by
    have notDebug : origin.trail.isDebug = false := by rw [Trail.isDebug, standard]; rfl
    rw [Fate.shown, notDebug]
    rfl
  induction happenings generalizing session fates with
  | nil => exact fun _ member => absurd member List.not_mem_nil
  | cons entry later ih =>
    obtain ⟨now, happening⟩ := entry
    have moves := happen_moves fated now happening
    have silent := moves.reports
    rw [nothing, nothing, List.nil_append] at silent
    intro reported member
    rcases List.mem_cons.mp member with rfl | inLater
    · exact silent.symm
    · exact ih moves.fated reported inLater

theorem start_fated {monitor : Monitor} (staysUp : ∀ sink ∈ monitor.trail.sinks, sink.StaysUp) :
    (Session.start monitor : Session β).Fated monitor fun _ => .unknown where
  rules := Monitor.goesBy_self staysUp
  places _ := .unknown

end

end Session

section

variable {β : Type} [Content β]

/-- The fate of a request is what it would be if no other had come in. -/
theorem Fate.after_alone (monitor : Monitor) (happenings : List (Moment × Happening β))
    (number : Nat) : unknown.after monitor (ownOf number 0 happenings) =
      unknown.after monitor (alone number happenings) := by
  rw [← map_moved_ownOf, after_moved]

/-- What a session reports of a request is what is shown of its fate. -/
theorem Session.shown_alone {monitor : Monitor}
    (staysUp : ∀ sink ∈ monitor.trail.sinks, sink.StaysUp)
    (happenings : List (Moment × Happening β)) (number : Nat) :
    (Fate.unknown.after monitor (alone number happenings)).shown monitor =
      (((Session.start monitor).reports happenings).filter (·.1 = number)).flatMap Prod.snd := by
  have nothing : (Fate.unknown : Fate β).shown monitor = [] := Fate.shown_of_silent monitor rfl
  have whole := shown_after (start_fated staysUp) happenings number
  rw [nothing, List.nil_append] at whole
  rw [← Fate.after_alone]
  exact whole

/-- Before the handler of a request is called, the request is let in. -/
theorem Monitor.before_handle (monitor : Monitor) (received answered : Moment)
    (request : Request β) (handler : Handler β) :
    (monitor.handle received answered request handler).before =
      (monitor.letIn received request).2.2 := by
  unfold handle
  rcases monitor.letIn received request with ⟨later, result, before⟩
  cases result <;> rfl

end

/-- **Every request is reported as its own fate has it**, as long as no sink goes down. In standard mode
nothing is reported. In debug mode each request of a session is reported as if it were the only one, and
none is passed by: its line and its captured body once it was read, its outcome once its answer is
complete, and nothing else. What is reported before the handler of a request gets it is what there is to
report of a request that was read. The records that make the difference for the outcome are those whose
lines a sink in memory keeps. -/
theorem reports_of_session {β : Type} [Content β] (monitor : Monitor)
    (staysUp : ∀ sink ∈ monitor.trail.sinks, sink.StaysUp)
    (happenings : List (Moment × Happening β)) :
    let session : Session β := Session.start monitor
    let reported := session.reports happenings
    let told := tellings monitor (fun _ => .quiet) (numbered 0 happenings)
    let fate (number : Nat) : Fate β := Fate.unknown.after monitor (alone number happenings)
    (monitor.trail.mode = .standard → ∀ entry ∈ reported, entry.2 = []) ∧
      (monitor.trail.mode = .debug →
        (∀ number, (reported.filter (·.1 = number)).flatMap Prod.snd =
            (fate number).reports monitor ∧
          fate number ≠ .passedBy) ∧
        ∀ (received answered : Moment) (request : Request β) (handler : Handler β),
          reportsAmong ((session.after happenings).monitor.handle received answered request
            handler).before = ((Fate.arriving received request).read monitor).reports monitor) ∧
      (∀ number, (told.filter (·.1 = number)).flatMap Prod.snd =
        monitor.linesOf ((fate number).records monitor)) ∧
      ∀ (position : Nat) (kept : Journal String),
        monitor.trail.sinks[position]? = some (.memory kept) →
        (session.after happenings).monitor.trail.sinks[position]? =
          some (.memory (kept.append (told.flatMap Prod.snd))) := by
  intro session reported told fate
  have start : session.Fated monitor fun _ => .unknown := Session.start_fated staysUp
  refine ⟨fun standard => Session.reports_of_standard start standard happenings, fun debug => ?_,
    fun number => ?_, fun position kept memory => ?_⟩
  · have isDebug : monitor.trail.isDebug = true := by rw [Trail.isDebug, debug]; rfl
    have shown (fate : Fate β) : fate.shown monitor = fate.reports monitor := if_pos isDebug
    refine ⟨fun number => ⟨?_, Fate.after_ne_passedBy debug _⟩,
      fun received answered request handler => ?_⟩
    · rw [← shown]
      exact (Session.shown_alone staysUp happenings number).symm
    · have rules := (Session.after_fated start happenings).rules
      obtain ⟨leads, -⟩ : Fate.Leads monitor (.arriving received request) _ _ ∧ _ :=
        Fate.letIn_leads rules received request rfl
      have opened := leads.reports
      rw [shown, shown] at opened
      rw [Monitor.before_handle]
      exact opened.symm
  · have unheard : (Fate.unknown : Fate β).IsSound monitor := trivial
    have lines := Fate.lines_after 0 happenings number unheard fun _ => rfl
    rw [Fate.after_alone] at lines
    exact (filter_tellings monitor _ _ number).trans lines.symm
  · obtain ⟨last, follows⟩ :=
      Session.after_follows (Session.start_follows staysUp memory) happenings
    exact follows.holds.memory

/-- A listing is read while a media file is asked for, a handler fails and an answer is dropped. The
outcome of the listing is reported last, with its body. -/
theorem reports_of_four_requests :
    let classifier : Classifier := ⟨.ofList ["mp4"], [], "/api/list", "/api/get", []⟩
    let monitor (mode : Mode) : Monitor := ⟨classifier, ⟨classifier.extensions, .name⟩, .principal,
      ⟨mode, .columns, .aggregated, 64, .ofList [.memory .empty]⟩⟩
    let now : Moment := ⟨⟨2024, 1, 2, 3, 4, 5⟩, 0⟩
    let query := Body.full (Json.ascii "\x7b\"path\":\"/\"\x7d")
    let request (path : String) : Request Body := ⟨"POST", .origin path.toList, [], {}, query⟩
    let respond (body : Body) : Except String (Response Body) := .ok ⟨200, [], body⟩
    let handler (answer : Except String (Response Body)) : Handler Body :=
      ⟨fun _ => answer, fun _ => false⟩
    let listing := Body.stream [
      .chunk (Json.ascii "\x7b\"code\":200,\"content\":["), .pending,
      .chunk (Json.ascii "\x7b\"name\":\"a.mp4\"\x7d]\x7d")] []
    let happenings : List (Moment × Happening Body) :=
      [.arrive (request "/api/list"), .read 0,
        .step (.request (request "/c.mp4") (handler (respond .empty))), .answer 0 (respond listing),
        .step (.request (request "/x") (handler (.error "refused"))), .step (.poll 0),
        .step (.request (request "/y") (handler (respond listing))), .step (.drop 3),
        .step (.drain 0 3), .step (.drain 2 1)].map (Prod.mk now)
    let reported (mode : Mode) := (Session.start (monitor mode)).reports happenings
    let told := tellings (monitor .debug) (fun _ => .quiet) (numbered 0 happenings)
    let fate (number : Nat) := Fate.unknown.after (monitor .debug) (alone number happenings)
    (∀ entry ∈ reported .standard, entry.2 = []) ∧
      ((reported .debug).filter (fun entry => !entry.2.isEmpty)).map
        (fun entry => (entry.1, entry.2.length)) = [(0, 2), (1, 2), (2, 2), (3, 2), (0, 2)] ∧
      (∀ number, ((reported .debug).filter (·.1 = number)).flatMap Prod.snd =
        (fate number).reports (monitor .debug)) ∧
      ((Session.start (monitor .debug)).after happenings).monitor.trail.sinks[0]? =
        some (.memory (Journal.empty.append (told.flatMap Prod.snd))) := by
  intro classifier monitor now query request respond handler listing happenings reported told fate
  have staysUp (mode : Mode) : ∀ sink ∈ (monitor mode).trail.sinks, sink.StaysUp := by
    intro sink member
    obtain rfl := List.mem_singleton.mp member
    trivial
  obtain ⟨inStandard, -⟩ := reports_of_session (monitor .standard) (staysUp .standard) happenings
  obtain ⟨-, inDebug, -, kept⟩ := reports_of_session (monitor .debug) (staysUp .debug) happenings
  exact ⟨inStandard rfl, by decide +kernel, fun number => ((inDebug rfl).1 number).1,
    kept 0 .empty rfl⟩

end MediaTrail
