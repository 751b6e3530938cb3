/-
**What a fate has recorded.** The course of a request knows of those accesses only that may be told of
in a line; its fate knows of every request, but not of lines. Both go on side by side: what the course
tells are the lines of the records that the fate gains. So the records of a fate are those that the
sinks were given for its request.

* `Fate.course`: how far the course of a request has come, by its fate;
* `Fate.Tells`: a course tells what its fate gains;
* `tells_happen`: whatever happens;
* `lines_after`: a request in a session of many.
-/

import MediaTrail.Proofs.Interleaving
import MediaTrail.Proofs.RequestFates

namespace MediaTrail

namespace Fate

section

variable {β : Type}

/-- How far the course of a request has come. It is quiet where no line can come any more. -/
def course : Fate β → Course β
  | .arriving received request => .arriving received request
  | .asked passage =>
    if passage.category = .directMedia ∨ passage.category.needsCapture = true then .asked passage
    else .quiet
  | .watched _ exchange flow past =>
    if exchange.category.needsCapture = true then .passed exchange flow past else .quiet
  | _ => .quiet

theorem course_asked (passage : Monitor.Passage β) : (Fate.asked passage).course =
    if passage.category = .directMedia ∨ passage.category.needsCapture = true then .asked passage
    else .quiet := rfl

theorem course_asked_of_unneeded {passage : Monitor.Passage β}
    (otherwise : passage.category ≠ .directMedia)
    (unneeded : ¬ passage.category.needsCapture = true) :
    (Fate.asked passage).course = .quiet :=
  if_neg (not_or.mpr ⟨otherwise, unneeded⟩)

theorem course_watched (passage : Monitor.Passage β) (exchange : Exchange) (flow : Flow β)
    (past : List Sight) : (Fate.watched passage exchange flow past).course =
      if exchange.category.needsCapture = true then .passed exchange flow past else .quiet := rfl

/-- Whether the body of an answer is captured, and still to come. -/
def isWatched : Fate β → Bool
  | .watched .. => true
  | _ => false

/-- What is watched has neither ended nor failed, and is no media file. In debug mode everything is of
interest. -/
def IsSound (monitor : Monitor) : Fate β → Prop
  | .passedBy => monitor.trail.mode = .standard
  | .watched _ exchange _ past => undecided past = true ∧ exchange.category ≠ .directMedia
  | _ => True

/-- From one fate of a request to the next one, its course tells the lines of the new records. -/
structure Tells (monitor : Monitor) (fate next : Fate β) (told : Course β × List String) :
    Prop where
  course : told.1 = next.course
  lines : monitor.linesOf (next.records monitor) =
    monitor.linesOf (fate.records monitor) ++ told.2

variable {monitor : Monitor} {fate next : Fate β} (now : Moment)

theorem Tells.nothing (same : next.records monitor = fate.records monitor) :
    Tells monitor fate next (next.course, []) :=
  ⟨rfl, by rw [same, List.append_nil]⟩

theorem linesOf_recordsOf (monitor : Monitor) (now : Moment) {exchange : Exchange}
    (notDirect : exchange.category ≠ .directMedia) :
    monitor.linesOf (monitor.recordsOf now exchange) = monitor.hitLines now (some exchange) := by
  rw [Monitor.recordsOf, if_neg notDirect]
  rfl

/-- **A moment of the body of an answer.** -/
theorem tells_look (recordless : fate.records monitor = []) (passage : Monitor.Passage β)
    {exchange : Exchange} (notDirect : exchange.category ≠ .directMedia) (flow : Flow β)
    {past : List Sight} (stillOpen : undecided past = true) (sight : Sight) :
    Tells monitor fate (look now passage exchange flow past sight)
      (if exchange.category.needsCapture = true then Course.look monitor now exchange flow past sight
        else (.quiet, [])) := by
  have nothing : monitor.linesOf (fate.records monitor) = [] := by rw [recordless]; rfl
  have decided : undecided (past ++ [sight]) = (!sight.reportsEnd && !sight.isFailure) := by
    rw [undecided_append, stillOpen, undecided_singleton, Bool.true_and]
  have told : monitor.linesOf (monitor.recordsOf now (exchange.answeredBy (past ++ [sight]))) =
      monitor.hitLines now (some (exchange.answeredBy (past ++ [sight]))) :=
    linesOf_recordsOf monitor now notDirect
  by_cases needed : exchange.category.needsCapture = true
  · rw [if_pos needed]
    unfold look Course.look owed
    rw [decided, stillOpen, Bool.true_and]
    cases ends : sight.reportsEnd with
    | true => exact ⟨rfl, by rw [nothing]; exact told⟩
    | false =>
      cases fails : sight.isFailure with
      | true => exact ⟨rfl, by rw [nothing]; rfl⟩
      | false => exact ⟨(if_pos needed).symm, by rw [nothing]; rfl⟩
  · rw [if_neg needed]
    unfold look
    cases ends : sight.reportsEnd with
    | true =>
      have silent : monitor.hitLines now (some (exchange.answeredBy (past ++ [sight]))) = [] :=
        monitor.hitLines_of_unneeded now (Bool.eq_false_iff.mpr needed)
      exact ⟨rfl, by rw [nothing]; exact told.trans silent⟩
    | false =>
      cases fails : sight.isFailure with
      | true => exact ⟨rfl, by rw [nothing]; rfl⟩
      | false => exact ⟨(if_neg needed).symm, by rw [nothing]; rfl⟩

theorem isSound_look (passage : Monitor.Passage β) {exchange : Exchange}
    (notDirect : exchange.category ≠ .directMedia) (flow : Flow β) {past : List Sight}
    (stillOpen : undecided past = true) (sight : Sight) :
    (look now passage exchange flow past sight).IsSound monitor := by
  unfold look
  cases ends : sight.reportsEnd with
  | true => trivial
  | false =>
    cases fails : sight.isFailure with
    | true => trivial
    | false => exact ⟨by simp [stillOpen, ends, fails], notDirect⟩

/-- What happens to the body of an answer matters only while it is watched. -/
theorem course_unwatched {next : Course β → Course β × List String}
    (needsBody : Session.NeedsBody next) (unwatched : fate.isWatched = false) :
    next fate.course = (fate.course, []) := by
  cases fate with
  | watched passage exchange flow past => cases unwatched
  | arriving received request => exact needsBody.arriving received request
  | asked passage =>
    rw [course_asked]
    split
    · exact needsBody.asked passage
    · exact needsBody.quiet
  | unknown | refused | passedBy | answered passage moment exchange | lost passage =>
    exact needsBody.quiet

/-- **The body of an answer is dropped.** -/
theorem tells_drop (fate : Fate β) :
    Tells monitor fate fate.drop (fate.course.drop, []) := by
  cases fate with
  | watched passage exchange flow past =>
    have isDropped : (Fate.watched passage exchange flow past).course.drop = .quiet := by
      rw [course_watched]
      split <;> rfl
    exact ⟨isDropped, rfl⟩
  | asked passage =>
    have same : (Fate.asked passage).course.drop = (Fate.asked passage).course := by
      rw [course_asked]
      split <;> rfl
    exact ⟨same, rfl⟩
  | unknown | arriving received request | refused | passedBy | answered passage moment exchange
  | lost passage => exact .nothing rfl

/-- **The body of an answer is turned into one of the server's kind.** -/
theorem tells_convert (fate : Fate β) : Tells monitor fate fate.convert (fate.course.convert, []) := by
  cases fate with
  | watched passage exchange flow past =>
    have isConverted : (Fate.watched passage exchange flow past).course.convert =
        (Fate.watched passage exchange flow.convert past).course := by
      rw [course_watched, course_watched]
      split <;> rfl
    exact ⟨isConverted, (List.append_nil _).symm⟩
  | asked passage =>
    have same : (Fate.asked passage).course.convert = (Fate.asked passage).course := by
      rw [course_asked]
      split <;> rfl
    exact ⟨same, rfl⟩
  | unknown | arriving received request | refused | passedBy | answered passage moment exchange
  | lost passage => exact .nothing rfl

/-- **A request is given up.** -/
theorem tells_abandon (fate : Fate β) :
    Tells monitor fate fate.abandon (fate.course.abandon, []) := by
  cases fate with
  | asked passage =>
    have isGivenUp : (Fate.asked passage).course.abandon = .quiet := by
      rw [course_asked]
      split <;> rfl
    exact ⟨isGivenUp, rfl⟩
  | watched passage exchange flow past =>
    have same : (Fate.watched passage exchange flow past).course.abandon =
        (Fate.watched passage exchange flow past).course := by
      rw [course_watched]
      split <;> rfl
    exact ⟨same, (List.append_nil _).symm⟩
  | arriving received request => exact ⟨rfl, rfl⟩
  | unknown | refused | passedBy | answered passage moment exchange | lost passage =>
    exact .nothing rfl

end

section

variable {β : Type} [Source β] {monitor : Monitor} {fate : Fate β} (now : Moment)

/-- An access to a media file itself is told of when its handler has answered. -/
theorem tells_direct {passage : Monitor.Passage β} (direct : passage.category = .directMedia)
    (response : Response β) :
    Tells monitor (.asked passage) (Fate.answer now (.asked passage) (.ok response))
      (Course.answer monitor now (.asked passage) (.ok response)) := by
  have isAnswered : Fate.answer now (.asked passage) (.ok response) =
      .answered passage now (passage.exchange response.status) := if_pos direct
  have isTold : Course.answer monitor now (.asked passage) (.ok response) =
      (.quiet, [monitor.directLine now passage response.status]) := if_pos direct
  have isRecord : monitor.recordsOf now (passage.exchange response.status) =
      [Trail.directRecord now passage.visit response.status (now.since passage.started)] :=
    if_pos direct
  rw [isAnswered, isTold]
  exact ⟨rfl, by rw [records, isRecord]; rfl⟩

/-- **The handler of a request is done.** -/
theorem tells_asked (passage : Monitor.Passage β) (answer : Except String (Response β)) :
    Tells monitor (.asked passage) (Fate.answer now (.asked passage) answer)
      ((Fate.asked passage).course.answer monitor now answer) := by
  cases answer with
  | error text =>
    have isTold : (Fate.asked passage).course.answer monitor now (.error text) = (.quiet, []) := by
      rw [course_asked]
      split <;> rfl
    rw [isTold]
    exact .nothing rfl
  | ok response =>
    by_cases direct : passage.category = .directMedia
    · have isCourse : (Fate.asked passage).course = .asked passage := if_pos (.inl direct)
      rw [isCourse]
      exact tells_direct now direct response
    have isTold : (Fate.asked passage).course.answer monitor now (.ok response) =
        if passage.category.needsCapture = true then
          Course.look monitor now (passage.exchange response.status) ⟨response.body, false⟩ []
            (.opened (Source.atEnd response.body))
        else (.quiet, []) := by
      simp only [course_asked, direct, false_or]
      split
      · exact if_neg direct
      · rfl
    have isAnswered : Fate.answer now (.asked passage) (.ok response) =
        look now passage (passage.exchange response.status) ⟨response.body, false⟩ []
          (.opened (Source.atEnd response.body)) := if_neg direct
    rw [isTold, isAnswered]
    exact tells_look now rfl passage direct _ rfl _

theorem tells_answer (fate : Fate β) (answer : Except String (Response β)) :
    Tells monitor fate (fate.answer now answer) (fate.course.answer monitor now answer) := by
  cases fate with
  | asked passage => exact tells_asked now passage answer
  | unknown | arriving received request | refused | passedBy | answered passage moment exchange
  | lost passage => exact .nothing rfl
  | watched passage exchange flow past =>
    have still : (Fate.watched passage exchange flow past).course.answer monitor now answer =
        ((Fate.watched passage exchange flow past).course, []) := by
      rw [course_watched]
      split <;> rfl
    rw [still]
    exact .nothing rfl

theorem needsBody_poll (monitor : Monitor) :
    Session.NeedsBody fun course : Course β => course.poll monitor now :=
  ⟨rfl, fun _ _ => rfl, fun _ => rfl⟩

/-- **The body of an answer is polled.** -/
theorem tells_poll (sound : fate.IsSound monitor) :
    Tells monitor fate (fate.poll now) (fate.course.poll monitor now) := by
  cases fate with
  | watched passage exchange flow past =>
    have isTold : (Fate.watched passage exchange flow past).course.poll monitor now =
        if exchange.category.needsCapture = true then
          Course.look monitor now exchange flow.poll.2 past (.polled flow.poll.1 flow.poll.2.atEnd)
        else (.quiet, []) := by
      rw [course_watched]
      split <;> rfl
    rw [isTold]
    exact tells_look now rfl passage sound.2 flow.poll.2 sound.1 _
  | unknown | arriving received request | refused | passedBy | asked passage
  | answered passage moment exchange | lost passage =>
    rw [course_unwatched (needsBody_poll now monitor) rfl]
    exact .nothing rfl

theorem isSound_poll (sound : fate.IsSound monitor) : (fate.poll now).IsSound monitor := by
  cases fate with
  | watched passage exchange flow past => exact isSound_look now passage sound.2 _ sound.1 _
  | unknown | arriving received request | refused | passedBy | asked passage
  | answered passage moment exchange | lost passage => trivial

theorem tells_polls (rounds : Nat) (sound : fate.IsSound monitor) :
    Tells monitor fate (fate.polls now rounds) (fate.course.polls monitor now rounds) := by
  induction rounds generalizing fate with
  | zero => exact .nothing rfl
  | succ rounds ih =>
    have here : Tells monitor fate (fate.poll now) (fate.course.poll monitor now) :=
      tells_poll now sound
    have later := ih (isSound_poll now sound)
    rw [← here.course] at later
    refine ⟨later.course, ?_⟩
    show monitor.linesOf (((fate.poll now).polls now rounds).records monitor) =
      monitor.linesOf (fate.records monitor) ++ ((fate.course.poll monitor now).2 ++
        (Course.polls monitor now rounds (fate.course.poll monitor now).1).2)
    rw [later.lines, here.lines, List.append_assoc]

theorem isSound_polls (rounds : Nat) (sound : fate.IsSound monitor) :
    (fate.polls now rounds).IsSound monitor := by
  induction rounds generalizing fate with
  | zero => exact sound
  | succ rounds ih => exact ih (isSound_poll now sound)

/-- **The body of an answer is polled for trailing fields.** -/
theorem tells_pollTrailers (fate : Fate β) :
    Tells monitor fate fate.pollTrailers (fate.course.pollTrailers, []) := by
  cases fate with
  | watched passage exchange flow past =>
    have isPolled : (Fate.watched passage exchange flow past).course.pollTrailers =
        (Fate.watched passage exchange flow.pollTrailers past).course := by
      rw [course_watched, course_watched]
      split <;> rfl
    exact ⟨isPolled, (List.append_nil _).symm⟩
  | asked passage =>
    have same : (Fate.asked passage).course.pollTrailers = (Fate.asked passage).course := by
      rw [course_asked]
      split <;> rfl
    exact ⟨same, rfl⟩
  | unknown | arriving received request | refused | passedBy | answered passage moment exchange
  | lost passage => exact .nothing rfl

theorem isSound_answer (sound : fate.IsSound monitor) (answer : Except String (Response β)) :
    (fate.answer now answer).IsSound monitor := by
  cases fate with
  | asked passage =>
    cases answer with
    | error text => trivial
    | ok response =>
      by_cases direct : passage.category = .directMedia
      · have isAnswered : Fate.answer now (.asked passage) (.ok response) =
            .answered passage now (passage.exchange response.status) := if_pos direct
        rw [isAnswered]
        trivial
      · have isAnswered : Fate.answer now (.asked passage) (.ok response) =
            look now passage (passage.exchange response.status) ⟨response.body, false⟩ []
              (.opened (Source.atEnd response.body)) := if_neg direct
        rw [isAnswered]
        exact isSound_look now passage direct _ rfl _
  | unknown | arriving received request | refused | passedBy | watched passage exchange flow past
  | answered passage moment exchange | lost passage => exact sound

end

section

variable {β : Type} [Content β] {monitor : Monitor} {fate : Fate β} (now : Moment)

/-- **A request is read.** -/
theorem tells_read (monitor : Monitor) (received : Moment) (request : Request β) :
    Tells monitor (.arriving received request) (read monitor (.arriving received request))
      (Course.read monitor (.arriving received request), []) := by
  by_cases overlooks : monitor.Overlooks (monitor.categoryOf request)
  · have isNext : read monitor (.arriving received request) = .passedBy := if_pos overlooks
    obtain ⟨otherwise, unneeded⟩ :=
      Course.unnoticed_of_passesBy ((monitor.passesBy_iff _).mpr overlooks)
    rw [isNext, Course.read_of_unnoticed received otherwise unneeded]
    exact .nothing rfl
  by_cases reads : monitor.ReadsBody request
  · have otherwise : monitor.categoryOf request ≠ .directMedia :=
      Monitor.notDirect_of_capturesRequest ((monitor.capturesRequest_iff request).mpr reads)
    by_cases readable : ∃ bytes, Content.collect request.body = some (.ok bytes)
    · obtain ⟨bytes, collected⟩ := readable
      have isNext : read monitor (.arriving received request) =
          .asked ⟨{ request with body := Content.ofBytes bytes }, monitor.categoryOf request,
            monitor.visitOf request, bytes, received.steady⟩ := by
        simp only [read, if_neg overlooks, if_pos reads, collected]
      rw [isNext]
      refine ⟨?_, rfl⟩
      by_cases needed : (monitor.categoryOf request).needsCapture = true
      · rw [Course.read_of_needed received needed, Course.readQuery]
        simp only [collected, course_asked, needed, or_true, if_true]
      · rw [Course.read_of_unnoticed received otherwise (Bool.eq_false_iff.mpr needed)]
        exact (course_asked_of_unneeded otherwise needed).symm
    · have unreadable := not_exists.mp readable
      rw [read_of_unreadable received overlooks reads unreadable,
        Course.read_of_unreadable received otherwise unreadable]
      exact .nothing rfl
  · have unneeded : ¬ (monitor.categoryOf request).needsCapture = true := by
      have spared := mt (monitor.capturesRequest_iff request).mp reads
      rw [Monitor.capturesRequest, Bool.or_eq_true, not_or] at spared
      exact spared.1
    have isNext : read monitor (.arriving received request) =
        .asked ⟨request, monitor.categoryOf request, monitor.visitOf request, [],
          received.steady⟩ := by
      simp only [read, if_neg overlooks, if_neg reads]
    rw [isNext]
    refine ⟨?_, rfl⟩
    by_cases direct : monitor.categoryOf request = .directMedia
    · rw [Course.read_of_direct received direct]
      simp only [course_asked, direct, true_or, if_true]
    · rw [Course.read_of_unnoticed received direct (Bool.eq_false_iff.mpr unneeded)]
      exact (course_asked_of_unneeded direct unneeded).symm

/-- A request that was read is at its handler, or nothing more comes of it. -/
theorem read_arriving (monitor : Monitor) (received : Moment) (request : Request β) :
    (read monitor (.arriving received request) = .passedBy ∧ monitor.trail.mode = .standard) ∨
      read monitor (.arriving received request) = .refused ∨
      ∃ passage, read monitor (.arriving received request) = .asked passage := by
  unfold read
  by_cases overlooks : monitor.Overlooks (monitor.categoryOf request)
  · exact .inl ⟨if_pos overlooks, overlooks.1⟩
  by_cases reads : monitor.ReadsBody request
  · simp only [if_neg overlooks, if_pos reads]
    split
    · exact .inr (.inr ⟨_, rfl⟩)
    · exact .inr (.inl rfl)
    · exact .inr (.inl rfl)
  · simp only [if_neg overlooks, if_neg reads]
    exact .inr (.inr ⟨_, rfl⟩)

/-- **A request is handled at once.** -/
theorem tells_handle (request : Request β) (handler : Handler β) :
    Tells monitor .unknown (handle monitor now request handler)
      (Course.handle monitor now request handler) := by
  have isRead : Course.read monitor (.arriving now request) =
      (read monitor (.arriving now request)).course := (tells_read monitor now request).course
  unfold handle Course.handle
  rw [isRead]
  rcases read_arriving monitor now request with ⟨isNext, -⟩ | isNext | ⟨passage, isNext⟩
  · rw [isNext]
    exact .nothing rfl
  · rw [isNext]
    exact .nothing rfl
  · rw [isNext]
    obtain ⟨goesOn, lines⟩ : Tells monitor (.asked passage) _ _ :=
      tells_asked now passage (handler.answer passage.request)
    by_cases noticed : passage.category = .directMedia ∨ passage.category.needsCapture = true
    · rw [course_asked, if_pos noticed] at goesOn lines ⊢
      exact ⟨goesOn, lines⟩
    · rw [course_asked, if_neg noticed] at goesOn lines ⊢
      exact ⟨goesOn, lines⟩

/-! Nothing but the body of an answer that is captured has to be sound. -/

theorem isSound_read (sound : fate.IsSound monitor) : (fate.read monitor).IsSound monitor := by
  cases fate with
  | arriving received request =>
    rcases read_arriving monitor received request with
      ⟨isNext, standard⟩ | isNext | ⟨passage, isNext⟩
    · rw [isNext]
      exact standard
    · rw [isNext]
      trivial
    · rw [isNext]
      trivial
  | unknown | refused | passedBy | asked passage | watched passage exchange flow past
  | answered passage moment exchange | lost passage => exact sound

theorem isSound_handle (request : Request β) (handler : Handler β) :
    (handle monitor now request handler).IsSound monitor := by
  unfold handle
  rcases read_arriving monitor now request with ⟨isNext, standard⟩ | isNext | ⟨passage, isNext⟩
  · rw [isNext]
    exact standard
  · rw [isNext]
    trivial
  · rw [isNext]
    have sound : (Fate.asked passage).IsSound monitor := trivial
    exact isSound_answer now sound _

theorem isSound_happen (sound : fate.IsSound monitor) (happening : Happening β) :
    (fate.happen monitor now happening).IsSound monitor := by
  cases happening with
  | step step =>
    cases step with
    | request request handler => exact isSound_handle now request handler
    | poll slot => exact isSound_poll now sound
    | drain slot rounds => exact isSound_polls now rounds sound
    | drop slot => cases fate <;> trivial
    | pollTrailers slot | convert slot => cases fate <;> exact sound
  | arrive request => trivial
  | read slot => exact isSound_read sound
  | answer slot answer => exact isSound_answer now sound answer
  | abandon slot => cases fate <;> exact sound

/-- What is read is a request that came in, and nothing else. -/
theorem tells_reread (fate : Fate β) :
    Tells monitor fate (fate.read monitor) (fate.course.read monitor, []) := by
  cases fate with
  | arriving received request => exact tells_read monitor received request
  | asked passage =>
    have same : (Fate.asked passage).course.read monitor = (Fate.asked passage).course := by
      rw [course_asked]
      split <;> rfl
    exact ⟨same, rfl⟩
  | watched passage exchange flow past =>
    have same : (Fate.watched passage exchange flow past).course.read monitor =
        (Fate.watched passage exchange flow past).course := by
      rw [course_watched]
      split <;> rfl
    exact ⟨same, rfl⟩
  | unknown | refused | passedBy | answered passage moment exchange | lost passage =>
    exact .nothing rfl

/-- **Whatever happens** to a request that comes in once, its course tells the lines of the records
that its fate gains. -/
theorem tells_happen (sound : fate.IsSound monitor) (happening : Happening β)
    (once : happening.opened = 0 ∨ fate = .unknown) :
    Tells monitor fate (fate.happen monitor now happening)
      (fate.course.happen monitor now happening) := by
  cases happening with
  | step step =>
    cases step with
    | request request handler =>
      obtain rfl : fate = .unknown := once.resolve_left Nat.one_ne_zero
      exact tells_handle now request handler
    | poll slot => exact tells_poll now sound
    | pollTrailers slot => exact tells_pollTrailers fate
    | drain slot rounds => exact tells_polls now rounds sound
    | drop slot => exact tells_drop fate
    | convert slot => exact tells_convert fate
  | arrive request =>
    obtain rfl : fate = .unknown := once.resolve_left Nat.one_ne_zero
    exact .nothing rfl
  | read slot => exact tells_reread fate
  | answer slot answer => exact tells_answer now fate answer
  | abandon slot => exact tells_abandon fate

theorem isSound_after (sound : fate.IsSound monitor) (happenings : List (Moment × Happening β)) :
    (fate.after monitor happenings).IsSound monitor := by
  induction happenings generalizing fate with
  | nil => exact sound
  | cons entry later ih => exact ih (isSound_happen entry.1 sound entry.2)

/-- In debug mode everything is of interest. -/
theorem after_ne_passedBy (debug : monitor.trail.mode = .debug)
    (happenings : List (Moment × Happening β)) : unknown.after monitor happenings ≠ .passedBy := by
  intro isPassedBy
  have unheard : (unknown : Fate β).IsSound monitor := trivial
  have sound := isSound_after unheard happenings
  rw [isPassedBy] at sound
  cases sound.symm.trans debug

/-- Of a request that did not come in there is nothing to do. -/
theorem unknown_happen {happening : Happening β} (other : happening.opened = 0) :
    (unknown : Fate β).happen monitor now happening = .unknown := by
  cases happening with
  | step step =>
    cases step with
    | request request handler => cases other
    | drain slot rounds => exact (NeedsWatched.polls now rounds).unknown
    | poll slot | pollTrailers slot | drop slot | convert slot => rfl
  | arrive request => cases other
  | read slot | answer slot answer | abandon slot => rfl

/-- **A request in a session of many** is told of in the lines of its records. -/
theorem lines_after (fresh : Nat) (happenings : List (Moment × Happening β)) (number : Nat)
    (sound : fate.IsSound monitor) (once : fresh ≤ number → fate = .unknown) :
    monitor.linesOf ((fate.after monitor (ownOf number fresh happenings)).records monitor) =
      monitor.linesOf (fate.records monitor) ++
        fate.course.tells monitor (ownOf number fresh happenings) := by
  induction happenings generalizing fate fresh with
  | nil => exact (List.append_nil _).symm
  | cons entry later ih =>
    obtain ⟨now, happening⟩ := entry
    by_cases own : happening.number fresh = number
    · have opens : happening.opened = 0 ∨ fresh = number := by
        rcases happening.number_moved fresh 0 0 with ⟨-, isFresh, -⟩ | ⟨opens, -⟩
        · exact .inr (isFresh.symm.trans own)
        · exact .inl opens
      obtain ⟨goesOn, lines⟩ : Tells monitor fate _ _ := tells_happen now sound happening
        (opens.imp_right fun same => once (Nat.le_of_eq same))
      have stillOnce : fresh + happening.opened ≤ number →
          fate.happen monitor now happening = .unknown := by
        intro before
        have other : happening.opened = 0 := by omega
        rw [once (by omega), unknown_happen now other]
      have rest := ih (fresh + happening.opened) (isSound_happen now sound happening) stillOnce
      rw [lines, ← goesOn] at rest
      rw [ownOf_cons_of_eq now later own]
      exact rest.trans (List.append_assoc ..)
    · rw [ownOf_cons_of_ne now later own]
      exact ih _ sound fun before => once (by omega)

end

end Fate

end MediaTrail
