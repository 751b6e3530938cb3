/-
**Requests that overlap.** Many requests may be on their way at once: one is read while another is with
its handler and the bodies of others are polled. Each is told of as if it were the only one. A session
keeps what is left of each request in a place of its own, and every happening touches one place only
(`happen_follows`), so that the courses of requests go on side by side (`after_follows`).

Two things are assumed. A request gives way to others only where it waits: while its body is read and
while its handler is at work. Whatever happens in between is one happening, and its lines stand
together; with several threads the lines of two requests could mix. And no sink goes down, for a sink
that does takes a request with it.

* `numbered`: which request a happening belongs to, `ownOf`: what happens to one request;
* `tellings`: what each happening tells, as the course of its own request has it;
* `filter_tellings`: the tellings of one request are those of its own happenings;
* `filter_tellings_alone`: what else happens makes no difference to them;
* `lines_of_interleaving`: what a sink in memory keeps of a session, and of each request alone.
-/

import Mathlib.Logic.Function.Basic
import MediaTrail.Proofs.OneRequest

namespace MediaTrail

/-! ### Whose happening it is -/

namespace Happening

variable {β : Type}

/-- How many requests come in with it. -/
def opened : Happening β → Nat
  | .step (.request ..) | .arrive _ => 1
  | _ => 0

/-- The request that it belongs to, where the next one that comes in has the number `fresh`. -/
def number (fresh : Nat) : Happening β → Nat
  | .step (.request ..) | .arrive _ => fresh
  | .step (.poll slot) | .step (.pollTrailers slot) | .step (.drain slot _)
  | .step (.drop slot) | .step (.convert slot) | .read slot | .answer slot _ | .abandon slot => slot

/-- The same for the request with another number. -/
def moved (slot : Nat) : Happening β → Happening β
  | .step (.request request handler) => .step (.request request handler)
  | .step (.poll _) => .step (.poll slot)
  | .step (.pollTrailers _) => .step (.pollTrailers slot)
  | .step (.drain _ rounds) => .step (.drain slot rounds)
  | .step (.drop _) => .step (.drop slot)
  | .step (.convert _) => .step (.convert slot)
  | .arrive request => .arrive request
  | .read _ => .read slot
  | .answer _ result => .answer slot result
  | .abandon _ => .abandon slot

end Happening

section

variable {β : Type}

/-- Happenings with the numbers of the requests that they belong to. -/
def numbered (fresh : Nat) : List (Moment × Happening β) → List (Nat × Moment × Happening β)
  | [] => []
  | (now, happening) :: later =>
    (happening.number fresh, now, happening) :: numbered (fresh + happening.opened) later

/-- What happens to one request, as if no other had come in. -/
def alone (number : Nat) (happenings : List (Moment × Happening β)) :
    List (Moment × Happening β) :=
  ((numbered 0 happenings).filter (·.1 = number)).map fun entry => (entry.2.1, entry.2.2.moved 0)

/-- What happens to one request, where the next one that comes in has the number `fresh`. -/
def ownOf (number fresh : Nat) (happenings : List (Moment × Happening β)) :
    List (Moment × Happening β) :=
  ((numbered fresh happenings).filter (·.1 = number)).map Prod.snd

variable {number fresh : Nat} {happening : Happening β}

theorem ownOf_cons_of_eq (now : Moment) (later : List (Moment × Happening β))
    (own : happening.number fresh = number) : ownOf number fresh ((now, happening) :: later) =
      (now, happening) :: ownOf number (fresh + happening.opened) later := by
  simp only [ownOf, numbered, List.filter_cons, own, decide_true, if_true, List.map_cons]

theorem ownOf_cons_of_ne (now : Moment) (later : List (Moment × Happening β))
    (other : happening.number fresh ≠ number) : ownOf number fresh ((now, happening) :: later) =
      ownOf number (fresh + happening.opened) later := by
  simp only [ownOf, numbered, List.filter_cons, other, decide_false, Bool.false_eq_true, if_false]

/-- On its own, a request has the number zero. -/
theorem map_moved_ownOf (number : Nat) (happenings : List (Moment × Happening β)) :
    ((ownOf number 0 happenings).map fun entry => (entry.1, entry.2.moved 0)) =
      alone number happenings := by
  rw [alone, ownOf, List.map_map]
  rfl

/-! ### What is told -/

/-- What each happening tells, and of which request: each request has its own course. -/
def tellings [Content β] (monitor : Monitor) (courses : Nat → Course β) :
    List (Nat × Moment × Happening β) → List (Nat × List String)
  | [] => []
  | (number, now, happening) :: later =>
    let (course, lines) := (courses number).happen monitor now happening
    (number, lines) :: tellings monitor (Function.update courses number course) later

/-- What is told in the course of one request. -/
def Course.tells [Content β] (monitor : Monitor) (course : Course β) :
    List (Moment × Happening β) → List String
  | [] => []
  | (now, happening) :: later =>
    let (course, lines) := course.happen monitor now happening
    lines ++ course.tells monitor later

/-- The tellings of one request are those of its own happenings. -/
theorem filter_tellings [Content β] (monitor : Monitor) (courses : Nat → Course β)
    (entries : List (Nat × Moment × Happening β)) (number : Nat) :
    ((tellings monitor courses entries).filter (·.1 = number)).flatMap Prod.snd =
      (courses number).tells monitor ((entries.filter (·.1 = number)).map Prod.snd) := by
  induction entries generalizing courses with
  | nil => rfl
  | cons entry later ih =>
    obtain ⟨owner, now, happening⟩ := entry
    rw [tellings]
    by_cases own : owner = number
    · subst own
      simp only [List.filter_cons, decide_true, if_true, List.flatMap_cons, ih, List.map_cons,
        Function.update_self]
      rfl
    · have other : number ≠ owner := fun same => own same.symm
      simp only [List.filter_cons, own, decide_false, Bool.false_eq_true, if_false, ih,
        Function.update_of_ne other]

theorem tellings_of_one [Content β] (monitor : Monitor) (courses : Nat → Course β) (number : Nat)
    (happenings : List (Moment × Happening β)) :
    (tellings monitor courses (happenings.map (Prod.mk number))).flatMap Prod.snd =
      (courses number).tells monitor happenings := by
  induction happenings generalizing courses with
  | nil => rfl
  | cons entry later ih =>
    rw [List.map_cons, tellings, List.flatMap_cons, ih, Function.update_self]
    rfl

/-- A course knows nothing of the number of its request. -/
theorem Course.tells_moved [Content β] (monitor : Monitor) (course : Course β) (slot : Nat)
    (happenings : List (Moment × Happening β)) :
    course.tells monitor (happenings.map fun entry => (entry.1, entry.2.moved slot)) =
      course.tells monitor happenings := by
  induction happenings generalizing course with
  | nil => rfl
  | cons entry later ih =>
    obtain ⟨now, happening⟩ := entry
    have same : course.happen monitor now (happening.moved slot) =
        course.happen monitor now happening := by
      cases happening with
      | step step => cases step <;> rfl
      | arrive request | read slot | answer slot answer | abandon slot => rfl
    rw [List.map_cons, tells, tells, same]
    dsimp only
    rw [ih]

/-- **What is told of a request is told of it alone.** -/
theorem filter_tellings_alone [Content β] (monitor : Monitor)
    (happenings : List (Moment × Happening β)) (number : Nat) :
    ((tellings monitor (fun _ => .quiet) (numbered 0 happenings)).filter
        (·.1 = number)).flatMap Prod.snd =
      Course.tells monitor .quiet (alone number happenings) := by
  rw [filter_tellings, ← map_moved_ownOf, Course.tells_moved, ownOf]

theorem Happening.opened_moved (happening : Happening β) (slot : Nat) :
    (happening.moved slot).opened = happening.opened := by
  cases happening with
  | step step => cases step <;> rfl
  | arrive request | read slot | answer slot answer | abandon slot => rfl

/-- A happening opens the next request, or it belongs to the one that it names. -/
theorem Happening.number_moved (happening : Happening β) (fresh next slot : Nat) :
    happening.opened = 1 ∧ happening.number fresh = fresh ∧
        (happening.moved slot).number next = next ∨
      happening.opened = 0 ∧ (happening.moved slot).number next = slot := by
  cases happening with
  | step step =>
    cases step with
    | request request handler => exact .inl ⟨rfl, rfl, rfl⟩
    | poll _ | pollTrailers _ | drain _ _ | drop _ | convert _ => exact .inr ⟨rfl, rfl⟩
  | arrive request => exact .inl ⟨rfl, rfl, rfl⟩
  | read _ | answer _ _ | abandon _ => exact .inr ⟨rfl, rfl⟩

/-- On its own, a request has the number zero throughout. It comes in once, so that no happening of it
is taken for that of another. -/
theorem numbered_own (number fresh next : Nat) (happenings : List (Moment × Happening β))
    (once : number < fresh ∨ next = 0) :
    let own := ((numbered fresh happenings).filter (·.1 = number)).map fun entry =>
      (entry.2.1, entry.2.2.moved 0)
    numbered next own = own.map (Prod.mk 0) := by
  induction happenings generalizing fresh next with
  | nil => rfl
  | cons entry later ih =>
    obtain ⟨now, happening⟩ := entry
    rw [numbered]
    by_cases own : happening.number fresh = number
    · simp only [List.filter_cons, own, decide_true, if_true, List.map_cons, numbered,
        Happening.opened_moved]
      rcases happening.number_moved fresh next 0 with ⟨opens, isFresh, isNext⟩ | ⟨opens, isZero⟩
      · have same : number = fresh := own.symm.trans isFresh
        have first : next = 0 := once.resolve_left (by omega)
        rw [isNext, first, opens]
        exact congrArg _ (ih (fresh + 1) (0 + 1) (.inl (by omega)))
      · rw [isZero, opens]
        exact congrArg _ (ih fresh next once)
    · simp only [List.filter_cons, own, decide_false, Bool.false_eq_true, if_false]
      exact ih (fresh + happening.opened) next (once.imp_left fun before => by omega)

theorem numbered_alone (number : Nat) (happenings : List (Moment × Happening β)) :
    numbered 0 (alone number happenings) = (alone number happenings).map (Prod.mk 0) :=
  numbered_own number 0 0 happenings (.inr rfl)

end

/-! ### Sessions -/

section

/-! One number of many gets something else, and its place with it. -/

variable {β Datum : Type} (rel : Datum → Option (Place β) → Prop) {data : Nat → Datum}
  {datum : Datum} {places : List (Place β)} {place : Place β} {slot : Nat}

theorem related_set (related : ∀ number, rel (data number) places[number]?)
    (inside : slot < places.length) (here : rel datum (some place)) (number : Nat) :
    rel (Function.update data slot datum number) (places.set slot place)[number]? := by
  by_cases own : number = slot
  · subst own
    rw [Function.update_self, List.getElem?_set_self inside]
    exact here
  · rw [Function.update_of_ne own, List.getElem?_set_ne (Ne.symm own)]
    exact related number

theorem related_concat (related : ∀ number, rel (data number) places[number]?)
    (here : rel datum (some place)) (number : Nat) :
    rel (Function.update data places.length datum number) (places ++ [place])[number]? := by
  by_cases own : number = places.length
  · subst own
    rw [Function.update_self, List.getElem?_concat_length]
    exact here
  · have same : (places ++ [place])[number]? = places[number]? := by
      by_cases inside : number < places.length
      · exact List.getElem?_append_left inside
      · have outside : (places ++ [place]).length ≤ number := by
          rw [List.length_append, List.length_singleton]
          omega
        rw [List.getElem?_eq_none outside, List.getElem?_eq_none (by omega)]
    rw [Function.update_of_ne own, same]
    exact related number

end

namespace Session

section

variable {β : Type}

/-- What is left of a request, nothing if it has not come in yet. -/
def placeAt (session : Session β) (number : Nat) : Place β :=
  session.places[number]?.getD .vacant

theorem passed_of_body? {session : Session β} {slot : Nat} {outgoing : Outgoing β}
    (found : session.body? slot = some outgoing) :
    session.places[slot]? = some (.passed outgoing) := by
  obtain ⟨there, inPlaces, isBody⟩ := Option.bind_eq_some_iff.mp found
  cases there with
  | passed body =>
    obtain rfl := Option.some.inj isBody
    exact inPlaces
  | arriving received request | awaiting admission | vacant => cases isBody

variable [Content β]

/-- A session goes along with the courses of its requests, and has told these lines. -/
structure Follows (origin : Monitor) (position : Nat) (kept : Journal String)
    (courses : Nat → Course β) (session : Session β) : Prop where
  holds : origin.Holds position kept session.monitor
  places : ∀ number, (courses number).Follows origin (session.placeAt number)

variable {origin monitor : Monitor} {position : Nat} {kept later : Journal String}
  {courses : Nat → Course β} {session : Session β} {slot : Nat} {place there : Place β}
  {course : Course β}

theorem Follows.course_of_placeAt (follows : session.Follows origin position kept courses)
    (found : session.places[slot]? = some there) : (courses slot).Follows origin there := by
  have here := follows.places slot
  rw [placeAt, found] at here
  exact here

theorem Follows.settle (follows : session.Follows origin position kept courses)
    (wakes : WokenFrom) : (session.settle wakes).1.Follows origin position kept courses :=
  ⟨follows.holds.settle wakes, follows.places⟩

/-- **One place changes**, and with it one course. -/
theorem Follows.setPlace (follows : session.Follows origin position kept courses)
    (found : session.places[slot]? = some there) (holds : origin.Holds position later monitor)
    (goesOn : course.Follows origin place) :
    ({ session with monitor := monitor }.setPlace slot place).Follows origin position later
      (Function.update courses slot course) where
  holds := holds
  places := related_set (fun course place => Course.Follows origin course (place.getD .vacant))
    follows.places (List.getElem?_eq_some_iff.mp found).1 goesOn

/-- **A request comes in**, and has a course from then on. -/
theorem Follows.open (follows : session.Follows origin position kept courses)
    (holds : origin.Holds position later monitor) (goesOn : course.Follows origin place) :
    Follows origin position later (Function.update courses session.places.length course)
      ⟨monitor, session.places ++ [place]⟩ where
  holds := holds
  places := related_concat (fun course place => Course.Follows origin course (place.getD .vacant))
    follows.places goesOn

/-- A happening of no effect. -/
theorem Follows.unchanged (follows : session.Follows origin position kept courses)
    {next : Course β × List String} (same : next = (courses slot, [])) :
    session.Follows origin position (kept.append next.2)
      (Function.update courses slot next.1) := by
  subst same
  rw [Function.update_eq_self]
  exact follows

/-- What there is something to tell of is there. -/
theorem Follows.found (follows : session.Follows origin position kept courses)
    (told : courses slot ≠ .quiet) :
    ∃ there, session.places[slot]? = some there ∧ (courses slot).Follows origin there := by
  cases found : session.places[slot]? with
  | none =>
    have here := follows.places slot
    rw [placeAt, found] at here
    generalize courses slot = course at here told
    cases here with
    | vacant => exact absurd rfl told
  | some there => exact ⟨there, rfl, follows.course_of_placeAt found⟩

theorem Follows.bodiless (follows : session.Follows origin position kept courses)
    (gone : session.body? slot = none) (exchange : Exchange) (flow : Flow β) (past : List Sight) :
    courses slot ≠ .passed exchange flow past := by
  intro isPassed
  obtain ⟨there, found, here⟩ := follows.found (by rw [isPassed]; nofun)
  rw [isPassed] at here
  rw [body?, found] at gone
  cases here with
  | passed outgoing recorder flow exchange past captured keeps stillOpen => cases gone

theorem Follows.arriving (follows : session.Follows origin position kept courses)
    {received : Moment} {request : Request β}
    (isArriving : courses slot = .arriving received request) :
    session.places[slot]? = some (.arriving received request) := by
  obtain ⟨there, found, here⟩ := follows.found (by rw [isArriving]; nofun)
  rw [isArriving] at here
  cases here with
  | arriving received request => exact found

theorem Follows.asked (follows : session.Follows origin position kept courses)
    {passage : Monitor.Passage β} (isAsked : courses slot = .asked passage) :
    session.places[slot]? = some (.awaiting (.watched passage)) := by
  obtain ⟨there, found, here⟩ := follows.found (by rw [isAsked]; nofun)
  rw [isAsked] at here
  cases here with
  | asked passage noticed => exact found

/-- A request that is given up has nothing more to tell. -/
theorem Follows.abandon (follows : session.Follows origin position kept courses)
    (found : session.places[slot]? = some there)
    (unanswered : (∃ received request, there = .arriving received request) ∨
      ∃ admission, there = .awaiting admission) : (courses slot).abandon = .quiet := by
  have here := follows.course_of_placeAt found
  generalize courses slot = course at here
  rcases unanswered with ⟨received, request, rfl⟩ | ⟨admission, rfl⟩
  · cases here with
    | arriving received request | endless received request unread => rfl
  · cases here with
    | passing request | unnoticed passage otherwise unneeded | asked passage noticed => rfl

/-- What matters only to requests whose answer has a body. -/
structure NeedsBody (next : Course β → Course β × List String) : Prop where
  quiet : next .quiet = (.quiet, [])
  arriving : ∀ received request,
    next (.arriving received request) = (.arriving received request, [])
  asked : ∀ passage, next (.asked passage) = (.asked passage, [])

/-- **Something is done with a body**, if it is there. Otherwise nothing is told. -/
theorem withBody_follows (follows : session.Follows origin position kept courses)
    {next : Course β → Course β × List String} (needsBody : NeedsBody next) {take : Outgoing β → Taking β}
    (takes : ∀ outgoing, session.places[slot]? = some (.passed outgoing) →
      (courses slot).Follows origin (.passed outgoing) →
      (take outgoing).session.Follows origin position (kept.append (next (courses slot)).2)
        (Function.update courses slot (next (courses slot)).1)) :
    (session.withBody slot take).session.Follows origin position
      (kept.append (next (courses slot)).2)
      (Function.update courses slot (next (courses slot)).1) := by
  unfold withBody
  cases found : session.body? slot with
  | none =>
    have gone := follows.bodiless found
    apply follows.unchanged
    generalize courses slot = course at gone
    cases course with
    | quiet => exact needsBody.quiet
    | arriving received request => exact needsBody.arriving received request
    | asked passage => exact needsBody.asked passage
    | passed exchange flow past => exact absurd rfl (gone exchange flow past)
  | some outgoing =>
    have inPlaces := passed_of_body? found
    exact takes outgoing inPlaces (follows.course_of_placeAt inPlaces)

/-- **A step that is over at once** goes on with the course of one request. -/
theorem take_follows (follows : session.Follows origin position kept courses) (now : Moment)
    (step : SessionStep β) :
    let number := (Happening.step step).number session.places.length
    let told := (courses number).happen origin now (.step step)
    (session.take now step).session.Follows origin position (kept.append told.2)
      (Function.update courses number told.1) := by
  cases step with
  | request request handler =>
    obtain ⟨holds, goesOn⟩ := Course.handle_follows follows.holds now request handler
    exact follows.open holds goesOn
  | poll slot =>
    have needsBody : NeedsBody fun course : Course β => course.poll origin now :=
      ⟨rfl, fun _ _ => rfl, fun _ => rfl⟩
    refine withBody_follows follows needsBody fun outgoing found here => ?_
    obtain ⟨holds, finish, goesOn, -⟩ := Course.pollBody_follows follows.holds here now
    simp only [Session.leave, finish]
    exact follows.setPlace found holds goesOn
  | pollTrailers slot =>
    have needsBody : NeedsBody fun course : Course β => (course.pollTrailers, []) :=
      ⟨rfl, fun _ _ => rfl, fun _ => rfl⟩
    refine withBody_follows follows needsBody fun outgoing found here => ?_
    exact follows.setPlace found follows.holds here.pollTrailers
  | drain slot rounds =>
    have needsBody : NeedsBody fun course : Course β => course.polls origin now rounds :=
      ⟨Course.polls_quiet origin now rounds, Course.polls_arriving origin now rounds,
        Course.polls_asked origin now rounds⟩
    refine withBody_follows follows needsBody fun outgoing found here => ?_
    obtain ⟨holds, finish, goesOn⟩ := Course.drainRounds_follows follows.holds rounds here now [] []
    simp only [Session.leave, finish]
    exact follows.setPlace found holds goesOn
  | drop slot =>
    have needsBody : NeedsBody fun course : Course β => (course.drop, []) :=
      ⟨rfl, fun _ _ => rfl, fun _ => rfl⟩
    refine withBody_follows follows needsBody fun outgoing found here => ?_
    exact follows.setPlace found follows.holds here.drop
  | convert slot =>
    have needsBody : NeedsBody fun course : Course β => (course.convert, []) :=
      ⟨rfl, fun _ _ => rfl, fun _ => rfl⟩
    refine withBody_follows follows needsBody fun outgoing found here => ?_
    exact follows.setPlace found follows.holds here.toServer

/-- **A request that came in is read**, unless it was read or given up before. -/
theorem read_follows (follows : session.Follows origin position kept courses) (slot : Nat) :
    (session.read slot).1.Follows origin position kept
      (Function.update courses slot ((courses slot).read origin)) := by
  unfold Session.read
  split
  · rename_i received request found
    obtain ⟨holds, goesOn⟩ := Course.letIn_follows follows.holds received request
    rw [(follows.course_of_placeAt found).read_eq]
    exact follows.setPlace found holds goesOn
  · rename_i gone
    have same : (courses slot).read origin = courses slot := by
      cases isCourse : courses slot with
      | arriving received request =>
        exact absurd (follows.arriving isCourse) (gone received request)
      | quiet | asked passage | passed exchange flow past => rfl
    rw [same, Function.update_eq_self]
    exact follows

/-- **The handler of a request is done**, if it has one. -/
theorem answer_follows (follows : session.Follows origin position kept courses) (now : Moment)
    (slot : Nat) (answer : Except String (Response β)) :
    let told := (courses slot).answer origin now answer
    (session.answer now slot answer).1.Follows origin position (kept.append told.2)
      (Function.update courses slot told.1) := by
  unfold Session.answer
  split
  · rename_i admission found
    obtain ⟨holds, goesOn⟩ :=
      Course.conduct_follows follows.holds (follows.course_of_placeAt found) now answer
    exact follows.setPlace found holds goesOn
  · rename_i gone
    apply follows.unchanged
    cases isCourse : courses slot with
    | asked passage => exact absurd (follows.asked isCourse) (gone _)
    | quiet | arriving received request | passed exchange flow past => rfl

/-- **A request is given up**, if it is not answered yet. -/
theorem abandon_follows (follows : session.Follows origin position kept courses) (slot : Nat) :
    (session.abandon slot).Follows origin position kept
      (Function.update courses slot (courses slot).abandon) := by
  unfold Session.abandon
  split
  · rename_i received request found
    rw [follows.abandon found (.inl ⟨received, request, rfl⟩)]
    exact follows.setPlace found follows.holds .vacant
  · rename_i admission found
    rw [follows.abandon found (.inr ⟨admission, rfl⟩)]
    exact follows.setPlace found follows.holds .vacant
  · rename_i notArriving notAwaiting
    have same : (courses slot).abandon = courses slot := by
      cases isCourse : courses slot with
      | arriving received request =>
        exact absurd (follows.arriving isCourse) (notArriving received request)
      | asked passage => exact absurd (follows.asked isCourse) (notAwaiting _)
      | quiet | passed exchange flow past => rfl
    rw [same, Function.update_eq_self]
    exact follows

/-- **Whatever happens** goes on with the course of one request. -/
theorem happen_follows (follows : session.Follows origin position kept courses) (now : Moment)
    (happening : Happening β) :
    let number := happening.number session.places.length
    let told := (courses number).happen origin now happening
    (session.happen now happening).Follows origin position (kept.append told.2)
      (Function.update courses number told.1) := by
  cases happening with
  | step step => exact (take_follows follows now step).settle step.wakes
  | arrive request =>
    exact (follows.open follows.holds (.arriving now request)).settle .within
  | read slot => exact (read_follows follows slot).settle .within
  | answer slot answer => exact (answer_follows follows now slot answer).settle .within
  | abandon slot => exact (abandon_follows follows slot).settle .within

/-- Requests are numbered as they come in. -/
theorem length_happen (session : Session β) (now : Moment) (happening : Happening β) :
    (session.happen now happening).places.length = session.places.length + happening.opened := by
  have withBody {slot : Nat} {take : Outgoing β → Taking β}
      (same : ∀ outgoing, (take outgoing).session.places.length = session.places.length) :
      (session.withBody slot take).session.places.length = session.places.length := by
    unfold Session.withBody
    cases session.body? slot with
    | none => rfl
    | some outgoing => exact same outgoing
  cases happening with
  | step step =>
    cases step with
    | request request handler => exact List.length_append
    | poll slot | pollTrailers slot | drain slot rounds | drop slot | convert slot =>
      exact withBody fun _ => List.length_set
  | arrive request => exact List.length_append
  | read slot =>
    show (session.read slot).1.places.length = _
    unfold Session.read
    split
    · exact List.length_set
    · rfl
  | answer slot answer =>
    show (session.answer now slot answer).1.places.length = _
    unfold Session.answer
    split
    · exact List.length_set
    · rfl
  | abandon slot =>
    show (session.abandon slot).places.length = _
    unfold Session.abandon
    split
    · exact List.length_set
    · exact List.length_set
    · rfl

/-- **A whole session.** Every happening tells what the course of its own request has it tell. -/
theorem after_follows {origin : Monitor} {position : Nat} {kept : Journal String}
    {courses : Nat → Course β} {session : Session β}
    (follows : session.Follows origin position kept courses)
    (happenings : List (Moment × Happening β)) :
    ∃ last, (session.after happenings).Follows origin position
      (kept.append ((tellings origin courses
        (numbered session.places.length happenings)).flatMap Prod.snd)) last := by
  induction happenings generalizing session kept courses with
  | nil => exact ⟨courses, follows⟩
  | cons entry later ih =>
    obtain ⟨now, happening⟩ := entry
    have next := happen_follows follows now happening
    obtain ⟨last, goesOn⟩ := ih next
    rw [length_happen, ← Journal.append_append] at goesOn
    exact ⟨last, goesOn⟩

theorem start_follows {monitor : Monitor} {position : Nat} {kept : Journal String}
    (staysUp : ∀ sink ∈ monitor.trail.sinks, sink.StaysUp)
    (memory : monitor.trail.sinks[position]? = some (.memory kept)) :
    (Session.start monitor : Session β).Follows monitor position kept fun _ => .quiet where
  holds := ⟨Monitor.goesBy_self staysUp, memory⟩
  places _ := .vacant

end

end Session

/-- **Requests that overlap are told of as if each were the only one.** A sink in memory keeps what
the happenings of a session tell, in the order of the happenings: the line of an access to a media
file when its handler has answered, the lines of a query when the body of its answer has ended, and
else nothing. The lines among them that belong to one request are those that the sink would keep if
no other request had come in. -/
theorem lines_of_interleaving {β : Type} [Content β] (monitor : Monitor) {position : Nat}
    {kept : Journal String} (staysUp : ∀ sink ∈ monitor.trail.sinks, sink.StaysUp)
    (memory : monitor.trail.sinks[position]? = some (.memory kept))
    (happenings : List (Moment × Happening β)) :
    let told := tellings monitor (fun _ => .quiet) (numbered 0 happenings)
    ((Session.start monitor).after happenings).monitor.trail.sinks[position]? =
        some (.memory (kept.append (told.flatMap Prod.snd))) ∧
      ∀ number,
        ((Session.start monitor).after (alone number happenings)).monitor.trail.sinks[position]? =
          some (.memory (kept.append ((told.filter (·.1 = number)).flatMap Prod.snd))) := by
  intro told
  have start : (Session.start monitor : Session β).Follows monitor position kept fun _ => .quiet :=
    Session.start_follows staysUp memory
  refine ⟨?_, fun number => ?_⟩
  · obtain ⟨last, follows⟩ := Session.after_follows start happenings
    exact follows.holds.memory
  · obtain ⟨last, follows⟩ := Session.after_follows start (alone number happenings)
    have numbers : numbered (Session.start monitor : Session β).places.length
        (alone number happenings) = (alone number happenings).map (Prod.mk 0) :=
      numbered_alone number happenings
    rw [filter_tellings_alone]
    rw [numbers, tellings_of_one] at follows
    exact follows.holds.memory

/-- A listing is read while a media file and an object are asked for. Its line comes last, and a
request that is given up leaves none. -/
theorem lines_of_four_requests :
    let classifier : Classifier := ⟨.ofList ["mp4"], [], "/api/list", "/api/get", []⟩
    let monitor : Monitor := ⟨classifier, ⟨classifier.extensions, .name⟩, .principal,
      ⟨.standard, .columns, .aggregated, 0, .ofList [.memory .empty]⟩⟩
    let now : Moment := ⟨⟨2024, 1, 2, 3, 4, 5⟩, 0⟩
    let request (path : String) : Request Body := ⟨"POST", .origin path.toList, [], {}, .empty⟩
    let respond (body : Body) : Except String (Response Body) := .ok ⟨200, [], body⟩
    let listing := Body.stream [
      .chunk (Json.ascii "\x7b\"code\":200,\"content\":["), .pending,
      .chunk (Json.ascii "\x7b\"name\":\"a.mp4\"\x7d]\x7d")] [.pending]
    let object := Body.full
      (Json.ascii "\x7b\"code\":200,\"data\":\x7b\"name\":\"b.mp4\",\"path\":\"/b.mp4\"\x7d\x7d")
    let happenings : List (Moment × Happening Body) :=
      [.arrive (request "/api/list"), .arrive (request "/api/get"), .read 0,
        .answer 0 (respond listing), .step (.poll 0), .read 1,
        .step (.request (request "/c.mp4") ⟨fun _ => respond .empty, fun _ => false⟩),
        .answer 1 (respond object), .arrive (request "/d.mp4"), .step (.convert 1), .step (.poll 0),
        .step (.drain 1 3), .abandon 3, .step (.drop 2), .step (.drain 0 3)].map (Prod.mk now)
    let told := tellings monitor (fun _ => .quiet) (numbered 0 happenings)
    (told.filter (fun entry => !entry.2.isEmpty)).map
        (fun entry => (entry.1, entry.2.length)) = [(2, 1), (1, 1), (0, 1)] ∧
      ((Session.start monitor).after happenings).monitor.trail.sinks[0]? =
        some (.memory (Journal.empty.append (told.flatMap Prod.snd))) ∧
      ∀ number, ((Session.start monitor).after (alone number happenings)).monitor.trail.sinks[0]? =
        some (.memory (Journal.empty.append ((told.filter (·.1 = number)).flatMap Prod.snd))) := by
  intro classifier monitor now request respond listing object happenings told
  have staysUp : ∀ sink ∈ monitor.trail.sinks, sink.StaysUp := by
    intro sink member
    obtain rfl := List.mem_singleton.mp member
    trivial
  have memory : monitor.trail.sinks[0]? = some (.memory .empty) := rfl
  exact ⟨by decide +kernel, lines_of_interleaving monitor staysUp memory happenings⟩

end MediaTrail
