/-
**Channels.** Giving lines to a channel and the steps of its task interleave in any order, and so does
whatever else happens to the sink behind it, which may refuse lines, or be a channel itself. The sink
behind the channel gets the lines in the order in which the channel took them, each of them once.

What happens to the sink behind a channel is told by deeds of the task (`Deed`), which know nothing of
the channel. `Standing` says what deeds a channel has come to; one incident takes it on
(`Standing.next`), and so do incidents of any number (`standing_live`).

* `Sink.undergo`, `Sink.live`: what can happen to a sink, once and many times;
* `Sink.serve`: the sink behind a channel after some deeds, with all events;
* `behindChannel_hands_on`: what deeds a channel comes to, whatever happens to it;
* `Outlets.settle_stepped`: the turns of the tasks behind a row of sinks are such incidents.
-/

import Mathlib.Data.List.Forall2
import Mathlib.Data.List.Induction
import MediaTrail.Outlets

namespace MediaTrail

namespace Sink

/-! ### What can happen to a sink -/

/-- What can happen to a sink. -/
inductive Incident where
  /-- It is given a line. -/
  | given (entry : Entrusted)
  /-- The task of the channel takes a step. -/
  | step
  | letGo
  /-- Something happens to the sink behind the channel on its own: its task takes a step, or somebody
  who shares it gives it a line. -/
  | behind (incident : Incident)

/-- What came of an incident. -/
structure Upshot where
  sink : Sink
  /-- How the sink took a line, if it was given one. -/
  taken : Option Taken
  events : List Event

def undergo (sink : Sink) (incident : Incident) : Upshot :=
  match incident, sink with
  | .given entry, sink =>
    let emission := sink.emit entry.1 entry.2
    ⟨emission.sink, some emission.taken, emission.events⟩
  | .letGo, sink => ⟨sink.letGo, none, []⟩
  | .step, .channel task waiting delegate =>
    let (sink, events, _) := handOn task waiting delegate
    ⟨sink, none, events⟩
  | .behind incident, .channel task waiting delegate =>
    let upshot := delegate.undergo incident
    ⟨.channel task waiting upshot.sink, none, upshot.events⟩
  | _, sink => ⟨sink, none, []⟩
termination_by structural incident

/-- The line that the sink is given, if it is given one. -/
def Incident.entry? : Incident → Option Entrusted
  | .given entry => some entry
  | _ => none

/-- What happens to the sink behind the channel on its own. -/
def Incident.behind? : Incident → Option Incident
  | .behind incident => some incident
  | _ => none

/-- What happens to the sink behind a channel on its own, in the course of some incidents. -/
def behindIn (incidents : List Incident) : List Incident := incidents.filterMap Incident.behind?

/-- The lines that a sink is given. -/
def givenIn (incidents : List Incident) : List Entrusted := incidents.filterMap Incident.entry?

/-- A sink after some incidents. -/
structure Life where
  sink : Sink
  /-- The lines that it accepted. -/
  accepted : List Entrusted
  events : List Event

def Life.next (life : Life) (incident : Incident) : Life :=
  let upshot := life.sink.undergo incident
  { sink := upshot.sink
    accepted := life.accepted ++
      if upshot.taken = some .accepted then incident.entry?.toList else []
    events := life.events ++ upshot.events }

def live (sink : Sink) (incidents : List Incident) : Life :=
  incidents.foldl Life.next ⟨sink, [], []⟩

/-! ### What a task does -/

/-- What happens to the sink behind a channel. -/
inductive Deed where
  /-- The task hands it a line. -/
  | handed (entry : Entrusted)
  /-- The task comes to its end, and lets go of it. -/
  | finished
  /-- Something that the task has no part in. -/
  | aside (incident : Incident)

namespace Deed

def incident : Deed → Incident
  | .handed entry => .given entry
  | .finished => .letGo
  | .aside incident => incident

/-- What the task tells of a deed, by how the sink took the line. -/
def told : Deed → Option Taken → List Event
  | .handed _, some (.refused error) => [.rejected error]
  | .finished, _ => [.channelEnded]
  | _, _ => []

/-- The line that the task hands on, if it hands one on. -/
def entry? : Deed → Option Entrusted
  | .handed entry => some entry
  | _ => none

/-- What happens to the sink on its own. -/
def aside? : Deed → Option Incident
  | .aside incident => some incident
  | _ => none

/-- One more deed, behind events so far. -/
def next (state : Sink × List Event) (deed : Deed) : Sink × List Event :=
  let upshot := state.1.undergo deed.incident
  (upshot.sink, state.2 ++ (upshot.events ++ deed.told upshot.taken))

end Deed

/-- The lines that a task hands on. -/
def handedIn (deeds : List Deed) : List Entrusted := deeds.filterMap Deed.entry?

/-- What happens to a sink on its own, in the course of some deeds. -/
def asidesIn (deeds : List Deed) : List Incident := deeds.filterMap Deed.aside?

/-- A sink after some deeds of the task in front of it, with all events: those of the sink itself, and
those that the task tells of it. -/
def serve (sink : Sink) (deeds : List Deed) : Sink × List Event :=
  deeds.foldl Deed.next (sink, [])

/-! ### Small facts -/

theorem live_concat (sink : Sink) (incidents : List Incident) (incident : Incident) :
    sink.live (incidents ++ [incident]) = (sink.live incidents).next incident := by
  simp [live]

/-- Where no line is given, none is accepted. -/
theorem Life.next_of_silent {life : Life} {incident : Incident} {sink : Sink} {events : List Event}
    (silent : life.sink.undergo incident = ⟨sink, none, events⟩) :
    life.next incident = ⟨sink, life.accepted, life.events ++ events⟩ := by
  simp [next, silent]

theorem serve_concat (sink : Sink) (deeds : List Deed) (deed : Deed) :
    sink.serve (deeds ++ [deed]) = deed.next (sink.serve deeds) := by
  simp [serve]

theorem serve_aside (sink : Sink) (deeds : List Deed) (incident : Incident) :
    sink.serve (deeds ++ [.aside incident]) =
      (((sink.serve deeds).1.undergo incident).sink,
        (sink.serve deeds).2 ++ ((sink.serve deeds).1.undergo incident).events) := by
  simp [serve_concat, Deed.next, Deed.incident, Deed.told]

theorem givenIn_concat (incidents : List Incident) (incident : Incident) :
    givenIn (incidents ++ [incident]) = givenIn incidents ++ incident.entry?.toList := by
  simp only [givenIn, List.filterMap_append]
  cases incident <;> rfl

theorem behindIn_concat (incidents : List Incident) (incident : Incident) :
    behindIn (incidents ++ [incident]) = behindIn incidents ++ incident.behind?.toList := by
  simp only [behindIn, List.filterMap_append]
  cases incident <;> rfl

theorem handedIn_append (deeds later : List Deed) :
    handedIn (deeds ++ later) = handedIn deeds ++ handedIn later :=
  List.filterMap_append

theorem handedIn_asides (asides : List Incident) : handedIn (asides.map .aside) = [] := by
  rw [handedIn, List.filterMap_map]
  exact List.filterMap_eq_nil_iff.mpr fun _ _ => rfl

theorem asidesIn_concat (deeds : List Deed) (deed : Deed) :
    asidesIn (deeds ++ [deed]) = asidesIn deeds ++ deed.aside?.toList := by
  simp only [asidesIn, List.filterMap_append]
  cases deed <;> rfl

/-- Who crashes is no channel, and nothing is left to be done for it. -/
theorem letGo_of_crashed {sink : Sink} {record : Record} {line : String}
    (crashed : (sink.emit record line).taken = .crashed) :
    (sink.emit record line).sink.letGo = (sink.emit record line).sink := by
  cases sink with
  | memory kept | diagnostics | host behaviour handed => rfl
  | console writer poisoned =>
    cases poisoned with
    | true => rfl
    | false =>
      simp only [emit]
      split <;> rfl
  | channel task waiting delegate => cases task <;> exact absurd crashed Taken.noConfusion

/-! ### Steps of a task -/

section

variable {task : TaskState} {waiting later : Queue Entrusted} {entry : Entrusted} {delegate : Sink}

/-- A task that has not ended hands on the line that came first. It tells of a refusal, and ends if the
sink crashed. -/
theorem undergo_step_of_some (alive : task ≠ .ended)
    (first : waiting.pop? = some (entry, later)) :
    let upshot := delegate.undergo (.given entry)
    (Sink.channel task waiting delegate).undergo .step =
      ⟨if upshot.taken = some .crashed then .channel .ended .empty upshot.sink
        else .channel task later upshot.sink, none,
        upshot.events ++ (Deed.handed entry).told upshot.taken⟩ := by
  obtain ⟨record, line⟩ := entry
  intro upshot
  cases task with
  | ended => exact absurd rfl alive
  | running | closing =>
    simp only [undergo, handOn, first]
    cases taken : (delegate.emit record line).taken with
    | accepted | refused error => simp [upshot, undergo, taken, Deed.told]
    | crashed => simp [upshot, undergo, taken, Deed.told, letGo_of_crashed taken]

theorem undergo_step_running (empty : waiting.pop? = none) :
    (Sink.channel .running waiting delegate).undergo .step =
      ⟨.channel .running waiting delegate, none, []⟩ := by
  simp only [undergo, handOn, empty]

/-- A task ends where no line waits and no more will come. -/
theorem undergo_step_closing (empty : waiting.pop? = none) :
    (Sink.channel .closing waiting delegate).undergo .step =
      ⟨.channel .ended .empty delegate.letGo, none, [.channelEnded]⟩ := by
  simp only [undergo, handOn, empty]

theorem undergo_step_ended :
    (Sink.channel .ended waiting delegate).undergo .step =
      ⟨.channel .ended waiting delegate, none, []⟩ := by
  simp only [undergo, handOn]

theorem undergo_given_alive (alive : task ≠ .ended) :
    (Sink.channel task waiting delegate).undergo (.given entry) =
      ⟨.channel task (waiting.push entry) delegate, some .accepted, []⟩ := by
  cases task with
  | ended => exact absurd rfl alive
  | running | closing => rfl

end

/-! ### A channel and the deeds of its task -/

/-- The task of a channel that has not ended knows whether the channel was let go of. -/
def Knows (task : TaskState) (incidents : List Incident) : Prop :=
  task = .running ∧ Incident.letGo ∉ incidents ∨ task = .closing ∧ Incident.letGo ∈ incidents

/-- A task has ended, after some incidents and by some deeds. What comes later is none of its own. -/
inductive Ended (delegate : Sink) (incidents : List Incident) : List Deed → Prop
  /-- It was let go of, and had handed on all lines. -/
  | finished {before : List Deed} {asides : List Incident} (wanted : Incident.letGo ∈ incidents)
      (inOrder : handedIn before = givenIn incidents) (going : Deed.finished ∉ before) :
      Ended delegate incidents (before ++ .finished :: asides.map .aside)
  /-- The sink behind it crashed over a line. -/
  | crashed {before : List Deed} {entry : Entrusted} {asides : List Incident}
      (crash : ((delegate.serve before).1.undergo (.given entry)).taken = some .crashed)
      (inOrder : handedIn before ++ [entry] <+: givenIn incidents)
      (going : Deed.finished ∉ before) :
      Ended delegate incidents (before ++ .handed entry :: asides.map .aside)

/-- What a channel has come to after some incidents. -/
inductive Standing (delegate : Sink) : List Incident → Life → Prop
  | alive {incidents : List Incident} {task : TaskState} {waiting : Queue Entrusted}
      {deeds : List Deed} (knows : Knows task incidents)
      (inOrder : handedIn deeds ++ waiting.toList = givenIn incidents)
      (going : Deed.finished ∉ deeds) (asides : asidesIn deeds = behindIn incidents) :
      Standing delegate incidents
        ⟨.channel task waiting (delegate.serve deeds).1, givenIn incidents, (delegate.serve deeds).2⟩
  | ended {incidents later : List Incident} {deeds : List Deed}
      (ending : Ended delegate incidents deeds)
      (asides : asidesIn deeds = behindIn (incidents ++ later)) :
      Standing delegate (incidents ++ later)
        ⟨.channel .ended .empty (delegate.serve deeds).1, givenIn incidents,
          (delegate.serve deeds).2⟩

section

variable {delegate : Sink} {incidents : List Incident}

theorem Knows.alive {task : TaskState} (knows : Knows task incidents) : task ≠ .ended := by
  rcases knows with ⟨rfl, -⟩ | ⟨rfl, -⟩ <;> exact TaskState.noConfusion

theorem Knows.concat {task : TaskState} (knows : Knows task incidents) {incident : Incident}
    (other : Incident.letGo ≠ incident) : Knows task (incidents ++ [incident]) := by
  simpa [Knows, other] using knows

/-- What happens to the sink behind a task that ended is none of its deeds. -/
theorem Ended.concat {deeds : List Deed} (ending : Ended delegate incidents deeds)
    (incident : Incident) : Ended delegate incidents (deeds ++ [.aside incident]) := by
  have more (asides : List Incident) :
      asides.map Deed.aside ++ [.aside incident] = (asides ++ [incident]).map .aside := by
    rw [List.map_append, List.map_singleton]
  cases ending with
  | finished wanted inOrder going =>
    rw [List.append_assoc, List.cons_append, more]
    exact .finished wanted inOrder going
  | crashed crash inOrder going =>
    rw [List.append_assoc, List.cons_append, more]
    exact .crashed crash inOrder going

theorem Ended.handedIn_prefix {deeds : List Deed} (ending : Ended delegate incidents deeds) :
    handedIn deeds <+: givenIn incidents := by
  cases ending with
  | @finished before asides wanted inOrder going =>
    have after : handedIn (.finished :: asides.map .aside) = [] := handedIn_asides asides
    exact ⟨[], by rw [List.append_nil, handedIn_append, after, List.append_nil, inOrder]⟩
  | @crashed before entry asides crash inOrder going =>
    have after : handedIn (.handed entry :: asides.map .aside) = [entry] :=
      congrArg (entry :: ·) (handedIn_asides asides)
    rw [handedIn_append, after]
    exact inOrder

/-- A task hands on, or ends, in a step of its own. -/
theorem Standing.step {task : TaskState} {waiting : Queue Entrusted} {deeds : List Deed}
    (knows : Knows task incidents) (inOrder : handedIn deeds ++ waiting.toList = givenIn incidents)
    (going : Deed.finished ∉ deeds) (asides : asidesIn deeds = behindIn incidents) :
    Standing delegate (incidents ++ [.step])
      (Life.next ⟨.channel task waiting (delegate.serve deeds).1, givenIn incidents,
        (delegate.serve deeds).2⟩ .step) := by
  have given : givenIn (incidents ++ [.step]) = givenIn incidents :=
    (givenIn_concat _ _).trans (List.append_nil _)
  have noneBehind : behindIn (incidents ++ [.step]) = behindIn incidents :=
    (behindIn_concat _ _).trans (List.append_nil _)
  have noAside (deed : Deed) (own : deed.aside? = none) :
      asidesIn (deeds ++ [deed]) = behindIn (incidents ++ [.step]) := by
    rw [asidesIn_concat, own, noneBehind, ← asides]
    exact List.append_nil _
  have stillKnows : Knows task (incidents ++ [.step]) := knows.concat Incident.noConfusion
  cases first : waiting.pop? with
  | none =>
    have nothing : waiting.toList = [] := (Queue.pop?_eq_none waiting).mp first
    obtain ⟨rfl, -⟩ | ⟨rfl, wanted⟩ := knows
    · rw [Life.next_of_silent (undergo_step_running first), List.append_nil, ← given]
      exact .alive stillKnows (inOrder.trans given.symm) going (asides.trans noneBehind.symm)
    · rw [nothing, List.append_nil] at inOrder
      have ending : Ended delegate incidents (deeds ++ [.finished]) :=
        @Ended.finished _ _ deeds [] wanted inOrder going
      have ended : Standing delegate (incidents ++ [.step]) _ :=
        .ended ending (noAside .finished rfl)
      rw [serve_concat] at ended
      rw [Life.next_of_silent (undergo_step_closing first)]
      exact ended
  | some popped =>
    obtain ⟨entry, later⟩ := popped
    have handed : handedIn (deeds ++ [.handed entry]) = handedIn deeds ++ [entry] :=
      handedIn_append deeds _
    rw [Queue.toList_of_pop? first, ← List.singleton_append, ← List.append_assoc] at inOrder
    rw [Life.next_of_silent (undergo_step_of_some knows.alive first)]
    by_cases crash : ((delegate.serve deeds).1.undergo (.given entry)).taken = some .crashed
    · have ending : Ended delegate incidents (deeds ++ [.handed entry]) :=
        @Ended.crashed _ _ deeds entry [] crash ⟨later.toList, inOrder⟩ going
      have ended : Standing delegate (incidents ++ [.step]) _ :=
        .ended ending (noAside (.handed entry) rfl)
      rw [serve_concat] at ended
      rw [if_pos crash]
      exact ended
    · have stillGoing : Deed.finished ∉ deeds ++ [.handed entry] := by
        simpa using going
      rw [← handed, ← given] at inOrder
      have onward : Standing delegate (incidents ++ [.step]) _ :=
        .alive stillKnows inOrder stillGoing (noAside (.handed entry) rfl)
      rw [serve_concat, given] at onward
      rw [if_neg crash]
      exact onward

/-- **One incident.** -/
theorem Standing.next {life : Life} (standing : Standing delegate incidents life)
    (incident : Incident) : Standing delegate (incidents ++ [incident]) (life.next incident) := by
  have given := givenIn_concat incidents incident
  have behind := behindIn_concat incidents incident
  have noneGiven (givesNone : incident.entry? = none) :
      givenIn (incidents ++ [incident]) = givenIn incidents := by
    rw [given, givesNone]
    exact List.append_nil _
  cases standing with
  | @alive _ task waiting deeds knows inOrder going asides =>
    cases incident with
    | step => exact .step knows inOrder going asides
    | given entry =>
      have onward : Standing delegate (incidents ++ [.given entry])
          ⟨.channel task (waiting.push entry) (delegate.serve deeds).1, _, (delegate.serve deeds).2⟩ :=
        .alive (knows.concat Incident.noConfusion)
          (by rw [Queue.toList_push, ← List.append_assoc, inOrder, given]; rfl) going
          (by rw [asides, behind]; exact (List.append_nil _).symm)
      rw [given] at onward
      simpa [Life.next, undergo_given_alive knows.alive] using onward
    | letGo =>
      have closing : (Sink.channel task waiting (delegate.serve deeds).1).undergo .letGo =
          ⟨.channel .closing waiting (delegate.serve deeds).1, none, []⟩ := by
        rcases knows with ⟨rfl, -⟩ | ⟨rfl, -⟩ <;> rfl
      rw [Life.next_of_silent closing, List.append_nil, ← noneGiven rfl]
      exact .alive (.inr ⟨rfl, List.mem_append_right _ (List.mem_singleton_self _)⟩)
        (inOrder.trans (noneGiven rfl).symm) going
        (by rw [asides, behind]; exact (List.append_nil _).symm)
    | behind incident =>
      have handed : handedIn (deeds ++ [.aside incident]) = handedIn deeds :=
        (handedIn_append deeds _).trans (List.append_nil _)
      have onward : Standing delegate (incidents ++ [.behind incident])
          ⟨.channel task waiting (delegate.serve (deeds ++ [.aside incident])).1, _,
            (delegate.serve (deeds ++ [.aside incident])).2⟩ :=
        .alive (knows.concat Incident.noConfusion) (by rw [handed, inOrder, noneGiven rfl])
          (by simpa using going) (by rw [asidesIn_concat, behind, asides]; rfl)
      rw [noneGiven rfl, serve_aside] at onward
      rw [Life.next_of_silent rfl]
      exact onward
  | @ended earlier later deeds ending asides =>
    have still (tellsNone : incident.behind? = none) :
        asidesIn deeds = behindIn (earlier ++ (later ++ [incident])) := by
      rw [asides, ← List.append_assoc, behind, tellsNone]
      exact (List.append_nil _).symm
    rw [List.append_assoc]
    cases incident with
    | step =>
      rw [Life.next_of_silent undergo_step_ended, List.append_nil]
      exact .ended ending (still rfl)
    | given entry =>
      have refused : (Sink.channel .ended .empty (delegate.serve deeds).1).undergo (.given entry) =
          ⟨.channel .ended .empty (delegate.serve deeds).1, some (.refused .closed), []⟩ := rfl
      simpa [Life.next, refused] using Standing.ended ending (still rfl)
    | letGo =>
      rw [Life.next_of_silent rfl, List.append_nil]
      exact .ended ending (still rfl)
    | behind incident =>
      have ended : Standing delegate (earlier ++ (later ++ [.behind incident])) _ :=
        .ended (ending.concat incident) (by rw [asidesIn_concat, ← List.append_assoc, behind, asides]; rfl)
      rw [serve_aside] at ended
      rw [Life.next_of_silent rfl]
      exact ended

/-- **Incidents of any number.** -/
theorem standing_live (delegate : Sink) (incidents : List Incident) :
    Standing delegate incidents ((behindChannel delegate).live incidents) := by
  induction incidents using List.reverseRecOn with
  | nil => exact @Standing.alive _ _ _ _ [] (.inl ⟨rfl, List.not_mem_nil⟩) rfl List.not_mem_nil rfl
  | append_singleton incidents incident ih =>
    rw [live_concat]
    exact ih.next incident

end

/-! ### The end of a task -/

/-- Whether the task of a channel has ended. -/
def hasEnded : Sink → Bool
  | .channel .ended _ _ => true
  | _ => false

theorem hasEnded_next {life : Life} (ended : life.sink.hasEnded = true) :
    (life.next .step).sink.hasEnded = true := by
  obtain ⟨sink, accepted, events⟩ := life
  match sink, ended with
  | .channel .ended waiting delegate, _ => simp [Life.next, undergo_step_ended, hasEnded]

theorem hasEnded_steps {life : Life} (ended : life.sink.hasEnded = true) (steps : Nat) :
    ((List.replicate steps .step).foldl Life.next life).sink.hasEnded = true := by
  induction steps generalizing life with
  | zero => exact ended
  | succ steps ih => exact ih (hasEnded_next ended)

/-- A task that nothing more will come to has a step for each line that waits, however it is taken, and
one to end. -/
theorem hasEnded_of_closing {life : Life} {waiting : Queue Entrusted} {delegate : Sink}
    (closing : life.sink = .channel .closing waiting delegate) :
    ((List.replicate (waiting.toList.length + 1) .step).foldl Life.next life).sink.hasEnded =
      true := by
  obtain ⟨sink, accepted, events⟩ := life
  subst closing
  induction lines : waiting.toList generalizing waiting delegate accepted events with
  | nil =>
    have first := (Queue.pop?_eq_none waiting).mpr lines
    refine hasEnded_steps ?_ 0
    rw [Life.next_of_silent (undergo_step_closing first)]
    rfl
  | cons entry rest ih =>
    cases first : waiting.pop? with
    | none => exact nomatch ((Queue.pop?_eq_none waiting).mp first).symm.trans lines
    | some popped =>
      obtain ⟨entry', later⟩ := popped
      have same := (Queue.toList_of_pop? first).symm.trans lines
      have closing : TaskState.closing ≠ .ended := TaskState.noConfusion
      rw [List.length_cons, List.replicate_succ, List.foldl_cons,
        Life.next_of_silent (undergo_step_of_some closing first)]
      split
      · exact hasEnded_steps rfl _
      · exact ih _ _ (List.cons.inj same).2

/-- **The task of a channel that was let go of ends,** as soon as it has had enough steps. -/
theorem Standing.ends {delegate : Sink} {incidents : List Incident} {life : Life}
    (standing : Standing delegate incidents life) (wanted : Incident.letGo ∈ incidents) :
    ∃ steps, ((List.replicate steps .step).foldl Life.next life).sink.hasEnded = true := by
  cases standing with
  | alive knows inOrder going asides =>
    obtain ⟨rfl, notYet⟩ | ⟨rfl, -⟩ := knows
    · exact absurd wanted notYet
    · exact ⟨_, hasEnded_of_closing rfl⟩
  | ended ending asides => exact ⟨0, rfl⟩

/-- **A channel hands on what it took.** Whatever sink a channel is put in front of, and in whatever
order lines are given to it, its task takes steps and other things happen behind it: what the sink
behind it has been handed is at any moment the beginning of what the channel accepted; the rest waits.
Every refusal of that sink is told of once, and the next line is handed on all the same. Lines are
accepted until the task has ended. It ends once the channel was let go of and all lines were handed on,
and tells of it then, or earlier if a line made the sink crash. -/
theorem behindChannel_hands_on (delegate : Sink) (incidents : List Incident) :
    let life := (behindChannel delegate).live incidents
    (∃ (task : TaskState) (waiting : Queue Entrusted) (deeds : List Deed),
      life.sink = .channel task waiting (delegate.serve deeds).1 ∧
      life.events = (delegate.serve deeds).2 ∧
      asidesIn deeds = behindIn incidents ∧
      handedIn deeds <+: life.accepted ∧ life.accepted <+: givenIn incidents ∧
      (∀ entry, (life.sink.undergo (.given entry)).taken =
        some (if task = .ended then .refused .closed else .accepted)) ∧
      (task ≠ .ended → life.accepted = givenIn incidents ∧
        handedIn deeds ++ waiting.toList = life.accepted ∧ .finished ∉ deeds) ∧
      (task = .ended → ∃ earlier later, incidents = earlier ++ later ∧
        life.accepted = givenIn earlier ∧ Ended delegate earlier deeds)) ∧
    (.letGo ∈ incidents → ∃ steps,
      ((behindChannel delegate).live (incidents ++ .replicate steps .step)).sink.hasEnded) := by
  have standing := standing_live delegate incidents
  refine ⟨?_, fun wanted => ?_⟩
  · generalize (behindChannel delegate).live incidents = life at standing ⊢
    cases standing with
    | @alive _ task waiting deeds knows inOrder going asides =>
      refine ⟨task, waiting, deeds, rfl, rfl, asides, ⟨waiting.toList, inOrder⟩,
        List.prefix_refl _, fun entry => ?_, fun _ => ⟨rfl, inOrder, going⟩,
        fun ended => absurd ended knows.alive⟩
      rw [undergo_given_alive knows.alive, if_neg knows.alive]
    | @ended earlier later deeds ending asides =>
      exact ⟨.ended, .empty, deeds, rfl, rfl, asides, ending.handedIn_prefix,
        ⟨givenIn later, List.filterMap_append.symm⟩, fun _ => rfl,
        fun alive => absurd rfl alive, fun _ => ⟨earlier, later, rfl, rfl, ending⟩⟩
  · obtain ⟨steps, ended⟩ := standing.ends wanted
    refine ⟨steps, ?_⟩
    rw [live, List.foldl_append]
    exact ended

/-- Two channels, one behind the other, in front of a sink that refuses the first line. -/
example (first second : Entrusted) :
    let stubborn : HostBehaviour := fun handed _ => if handed.size = 0 then some .poisoned else none
    let life := (behindChannel (behindChannel (.host stubborn .empty))).live
      [.given first, .step, .given second, .behind .step, .letGo, .step, .step, .behind .step,
        .behind .step]
    life.accepted = [first, second] ∧
      life.events = [.rejected .poisoned, .channelEnded, .channelEnded] := ⟨rfl, rfl⟩

/-! ### Turns -/

/-- A step of the task at a depth. -/
def Incident.stepAt : Nat → Incident
  | 0 => .step
  | depth + 1 => .behind (stepAt depth)

/-- A sink after some steps of tasks at these depths. -/
def steps (sink : Sink) (depths : List Nat) : Life := sink.live (depths.map Incident.stepAt)

theorem foldl_next (life : Life) (incidents : List Incident) :
    incidents.foldl Life.next life =
      ⟨(life.sink.live incidents).sink, life.accepted ++ (life.sink.live incidents).accepted,
        life.events ++ (life.sink.live incidents).events⟩ := by
  induction incidents using List.reverseRecOn with
  | nil => simp [live]
  | append_singleton incidents incident ih =>
    rw [List.foldl_append, ih, live_concat]
    simp [Life.next, List.append_assoc]

/-- One life goes on where another one stopped. -/
theorem live_append (sink : Sink) (incidents later : List Incident) :
    (sink.live (incidents ++ later)).sink = ((sink.live incidents).sink.live later).sink ∧
      (sink.live (incidents ++ later)).events =
        (sink.live incidents).events ++ ((sink.live incidents).sink.live later).events := by
  rw [live, List.foldl_append, foldl_next]
  exact ⟨rfl, rfl⟩

theorem live_behind (task : TaskState) (waiting : Queue Entrusted) (delegate : Sink)
    (incidents : List Incident) :
    (Sink.channel task waiting delegate).live (incidents.map .behind) =
      ⟨.channel task waiting (delegate.live incidents).sink, [],
        (delegate.live incidents).events⟩ := by
  induction incidents using List.reverseRecOn with
  | nil => rfl
  | append_singleton incidents incident ih =>
    rw [List.map_append, List.map_singleton, live_concat, live_concat, ih,
      Life.next_of_silent rfl]
    rfl

/-- One step, and those behind it. -/
theorem steps_cons (sink : Sink) (depth : Nat) (depths : List Nat) :
    let upshot := sink.undergo (.stepAt depth)
    (sink.steps (depth :: depths)).sink = (upshot.sink.steps depths).sink ∧
      (sink.steps (depth :: depths)).events = upshot.events ++ (upshot.sink.steps depths).events :=
  live_append sink [.stepAt depth] (depths.map .stepAt)

/-- A turn of a task is some steps of it. -/
theorem turnOf_steps (most : Nat) (sink : Sink) :
    ∃ depths, (turnOf most sink).sink = (sink.steps depths).sink ∧
      (turnOf most sink).events = (sink.steps depths).events := by
  induction most generalizing sink with
  | zero => exact ⟨[], rfl, rfl⟩
  | succ most ih =>
    cases sink with
    | memory kept | diagnostics | console writer poisoned | host behaviour handed =>
      exact ⟨[], rfl, rfl⟩
    | channel task waiting delegate =>
      cases stepped : handOn task waiting delegate with
      | mk after told =>
        obtain ⟨events, onward⟩ := told
        have here : (Sink.channel task waiting delegate).undergo .step = ⟨after, none, events⟩ := by
          simp only [undergo, stepped]
        cases onward with
        | rest =>
          obtain ⟨sinks, told⟩ := steps_cons (.channel task waiting delegate) 0 []
          rw [Incident.stepAt, here] at sinks told
          refine ⟨[0], ?_, ?_⟩
          · rw [sinks, turnOf, stepped]
            rfl
          · rw [told, turnOf, stepped]
            exact (List.append_nil _).symm
        | step =>
          obtain ⟨depths, sameSink, sameEvents⟩ := ih after
          obtain ⟨sinks, told⟩ := steps_cons (.channel task waiting delegate) 0 depths
          rw [Incident.stepAt, here] at sinks told
          refine ⟨0 :: depths, ?_, ?_⟩
          · rw [sinks, turnOf, stepped]
            exact sameSink
          · rw [told, turnOf, stepped]
            exact congrArg (events ++ ·) sameEvents

/-- **A turn is some steps,** at whatever depth it is taken. -/
theorem turn_steps (depth : Nat) (sink : Sink) :
    ∃ depths, (sink.turn depth).sink = (sink.steps depths).sink ∧
      (sink.turn depth).events = (sink.steps depths).events := by
  induction depth generalizing sink with
  | zero => exact turnOf_steps turnSize sink
  | succ depth ih =>
    cases sink with
    | memory kept | diagnostics | console writer poisoned | host behaviour handed =>
      exact ⟨[], rfl, rfl⟩
    | channel task waiting delegate =>
      obtain ⟨depths, sameSink, sameEvents⟩ := ih delegate
      have within : (Sink.channel task waiting delegate).steps (depths.map (· + 1)) =
          ⟨.channel task waiting (delegate.steps depths).sink, [], (delegate.steps depths).events⟩ := by
        rw [steps, List.map_map, steps, ← live_behind, List.map_map]
        rfl
      refine ⟨depths.map (· + 1), ?_, ?_⟩
      · rw [within, ← sameSink]
        rfl
      · rw [within, ← sameEvents]
        rfl

/-! ### Rows of sinks -/

/-- Each sink of a row has become one of another row by steps of its tasks. -/
def Stepped (before after : List Sink) : Prop :=
  List.Forall₂ (fun sink later => ∃ depths, later = (steps sink depths).sink) before after

theorem Stepped.refl (sinks : List Sink) : Stepped sinks sinks :=
  List.forall₂_same.mpr fun _ _ => ⟨[], rfl⟩

theorem Stepped.trans {first second third : List Sink} (early : Stepped first second)
    (late : Stepped second third) : Stepped first third := by
  induction early generalizing third with
  | nil =>
    cases late with
    | nil => exact .nil
  | @cons sink middle rest middles here _ ih =>
    cases late with
    | cons there later =>
      obtain ⟨depths, rfl⟩ := here
      obtain ⟨more, rfl⟩ := there
      refine .cons ⟨depths ++ more, ?_⟩ (ih later)
      rw [steps, steps, steps, List.map_append, (live_append _ _ _).1]

/-- Steps behind one sink of a row. -/
theorem Stepped.set {sinks : List Sink} {position : Nat} {sink : Sink}
    (found : sinks[position]? = some sink) (depths : List Nat) :
    Stepped sinks (sinks.set position (sink.steps depths).sink) := by
  induction sinks generalizing position with
  | nil => cases found
  | cons first rest ih =>
    cases position with
    | zero =>
      obtain rfl := Option.some.inj found
      exact .cons ⟨depths, rfl⟩ (Stepped.refl rest)
    | succ position => exact .cons ⟨[], rfl⟩ (ih found)

/-- A channel stays a channel, whatever happens to it. -/
theorem undergo_channel (task : TaskState) (waiting : Queue Entrusted) (delegate : Sink)
    (incident : Incident) : ∃ task' waiting' delegate',
      ((Sink.channel task waiting delegate).undergo incident).sink =
        .channel task' waiting' delegate' := by
  cases incident with
  | given entry | letGo => cases task <;> exact ⟨_, _, _, rfl⟩
  | behind incident => exact ⟨_, _, _, rfl⟩
  | step =>
    cases first : waiting.pop? with
    | none =>
      cases task with
      | running => exact ⟨_, _, _, congrArg Upshot.sink (undergo_step_running first)⟩
      | closing => exact ⟨_, _, _, congrArg Upshot.sink (undergo_step_closing first)⟩
      | ended => exact ⟨_, _, _, congrArg Upshot.sink undergo_step_ended⟩
    | some popped =>
      by_cases alive : task = .ended
      · subst alive
        exact ⟨_, _, _, congrArg Upshot.sink undergo_step_ended⟩
      · rw [undergo_step_of_some alive first]
        dsimp only
        split <;> exact ⟨_, _, _, rfl⟩

/-- What all channels have in common is not changed by the steps of their tasks. -/
theorem eq_of_steps {γ : Type} (view : Sink → γ) (alike : ∀ task waiting delegate,
    view (.channel task waiting delegate) = view (.channel .ended .empty .diagnostics))
    (sink : Sink) (depths : List Nat) : view (sink.steps depths).sink = view sink := by
  induction depths generalizing sink with
  | nil => rfl
  | cons depth depths ih =>
    rw [(steps_cons sink depth depths).1, ih]
    cases sink with
    | memory kept | diagnostics | console writer poisoned | host behaviour handed =>
      cases depth <;> rfl
    | channel task waiting delegate =>
      obtain ⟨_, _, _, after⟩ := undergo_channel task waiting delegate (.stepAt depth)
      rw [after, alike, alike task]

theorem Stepped.map_eq {γ : Type} {view : Sink → γ} (alike : ∀ task waiting delegate,
    view (.channel task waiting delegate) = view (.channel .ended .empty .diagnostics))
    {before after : List Sink} (stepped : Stepped before after) :
    after.map view = before.map view := by
  induction stepped with
  | nil => rfl
  | @cons sink later rest laters here _ ih =>
    obtain ⟨depths, rfl⟩ := here
    rw [List.map_cons, List.map_cons, eq_of_steps view alike, ih]

end Sink

namespace Outlets

open Sink (Stepped)

theorem Progress.turn_stepped (progress : Progress) (task : TaskId) :
    Stepped progress.sinks (progress.turn task).sinks := by
  unfold turn
  split
  · exact .refl _
  · rename_i sink found
    obtain ⟨depths, sameSink, -⟩ := sink.turn_steps task.depth
    dsimp only
    rw [sameSink]
    exact .set found depths

theorem Progress.run_stepped (turns : Nat) (progress : Progress) :
    Stepped progress.sinks (Progress.run turns progress).sinks := by
  induction turns generalizing progress with
  | zero => exact .refl _
  | succ turns ih =>
    unfold run
    split
    · exact .refl _
    · rename_i task agenda _
      exact (turn_stepped { progress with agenda := agenda } task).trans (ih _)

/-- **The turns that tasks take are steps** of them. -/
theorem settle_stepped (outlets : Outlets) (place : WokenFrom) :
    Stepped outlets.sinks (outlets.settle place).1.sinks :=
  Progress.run_stepped _ ⟨outlets.sinks, outlets.agenda place, []⟩

end Outlets

end MediaTrail
