/-
**Captured bodies of the server's kind.** A captured body may be turned into one of the server's own
kind at any time, also half-way through its content. Its holder then gets what the captured body would
have given, poll by poll, and the exchange is delivered at the same poll. Only the text of a failure is
wrapped once more, and the body lets go of the capture at the first end.

A body of the server's kind therefore stays at its end. A captured body does so only if the body behind
it does, which is not so of every body: a stream may go on behind its end (`Source.StaysAtEnd`). Where it
goes on, the two differ behind the first end, but in what they give only: what is delivered is delivered
by then.

The two bodies stand in a relation (`Outgoing.Mirrors`) that every use preserves (`use_mirrors`), from
the conversion on: they hold the same capture until the content has ended, and from then on nothing is
awaited.

* `uses_delivered`, `uses_mirrors`: what is delivered, and what the holders of the two bodies get;
* `alike_until_end`: the same up to the first end, for any body;
* `converted_as_direct`: all this from any state of a captured body, and what holds at its end and
  behind a drop.
-/

import MediaTrail.Proofs.Delivery
import MediaTrail.Monitor

namespace MediaTrail

/-! ### Bodies that stay at their end -/

namespace Source

variable {β : Type} [Source β]

/-- What is left of a body after some polls for data. -/
def afterPolls : Nat → β → β
  | 0, body => body
  | n + 1, body => afterPolls n (Source.poll body).2

/-- Once a poll has told of the end, so does the next one. -/
def StaysAtEnd (body : β) : Prop :=
  ∀ n, (Source.poll (afterPolls n body)).1 = .ended →
    (Source.poll (afterPolls (n + 1) body)).1 = .ended

theorem StaysAtEnd.afterPoll {body : β} (stays : StaysAtEnd body) :
    StaysAtEnd (Source.poll body).2 :=
  fun n => stays (n + 1)

theorem StaysAtEnd.ended_of_ended {body : β} (stays : StaysAtEnd body)
    (ended : (Source.poll body).1 = .ended) (n : Nat) :
    (Source.poll (afterPolls n body)).1 = .ended := by
  induction n with
  | zero => exact ended
  | succ n ih => exact stays n ih

end Source

namespace Body

open Source (afterPolls StaysAtEnd)

theorem afterPolls_sized (n : Nat) (chunks : List Text.Bytes) :
    afterPolls n (sized chunks) = sized (chunks.drop n) := by
  induction n generalizing chunks with
  | zero => rfl
  | succ n ih =>
    cases chunks with
    | nil => exact (ih []).trans (by rw [List.drop_nil, List.drop_nil])
    | cons bytes chunks => exact ih chunks

theorem afterPolls_stream (n : Nat) (items : List Item) (trailers : List TrailersPolled) :
    afterPolls n (stream items trailers) = stream (items.drop n) trailers := by
  induction n generalizing items with
  | zero => rfl
  | succ n ih =>
    cases items with
    | nil => exact (ih []).trans (by rw [List.drop_nil, List.drop_nil])
    | cons item items => exact ih items

/-- A body of known length stays at its end. -/
theorem staysAtEnd_sized (chunks : List Text.Bytes) : StaysAtEnd (sized chunks) := by
  intro n ended
  rw [afterPolls_sized] at ended ⊢
  cases left : chunks.drop n with
  | nil =>
    rw [← List.tail_drop, left]
    rfl
  | cons bytes rest =>
    rw [left] at ended
    cases ended

/-- So does a stream whose script ends only once. -/
theorem staysAtEnd_stream {items : List Item} (trailers : List TrailersPolled)
    (once : Item.ended ∉ items) : StaysAtEnd (stream items trailers) := by
  intro n ended
  rw [afterPolls_stream] at ended ⊢
  cases left : items.drop n with
  | nil =>
    rw [← List.tail_drop, left]
    rfl
  | cons item rest =>
    rw [left] at ended
    have member : item ∈ items := List.mem_of_mem_drop (left ▸ List.mem_cons_self)
    cases item with
    | ended => exact absurd member once
    | chunk bytes | failure error | pending => cases ended

end Body

/-! ### Using a body that was passed on -/

/-- What a use of a body gives: what the poll told, if it was one for data, and the exchange that was
delivered by it, if one was. -/
structure Glance where
  polled : Option Polled
  delivered : Option Exchange
deriving DecidableEq, Repr

/-- A use that tells nothing and delivers nothing. -/
def Glance.nothing : Glance := ⟨none, none⟩

/-- A poll's answer, its failure reduced to the text it goes back to. -/
def Polled.atRoot : Polled → Polled
  | .failure error => .failure (.stream error.root)
  | polled => polled

theorem Polled.atRoot_eq_ended_iff {polled : Polled} : polled.atRoot = .ended ↔ polled = .ended := by
  cases polled <;> simp [atRoot]

def Glance.atRoot (glance : Glance) : Glance :=
  { glance with polled := glance.polled.map Polled.atRoot }

namespace Outgoing

variable {β : Type} [Source β]

/-- Uses a body that was passed on, if it was not let go of. -/
def use (held : Option (Outgoing β)) (next : Use) : Glance × Option (Outgoing β) :=
  match held, next with
  | some body, .poll =>
    let (polled, body, delivered) := body.poll
    (⟨some polled, delivered⟩, some body)
  | some body, .pollTrailers => (.nothing, some body.pollTrailers.2)
  | _, .drop => (.nothing, none)
  | none, _ => (.nothing, none)

/-- Uses a body again and again. -/
def uses (held : Option (Outgoing β)) : List Use → List Glance
  | [] => []
  | next :: later => (use held next).1 :: uses (use held next).2 later

/-! ### A captured body and its conversion -/

/-- A captured body, and what the conversion of it has become under the same uses. If it is `lasting`,
the body behind it stays at its end. -/
inductive Mirrors (lasting : Prop) : Option (Outgoing β) → Option (Outgoing β) → Prop
  /-- They hold the same capture. -/
  | going (capture : Capture β) (stays : lasting → Source.StaysAtEnd capture.body) :
      Mirrors lasting (some (.captured capture)) (some (.adapted (some capture)))
  /-- The content has ended, and the conversion has let go of it. -/
  | finished (capture : Capture β) (unawaited : capture.recorder.awaited = none)
      (ended : lasting → ∀ n, (Source.poll (Source.afterPolls n capture.body)).1 = .ended) :
      Mirrors lasting (some (.captured capture)) (some (.adapted none))
  /-- Both were dropped. -/
  | gone : Mirrors lasting none none

end Outgoing

namespace Recorder

/-- A poll that tells of no end delivers nothing. -/
theorem undelivered_of_not_reportsEnd (recorder : Recorder) {polled : Polled} {atEnd : Bool}
    (goesOn : (Sight.polled polled atEnd).reportsEnd = false) :
    (recorder.observe polled atEnd).2 = none := by
  cases polled with
  | chunk bytes =>
    obtain rfl : atEnd = false := goesOn
    rfl
  | failure error | pending => rfl
  | ended => cases goesOn

end Recorder

namespace Outgoing

variable {β : Type} [Source β] {lasting : Prop} {direct converted : Option (Outgoing β)} {next : Use}
  {later : List Use}

/-- Polling a converted body is polling what it holds, until that ends. -/
theorem poll_adapted (capture : Capture β) :
    (adapted (some capture)).poll.1.atRoot = capture.poll.1.atRoot ∧
      (adapted (some capture)).poll.2.2 = capture.poll.2.2 ∧
      (adapted (some capture)).poll.2.1 =
        .adapted (if capture.poll.1 = .ended then none else some capture.poll.2.1) := by
  simp only [Outgoing.poll]
  rcases capture.poll with ⟨polled, after, delivered⟩
  cases polled <;> exact ⟨rfl, rfl, rfl⟩

/-- As long as both hold the same capture, their holders get the same. -/
theorem use_going (capture : Capture β) (next : Use) :
    (use (some (.adapted (some capture))) next).1.atRoot =
      (use (some (.captured capture)) next).1.atRoot := by
  cases next with
  | poll =>
    obtain ⟨told, handed, -⟩ := poll_adapted capture
    show Glance.mk (some (adapted (some capture)).poll.1.atRoot) (adapted (some capture)).poll.2.2 =
      Glance.mk (some capture.poll.1.atRoot) capture.poll.2.2
    rw [told, handed]
  | pollTrailers | drop => rfl

/-- What is left of both is the same capture again, unless the content ended or they were dropped. -/
theorem mirrors_going {capture : Capture β} (stays : lasting → Source.StaysAtEnd capture.body)
    (data : next ≠ .pollTrailers) :
    Mirrors lasting (use (some (.captured capture)) next).2
      (use (some (.adapted (some capture))) next).2 := by
  cases next with
  | poll =>
    obtain ⟨-, -, left⟩ := poll_adapted capture
    show Mirrors lasting (some (.captured capture.poll.2.1)) (some (adapted (some capture)).poll.2.1)
    rw [left]
    by_cases ended : capture.poll.1 = .ended
    · have told : (Source.poll capture.body).1 = .ended := ended
      have unawaited : capture.poll.2.1.recorder.awaited = none := by
        show (capture.recorder.observe (Source.poll capture.body).1 _).1.awaited = none
        rw [told]
        exact capture.recorder.awaited_complete
      rw [if_pos ended]
      exact .finished _ unawaited fun lasts n => (stays lasts).ended_of_ended told (n + 1)
    · rw [if_neg ended]
      exact .going _ fun lasts => (stays lasts).afterPoll
  | pollTrailers => exact absurd rfl data
  | drop => exact .gone

/-- **One use.** The exchange is delivered by both bodies or by none, and if the body behind them stays
at its end their holders get the same, down to the text of a failure. -/
theorem use_mirrors (mirrors : Mirrors lasting direct converted) (data : next ≠ .pollTrailers) :
    (use converted next).1.delivered = (use direct next).1.delivered ∧
      (lasting → (use converted next).1.atRoot = (use direct next).1.atRoot) ∧
      Mirrors lasting (use direct next).2 (use converted next).2 := by
  cases mirrors with
  | going capture stays =>
    have alike := use_going capture next
    exact ⟨(congrArg Glance.delivered alike :), fun _ => alike, mirrors_going stays data⟩
  | finished capture unawaited ended =>
    cases next with
    | poll =>
      have nothing : capture.poll.2.2 = none :=
        congrArg Prod.snd (capture.recorder.observe_idle _ _ unawaited)
      refine ⟨nothing.symm, fun lasts => ?_, .finished _ (Recorder.awaited_observe unawaited _ _)
        fun lasts n => ended lasts (n + 1)⟩
      have told : capture.poll.1 = .ended := ended lasts 0
      show (Glance.mk (some .ended) none).atRoot =
        (Glance.mk (some capture.poll.1) capture.poll.2.2).atRoot
      rw [told, nothing]
    | pollTrailers => exact absurd rfl data
    | drop => exact ⟨rfl, fun _ => rfl, .gone⟩
  | gone => cases next <;> exact ⟨rfl, fun _ => rfl, .gone⟩

/-- **All uses**, as far as deliveries go. -/
theorem uses_delivered (mirrors : Mirrors lasting direct converted)
    (dataOnly : Use.pollTrailers ∉ later) :
    (uses converted later).map Glance.delivered = (uses direct later).map Glance.delivered := by
  induction later generalizing direct converted with
  | nil => rfl
  | cons next later ih =>
    obtain ⟨first, rest⟩ := not_or.mp (mt List.mem_cons.mpr dataOnly)
    obtain ⟨here, -, left⟩ := use_mirrors mirrors (Ne.symm first)
    rw [uses, uses, List.map_cons, List.map_cons, here, ih left rest]

/-- **All uses**, if the body behind them stays at its end. -/
theorem uses_mirrors (mirrors : Mirrors lasting direct converted)
    (dataOnly : Use.pollTrailers ∉ later) (lasts : lasting) :
    (uses converted later).map Glance.atRoot = (uses direct later).map Glance.atRoot := by
  induction later generalizing direct converted with
  | nil => rfl
  | cons next later ih =>
    obtain ⟨first, rest⟩ := not_or.mp (mt List.mem_cons.mpr dataOnly)
    obtain ⟨-, here, left⟩ := use_mirrors mirrors (Ne.symm first)
    rw [uses, uses, List.map_cons, List.map_cons, here lasts, ih left rest]

/-! ### At the end and behind it -/

theorem uses_none (later : List Use) :
    ∀ glance ∈ uses (none : Option (Outgoing β)) later, glance = .nothing := by
  induction later with
  | nil => simp [uses]
  | cons next later ih =>
    have here : use (none : Option (Outgoing β)) next = (.nothing, none) := by cases next <;> rfl
    rw [uses, here]
    simpa using ih

/-- **Up to the first end** the holders of both bodies get the same, whatever the body behind them does
later. -/
theorem alike_until_end (capture : Capture β) {n : Nat}
    (before : ∀ m < n, ∀ glance, (uses (some (.captured capture)) later)[m]? = some glance →
      glance.polled ≠ some .ended) (dataOnly : Use.pollTrailers ∉ later) :
    ((uses (some (.adapted (some capture))) later).map Glance.atRoot)[n]? =
      ((uses (some (.captured capture)) later).map Glance.atRoot)[n]? := by
  induction later generalizing capture n with
  | nil => rfl
  | cons next later ih =>
    obtain ⟨first, rest⟩ := not_or.mp (mt List.mem_cons.mpr dataOnly)
    simp only [uses, List.map_cons] at before ⊢
    cases n with
    | zero =>
      rw [List.getElem?_cons_zero, List.getElem?_cons_zero, use_going capture next]
    | succ n =>
      rw [List.getElem?_cons_succ, List.getElem?_cons_succ]
      have onward (m : Nat) (within : m < n) := before (m + 1) (by omega)
      have here := before 0 (by omega) _ rfl
      cases next with
      | poll =>
        have goesOn : capture.poll.1 ≠ .ended := fun ended => here (congrArg some ended)
        have left : (use (some (.adapted (some capture))) .poll).2 =
            some (.adapted (some capture.poll.2.1)) := by
          have adapted := (poll_adapted capture).2.2
          rw [if_neg goesOn] at adapted
          exact congrArg some adapted
        rw [left]
        exact ih capture.poll.2.1 onward rest
      | pollTrailers => exact absurd rfl first
      | drop => rfl

/-- Behind a drop nothing is told or delivered any more. -/
theorem nothing_behind_drop (held : Option (Outgoing β)) (later : List Use) {m n : Nat}
    {glance : Glance} (dropped : later[m]? = some .drop) (behind : m ≤ n)
    (atGlance : (uses held later)[n]? = some glance) : glance = .nothing := by
  induction later generalizing held m n with
  | nil => cases dropped
  | cons next later ih =>
    rw [uses] at atGlance
    cases m with
    | zero =>
      obtain rfl : next = .drop := Option.some.inj dropped
      have here : use held .drop = (.nothing, none) := by cases held <;> rfl
      rw [here] at atGlance
      rcases List.mem_cons.mp (List.mem_of_getElem? atGlance) with now | afterwards
      · exact now
      · exact uses_none later glance afterwards
    | succ m =>
      obtain ⟨n, rfl⟩ : ∃ k, n = k + 1 := ⟨n - 1, by omega⟩
      exact ih _ dropped (by omega) atGlance

/-- A body that has let go of its capture tells of the end, poll by poll. -/
theorem uses_letGo (later : List Use) :
    ∀ glance ∈ uses (some (.adapted none : Outgoing β)) later,
      glance.delivered = none ∧ ∀ polled, glance.polled = some polled → polled = .ended := by
  induction later with
  | nil => simp [uses]
  | cons next later ih =>
    have nothing : Glance.nothing.delivered = none ∧
        ∀ polled, Glance.nothing.polled = some polled → polled = .ended := ⟨rfl, nofun⟩
    intro glance member
    rw [uses] at member
    cases next with
    | poll =>
      rcases List.mem_cons.mp member with rfl | inLater
      · exact ⟨rfl, fun polled told => (Option.some.inj told).symm⟩
      · exact ih glance inLater
    | pollTrailers =>
      rcases List.mem_cons.mp member with rfl | inLater
      · exact nothing
      · exact ih glance inLater
    | drop =>
      rcases List.mem_cons.mp member with rfl | inLater
      · exact nothing
      · rw [uses_none later glance inLater]
        exact nothing

/-- A use of a converted body that tells of the end lets go of the capture. -/
theorem use_ended (mirrors : Mirrors lasting direct converted)
    (ended : (use converted next).1.polled = some .ended) :
    (use converted next).2 = some (.adapted none) := by
  cases mirrors with
  | going capture stays =>
    cases next with
    | poll =>
      obtain ⟨told, -, left⟩ := poll_adapted capture
      have isEnded : (adapted (some capture)).poll.1 = .ended := Option.some.inj ended
      rw [isEnded] at told
      rw [if_pos (Polled.atRoot_eq_ended_iff.mp told.symm)] at left
      exact congrArg some left
    | pollTrailers | drop => cases ended
  | finished capture unawaited =>
    cases next with
    | poll => rfl
    | pollTrailers | drop => cases ended
  | gone => cases next <;> cases ended

/-- **Behind its end** a converted body stays at its end, and nothing more is delivered. -/
theorem ended_behind_end (mirrors : Mirrors lasting direct converted)
    (dataOnly : Use.pollTrailers ∉ later) {m n : Nat} {last glance : Glance} (behind : m < n)
    (atLast : (uses converted later)[m]? = some last) (ended : last.polled = some .ended)
    (atGlance : (uses converted later)[n]? = some glance) :
    glance.delivered = none ∧ ∀ polled, glance.polled = some polled → polled = .ended := by
  induction later generalizing direct converted m n with
  | nil => cases atLast
  | cons next later ih =>
    obtain ⟨first, rest⟩ := not_or.mp (mt List.mem_cons.mpr dataOnly)
    obtain ⟨n, rfl⟩ : ∃ k, n = k + 1 := ⟨n - 1, by omega⟩
    rw [uses] at atLast atGlance
    cases m with
    | zero =>
      obtain rfl := Option.some.inj atLast
      rw [use_ended mirrors ended] at atGlance
      exact uses_letGo later glance (List.mem_of_getElem? atGlance)
    | succ m =>
      exact ih (use_mirrors mirrors (Ne.symm first)).2.2 rest (by omega) atLast atGlance

/-- A captured body delivers nothing as long as it tells of no end. -/
theorem undelivered_of_not_reportsEnd (capture : Capture β) (later : List Use)
    (goesOn : ∀ now ∈ sights (some capture.body) later, now.reportsEnd = false) :
    ∀ glance ∈ uses (some (.captured capture)) later, glance.delivered = none := by
  induction later generalizing capture with
  | nil => simp [uses]
  | cons next later ih =>
    rw [sights] at goesOn
    obtain ⟨here, onward⟩ := List.forall_mem_cons.mp goesOn
    rw [uses]
    refine List.forall_mem_cons.mpr ⟨?_, ?_⟩
    · cases next with
      | poll => exact capture.recorder.undelivered_of_not_reportsEnd here
      | pollTrailers | drop => rfl
    · cases next with
      | poll => exact ih capture.poll.2.1 onward
      | pollTrailers => exact ih capture.pollTrailers.2 onward
      | drop =>
        intro glance member
        rw [uses_none later glance member]
        rfl

end Outgoing

/-- **A captured body and its conversion**, polled for data and perhaps dropped, from any state of the
captured body on, also half-way through its content or behind a failure. If the body behind it stays at
its end, the conversion gives its holder what the captured body itself would give, use by use: the same
chunks, the same pauses, failures that go back to the same text, the same end; and the exchange is
delivered at the same use. Of any body this is so up to the first end, and of deliveries throughout.
Behind its end the conversion stays at its end, behind a drop it tells and delivers nothing, and if it is
dropped before any end was told nothing is ever delivered. -/
theorem converted_as_direct {β : Type} [Source β] (capture : Capture β) (uses : List Use)
    (dataOnly : Use.pollTrailers ∉ uses) :
    let direct := Outgoing.uses (some (.captured capture)) uses
    let converted := Outgoing.uses (some (Outgoing.captured capture).toServer) uses
    (Source.StaysAtEnd capture.body → converted.map Glance.atRoot = direct.map Glance.atRoot) ∧
      (∀ n : Nat,
        (∀ m < n, ∀ glance : Glance, direct[m]? = some glance → glance.polled ≠ some .ended) →
        (converted.map Glance.atRoot)[n]? = (direct.map Glance.atRoot)[n]?) ∧
      converted.map Glance.delivered = direct.map Glance.delivered ∧
      (∀ (m n : Nat) (last glance : Glance), m < n → converted[m]? = some last →
        last.polled = some .ended → converted[n]? = some glance →
        glance.delivered = none ∧ ∀ polled, glance.polled = some polled → polled = .ended) ∧
      (∀ (m n : Nat) (glance : Glance), m ≤ n → uses[m]? = some .drop → converted[n]? = some glance →
        glance = .nothing) ∧
      ((∀ now ∈ sights (some capture.body) uses, now.reportsEnd = false) →
        ∀ glance ∈ converted, glance.delivered = none) := by
  intro direct converted
  have mirrors : Outgoing.Mirrors (Source.StaysAtEnd capture.body) (some (.captured capture))
      (some (Outgoing.captured capture).toServer) := .going capture id
  have delivered := Outgoing.uses_delivered mirrors dataOnly
  refine ⟨Outgoing.uses_mirrors mirrors dataOnly, ?_, delivered, ?_, ?_, ?_⟩
  · intro n before
    exact Outgoing.alike_until_end capture before dataOnly
  · intro m n last glance behind atLast ended atGlance
    exact Outgoing.ended_behind_end mirrors dataOnly behind atLast ended atGlance
  · intro m n glance behind dropped atGlance
    exact Outgoing.nothing_behind_drop _ uses dropped behind atGlance
  · intro goesOn glance member
    have silent := Outgoing.undelivered_of_not_reportsEnd capture uses goesOn
    have inBoth : glance.delivered ∈ direct.map Glance.delivered := by
      rw [← delivered]
      exact List.mem_map_of_mem member
    obtain ⟨other, inDirect, equal⟩ := List.mem_map.mp inBoth
    exact equal.symm.trans (silent other inDirect)

/-- A body is converted behind its first chunk. It fails, goes on, ends and stays at its end; dropped
before that it delivers nothing. -/
theorem converted_behind_chunk :
    let exchange : Exchange := ⟨.listQuery, ⟨"/api", "/api", "POST", "10.0.0.1", "ann"⟩, 200, [], [], 0⟩
    let capture : Capture Body := ⟨.stream [.pending, .failure (.stream "reset"), .chunk [2]] [],
      ⟨some exchange, Journal.empty.append [1]⟩⟩
    let whole := Outgoing.uses (some (Outgoing.captured capture).toServer)
      [.poll, .poll, .poll, .poll, .poll]
    let dropped := Outgoing.uses (some (Outgoing.captured capture).toServer) [.poll, .drop, .poll]
    (whole.map fun glance => glance.atRoot.polled) =
        [some .pending, some (.failure (.stream "reset")), some (.chunk [2]), some .ended,
          some .ended] ∧
      (∀ glance ∈ dropped, glance.delivered = none) ∧ dropped[2]? = some .nothing := by
  intro exchange capture whole dropped
  have general := converted_as_direct capture [.poll, .poll, .poll, .poll, .poll] (by decide)
  have early := converted_as_direct capture [.poll, .drop, .poll] (by decide)
  have stays : Source.StaysAtEnd capture.body := Body.staysAtEnd_stream [] (by decide)
  have told := congrArg (List.map Glance.polled) (general.1 stays)
  rw [List.map_map, List.map_map] at told
  refine ⟨told, early.2.2.2.2.2 (by decide), ?_⟩
  exact congrArg some (early.2.2.2.2.1 1 2 _ (by decide) rfl rfl)

/-- A stream that goes on behind its end is cut there by the conversion. -/
example :
    let capture : Capture Body := ⟨.stream [.ended, .chunk [1]] [], .idle⟩
    (Outgoing.uses (some (.captured capture)) [.poll, .poll]).map Glance.polled =
        [some .ended, some (.chunk [1])] ∧
      (Outgoing.uses (some (Outgoing.captured capture).toServer) [.poll, .poll]).map Glance.polled =
        [some .ended, some .ended] := by
  decide

end MediaTrail
