/-
**The delivery of a captured exchange.** A captured body may be polled for data and for trailing
fields in any order and let go of at any time, and the body behind it may answer anything: it may go
on after a failure or after its end. The exchange is delivered nevertheless at most once, and only
at the first moment that tells of the end.

What a moment tells (`Sight`) is said of the body on its own, which knows nothing of the recorder.
The invariant `Recorder.Keeps` says what the recorder holds after some moments; one poll takes it on
(`observe_keeps`), and so does every use (`use_follows`), hence a whole life (`life_follows`).

* `delivered_iff_first_end`: when the exchange is delivered, with which response, and what the copy
  is until then and from then on.
-/

import MediaTrail.Capture

namespace MediaTrail

open Text (Bytes)

/-! ### What a body tells -/

/-- What a moment in the life of a body tells of its content. -/
inductive Sight where
  /-- The body is there, and its content may be known to have ended. -/
  | opened (atEnd : Bool)
  /-- A poll for data gave this, and the content may be known to have ended after it. -/
  | polled (polled : Polled) (atEnd : Bool)
  /-- Nothing: no data were polled for, or the body was let go of. -/
  | silent
deriving DecidableEq, Repr

namespace Sight

/-- Whether the content ends here: the body knew of its end from the first, knows of it behind a
chunk, or tells of it. -/
def reportsEnd : Sight → Bool
  | .opened atEnd => atEnd
  | .polled (.chunk _) atEnd => atEnd
  | .polled .ended _ => true
  | .polled _ _ => false
  | .silent => false

def isFailure : Sight → Bool
  | .polled (.failure _) _ => true
  | _ => false

/-- The bytes of the chunk, if there was one. -/
def chunk : Sight → Bytes
  | .polled (.chunk bytes) _ => bytes
  | _ => []

/-- What the poll gave, if there was one. -/
def polled? : Sight → Option Polled
  | .polled result _ => some result
  | _ => none

end Sight

/-- Whether the content has neither ended nor failed at one of these moments. -/
def undecided (past : List Sight) : Bool :=
  past.all fun sight => !sight.reportsEnd && !sight.isFailure

/-- The chunks of these moments, one behind the other. -/
def content (past : List Sight) : Bytes :=
  past.flatMap Sight.chunk

section

variable {β : Type} [Source β]

/-- What a use tells of a body that is not captured, and what is left of it. -/
def sight (body : Option β) (use : Use) : Sight × Option β :=
  match body, use with
  | some body, .poll =>
    let (polled, body) := Source.poll body
    (.polled polled (Source.atEnd body), some body)
  | some body, .pollTrailers => (.silent, some (Source.pollTrailers body).2)
  | _, .drop => (.silent, none)
  | none, _ => (.silent, none)

/-- What uses tell of a body that is not captured. -/
def sights (body : Option β) : List Use → List Sight
  | [] => []
  | next :: later => (sight body next).1 :: sights (sight body next).2 later

/-- What a body tells that is not captured, from its first moment on. -/
def history (body : β) (uses : List Use) : List Sight :=
  .opened (Source.atEnd body) :: sights (some body) uses

end

/-! ### What the recorder keeps -/

@[simp] theorem undecided_append (past later : List Sight) :
    undecided (past ++ later) = (undecided past && undecided later) := by
  simp [undecided]

@[simp] theorem undecided_singleton (sight : Sight) :
    undecided [sight] = (!sight.reportsEnd && !sight.isFailure) := by
  simp [undecided]

@[simp] theorem content_append (past later : List Sight) :
    content (past ++ later) = content past ++ content later := by
  simp [content]

@[simp] theorem content_singleton (sight : Sight) : content [sight] = sight.chunk := by
  simp [content]

/-- The exchange with all chunks as its response. -/
def Exchange.answeredBy (exchange : Exchange) (past : List Sight) : Exchange :=
  { exchange with responseBody := content past }

/-- What is to be delivered when a moment follows others: the exchange, if the content ends only
now. -/
def owed (exchange : Exchange) (past : List Sight) (now : Sight) : Option Exchange :=
  if undecided past && now.reportsEnd then some (exchange.answeredBy (past ++ [now])) else none

theorem Sight.reportsEnd_of_isFailure {now : Sight} (failed : now.isFailure = true) :
    now.reportsEnd = false := by
  cases now with
  | opened atEnd => simp [isFailure] at failed
  | silent => rfl
  | polled result atEnd => cases result <;> simp_all [isFailure, reportsEnd]

theorem owed_eq_some_iff {exchange delivered : Exchange} {past : List Sight} {now : Sight} :
    owed exchange past now = some delivered ↔
      undecided past = true ∧ now.reportsEnd = true ∧
        delivered = exchange.answeredBy (past ++ [now]) := by
  rw [owed]
  cases undecided past <;> cases now.reportsEnd <;> simp [eq_comm]

theorem owed_of_failure {exchange : Exchange} {past : List Sight} {now failure : Sight}
    (member : failure ∈ past ++ [now]) (failed : failure.isFailure = true) :
    owed exchange past now = none := by
  rw [Option.eq_none_iff_forall_ne_some]
  intro delivered isOwed
  obtain ⟨stillOpen, ends, _⟩ := owed_eq_some_iff.mp isOwed
  rcases List.mem_append.mp member with before | here
  · have := List.all_eq_true.mp stillOpen failure before
    simp [failed] at this
  · obtain rfl := List.mem_singleton.mp here
    rw [Sight.reportsEnd_of_isFailure failed] at ends
    cases ends

/-- What a recorder holds after some moments: the exchange and all chunks, until the content ends or
fails, and nothing from then on. -/
structure Recorder.Keeps (exchange : Exchange) (past : List Sight) (recorder : Recorder) : Prop where
  awaited : recorder.awaited = if undecided past then some exchange else none
  copy : recorder.copy = if undecided past then content past else []

namespace Recorder

theorem idle_keeps {exchange : Exchange} {past : List Sight} (decided : undecided past = false) :
    idle.Keeps exchange past :=
  ⟨by simp [idle, decided], by simp [idle, copy, decided]⟩

theorem Keeps.of_undecided {exchange : Exchange} {past : List Sight} {recorder : Recorder}
    (kept : recorder.Keeps exchange past) (stillOpen : undecided past = true) :
    recorder.awaited = some exchange ∧ recorder.copy = content past := by
  have awaited := kept.awaited
  have copy := kept.copy
  rw [stillOpen, if_pos rfl] at awaited copy
  exact ⟨awaited, copy⟩

theorem Keeps.of_decided {exchange : Exchange} {past : List Sight} {recorder : Recorder}
    (kept : recorder.Keeps exchange past) (decided : undecided past = false) :
    recorder.awaited = none ∧ recorder.copy = [] := by
  have awaited := kept.awaited
  have copy := kept.copy
  rw [decided, if_neg Bool.false_ne_true] at awaited copy
  exact ⟨awaited, copy⟩

/-- A recorder that awaits nothing and has nothing stays as it should once the content has ended or
failed, whatever comes later. -/
theorem keeps_of_decided {exchange : Exchange} {past : List Sight} {recorder : Recorder}
    (decided : undecided past = false) (unawaited : recorder.awaited = none)
    (empty : recorder.copy = []) : recorder.Keeps exchange past :=
  ⟨by rw [decided, unawaited]; rfl, by rw [decided, empty]; rfl⟩

theorem complete_of_awaited {exchange : Exchange} {recorder : Recorder}
    (awaited : recorder.awaited = some exchange) :
    recorder.complete = (idle, some { exchange with responseBody := recorder.copy }) := by
  rw [complete, awaited]

/-- A chunk that comes while the exchange is awaited is noted, also where it is the last one. -/
theorem observe_chunk {exchange : Exchange} {recorder : Recorder} (bytes : Bytes) (atEnd : Bool)
    (awaited : recorder.awaited = some exchange) :
    recorder.observe (.chunk bytes) atEnd =
      if atEnd then (Recorder.mk (some exchange) (recorder.copied.append bytes)).complete
      else (Recorder.mk (some exchange) (recorder.copied.append bytes), none) := by
  simp [observe, awaited]

/-- **One poll while the exchange is awaited.** -/
theorem observe_undecided {exchange : Exchange} {past : List Sight} {recorder : Recorder}
    (kept : recorder.Keeps exchange past) (stillOpen : undecided past = true) (polled : Polled)
    (atEnd : Bool) :
    (recorder.observe polled atEnd).1.Keeps exchange (past ++ [.polled polled atEnd]) ∧
      (recorder.observe polled atEnd).2 = owed exchange past (.polled polled atEnd) := by
  obtain ⟨awaited, copied⟩ := kept.of_undecided stillOpen
  cases polled with
  | chunk bytes =>
    have noted : (Recorder.mk (some exchange) (recorder.copied.append bytes)).copy =
        content (past ++ [.polled (.chunk bytes) atEnd]) := by
      rw [copy, Journal.toList_append, ← copy, copied, content_append, content_singleton]
      rfl
    rw [observe_chunk bytes atEnd awaited]
    cases atEnd with
    | true =>
      rw [if_pos rfl, complete_of_awaited rfl, noted]
      refine ⟨idle_keeps (by simp [Sight.reportsEnd]), ?_⟩
      simp [owed, stillOpen, Sight.reportsEnd, Exchange.answeredBy]
    | false =>
      have still : undecided (past ++ [.polled (.chunk bytes) false]) = true := by
        simp [stillOpen, Sight.reportsEnd, Sight.isFailure]
      rw [if_neg Bool.false_ne_true]
      refine ⟨⟨by rw [still]; rfl, by rw [still, if_pos rfl, noted]⟩, ?_⟩
      simp [owed, Sight.reportsEnd]
  | failure error =>
    refine ⟨idle_keeps (by simp [Sight.isFailure]), ?_⟩
    simp [observe, owed, Sight.reportsEnd]
  | pending =>
    refine ⟨⟨?_, ?_⟩, ?_⟩
    · simp [observe, awaited, stillOpen, Sight.reportsEnd, Sight.isFailure]
    · simp [observe, copied, stillOpen, Sight.reportsEnd, Sight.isFailure, Sight.chunk]
    · simp [observe, owed, Sight.reportsEnd]
  | ended =>
    rw [observe, complete_of_awaited awaited, copied]
    refine ⟨idle_keeps (by simp [Sight.reportsEnd]), ?_⟩
    simp [owed, stillOpen, Sight.reportsEnd, Sight.chunk, Exchange.answeredBy]

/-- **One poll once the content has ended or failed.** Nothing is noted and nothing delivered. -/
theorem observe_decided {exchange : Exchange} {past : List Sight} {recorder : Recorder}
    (kept : recorder.Keeps exchange past) (decided : undecided past = false) (polled : Polled)
    (atEnd : Bool) :
    (recorder.observe polled atEnd).1.Keeps exchange (past ++ [.polled polled atEnd]) ∧
      (recorder.observe polled atEnd).2 = owed exchange past (.polled polled atEnd) := by
  obtain ⟨unawaited, empty⟩ := kept.of_decided decided
  have later : undecided (past ++ [.polled polled atEnd]) = false := by simp [decided]
  have nothing : owed exchange past (.polled polled atEnd) = none := by simp [owed, decided]
  rw [observe_idle recorder polled atEnd unawaited, nothing]
  refine ⟨?_, rfl⟩
  cases polled with
  | chunk bytes =>
    have same : (recorder.observe (.chunk bytes) atEnd).1 = recorder := by
      cases atEnd <;> simp [observe, complete, unawaited]
    rw [same]
    exact keeps_of_decided later unawaited empty
  | failure error => exact idle_keeps later
  | pending => exact keeps_of_decided later unawaited empty
  | ended =>
    have same : (recorder.observe .ended atEnd).1 = recorder := by
      simp [observe, complete, unawaited]
    rw [same]
    exact keeps_of_decided later unawaited empty

/-- **One poll.** The recorder goes on to keep what it should, and delivers what is owed. -/
theorem observe_keeps {exchange : Exchange} {past : List Sight} {recorder : Recorder}
    (kept : recorder.Keeps exchange past) (polled : Polled) (atEnd : Bool) :
    (recorder.observe polled atEnd).1.Keeps exchange (past ++ [.polled polled atEnd]) ∧
      (recorder.observe polled atEnd).2 = owed exchange past (.polled polled atEnd) := by
  cases decided : undecided past with
  | true => exact observe_undecided kept decided polled atEnd
  | false => exact observe_decided kept decided polled atEnd

theorem awaited_complete (recorder : Recorder) : recorder.complete.1.awaited = none := by
  unfold complete
  cases awaited : recorder.awaited with
  | none => exact awaited
  | some exchange => rfl

/-- A recorder that awaits nothing goes on to await nothing. -/
theorem awaited_observe {recorder : Recorder} (unawaited : recorder.awaited = none)
    (polled : Polled) (atEnd : Bool) : (recorder.observe polled atEnd).1.awaited = none := by
  have still : recorder.complete.1.awaited = none := recorder.awaited_complete
  cases polled with
  | chunk bytes => cases atEnd <;> simp [observe, unawaited, still]
  | failure error => rfl
  | pending => exact unawaited
  | ended => exact still

theorem Keeps.silent {exchange : Exchange} {past : List Sight} {recorder : Recorder}
    (kept : recorder.Keeps exchange past) : recorder.Keeps exchange (past ++ [.silent]) := by
  have same : undecided (past ++ [.silent]) = undecided past := by
    simp [Sight.reportsEnd, Sight.isFailure]
  refine ⟨?_, ?_⟩
  · rw [same]
    exact kept.awaited
  · rw [same, kept.copy]
    simp [Sight.chunk]

end Recorder

/-! ### The life of a captured body -/

/-- What a stage is when its moment follows others: the holder got what the body itself gives, what is
owed was delivered, and the recorder, if it is still there, keeps what it should. -/
structure Stage.Follows {β : Type} (exchange : Exchange) (past : List Sight) (now : Sight)
    (stage : Stage β) : Prop where
  polled : stage.polled = now.polled?
  delivered : stage.delivered = owed exchange past now
  kept : ∀ capture, stage.held = some capture → capture.recorder.Keeps exchange (past ++ [now])

section

variable {β : Type} [Source β] {exchange : Exchange}

/-- **One use.** It leaves the body as it would be without a recorder. -/
theorem use_follows {past : List Sight} {held : Option (Capture β)}
    (kept : ∀ capture, held = some capture → capture.recorder.Keeps exchange past) (next : Use) :
    (Capture.use held next).Follows exchange past (sight (held.map Capture.body) next).1 ∧
      (Capture.use held next).held.map Capture.body = (sight (held.map Capture.body) next).2 := by
  have silentOwed : owed exchange past .silent = none := by simp [owed, Sight.reportsEnd]
  cases held with
  | none =>
    cases next <;> exact ⟨⟨rfl, silentOwed.symm, fun _ left => nomatch left⟩, rfl⟩
  | some capture =>
    have before := kept capture rfl
    cases next with
    | poll =>
      obtain ⟨after, delivered⟩ := Recorder.observe_keeps before
        (Source.poll capture.body).1 (Source.atEnd (Source.poll capture.body).2)
      refine ⟨⟨rfl, delivered, fun left same => ?_⟩, rfl⟩
      obtain rfl := Option.some.inj same
      exact after
    | pollTrailers =>
      refine ⟨⟨rfl, silentOwed.symm, fun left same => ?_⟩, rfl⟩
      obtain rfl := Option.some.inj same
      exact before.silent
    | drop => exact ⟨⟨rfl, silentOwed.symm, fun _ left => nomatch left⟩, rfl⟩

/-- **All uses.** Each stage follows what the body on its own has told until then: with a recorder and
without one, the later uses go on from the same body. -/
theorem uses_follow {past : List Sight} {held : Option (Capture β)}
    (kept : ∀ capture, held = some capture → capture.recorder.Keeps exchange past)
    (uses : List Use) (n : Nat) (stage : Stage β) (now : Sight)
    (atStage : (Capture.uses held uses)[n]? = some stage)
    (atSight : (sights (held.map Capture.body) uses)[n]? = some now) :
    stage.Follows exchange (past ++ (sights (held.map Capture.body) uses).take n) now := by
  induction uses generalizing past held n with
  | nil => simp [Capture.uses] at atStage
  | cons next later ih =>
    obtain ⟨follows, left⟩ := use_follows kept next
    rw [Capture.uses] at atStage
    rw [sights] at atSight ⊢
    cases n with
    | zero =>
      simp only [List.getElem?_cons_zero, Option.some.injEq] at atStage atSight
      subst atStage atSight
      simpa using follows
    | succ n =>
      simp only [List.getElem?_cons_succ] at atStage atSight
      rw [← left] at atSight ⊢
      have rest := ih follows.kept n atStage atSight
      rwa [List.append_assoc, List.singleton_append, ← List.take_succ_cons] at rest

/-- The first moment is as all others: an end that is known of from the first delivers at once. -/
theorem start_follows (body : β) (exchange : Exchange) :
    (Stage.mk none (some (Capture.start body exchange).1) (Capture.start body exchange).2).Follows
      exchange [] (.opened (Source.atEnd body)) ∧
    (Capture.start body exchange).1.body = body := by
  cases ended : Source.atEnd body with
  | true =>
    have started : Capture.start body exchange =
        (⟨body, .idle⟩, some { exchange with responseBody := [] }) := by
      rw [Capture.start, ended, if_pos rfl, Recorder.complete_of_awaited rfl]
      rfl
    rw [started]
    refine ⟨⟨rfl, rfl, fun left same => ?_⟩, rfl⟩
    obtain rfl := Option.some.inj same
    exact Recorder.idle_keeps rfl
  | false =>
    have started : Capture.start body exchange = (⟨body, .awaiting exchange⟩, none) := by
      rw [Capture.start, ended, if_neg Bool.false_ne_true]
    rw [started]
    refine ⟨⟨rfl, rfl, fun left same => ?_⟩, rfl⟩
    obtain rfl := Option.some.inj same
    exact ⟨rfl, rfl⟩

/-- **A whole life.** Each stage follows what the body on its own has told until then. -/
theorem life_follows (body : β) (exchange : Exchange) (uses : List Use) (n : Nat) (stage : Stage β)
    (now : Sight) (atStage : (Capture.life body exchange uses)[n]? = some stage)
    (atSight : (history body uses)[n]? = some now) :
    stage.Follows exchange ((history body uses).take n) now := by
  obtain ⟨follows, same⟩ := start_follows body exchange
  rw [Capture.life] at atStage
  rw [history] at atSight ⊢
  cases n with
  | zero =>
    simp only [List.getElem?_cons_zero, Option.some.injEq] at atStage atSight
    subst atStage atSight
    exact follows
  | succ n =>
    have bodyLeft : some body = (some (Capture.start body exchange).1).map Capture.body := by
      rw [Option.map_some, same]
    simp only [List.getElem?_cons_succ] at atStage atSight
    rw [bodyLeft] at atSight ⊢
    exact uses_follow follows.kept uses n stage now atStage atSight

/-! ### What follows for whole lives -/

/-- What is owed uses up what can still be owed. -/
theorem owed_length_le (exchange : Exchange) (past : List Sight) (now : Sight) :
    (owed exchange past now).toList.length + (if undecided (past ++ [now]) then 1 else 0) ≤
      if undecided past then 1 else 0 := by
  rw [undecided_append, undecided_singleton, owed]
  cases undecided past <;> cases now.reportsEnd <;> cases now.isFailure <;> simp

omit [Source β] in
/-- One more stage in front uses up what can be owed before it. -/
theorem delivered_cons_le {past : List Sight} {now : Sight} {stage : Stage β}
    (follows : stage.Follows exchange past now) {later : List (Stage β)}
    (rest : (later.filterMap Stage.delivered).length ≤
      if undecided (past ++ [now]) then 1 else 0) :
    ((stage :: later).filterMap Stage.delivered).length ≤ if undecided past then 1 else 0 := by
  have bound := owed_length_le exchange past now
  rw [← follows.delivered] at bound
  rw [List.filterMap_cons]
  cases here : stage.delivered with
  | none =>
    simp only [here, Option.toList_none, List.length_nil, Nat.zero_add] at bound
    exact Nat.le_trans rest bound
  | some delivered =>
    simp only [here, Option.toList_some, List.length_singleton] at bound
    rw [List.length_cons]
    omega

/-- Uses deliver at most once, and not at all once the content has ended or failed. -/
theorem uses_delivered_le {past : List Sight} {held : Option (Capture β)}
    (kept : ∀ capture, held = some capture → capture.recorder.Keeps exchange past)
    (uses : List Use) :
    ((Capture.uses held uses).filterMap Stage.delivered).length ≤
      if undecided past then 1 else 0 := by
  induction uses generalizing past held with
  | nil => simp [Capture.uses]
  | cons next later ih =>
    obtain ⟨follows, _⟩ := use_follows kept next
    rw [Capture.uses]
    exact delivered_cons_le follows (ih follows.kept)

theorem life_delivered_le (body : β) (exchange : Exchange) (uses : List Use) :
    ((Capture.life body exchange uses).filterMap Stage.delivered).length ≤ 1 := by
  obtain ⟨follows, _⟩ := start_follows body exchange
  exact delivered_cons_le follows (uses_delivered_le follows.kept uses)

/-- The holder sees what the body itself gives. -/
theorem life_polled (body : β) (exchange : Exchange) (uses : List Use) :
    (Capture.life body exchange uses).map Stage.polled =
      (history body uses).map Sight.polled? := by
  have general : ∀ held : Option (Capture β), (Capture.uses held uses).map Stage.polled =
      (sights (held.map Capture.body) uses).map Sight.polled? := by
    induction uses with
    | nil => intro held; rfl
    | cons next later ih =>
      intro held
      have here : (Capture.use held next).polled =
            (sight (held.map Capture.body) next).1.polled? ∧
          (Capture.use held next).held.map Capture.body =
            (sight (held.map Capture.body) next).2 := by
        cases held <;> cases next <;> exact ⟨rfl, rfl⟩
      rw [Capture.uses, sights, List.map_cons, List.map_cons, ih, here.1, here.2]
  rw [Capture.life, history, List.map_cons, List.map_cons, general, Option.map_some,
    (start_follows body exchange).2]
  rfl

theorem sights_none (uses : List Use) : ∀ now ∈ sights (none : Option β) uses, now = .silent := by
  induction uses with
  | nil => simp [sights]
  | cons next later ih =>
    have here : sight (none : Option β) next = (.silent, none) := by cases next <;> rfl
    rw [sights, here]
    simpa using ih

theorem sights_after_drop (body : Option β) (uses : List Use) (m n : Nat) (now : Sight)
    (dropped : uses[m]? = some .drop) (later : m ≤ n)
    (atSight : (sights body uses)[n]? = some now) : now = .silent := by
  induction uses generalizing body m n with
  | nil => simp [sights] at atSight
  | cons next rest ih =>
    rw [sights] at atSight
    cases m with
    | zero =>
      have isDrop : next = .drop := by simpa using dropped
      have here : sight body next = (.silent, none) := by
        subst isDrop
        cases body <;> rfl
      rw [here] at atSight
      have all : ∀ now ∈ .silent :: sights (none : Option β) rest, now = .silent := by
        simpa using sights_none rest
      exact all now (List.mem_of_getElem? atSight)
    | succ m =>
      obtain ⟨n, rfl⟩ : ∃ k, n = k + 1 := ⟨n - 1, by omega⟩
      exact ih _ m n (by simpa using dropped) (by omega) (by simpa using atSight)

/-- **When a captured exchange is delivered.** The holder gets what the body itself gives. The
exchange is delivered at most once: at the first moment that tells of the end of the content, if no
poll failed before, with all chunks so far as its response. Until the content ends or fails the copy
is all chunks so far, and it is empty from then on. After a failure or a drop nothing is delivered,
whatever the body would still have told. -/
theorem delivered_iff_first_end (body : β) (exchange : Exchange) (uses : List Use) :
    (Capture.life body exchange uses).map Stage.polled =
        (history body uses).map Sight.polled? ∧
      ((Capture.life body exchange uses).filterMap Stage.delivered).length ≤ 1 ∧
      ∀ n stage now, (Capture.life body exchange uses)[n]? = some stage →
        (history body uses)[n]? = some now →
        (∀ delivered, stage.delivered = some delivered ↔
          (∀ earlier ∈ (history body uses).take n,
            earlier.reportsEnd = false ∧ earlier.isFailure = false) ∧
          now.reportsEnd = true ∧
          delivered = { exchange with
            responseBody := content ((history body uses).take (n + 1)) }) ∧
        (∀ capture, stage.held = some capture → capture.recorder.copy =
          if undecided ((history body uses).take (n + 1)) then
            content ((history body uses).take (n + 1))
          else []) ∧
        (∀ m earlier, m ≤ n → (history body uses)[m]? = some earlier →
          earlier.isFailure = true → stage.delivered = none) ∧
        ∀ m, m < n → uses[m]? = some .drop → stage.delivered = none := by
  refine ⟨life_polled body exchange uses, life_delivered_le body exchange uses, ?_⟩
  intro n stage now atStage atSight
  have follows := life_follows body exchange uses n stage now atStage atSight
  have upToNow : (history body uses).take n ++ [now] = (history body uses).take (n + 1) := by
    rw [List.take_add_one, atSight, Option.toList_some]
  refine ⟨fun delivered => ?_, fun capture held => ?_, fun m earlier before atM failed => ?_,
    fun m before dropped => ?_⟩
  · rw [follows.delivered, owed_eq_some_iff, upToNow, undecided]
    simp [Exchange.answeredBy]
  · rw [(follows.kept capture held).copy, upToNow]
  · have member : earlier ∈ (history body uses).take n ++ [now] := by
      rw [upToNow]
      refine List.mem_of_getElem? (i := m) ?_
      rw [List.getElem?_take_of_lt (by omega), atM]
    rw [follows.delivered, owed_of_failure member failed]
  · obtain ⟨k, rfl⟩ : ∃ k, n = k + 1 := ⟨n - 1, by omega⟩
    rw [history, List.getElem?_cons_succ] at atSight
    have silent := sights_after_drop (some body) uses m k now dropped (by omega) atSight
    rw [follows.delivered, silent]
    simp [owed, Sight.reportsEnd]

end

/-- A body that stalls between two chunks is told of when it ends, and not again. -/
theorem delivered_behind_two_chunks :
    let exchange : Exchange := ⟨.listQuery, ⟨"/api", "/api", "POST", "10.0.0.1", "ann"⟩, 200, [], [], 0⟩
    let uses : List Use := [.poll, .pollTrailers, .poll, .poll, .poll, .poll]
    let life := Capture.life (Body.stream [.chunk [1], .pending, .chunk [2]] []) exchange uses
    (∃ stage, life[5]? = some stage ∧
        stage.delivered = some { exchange with responseBody := [1, 2] }) ∧
      (life.filterMap Stage.delivered).length ≤ 1 := by
  intro exchange uses life
  have general := delivered_iff_first_end
    (Body.stream [.chunk [1], .pending, .chunk [2]] []) exchange uses
  have fifth := general.2.2 5 _ _ rfl rfl
  exact ⟨⟨_, rfl, (fifth.1 _).mpr ⟨by decide, rfl, rfl⟩⟩, general.2.1⟩

end MediaTrail
