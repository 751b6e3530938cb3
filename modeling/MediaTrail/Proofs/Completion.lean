/-
**What completion tells.** A recorder counts as completed once it awaits nothing any more. So it does
when its exchange was delivered, but also when the body failed and the exchange was given up.

Whatever a body tells, its content is settled by one first moment, which tells of its end or of a
failure (`SettledBy`) and never of both. An end delivers, a failure gives up.

* `undecided_eq_false_iff`, `not_settledBy_isFailure`: content is settled in one of two ways;
* `delivered_iff_settledBy`: the exchange is delivered once an end has settled the content;
* `isCompleted_iff`: when a recorder is completed, and when that tells the truth about the delivery.
-/

import Mathlib.Data.List.Induction
import MediaTrail.Proofs.Delivery

namespace MediaTrail

/-! ### How content is settled -/

/-- The first of these moments to tell of an end or of a failure is of this kind. -/
def SettledBy (kind : Sight → Bool) (past : List Sight) : Prop :=
  ∃ before now, before ++ [now] <+: past ∧ undecided before = true ∧ kind now = true

theorem SettledBy.mono {kind : Sight → Bool} {past longer : List Sight}
    (settled : SettledBy kind past) (goesOn : past <+: longer) : SettledBy kind longer := by
  obtain ⟨before, now, isPrefix, stillOpen, isKind⟩ := settled
  exact ⟨before, now, isPrefix.trans goesOn, stillOpen, isKind⟩

theorem undecided_of_prefix {past longer : List Sight} (goesOn : past <+: longer)
    (stillOpen : undecided longer = true) : undecided past = true := by
  obtain ⟨later, rfl⟩ := goesOn
  rw [undecided_append, Bool.and_eq_true] at stillOpen
  exact stillOpen.1

/-- Content that is not open any more was settled by an end or by a failure. -/
theorem undecided_eq_false_iff {past : List Sight} : undecided past = false ↔
    SettledBy Sight.reportsEnd past ∨ SettledBy Sight.isFailure past := by
  constructor
  · intro decided
    induction past using List.reverseRecOn with
    | nil => cases decided
    | append_singleton before now ih =>
      cases stillOpen : undecided before with
      | false =>
        have goesOn := List.prefix_append before [now]
        exact (ih stillOpen).imp (fun settled => settled.mono goesOn) fun settled => settled.mono goesOn
      | true =>
        rw [undecided_append, undecided_singleton, stillOpen, Bool.true_and] at decided
        cases ends : now.reportsEnd with
        | true => exact Or.inl ⟨before, now, List.prefix_refl _, stillOpen, ends⟩
        | false =>
          rw [ends, Bool.not_false, Bool.true_and, Bool.not_eq_false'] at decided
          exact Or.inr ⟨before, now, List.prefix_refl _, stillOpen, decided⟩
  · rintro (⟨before, now, isPrefix, -, isKind⟩ | ⟨before, now, isPrefix, -, isKind⟩)
    all_goals
      rw [Bool.eq_false_iff]
      intro stillOpen
      have here := undecided_of_prefix isPrefix stillOpen
      simp [isKind] at here

/-- No moment that was still open stands behind one that settles the content. -/
theorem length_le_of_settles {past before other : List Sight} {now next : Sight}
    (isPrefix : before ++ [now] <+: past) (settles : undecided [now] = false)
    (isOther : other ++ [next] <+: past) (stillOpen : undecided other = true) :
    other.length ≤ before.length := by
  apply Nat.le_of_not_lt
  intro longer
  have inside : before ++ [now] <+: other := by
    apply List.prefix_of_prefix_length_le isPrefix ((List.prefix_append other [next]).trans isOther)
    rw [List.length_append, List.length_singleton]
    exact longer
  have here := undecided_of_prefix inside stillOpen
  rw [undecided_append, settles, Bool.and_false] at here
  cases here

/-- What settles the content is its first moment of either kind, so it is not both. -/
theorem not_settledBy_isFailure {past : List Sight} (ended : SettledBy Sight.reportsEnd past) :
    ¬ SettledBy Sight.isFailure past := by
  rintro ⟨before, failure, toFailure, openBefore, failed⟩
  obtain ⟨first, now, toEnd, openFirst, ends⟩ := ended
  have same : first.length = before.length := Nat.le_antisymm
    (length_le_of_settles toFailure (by simp [failed]) toEnd openFirst)
    (length_le_of_settles toEnd (by simp [ends]) toFailure openBefore)
  have equal : first ++ [now] = before ++ [failure] :=
    (List.prefix_of_prefix_length_le toEnd toFailure (by simp [same])).eq_of_length (by simp [same])
  obtain rfl := List.singleton_inj.mp (List.append_inj_right equal same)
  rw [Sight.reportsEnd_of_isFailure failed] at ends
  cases ends

/-! ### Deliveries -/

section

variable {β : Type}

theorem Stage.Follows.isSome_delivered_iff {exchange : Exchange} {past : List Sight} {now : Sight}
    {stage : Stage β} (follows : stage.Follows exchange past now) :
    stage.delivered.isSome = true ↔ undecided past = true ∧ now.reportsEnd = true := by
  rw [follows.delivered, Option.isSome_iff_exists]
  simp [owed_eq_some_iff]

variable [Source β]

theorem length_life (body : β) (exchange : Exchange) (uses : List Use) :
    (Capture.life body exchange uses).length = (history body uses).length := by
  have polls := congrArg List.length (life_polled body exchange uses)
  rwa [List.length_map, List.length_map] at polls

/-- Each stage of a life follows a moment of the body's. -/
theorem exists_sight_of_stage (body : β) (exchange : Exchange) (uses : List Use) {n : Nat}
    {stage : Stage β} (atStage : (Capture.life body exchange uses)[n]? = some stage) :
    ∃ now, (history body uses)[n]? = some now ∧
      stage.Follows exchange ((history body uses).take n) now := by
  have inLife := (List.getElem?_eq_some_iff.mp atStage).1
  rw [length_life] at inLife
  have atSight := List.getElem?_eq_getElem inLife
  exact ⟨_, atSight, life_follows body exchange uses n stage _ atStage atSight⟩

/-- **The exchange is delivered by a moment** if an end has settled the content by then. -/
theorem delivered_iff_settledBy (body : β) (exchange : Exchange) (uses : List Use) (n : Nat) :
    (∃ stage ∈ (Capture.life body exchange uses).take n, stage.delivered.isSome = true) ↔
      SettledBy Sight.reportsEnd ((history body uses).take n) := by
  constructor
  · rintro ⟨stage, member, delivers⟩
    obtain ⟨m, atTaken⟩ := List.getElem?_of_mem member
    rw [List.getElem?_take, Option.ite_none_right_eq_some] at atTaken
    obtain ⟨before, atStage⟩ := atTaken
    obtain ⟨now, atSight, follows⟩ := exists_sight_of_stage body exchange uses atStage
    obtain ⟨stillOpen, ends⟩ := follows.isSome_delivered_iff.mp delivers
    refine ⟨(history body uses).take m, now, ?_, stillOpen, ends⟩
    rw [← Option.toList_some, ← atSight, ← List.take_add_one]
    exact List.take_prefix_take_left before
  · rintro ⟨before, now, ⟨later, parts⟩, stillOpen, ends⟩
    have atTaken : ((history body uses).take n)[before.length]? = some now := by
      rw [← parts]
      simp
    rw [List.getElem?_take, Option.ite_none_right_eq_some] at atTaken
    obtain ⟨inTime, atSight⟩ := atTaken
    have past : (history body uses).take before.length = before := by
      have taken := congrArg (List.take before.length) parts
      rw [List.take_take, Nat.min_eq_left (Nat.le_of_lt inTime)] at taken
      rw [← taken]
      simp
    have inHistory := (List.getElem?_eq_some_iff.mp atSight).1
    rw [← length_life body exchange] at inHistory
    have atStage := List.getElem?_eq_getElem inHistory
    have follows := life_follows body exchange uses before.length _ now atStage atSight
    rw [past] at follows
    refine ⟨_, List.mem_of_getElem? (i := before.length) ?_,
      follows.isSome_delivered_iff.mpr ⟨stillOpen, ends⟩⟩
    rw [List.getElem?_take_of_lt inTime, atStage]

/-- **When a recorder is completed.** At any moment of its life a recorder is completed if its exchange
was delivered by then or a failure has settled the content. So completion tells whether the exchange
was delivered, unless a failure came first; then the recorder is completed and nothing is delivered,
neither before nor later. -/
theorem isCompleted_iff (body : β) (exchange : Exchange) (uses : List Use) (n : Nat) (stage : Stage β)
    (capture : Capture β) (atStage : (Capture.life body exchange uses)[n]? = some stage)
    (held : stage.held = some capture) :
    (capture.recorder.isCompleted = true ↔
      (∃ earlier ∈ (Capture.life body exchange uses).take (n + 1),
        earlier.delivered.isSome = true) ∨
      SettledBy Sight.isFailure ((history body uses).take (n + 1))) ∧
    ((capture.recorder.isCompleted = true ↔
        ∃ earlier ∈ (Capture.life body exchange uses).take (n + 1),
          earlier.delivered.isSome = true) ↔
      ¬ SettledBy Sight.isFailure ((history body uses).take (n + 1))) ∧
    (SettledBy Sight.isFailure ((history body uses).take (n + 1)) →
      ∀ any ∈ Capture.life body exchange uses, any.delivered = none) := by
  obtain ⟨now, atSight, follows⟩ := exists_sight_of_stage body exchange uses atStage
  have upToNow : (history body uses).take n ++ [now] = (history body uses).take (n + 1) := by
    rw [List.take_add_one, atSight, Option.toList_some]
  have completed : capture.recorder.isCompleted = true ↔
      SettledBy Sight.reportsEnd ((history body uses).take (n + 1)) ∨
        SettledBy Sight.isFailure ((history body uses).take (n + 1)) := by
    rw [← undecided_eq_false_iff, Recorder.isCompleted, (follows.kept capture held).awaited, upToNow]
    cases undecided ((history body uses).take (n + 1)) <;> simp
  have exclusive {past : List Sight} := @not_settledBy_isFailure past
  rw [completed, delivered_iff_settledBy]
  refine ⟨Iff.rfl, ⟨fun same failed => ?_, fun unfailed => ?_⟩, fun failed any member => ?_⟩
  · exact exclusive (same.mp (Or.inr failed)) failed
  · exact ⟨fun settled => settled.resolve_right unfailed, Or.inl⟩
  · apply Option.not_isSome_iff_eq_none.mp
    intro delivers
    have whole := (delivered_iff_settledBy body exchange uses
      (Capture.life body exchange uses).length).mp ⟨any, by rwa [List.take_length], delivers⟩
    rw [length_life, List.take_length] at whole
    exact exclusive whole (failed.mono (List.take_prefix _ _))

end

/-- A body that fails behind its first chunk, and goes on. -/
theorem isCompleted_behind_failure :
    let exchange : Exchange := ⟨.listQuery, ⟨"/api", "/api", "POST", "10.0.0.1", "ann"⟩, 200, [], [], 0⟩
    let body : Body := .stream [.chunk [1], .failure .aborted, .chunk [2]] []
    let life := Capture.life body exchange [.poll, .poll, .poll, .poll]
    (∃ stage capture, life[2]? = some stage ∧ stage.held = some capture ∧
      capture.recorder.isCompleted = true) ∧ ∀ stage ∈ life, stage.delivered = none := by
  intro exchange body life
  have failed : SettledBy Sight.isFailure ((history body [.poll, .poll, .poll, .poll]).take 3) :=
    ⟨[.opened false, .polled (.chunk [1]) false], .polled (.failure .aborted) false,
      List.prefix_refl _, rfl, rfl⟩
  have general := isCompleted_iff body exchange [.poll, .poll, .poll, .poll] 2 _ _ rfl rfl
  exact ⟨⟨_, _, rfl, rfl, general.1.mpr (Or.inr failed)⟩, general.2.2 failed⟩

/-- Completion does not tell of every state whether the exchange was delivered. -/
theorem completed_undelivered :
    ¬ ∀ (body : Body) (exchange : Exchange) (uses : List Use) (n : Nat) (stage : Stage Body)
      (capture : Capture Body), (Capture.life body exchange uses)[n]? = some stage →
        stage.held = some capture →
        (capture.recorder.isCompleted = true ↔
          ∃ earlier ∈ (Capture.life body exchange uses).take (n + 1),
            earlier.delivered.isSome = true) := by
  intro claimed
  have here := claimed (.stream [.chunk [97], .failure (.stream "reset")] [])
    ⟨.listQuery, ⟨"/api/fs/list", "/api/fs/list", "POST", "10.1.2.3", "alice"⟩, 200, [], [], 0⟩
    [.poll, .poll] 2 _ _ rfl rfl
  obtain ⟨earlier, member, delivers⟩ := here.mp rfl
  revert earlier
  decide

end MediaTrail
