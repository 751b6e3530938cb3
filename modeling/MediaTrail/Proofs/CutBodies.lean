/-
**Bodies that are cut short or go on.** A body is looked at only as a whole. If it is an answer, no
beginning of it is one, unless nothing but blanks was cut off, and nothing that goes on behind it is
one, unless it goes on with nothing but blanks. So a response that was captured in part, or with
something behind it, names no media file.

* `decode?_append`: what a body is read as with more bytes behind it;
* `Listing.read_steady`, `Description.read_steady`: answers are over with their last byte;
* `hits_of_cut_body`: no hits in a part of an answer, and none in an answer with more behind it.
-/

import MediaTrail.Inspection
import MediaTrail.Proofs.JsonEnds

namespace MediaTrail

open Json (Member Reader Steady IsBlanks)
open Text (Bytes)

/-- **More bytes behind a body** change nothing if they are blanks; with any others it is no such value
any more. -/
theorem decode?_append {α : Type} {read : Reader α} (steady : Steady false read) {body : Bytes}
    {value : α} (decoded : decode? read body = some value) (more : Bytes) :
    decode? read (body ++ more) = if IsBlanks more then some value else none := by
  have reads : Json.whole read body = .ok value := by
    unfold decode? at decoded
    split at decoded
    · rename_i given same
      rw [same, Option.some.inj decoded]
    · cases decoded
  rw [decode?, Json.whole_append steady reads]
  by_cases isBlanks : IsBlanks more
  · rw [if_pos isBlanks, if_pos isBlanks]
  · rw [if_neg isBlanks, if_neg isBlanks]

/-- So is nothing that is a part of a body, unless blanks alone were cut off. -/
theorem decode?_of_cut {α : Type} {read : Reader α} (steady : Steady false read) {body more : Bytes}
    (whole : (decode? read (body ++ more)).isSome = true) (cut : ¬ IsBlanks more) :
    decode? read body = none := by
  cases decoded : decode? read body with
  | none => rfl
  | some value =>
    rw [decode?_append steady decoded, if_neg cut] at whole
    cases whole

/-! ### Answers -/

theorem Entry.read_steady : Steady false Entry.read := by
  refine Json.record_steady (fun member inMembers => ?_) _
  simp only [Entry.members, List.mem_cons, List.not_mem_nil, or_false] at inMembers
  rcases inMembers with rfl | rfl | rfl
  · exact Json.ofReader_steady (Json.orNull_steady (Json.text_steady.weaken true) "") _ _ _
  · exact Json.ofReader_steady (Json.orNull_steady (Json.text_steady.weaken true) "") _ _ _
  · exact Json.ofReader_steady (Json.orNull_steady (Json.boolean_steady.weaken true) false) _ _ _

theorem readCode_steady : Steady true readCode :=
  Json.integer_steady _ _

theorem Listing.read_steady : Steady false Listing.read := by
  refine Json.record_steady (fun member inMembers => ?_) _
  simp only [Listing.members, List.mem_cons, List.not_mem_nil, or_false] at inMembers
  have entries := Json.items_steady (Entry.read_steady.weaken true)
  rcases inMembers with rfl | rfl
  · exact Json.ofReader_steady readCode_steady _ _ _
  · exact Json.ofReader_steady (Json.orNull_steady (entries.weaken true) []) _ _ _

theorem Description.read_steady : Steady false Description.read := by
  refine Json.record_steady (fun member inMembers => ?_) _
  simp only [Description.members, List.mem_cons, List.not_mem_nil, or_false] at inMembers
  rcases inMembers with rfl | rfl
  · exact Json.ofReader_steady readCode_steady _ _ _
  · exact Json.ofReader_steady (Json.orNull_steady (Entry.read_steady.weaken true) {}) _ _ _

/-! ### Hits -/

theorem Inspector.listHits_of_undecoded (inspector : Inspector) {response : Bytes}
    (undecoded : decode? Listing.read response = none) : inspector.listHits response = [] := by
  rw [listHits, undecoded]

theorem Inspector.getHits_of_undecoded (inspector : Inspector) {response : Bytes}
    (undecoded : decode? Description.read response = none) : inspector.getHits response = [] := by
  rw [getHits, undecoded]

/-- **Hits come from whole answers only.** A body that is an answer is one with more bytes behind it
exactly if they are spaces, tabs and line ends, and then it is the same answer. So there are no hits
in an answer with anything else behind it, and none in a beginning of an answer from which more than
blanks were cut off. -/
theorem hits_of_cut_body (inspector : Inspector) (body more : Bytes) :
    (∀ listing, decode? Listing.read body = some listing →
      (∀ other, decode? Listing.read (body ++ more) = some other ↔
        IsBlanks more ∧ other = listing) ∧
      (¬ IsBlanks more → inspector.listHits (body ++ more) = [])) ∧
    (∀ answer, decode? Description.read body = some answer →
      (∀ other, decode? Description.read (body ++ more) = some other ↔
        IsBlanks more ∧ other = answer) ∧
      (¬ IsBlanks more → inspector.getHits (body ++ more) = [])) ∧
    ((decode? Listing.read (body ++ more)).isSome = true → ¬ IsBlanks more →
      inspector.listHits body = []) ∧
    ((decode? Description.read (body ++ more)).isSome = true → ¬ IsBlanks more →
      inspector.getHits body = []) := by
  refine ⟨fun listing decoded => ?_, fun answer decoded => ?_, fun whole cut => ?_,
    fun whole cut => ?_⟩
  · have longer := decode?_append Listing.read_steady decoded more
    refine ⟨fun other => ?_, fun goesOn => ?_⟩
    · rw [longer, Option.ite_none_right_eq_some, Option.some.injEq, eq_comm]
    · rw [if_neg goesOn] at longer
      exact inspector.listHits_of_undecoded longer
  · have longer := decode?_append Description.read_steady decoded more
    refine ⟨fun other => ?_, fun goesOn => ?_⟩
    · rw [longer, Option.ite_none_right_eq_some, Option.some.injEq, eq_comm]
    · rw [if_neg goesOn] at longer
      exact inspector.getHits_of_undecoded longer
  · exact inspector.listHits_of_undecoded (decode?_of_cut Listing.read_steady whole cut)
  · exact inspector.getHits_of_undecoded (decode?_of_cut Description.read_steady whole cut)

/-- An answer loses its only hit with its last brace, and again with a brace too many. -/
theorem hits_of_cut_sample :
    let inspector : Inspector := ⟨.ofList ["mp4"], .name⟩
    let entry := Json.ascii "\x7b\"skipped\":[1e5,null],\"name\":\"a.mp4\"\x7d"
    let listing := Json.ascii "[200,[" ++ entry ++ Json.ascii "]"
    let answer := Json.ascii "\x7b\"data\":" ++ entry ++ Json.ascii ",\"code\":200"
    let bracket := Json.ascii "]"
    let brace := Json.ascii "\x7d"
    (inspector.listHits (listing ++ bracket)).length = 1 ∧
      (inspector.getHits (answer ++ brace)).length = 1 ∧
      inspector.listHits listing = [] ∧ inspector.getHits answer = [] ∧
      inspector.listHits (listing ++ bracket ++ bracket) = [] ∧
      inspector.getHits (answer ++ brace ++ brace) = [] := by
  intro inspector entry listing answer bracket brace
  have noBlanks : ¬ IsBlanks bracket ∧ ¬ IsBlanks brace := by decide
  have listed : decode? Listing.read (listing ++ bracket) =
      some ⟨200, [⟨"a.mp4", "", false⟩]⟩ := by decide +kernel
  have described : decode? Description.read (answer ++ brace) =
      some ⟨200, ⟨"a.mp4", "", false⟩⟩ := by decide +kernel
  have cutListing := (hits_of_cut_body inspector listing bracket).2.2.1
    (by rw [listed]; rfl) noBlanks.1
  have cutAnswer := (hits_of_cut_body inspector answer brace).2.2.2
    (by rw [described]; rfl) noBlanks.2
  have longListing := ((hits_of_cut_body inspector (listing ++ bracket) bracket).1 _ listed).2
    noBlanks.1
  have longAnswer := ((hits_of_cut_body inspector (answer ++ brace) brace).2.1 _ described).2
    noBlanks.2
  exact ⟨by decide +kernel, by decide +kernel, cutListing, cutAnswer, longListing, longAnswer⟩

end MediaTrail
