/-
**Filters in front of writers that break.** A writer may take any part of what it is offered, take
nothing, or give up at any byte. Whatever it does, the bytes that it has got are accounted for by what
the host was told: a buffer that counts as written is there whole, or was left out whole, and of one
that failed only a beginning is there.

* `Writer.GivesUp`, `Writer.StopsInside`: where a writer gives up, and on which bytes;
* `writeRounds_stops`: the fault of a writing is the one that the writer gave up with;
* `Accounted`: what a writer has got by a call, as the host was told;
* `serve_accounted`: one call of any kind;
* `output_accounted`: calls of any number, in any order.
-/

import Mathlib.Data.List.Forall2
import MediaTrail.LineFilter

namespace MediaTrail

open Text (Bytes)
open Text.Utf8

/-! ### Writers that give up -/

namespace Writer

/-- A writer gives up on the bytes that it is offered: it refuses them, or it takes none of them. -/
def GivesUp (writer : Writer) (offered : Bytes) (fault : IoFault) : Prop :=
  writer.reply writer.written writer.offers offered = .refuses fault ∨
    writer.reply writer.written writer.offers offered = .takes 0 ∧ fault = .writeZero

/-- A writer was given some bytes, took those in front and gave up on the rest. -/
inductive StopsInside (writer : Writer) (bytes : Bytes) (fault : IoFault) : Writer → Prop
  | of {earlier : Writer} {taken lost : Bytes} (parts : bytes = taken ++ lost) (someLost : lost ≠ [])
      (own : earlier.reply = writer.reply) (output : earlier.output = writer.output ++ taken)
      (givesUp : earlier.GivesUp lost fault) : StopsInside writer bytes fault (earlier.after lost 0)

/-- A writer that gives up at once. -/
theorem StopsInside.at_once {writer : Writer} {bytes : Bytes} {fault : IoFault} (nonempty : bytes ≠ [])
    (givesUp : writer.GivesUp bytes fault) :
    writer.StopsInside bytes fault (writer.after bytes 0) :=
  .of (List.nil_append bytes).symm nonempty rfl (List.append_nil _).symm givesUp

/-- A writer that gives up behind bytes that it took. -/
theorem StopsInside.behind {writer later : Writer} {byte : UInt8} {rest : Bytes} {fault : IoFault}
    (count : Nat)
    (stops : (writer.after (byte :: rest) (count + 1)).StopsInside (rest.drop count) fault later) :
    writer.StopsInside (byte :: rest) fault later := by
  cases stops with
  | @of earlier taken lost parts someLost own output givesUp =>
    have whole : byte :: rest = ((byte :: rest).take (count + 1) ++ taken) ++ lost := by
      rw [List.append_assoc, ← parts, List.take_succ_cons, List.cons_append, List.take_append_drop]
    refine .of whole someLost own ?_ givesUp
    rw [output, output_after, List.append_assoc]

/-- The fault of a writing is the one that the writer gave up with. -/
theorem writeRounds_stops {rounds : Nat} {writer : Writer} {bytes : Bytes} {fault : IoFault}
    (enough : bytes.length ≤ rounds) (failed : (writer.writeRounds rounds bytes).2 = .failed fault) :
    writer.StopsInside bytes fault (writer.writeRounds rounds bytes).1 := by
  induction rounds generalizing writer bytes with
  | zero =>
    obtain rfl : bytes = [] := List.length_eq_zero_iff.mp (Nat.le_zero.mp enough)
    cases failed
  | succ rounds ih =>
    cases bytes with
    | nil => cases failed
    | cons byte rest =>
      unfold writeRounds at failed ⊢
      split at failed
      · rename_i takesNone
        obtain rfl := Written.failed.inj failed
        exact .at_once (List.cons_ne_nil _ _) (.inr ⟨takesNone, rfl⟩)
      · rename_i count takes
        refine .behind count (ih ?_ failed)
        rw [List.length_cons] at enough
        rw [List.length_drop]
        omega
      · rename_i refuses
        obtain rfl := Written.failed.inj failed
        exact .at_once (List.cons_ne_nil _ _) (.inl refuses)
      · cases failed

end Writer

namespace LineFilter

/-! ### What was told and what is there -/

/-- What a writer has got by a call, as the host was told of it. -/
inductive Accounted (classifier : Classifier) : Call × Answer → Bytes → Prop
  /-- A buffer that is left out counts as written. -/
  | leftOut {buffer : Bytes} (rejected : classifier.forwards (lossy buffer) = false) :
      Accounted classifier (.write buffer, .wrote buffer.length) []
  | passedOn {buffer : Bytes} (forwarded : classifier.forwards (lossy buffer) = true) :
      Accounted classifier (.write buffer, .wrote buffer.length) buffer
  /-- Of a buffer that failed only a beginning is there. -/
  | cut {buffer piece : Bytes} {answer : Answer}
      (forwarded : classifier.forwards (lossy buffer) = true)
      (stopped : (∃ fault, answer = .failed fault) ∨ answer = .crashed) (start : piece <+: buffer)
      (strict : piece ≠ buffer) : Accounted classifier (.write buffer, answer) piece
  | flush {answer : Answer} (ended : answer = .flushed ∨ ∃ fault, answer = .failed fault) :
      Accounted classifier (.flush, answer) []

theorem serve_write (filter : LineFilter) (buffer : Bytes) :
    filter.serve (.write buffer) =
      ((filter.write buffer).1, match (filter.write buffer).2 with
        | .done => .wrote buffer.length
        | .failed fault => .failed fault
        | .crashed => .crashed) := by
  simp only [serve]
  split <;> rename_i wrote <;> rw [wrote]

/-- A buffer that is left out counts as written, and nothing happens. -/
theorem serve_rejected (filter : LineFilter) {buffer : Bytes}
    (rejected : filter.classifier.forwards (lossy buffer) = false) :
    filter.serve (.write buffer) = (filter, .wrote buffer.length) := by
  rw [serve_write, write_dropped filter buffer rejected]

/-- A buffer that is passed on is offered to the writer. -/
theorem write_forwarded (filter : LineFilter) {buffer : Bytes}
    (forwarded : filter.classifier.forwards (lossy buffer) = true) :
    filter.write buffer =
      (⟨filter.classifier, (filter.writer.writeAll buffer).1⟩, (filter.writer.writeAll buffer).2) := by
  have passed : filter.forwards buffer = true := forwarded
  rw [write, if_pos passed]

theorem serve_flush (filter : LineFilter) :
    (∃ writer, filter.serve .flush = (⟨filter.classifier, writer⟩, .flushed) ∧
        writer.output = filter.writer.output) ∨
      ∃ writer fault, filter.serve .flush = (⟨filter.classifier, writer⟩, .failed fault) ∧
        writer.output = filter.writer.output ∧
        filter.writer.flushFault filter.writer.written filter.writer.calls = some fault := by
  cases faulty : filter.writer.flushFault filter.writer.written filter.writer.calls with
  | none =>
    refine .inl ⟨{ filter.writer with flushes := filter.writer.flushes + 1 }, ?_, rfl⟩
    simp only [serve, flush, Writer.flush, faulty]
  | some fault =>
    refine .inr ⟨{ filter.writer with failedFlushes := filter.writer.failedFlushes + 1 }, fault,
      ?_, rfl, rfl⟩
    simp only [serve, flush, Writer.flush, faulty]

/-- **One call is accounted for.** The writer's bytes grow by what the host was told. -/
theorem serve_accounted (filter : LineFilter) (call : Call) :
    (filter.serve call).1.classifier = filter.classifier ∧
      ∃ piece, (filter.serve call).1.writer.output = filter.writer.output ++ piece ∧
        Accounted filter.classifier (call, (filter.serve call).2) piece := by
  cases call with
  | flush =>
    obtain ⟨writer, served, output⟩ | ⟨writer, fault, served, output, -⟩ := filter.serve_flush
    · rw [served]
      exact ⟨rfl, [], by rw [output, List.append_nil], .flush (.inl rfl)⟩
    · rw [served]
      exact ⟨rfl, [], by rw [output, List.append_nil], .flush (.inr ⟨fault, rfl⟩)⟩
  | write buffer =>
    cases verdict : filter.classifier.forwards (lossy buffer) with
    | false =>
      rw [serve_rejected filter verdict]
      exact ⟨rfl, [], (List.append_nil _).symm, .leftOut verdict⟩
    | true =>
      obtain ⟨count, fits, output, done⟩ := filter.writer.writeAll_output buffer
      have strict : (filter.writer.writeAll buffer).2 ≠ .done → buffer.take count ≠ buffer := by
        intro notDone whole
        have sameLength := congrArg List.length whole
        rw [List.length_take] at sameLength
        exact notDone (done.mpr (by omega))
      rw [serve_write, write_forwarded filter verdict]
      refine ⟨rfl, buffer.take count, output, ?_⟩
      cases ended : (filter.writer.writeAll buffer).2 with
      | done =>
        rw [List.take_of_length_le (Nat.le_of_eq (done.mp ended).symm)]
        exact .passedOn verdict
      | failed fault =>
        refine .cut verdict (.inl ⟨fault, rfl⟩) (List.take_prefix _ _) (strict ?_)
        rw [ended]
        exact Written.noConfusion
      | crashed =>
        refine .cut verdict (.inr rfl) (List.take_prefix _ _) (strict ?_)
        rw [ended]
        exact Written.noConfusion

theorem length_serveAll (filter : LineFilter) (calls : List Call) :
    (filter.serveAll calls).2.length = calls.length := by
  induction calls generalizing filter with
  | nil => rfl
  | cons call later ih => exact congrArg Nat.succ (ih (filter.serve call).1)

/-- Calls of any number are accounted for, each by itself. -/
theorem serveAll_accounted (filter : LineFilter) (calls : List Call) :
    (filter.serveAll calls).1.classifier = filter.classifier ∧
      ∃ pieces, (filter.serveAll calls).1.writer.output =
          filter.writer.output ++ pieces.flatten ∧
        List.Forall₂ (Accounted filter.classifier) (calls.zip (filter.serveAll calls).2) pieces := by
  induction calls generalizing filter with
  | nil => exact ⟨rfl, [], (List.append_nil _).symm, .nil⟩
  | cons call later ih =>
    obtain ⟨sameHere, piece, outputHere, accounted⟩ := filter.serve_accounted call
    obtain ⟨sameLater, pieces, output, accountedLater⟩ := ih (filter.serve call).1
    refine ⟨sameLater.trans sameHere, piece :: pieces, ?_, .cons accounted ?_⟩
    · rw [List.flatten_cons, ← List.append_assoc, ← outputHere]
      exact output
    · rw [← sameHere]
      exact accountedLater

/-- The fault that a host is told of is the writer's own. -/
theorem serve_failed (filter : LineFilter) {buffer : Bytes} {fault : IoFault}
    (failed : (filter.serve (.write buffer)).2 = .failed fault) :
    filter.writer.StopsInside buffer fault (filter.serve (.write buffer)).1.writer := by
  rw [serve_write] at failed ⊢
  cases verdict : filter.classifier.forwards (lossy buffer) with
  | false =>
    rw [write_dropped filter buffer verdict] at failed
    cases failed
  | true =>
    rw [write_forwarded filter verdict] at failed ⊢
    refine Writer.writeRounds_stops (Nat.le_refl _) ?_
    show (filter.writer.writeAll buffer).2 = _
    cases ended : (filter.writer.writeAll buffer).2 with
    | done => simp [ended] at failed
    | failed other => simpa [ended] using failed
    | crashed => simp [ended] at failed

/-- **What a writer has got is what the host was told,** whatever the writer does and in whatever order
buffers are written and flushed. Of a buffer that was rejected nothing is there, of one that counts as
written all of it, of one that failed only a beginning. At any moment a buffer that is rejected counts
as written and leaves the writer as it is, and a fault is the one that the writer gave up with. -/
theorem output_accounted (filter : LineFilter) (calls : List Call) :
    let now := (filter.serveAll calls).1
    let answers := (filter.serveAll calls).2
    (answers.length = calls.length ∧
      ∃ pieces, now.writer.output = filter.writer.output ++ pieces.flatten ∧
        List.Forall₂ (Accounted filter.classifier) (calls.zip answers) pieces) ∧
      (∀ buffer, filter.classifier.forwards (lossy buffer) = false →
        now.serve (.write buffer) = (now, .wrote buffer.length)) ∧
      (∀ buffer fault, (now.serve (.write buffer)).2 = .failed fault →
        now.writer.StopsInside buffer fault (now.serve (.write buffer)).1.writer) ∧
      ∀ fault, (now.serve .flush).2 = .failed fault →
        now.writer.flushFault now.writer.written now.writer.calls = some fault := by
  intro now answers
  obtain ⟨same, accounted⟩ := filter.serveAll_accounted calls
  refine ⟨⟨filter.length_serveAll calls, accounted⟩, fun buffer rejected => ?_,
    fun buffer fault => now.serve_failed, fun fault failed => ?_⟩
  · rw [← same] at rejected
    exact now.serve_rejected rejected
  · obtain ⟨writer, served, -⟩ | ⟨writer, own, served, -, faulty⟩ := now.serve_flush
    · rw [served] at failed
      cases failed
    · rw [served] at failed
      rw [faulty, Answer.failed.inj failed]

/-- A writer that takes four bytes at a time and twelve in all, and never flushes. A line of ten bytes
goes through, an ignored access counts as written, and of the next line two bytes are left. -/
theorem output_accounted_of_full_writer :
    let classifier : Classifier := ⟨.ofList ["mp4"], ["/assets/"], "/api/list", "/api/get", []⟩
    let closed : IoFault := ⟨.brokenPipe, "closed"⟩
    let filter : LineFilter :=
      ⟨classifier, .limited (some 4) (some 12) (.refuses closed) (some ⟨.timedOut, "flush"⟩)⟩
    let plain := encode "listening\n"
    let asset := encode "[GIN] | 200 | GET     /assets/a.js\n"
    let now := (filter.serveAll [.write plain, .write asset, .flush]).1
    now.writer.output = plain ∧ classifier.forwards (lossy asset) = false ∧
      now.serve (.write asset) = (now, .wrote asset.length) ∧
      (now.serve (.write plain)).2 = .failed closed ∧
      now.writer.StopsInside plain closed (now.serve (.write plain)).1.writer ∧
      (now.serve (.write plain)).1.writer.output = plain ++ encode "li" := by
  intro classifier closed filter plain asset now
  obtain ⟨-, rejects, stops, -⟩ :=
    output_accounted filter [.write plain, .write asset, .flush]
  have rejected : classifier.forwards (lossy asset) = false := by decide +kernel
  have failed : (now.serve (.write plain)).2 = .failed closed := by decide +kernel
  refine ⟨by decide +kernel, rejected, rejects asset rejected, failed, stops plain closed failed, ?_⟩
  decide +kernel

end LineFilter

end MediaTrail
