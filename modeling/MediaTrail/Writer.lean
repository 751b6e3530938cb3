/-
**Writers.** An output stream, seen through what it does with the bytes offered to it: it takes some
of them, refuses, or crashes. What it has taken so far is its output.

* `Writer.writeAll`: offers bytes until all are taken;
* `writeAll_output`: the output grows by a beginning of the bytes offered, and by all of them if and
  only if the writing is reported as done;
* `Writer.limited`: a writer with a bound for each write and for the whole output.
-/

import MediaTrail.Journal
import MediaTrail.Text.Utf8

namespace MediaTrail

open Text (Bytes)

/-- The kinds of faults of a stream that others tell apart. -/
inductive IoKind where
  | brokenPipe
  | timedOut
  | writeZero
  | other
deriving DecidableEq, Repr

/-- A fault of a stream, with its description. -/
structure IoFault where
  kind : IoKind
  text : String
deriving DecidableEq, Repr

/-- The fault of a stream that takes no byte. -/
def IoFault.writeZero : IoFault := ⟨.writeZero, "failed to write whole buffer"⟩

/-- What a stream does with bytes offered to it. An offer that is interrupted is made again as it was,
so that an interruption is no reply of its own. -/
inductive Reply where
  /-- It takes as many, or all if there are fewer. -/
  | takes (count : Nat)
  /-- It takes none. -/
  | refuses (fault : IoFault)
  /-- It takes none and goes down. -/
  | crashes
deriving DecidableEq, Repr

/-- An output stream: its history, and how it behaves after a history. -/
structure Writer where
  /-- What the stream has taken. -/
  written : Journal UInt8 := .empty
  /-- How often bytes were offered. -/
  offers : Nat := 0
  /-- How often the stream was flushed with success. -/
  flushes : Nat := 0
  /-- How often a flush failed. -/
  failedFlushes : Nat := 0
  /-- The reply to an offer, given what was taken and the number of offers so far. -/
  reply : Journal UInt8 → Nat → Bytes → Reply
  /-- The fault of a flush, given what was taken and the number of offers and flushes so far. -/
  flushFault : Journal UInt8 → Nat → Option IoFault

/-- How an attempt to write ended. -/
inductive Written where
  | done
  | failed (fault : IoFault)
  | crashed
deriving DecidableEq, Repr

namespace Writer

def output (writer : Writer) : Bytes := writer.written.toList

/-- The writer after an offer of which it took `count` bytes. -/
def after (writer : Writer) (offered : Bytes) (count : Nat) : Writer :=
  { writer with
    written := writer.written.append (offered.take count)
    offers := writer.offers + 1 }

/-- Offers bytes until all are taken or the stream gives up. The number of rounds is at least the
number of bytes; a round takes one, so the count never runs out. -/
def writeRounds (rounds : Nat) (writer : Writer) (bytes : Bytes) : Writer × Written :=
  match rounds, bytes with
  | _, [] => (writer, .done)
  | 0, _ :: _ => (writer, .failed .writeZero)
  | rounds + 1, byte :: rest =>
    match writer.reply writer.written writer.offers (byte :: rest) with
    | .takes 0 => (writer.after (byte :: rest) 0, .failed .writeZero)
    | .takes (count + 1) =>
      writeRounds rounds (writer.after (byte :: rest) (count + 1)) (rest.drop count)
    | .refuses fault => (writer.after (byte :: rest) 0, .failed fault)
    | .crashes => (writer.after (byte :: rest) 0, .crashed)

/-- Offers bytes until all are taken or the stream gives up. -/
def writeAll (writer : Writer) (bytes : Bytes) : Writer × Written :=
  writer.writeRounds bytes.length bytes

/-- How often the stream was asked for anything. -/
def calls (writer : Writer) : Nat :=
  writer.offers + writer.flushes + writer.failedFlushes

def flush (writer : Writer) : Writer × Written :=
  match writer.flushFault writer.written writer.calls with
  | some fault => ({ writer with failedFlushes := writer.failedFlushes + 1 }, .failed fault)
  | none => ({ writer with flushes := writer.flushes + 1 }, .done)

/-- A writer that takes at most `chunk` bytes of an offer and at most `capacity` in all. Where it
can take none it gives the reply `full`. -/
def limited (chunk capacity : Option Nat) (full : Reply) (flushFault : Option IoFault) :
    Writer where
  reply := fun written _ offered =>
    let count := match chunk, capacity with
      | some chunk, some capacity => min chunk (capacity - written.size)
      | some chunk, none => chunk
      | none, some capacity => capacity - written.size
      | none, none => offered.length
    if count = 0 then full else .takes count
  flushFault := fun _ _ => flushFault

/-- A writer that takes everything. -/
def unlimited : Writer :=
  limited none none (.takes 0) none

/-! ### What writing leaves behind -/

theorem output_after (writer : Writer) (offered : Bytes) (count : Nat) :
    (writer.after offered count).output = writer.output ++ offered.take count :=
  Journal.toList_append _ _

theorem writeRounds_output (rounds : Nat) (writer : Writer) (bytes : Bytes)
    (enough : bytes.length ≤ rounds) :
    ∃ count ≤ bytes.length,
      (writer.writeRounds rounds bytes).1.output = writer.output ++ bytes.take count ∧
        ((writer.writeRounds rounds bytes).2 = .done ↔ count = bytes.length) := by
  induction rounds generalizing writer bytes with
  | zero =>
    obtain rfl : bytes = [] := List.length_eq_zero_iff.mp (Nat.le_zero.mp enough)
    exact ⟨0, Nat.le_refl _, by simp [writeRounds]⟩
  | succ rounds ih =>
    cases bytes with
    | nil => exact ⟨0, Nat.le_refl _, by simp [writeRounds]⟩
    | cons byte rest =>
      unfold writeRounds
      split
      · exact ⟨0, Nat.zero_le _, by simp [output_after]⟩
      · rename_i count _
        have shorter : (rest.drop count).length ≤ rounds := by
          simp only [List.length_drop, List.length_cons] at enough ⊢
          omega
        obtain ⟨more, fits, output, done⟩ :=
          ih (writer.after (byte :: rest) (count + 1)) (rest.drop count) shorter
        simp only [List.length_drop] at fits done
        by_cases inside : count ≤ rest.length
        · refine ⟨count + 1 + more, ?_, ?_, ?_⟩
          · simp only [List.length_cons]
            omega
          · have split : (byte :: rest).take (count + 1 + more) =
                (byte :: rest).take (count + 1) ++ (rest.drop count).take more := by
              rw [List.take_add]
              simp
            rw [output, output_after, split, List.append_assoc]
          · rw [done, List.length_cons]
            omega
        · refine ⟨rest.length + 1, by simp, ?_, ?_⟩
          · have none : rest.drop count = [] := List.drop_eq_nil_of_le (by omega)
            have all : rest.take count = rest := List.take_of_length_le (by omega)
            rw [output]
            simp [output_after, none, all]
          · rw [done, List.length_cons]
            omega
      · exact ⟨0, Nat.zero_le _, by simp [output_after]⟩
      · exact ⟨0, Nat.zero_le _, by simp [output_after]⟩

/-- The output grows by a beginning of the bytes offered, and by all of them exactly if the writing
is done. -/
theorem writeAll_output (writer : Writer) (bytes : Bytes) :
    ∃ count ≤ bytes.length,
      (writer.writeAll bytes).1.output = writer.output ++ bytes.take count ∧
        ((writer.writeAll bytes).2 = .done ↔ count = bytes.length) :=
  writeRounds_output bytes.length writer bytes (Nat.le_refl _)

end Writer

end MediaTrail
