/-
**Consoles on streams that fill up.** A stream may take its bytes in pieces of any size and have room for
so many in all. A console on it shows the beginning of its lines that there was room for, whatever comes
behind: a line that does not fit is cut where the stream was full, and a later one adds nothing. The
stream is flushed once behind each whole line. If it goes down when it is full, the console is poisoned
by the first line that does not fit and leaves the stream alone from then on.

* `Writer.HasRoom`: a stream with room for so many bytes;
* `Writer.Takes`: what comes of bytes that such a stream is offered, `writeAll_of_hasRoom`;
* `Sink.Echoes`: what comes of one line, `writeLine_of_hasRoom`;
* `Sink.takeAll_console`: lines of any number;
* `Sink.console_of_hasRoom`: the lines so far, and what comes of the next one.
-/

import MediaTrail.Proofs.Emission

namespace MediaTrail

open Text (Bytes)
open Text.Utf8

/-! ### Streams with room for so many bytes -/

/-- How a writing ends that the stream did not do: the stream failed, or it went down. -/
def Written.IsStop (crashing : Bool) : Written → Prop
  | .done => False
  | .failed _ => crashing = false
  | .crashed => crashing = true

/-- How a writing ends with the reply to an offer, if it does. -/
def Reply.ending? : Reply → Option Written
  | .takes 0 => some (.failed .writeZero)
  | .takes (_ + 1) => none
  | .refuses fault => some (.failed fault)
  | .crashes => some .crashed

namespace Writer

/-- A stream takes at least one byte of an offer and at most `chunk`, as long as it has not taken
`capacity` of them. Then it takes none: it goes down, or it gives up in some other way. -/
structure HasRoom (chunk capacity : Nat) (crashing : Bool) (writer : Writer) : Prop where
  takes : ∀ written offers byte rest, written.size < capacity → ∃ count,
    writer.reply written offers (byte :: rest) = .takes (count + 1) ∧ count < chunk ∧
      written.size + count < capacity
  full : ∀ written offers byte rest, capacity ≤ written.size → ∃ ended,
    (writer.reply written offers (byte :: rest)).ending? = some ended ∧ ended.IsStop crashing

variable {chunk capacity : Nat} {crashing : Bool} {writer : Writer}

theorem HasRoom.of_reply {later : Writer} (room : writer.HasRoom chunk capacity crashing)
    (same : later.reply = writer.reply) : later.HasRoom chunk capacity crashing :=
  ⟨same ▸ room.takes, same ▸ room.full⟩

theorem limited_hasRoom (positive : 0 < chunk) (capacity : Nat) {full : Reply} {ended : Written}
    (ends : full.ending? = some ended) (stops : ended.IsStop crashing) (flushFault : Option IoFault) :
    (limited (some chunk) (some capacity) full flushFault).HasRoom chunk capacity crashing where
  takes written offers byte rest below := by
    refine ⟨min chunk (capacity - written.size) - 1, ?_, by omega, by omega⟩
    show (if min chunk (capacity - written.size) = 0 then full
      else Reply.takes (min chunk (capacity - written.size))) = _
    rw [if_neg (by omega)]
    congr 1
    omega
  full written offers byte rest above := by
    refine ⟨ended, ?_, stops⟩
    show (if min chunk (capacity - written.size) = 0 then full
      else Reply.takes (min chunk (capacity - written.size))).ending? = _
    rw [if_pos (by omega), ends]

/-- What comes of bytes that a stream with so much room is offered. -/
structure Takes (capacity : Nat) (crashing : Bool) (writer : Writer) (bytes : Bytes)
    (later : Writer) (ended : Written) : Prop where
  reply : later.reply = writer.reply
  flushFault : later.flushFault = writer.flushFault
  flushes : later.flushes = writer.flushes
  failedFlushes : later.failedFlushes = writer.failedFlushes
  output : later.output = (writer.output ++ bytes).take capacity
  done : (writer.output ++ bytes).length ≤ capacity → ended = .done
  stopped : capacity < (writer.output ++ bytes).length → ended.IsStop crashing

/-- No bytes are taken at once. -/
theorem Takes.none (within : writer.output.length ≤ capacity) :
    writer.Takes capacity crashing [] writer .done where
  reply := rfl
  flushFault := rfl
  flushes := rfl
  failedFlushes := rfl
  output := by rw [List.append_nil, List.take_of_length_le within]
  done _ := rfl
  stopped above := by
    rw [List.append_nil] at above
    exact absurd within (Nat.not_le.mpr above)

/-- A stream that is full takes nothing. -/
theorem Takes.full {byte : UInt8} {rest : Bytes} {ended : Written}
    (isFull : writer.output.length = capacity) (stops : ended.IsStop crashing) :
    writer.Takes capacity crashing (byte :: rest) (writer.after (byte :: rest) 0) ended where
  reply := rfl
  flushFault := rfl
  flushes := rfl
  failedFlushes := rfl
  output := by
    rw [output_after, List.take_zero, List.append_nil, ← isFull, List.take_left]
  done fits := by
    rw [List.length_append, List.length_cons] at fits
    omega
  stopped _ := stops

/-- A stream that has taken the first bytes goes on with the others. -/
theorem Takes.behind {later : Writer} {byte : UInt8} {rest : Bytes} {ended : Written} (count : Nat)
    (takes : (writer.after (byte :: rest) (count + 1)).Takes capacity crashing (rest.drop count) later
      ended) : writer.Takes capacity crashing (byte :: rest) later ended := by
  have all : (writer.after (byte :: rest) (count + 1)).output ++ rest.drop count =
      writer.output ++ byte :: rest := by
    rw [output_after, List.append_assoc, List.take_succ_cons, List.cons_append,
      List.take_append_drop]
  exact ⟨takes.reply, takes.flushFault, takes.flushes, takes.failedFlushes, all ▸ takes.output,
    all ▸ takes.done, all ▸ takes.stopped⟩

/-- Bytes that fit, and others behind them. -/
theorem Takes.append {middle later : Writer} {first second : Bytes} {ended : Written}
    (before : writer.Takes capacity crashing first middle .done)
    (fits : (writer.output ++ first).length ≤ capacity)
    (behind : middle.Takes capacity crashing second later ended) :
    writer.Takes capacity crashing (first ++ second) later ended := by
  have output : middle.output ++ second = writer.output ++ (first ++ second) := by
    rw [before.output, List.take_of_length_le fits, List.append_assoc]
  exact ⟨behind.reply.trans before.reply, behind.flushFault.trans before.flushFault,
    behind.flushes.trans before.flushes, behind.failedFlushes.trans before.failedFlushes,
    output ▸ behind.output, output ▸ behind.done, output ▸ behind.stopped⟩

/-- A writing ends with a reply that takes no byte. -/
theorem writeRounds_of_ending {rounds : Nat} {byte : UInt8} {rest : Bytes} {ended : Written}
    (ends : (writer.reply writer.written writer.offers (byte :: rest)).ending? = some ended) :
    writer.writeRounds (rounds + 1) (byte :: rest) = (writer.after (byte :: rest) 0, ended) := by
  rw [writeRounds]
  cases replied : writer.reply writer.written writer.offers (byte :: rest) with
  | takes count =>
    rw [replied] at ends
    cases count with
    | zero => rw [← Option.some.inj ends]
    | succ count => cases ends
  | refuses fault =>
    rw [replied] at ends
    rw [← Option.some.inj ends]
  | crashes =>
    rw [replied] at ends
    rw [← Option.some.inj ends]

theorem writeRounds_of_hasRoom (room : writer.HasRoom chunk capacity crashing) {rounds : Nat}
    {bytes : Bytes} (enough : bytes.length ≤ rounds) (within : writer.output.length ≤ capacity) :
    writer.Takes capacity crashing bytes (writer.writeRounds rounds bytes).1
      (writer.writeRounds rounds bytes).2 := by
  induction rounds generalizing writer bytes with
  | zero =>
    obtain rfl : bytes = [] := List.length_eq_zero_iff.mp (Nat.le_zero.mp enough)
    exact .none within
  | succ rounds ih =>
    cases bytes with
    | nil => exact .none within
    | cons byte rest =>
      have size : writer.written.size = writer.output.length := writer.written.size_eq_length
      by_cases below : writer.written.size < capacity
      · obtain ⟨count, takes, -, fits⟩ := room.takes _ writer.offers byte rest below
        have goesOn : writer.writeRounds (rounds + 1) (byte :: rest) =
            (writer.after (byte :: rest) (count + 1)).writeRounds rounds (rest.drop count) := by
          rw [writeRounds, takes]
        have laterRoom :
            (writer.after (byte :: rest) (count + 1)).HasRoom chunk capacity crashing :=
          room.of_reply rfl
        rw [goesOn]
        refine .behind count (ih laterRoom ?_ ?_)
        · rw [List.length_cons] at enough
          rw [List.length_drop]
          omega
        · rw [output_after, List.length_append, List.length_take]
          omega
      · obtain ⟨ended, ends, stops⟩ :=
          room.full _ writer.offers byte rest (Nat.le_of_not_lt below)
        rw [writeRounds_of_ending ends]
        exact .full (by omega) stops

/-- **Bytes that a stream is offered** are there as far as there is room, and all of them exactly if the
writing is done. -/
theorem writeAll_of_hasRoom (room : writer.HasRoom chunk capacity crashing) (bytes : Bytes)
    (within : writer.output.length ≤ capacity) :
    writer.Takes capacity crashing bytes (writer.writeAll bytes).1 (writer.writeAll bytes).2 :=
  writeRounds_of_hasRoom room (Nat.le_refl _) within

end Writer

/-- What a console says of a line that it wrote. -/
def Taken.ofWritten : Written → Taken
  | .done => .accepted
  | .failed fault => .refused (.io fault)
  | .crashed => .crashed

namespace Sink

variable {chunk capacity : Nat} {crashing : Bool} {writer : Writer}

/-! ### One line -/

/-- The bytes that a console shows for a line. -/
def shownAs (line : String) : Bytes := encode line ++ [0x0A]

/-- What comes of a line with which a stream is to hold certain bytes, if it has room for them. They are
there as far as there is room. If all are, the stream is flushed once; otherwise the line is cut, and
the stream is not flushed. -/
structure Echoes (capacity : Nat) (crashing : Bool) (bytes : Bytes) (writer later : Writer)
    (ended : Written) : Prop where
  reply : later.reply = writer.reply
  output : later.output = bytes.take capacity
  whole : bytes.length ≤ capacity →
    ended = .done ∧ later.flushes = writer.flushes + 1 ∧ later.failedFlushes = writer.failedFlushes ∨
      ∃ fault, ended = .failed fault ∧ later.flushes = writer.flushes ∧
        later.failedFlushes = writer.failedFlushes + 1
  cut : capacity < bytes.length → ended.IsStop crashing ∧ later.flushes = writer.flushes ∧
    later.failedFlushes = writer.failedFlushes

/-- Bytes that do not fit, with any others behind them. -/
theorem Echoes.of_cut {first second : Bytes} {later : Writer} {ended : Written}
    (takes : writer.Takes capacity crashing first later ended)
    (long : capacity < (writer.output ++ first).length) :
    Echoes capacity crashing (writer.output ++ (first ++ second)) writer later ended where
  reply := takes.reply
  output := by
    rw [takes.output, ← List.append_assoc, List.take_append_of_le_length (Nat.le_of_lt long)]
  whole fits := by
    rw [← List.append_assoc, List.length_append] at fits
    omega
  cut _ := ⟨takes.stopped long, takes.flushes, takes.failedFlushes⟩

/-- A stream that has taken all bytes is flushed. -/
theorem Echoes.of_whole {bytes : Bytes} {later : Writer}
    (takes : writer.Takes capacity crashing bytes later .done)
    (fits : (writer.output ++ bytes).length ≤ capacity) :
    Echoes capacity crashing (writer.output ++ bytes) writer later.flush.1 later.flush.2 := by
  unfold Writer.flush
  split
  · rename_i fault _
    exact ⟨takes.reply, takes.output,
      fun _ => .inr ⟨fault, rfl, takes.flushes, congrArg (· + 1) takes.failedFlushes⟩,
      fun long => absurd fits (Nat.not_le.mpr long)⟩
  · exact ⟨takes.reply, takes.output,
      fun _ => .inl ⟨rfl, congrArg (· + 1) takes.flushes, takes.failedFlushes⟩,
      fun long => absurd fits (Nat.not_le.mpr long)⟩

/-- **One line on a stream that may fill up** with it, at any byte of it or at its newline. -/
theorem writeLine_of_hasRoom (room : writer.HasRoom chunk capacity crashing) (line : String)
    (within : writer.output.length ≤ capacity) :
    Echoes capacity crashing (writer.output ++ shownAs line) writer (writeLine writer line).1
      (writeLine writer line).2 := by
  have first := Writer.writeAll_of_hasRoom room (encode line) within
  obtain ⟨middle, ended, wrote⟩ : ∃ middle ended, writer.writeAll (encode line) = (middle, ended) :=
    ⟨_, _, rfl⟩
  rw [writeLine, wrote]
  rw [wrote] at first
  by_cases fits : (writer.output ++ encode line).length ≤ capacity
  · obtain rfl := first.done fits
    have middleWithin : middle.output.length ≤ capacity := by
      rw [first.output]
      exact List.length_take_le _ _
    have second := first.append fits
      (Writer.writeAll_of_hasRoom (room.of_reply first.reply) [0x0A] middleWithin)
    obtain ⟨later, ended, wroteNewline⟩ :
        ∃ later ended, middle.writeAll [0x0A] = (later, ended) := ⟨_, _, rfl⟩
    rw [wroteNewline] at second
    by_cases fitsWhole : (writer.output ++ shownAs line).length ≤ capacity
    · obtain rfl := second.done fitsWhole
      simp only [wroteNewline]
      exact .of_whole second fitsWhole
    · have long := Nat.lt_of_not_le fitsWhole
      have cut : Echoes capacity crashing (writer.output ++ shownAs line) writer later ended := by
        rw [← List.append_nil (shownAs line)]
        exact .of_cut second long
      have stopped := second.stopped long
      cases ended with
      | done => cases stopped
      | failed _ | crashed =>
        simp only [wroteNewline]
        exact cut
  · have long := Nat.lt_of_not_le fits
    have stopped := first.stopped long
    cases ended with
    | done => cases stopped
    | failed _ | crashed => exact .of_cut first long

/-- A line is accepted if all of it is there and the stream could be flushed behind it. -/
theorem Echoes.accepted_iff {bytes : Bytes} {later : Writer} {ended : Written}
    (echoes : Echoes capacity crashing bytes writer later ended) :
    Taken.ofWritten ended = .accepted ↔
      bytes.length ≤ capacity ∧ later.flushes = writer.flushes + 1 := by
  by_cases fits : bytes.length ≤ capacity
  · obtain ⟨rfl, flushed, -⟩ | ⟨fault, rfl, unflushed, -⟩ := echoes.whole fits
    · exact ⟨fun _ => ⟨fits, flushed⟩, fun _ => rfl⟩
    · refine ⟨Taken.noConfusion, fun both => ?_⟩
      have same := both.2.symm.trans unflushed
      omega
  · have stopped := (echoes.cut (Nat.lt_of_not_le fits)).1
    refine ⟨fun accepted => ?_, fun both => absurd both.1 fits⟩
    cases ended with
    | done => cases stopped
    | failed _ | crashed => cases accepted

/-- A stream goes down with a line that it has no room for. -/
theorem Echoes.crashed_iff {bytes : Bytes} {later : Writer} {ended : Written}
    (echoes : Echoes capacity crashing bytes writer later ended) :
    ended = .crashed ↔ crashing = true ∧ capacity < bytes.length := by
  by_cases fits : bytes.length ≤ capacity
  · have stays : ended ≠ .crashed := by
      obtain ⟨rfl, -⟩ | ⟨fault, rfl, -⟩ := echoes.whole fits <;> exact Written.noConfusion
    exact ⟨fun crashed => absurd crashed stays, fun both => absurd fits (Nat.not_le.mpr both.2)⟩
  · have long := Nat.lt_of_not_le fits
    have stopped := (echoes.cut long).1
    refine ⟨fun crashed => ⟨?_, long⟩, fun both => ?_⟩
    · rw [crashed] at stopped
      exact stopped
    · cases ended with
      | done => cases stopped
      | failed fault => exact absurd both.1 (by rw [show crashing = false from stopped]; decide)
      | crashed => rfl

/-- What the stream is to hold counts only as far as there is room. -/
theorem Echoes.congr {bytes other : Bytes} {later : Writer} {ended : Written}
    (echoes : Echoes capacity crashing bytes writer later ended)
    (same : bytes.take capacity = other.take capacity)
    (fitting : bytes.length ≤ capacity ↔ other.length ≤ capacity) :
    Echoes capacity crashing other writer later ended where
  reply := echoes.reply
  output := echoes.output.trans same
  whole fits := echoes.whole (fitting.mpr fits)
  cut long := echoes.cut (Nat.lt_of_not_le (mt fitting.mp (Nat.not_le.mpr long)))

/-- A console that is not poisoned writes a line, and is poisoned if the stream goes down. -/
theorem emit_console (writer : Writer) (record : Record) (line : String) :
    (Sink.console writer false).emit record line =
      ⟨.console (writeLine writer line).1 (decide ((writeLine writer line).2 = .crashed)),
        .ofWritten (writeLine writer line).2, []⟩ := by
  rw [emit]
  obtain ⟨later, ended, wrote⟩ : ∃ later ended, writeLine writer line = (later, ended) := ⟨_, _, rfl⟩
  rw [wrote]
  cases ended <;> rfl

/-- A line on a console that is not poisoned. -/
theorem emit_of_hasRoom (room : writer.HasRoom chunk capacity crashing)
    (within : writer.output.length ≤ capacity) (entry : Entrusted) : ∃ later ended,
    (Sink.console writer false).emit entry.1 entry.2 =
        ⟨.console later (crashing && decide (capacity < (writer.output ++ shownAs entry.2).length)),
          .ofWritten ended, []⟩ ∧
      Echoes capacity crashing (writer.output ++ shownAs entry.2) writer later ended := by
  have echoes := writeLine_of_hasRoom room entry.2 within
  refine ⟨_, _, ?_, echoes⟩
  rw [emit_console]
  congr 2
  rw [Bool.eq_iff_iff, decide_eq_true_iff, echoes.crashed_iff, Bool.and_eq_true, decide_eq_true_iff]

/-! ### Lines of any number -/

/-- The bytes of some lines, one behind the other. -/
def bytesOf (entries : List Entrusted) : Bytes := entries.flatMap fun entry => shownAs entry.2

theorem bytesOf_concat (entries : List Entrusted) (entry : Entrusted) :
    bytesOf (entries ++ [entry]) = bytesOf entries ++ shownAs entry.2 := by
  rw [bytesOf, List.flatMap_append, List.flatMap_singleton, ← bytesOf]

/-- A poisoned console leaves its stream alone. -/
theorem takeAll_poisoned (writer : Writer) (entries : List Entrusted) :
    (Sink.console writer true).takeAll entries = .console writer true := by
  induction entries with
  | nil => rfl
  | cons entry rest ih => exact ih

/-- What there was no room for makes no difference to what comes behind it. -/
theorem take_append_take (front back : Bytes) (capacity : Nat) :
    (front.take capacity ++ back).take capacity = (front ++ back).take capacity := by
  by_cases fits : front.length ≤ capacity
  · rw [List.take_of_length_le fits]
  · have long : capacity ≤ front.length := Nat.le_of_not_le fits
    have size : (front.take capacity).length = capacity := List.length_take_of_le long
    rw [List.take_append_of_le_length (Nat.le_of_eq size.symm), List.take_take, Nat.min_self,
      List.take_append_of_le_length long]

theorem length_append_take_iff (front : Bytes) {back : Bytes} (nonempty : back ≠ []) (capacity : Nat) :
    (front.take capacity ++ back).length ≤ capacity ↔ (front ++ back).length ≤ capacity := by
  have positive := List.length_pos_iff.mpr nonempty
  rw [List.length_append, List.length_append, List.length_take]
  omega

/-- **Lines of any number.** The console shows the beginning of their bytes that there is room for, and
is poisoned if the stream goes down for lack of room. -/
theorem takeAll_console (room : writer.HasRoom chunk capacity crashing)
    (within : writer.output.length ≤ capacity) (entries : List Entrusted) : ∃ now,
    (Sink.console writer false).takeAll entries =
        .console now (crashing && decide (capacity < (writer.output ++ bytesOf entries).length)) ∧
      now.reply = writer.reply ∧ now.output = (writer.output ++ bytesOf entries).take capacity := by
  induction entries generalizing writer with
  | nil =>
    refine ⟨writer, ?_, rfl, ?_⟩
    · rw [bytesOf, List.flatMap_nil, List.append_nil, decide_eq_false (Nat.not_lt.mpr within),
        Bool.and_false]
      rfl
    · rw [bytesOf, List.flatMap_nil, List.append_nil, List.take_of_length_le within]
  | cons entry rest ih =>
    obtain ⟨later, ended, emitted, echoes⟩ := emit_of_hasRoom room within entry
    have all : writer.output ++ bytesOf (entry :: rest) =
        (writer.output ++ shownAs entry.2) ++ bytesOf rest := by
      rw [bytesOf, List.flatMap_cons, ← bytesOf, List.append_assoc]
    rw [takeAll, List.foldl_cons, ← takeAll, emitted, all]
    generalize writer.output ++ shownAs entry.2 = here at echoes ⊢
    cases poisoned : crashing && decide (capacity < here.length) with
    | true =>
      obtain ⟨crashes, overflows⟩ := Bool.and_eq_true_iff.mp poisoned
      have long : capacity < here.length := of_decide_eq_true overflows
      refine ⟨later, ?_, echoes.reply, ?_⟩
      · rw [takeAll_poisoned, crashes, List.length_append,
          decide_eq_true (Nat.lt_of_lt_of_le long (Nat.le_add_right _ _))]
        rfl
      · rw [echoes.output, List.take_append_of_le_length (Nat.le_of_lt long)]
    | false =>
      have laterWithin : later.output.length ≤ capacity := by
        rw [echoes.output]
        exact List.length_take_le _ _
      obtain ⟨now, took, reply, output⟩ := ih (room.of_reply echoes.reply) laterWithin
      refine ⟨now, ?_, reply.trans echoes.reply, ?_⟩
      · rw [took, echoes.output]
        cases crashes : crashing with
        | false => rfl
        | true =>
          rw [crashes, Bool.true_and, decide_eq_false_iff_not, Nat.not_lt] at poisoned
          rw [List.take_of_length_le poisoned]
      · rw [output, echoes.output, take_append_take]

/-- **A console on a stream that fills up** shows, after lines of any number, the beginning of their
bytes that there was room for. What comes of the next line: if the stream went down before, the console
refuses it as poisoned and leaves the stream alone. Otherwise it is shown as far as there is room; it is
accepted exactly if there is room for all of it and the stream is flushed with success; and the stream
is flushed once if all of it is there, and not at all if it is cut. -/
theorem console_of_hasRoom (room : writer.HasRoom chunk capacity crashing)
    (fresh : writer.output = []) (before : List Entrusted) (entry : Entrusted) :
    let console := (Sink.console writer false).takeAll before
    let earlier := bytesOf before
    let bytes := bytesOf (before ++ [entry])
    ∃ now, console = .console now (crashing && decide (capacity < earlier.length)) ∧
      now.output = earlier.take capacity ∧
      (crashing = true ∧ capacity < earlier.length →
        console.emit entry.1 entry.2 = ⟨console, .refused .poisoned, []⟩) ∧
      (¬ (crashing = true ∧ capacity < earlier.length) → ∃ later ended,
        console.emit entry.1 entry.2 =
            ⟨.console later (crashing && decide (capacity < bytes.length)), .ofWritten ended, []⟩ ∧
          later.output = bytes.take capacity ∧
          (Taken.ofWritten ended = .accepted ↔
            bytes.length ≤ capacity ∧ later.flushes = now.flushes + 1) ∧
          (bytes.length ≤ capacity →
            later.flushes + later.failedFlushes = now.flushes + now.failedFlushes + 1) ∧
          (capacity < bytes.length → ended.IsStop crashing ∧ later.flushes = now.flushes ∧
            later.failedFlushes = now.failedFlushes)) := by
  intro console earlier bytes
  have nothing : writer.output.length ≤ capacity := by
    rw [fresh]
    exact Nat.zero_le _
  obtain ⟨now, took, reply, output⟩ := takeAll_console room nothing before
  rw [fresh, List.nil_append] at took output
  have within : now.output.length ≤ capacity := by
    rw [output]
    exact List.length_take_le _ _
  refine ⟨now, took, output, fun wentDown => ?_, fun stands => ?_⟩
  · have poisoned : console = .console now true := by
      rw [← Bool.and_eq_true_iff.mpr ⟨wentDown.1, decide_eq_true wentDown.2⟩]
      exact took
    rw [poisoned]
    rfl
  have stillOpen : console = .console now false := by
    refine took.trans (congrArg _ ?_)
    rw [Bool.and_eq_false_iff, decide_eq_false_iff_not, ← Bool.not_eq_true]
    exact Classical.not_and_iff_not_or_not.mp stands
  obtain ⟨later, ended, emitted, echoes⟩ := emit_of_hasRoom (room.of_reply reply) within entry
  have nonempty : shownAs entry.2 ≠ [] := List.append_ne_nil_of_right_ne_nil _ (List.cons_ne_nil _ _)
  have all : bytes = earlier ++ shownAs entry.2 := bytesOf_concat before entry
  have fitting : (now.output ++ shownAs entry.2).length ≤ capacity ↔ bytes.length ≤ capacity := by
    rw [output, all]
    exact length_append_take_iff earlier nonempty capacity
  have echoesAll : Echoes capacity crashing bytes now later ended := by
    refine echoes.congr ?_ fitting
    rw [output, all]
    exact take_append_take earlier _ capacity
  refine ⟨later, ended, ?_, echoesAll.output, echoesAll.accepted_iff, fun fits => ?_, echoesAll.cut⟩
  · rw [stillOpen, emitted]
    congr 3
    rw [decide_eq_decide, ← Nat.not_le, ← Nat.not_le, fitting]
  · obtain ⟨-, flushed, same⟩ | ⟨-, -, same, flushed⟩ := echoesAll.whole fits <;> omega

/-- Streams that take three bytes at a time and eight in all. One refuses more, and cannot be flushed:
the second line is cut behind four bytes. The other goes down with it, and the third line is refused
because the console is poisoned. -/
theorem console_of_small_stream :
    let refusing : Writer :=
      .limited (some 3) (some 8) (.refuses ⟨.brokenPipe, "closed"⟩) (some ⟨.timedOut, "flush"⟩)
    let failing : Writer := .limited (some 3) (some 8) .crashes none
    let record : Record := ⟨⟨2024, 1, 2, 3, 4, 5⟩, "10.0.0.1", "GET", "/d/a.mp4", "ann", none, none, ""⟩
    let first : Entrusted := (record, "abc")
    let second : Entrusted := (record, "defgh")
    (refusing.HasRoom 3 8 false ∧ refusing.output = [] ∧
      ∃ now later ended, (Sink.console refusing false).takeAll [first] = .console now false ∧
        now.output = encode "abc\n" ∧
        (Sink.console now false).emit record "defgh" = ⟨.console later false, .ofWritten ended, []⟩ ∧
        later.output = encode "abc\ndefg" ∧ Taken.ofWritten ended ≠ .accepted ∧
        later.failedFlushes = now.failedFlushes) ∧
      failing.HasRoom 3 8 true ∧ failing.output = [] ∧
        ∃ now, (Sink.console failing false).takeAll [first, second] = .console now true ∧
          now.output = encode "abc\ndefg" ∧
          (Sink.console now true).emit record "" = ⟨.console now true, .refused .poisoned, []⟩ := by
  intro refusing failing record first second
  have refusingRoom : refusing.HasRoom 3 8 false :=
    Writer.limited_hasRoom (by decide) 8 rfl (show Written.IsStop false (.failed _) from rfl) _
  have failingRoom : failing.HasRoom 3 8 true :=
    Writer.limited_hasRoom (by decide) 8 rfl (show Written.IsStop true .crashed from rfl) _
  obtain ⟨now, took, output, -, next⟩ := console_of_hasRoom refusingRoom rfl [first] second
  obtain ⟨later, ended, emitted, outputLater, accepted, -, cut⟩ := next (by decide)
  obtain ⟨down, tookDown, outputDown, refused, -⟩ :=
    console_of_hasRoom failingRoom rfl [first, second] (record, "")
  rw [Bool.false_and] at took emitted
  rw [Bool.true_and, decide_eq_true (by decide)] at tookDown
  have poisoned := refused ⟨rfl, by decide⟩
  rw [took] at emitted
  rw [tookDown] at poisoned
  exact ⟨⟨refusingRoom, rfl, now, later, ended, took, output.trans (by decide), emitted,
      outputLater.trans (by decide), fun whole => absurd (accepted.mp whole).1 (by decide),
      (cut (by decide)).2.2⟩,
    failingRoom, rfl, down, tookDown, outputDown.trans (by decide), poisoned⟩

end Sink

end MediaTrail
