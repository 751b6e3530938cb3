/-
**Where values end.** A reader takes a value off the front of some bytes. What it has taken stays the
same if more bytes come behind: a value that closes with a bracket, a brace or a quote is over with
its last byte, and one that ends as a number does is over as soon as a byte follows that cannot belong
to it. So a body that was read whole cannot be cut short, nor go on with anything but blanks.

* `Steady`: more bytes behind what a reader left change nothing of what it read;
* `Number.read_append`, `Skip.skipFrom_append`: numbers and values passed over, as soon as a byte follows them;
* `items_steady`, `record_steady`: lists and records, whatever follows them;
* `whole_append`: a value that takes up all the bytes, and more bytes behind it.
-/

import Mathlib.Data.List.TakeWhile
import MediaTrail.Json.Record
import MediaTrail.Proofs.JsonText

namespace MediaTrail.Json

open Text (Bytes)

/-- More bytes behind what a reader left change nothing of what it read. A reader that `peeks` has to
see that its value is over, and may have taken a last value for the whole of a longer one. -/
structure Steady {α : Type} (peeks : Bool) (read : Reader α) : Prop where
  nothing : ∀ result, read [] ≠ .ok result
  append : ∀ {bytes value rest}, read bytes = .ok (value, rest) → (peeks = true → rest ≠ []) →
    ∀ more, read (bytes ++ more) = .ok (value, rest ++ more)

theorem of_bind_eq_ok {α β : Type} {result : Except Fault α} {next : α → Except Fault β} {value : β}
    (done : result >>= next = .ok value) : ∃ first, result = .ok first ∧ next first = .ok value := by
  cases result with
  | error fault => cases done
  | ok first => exact ⟨first, rfl, done⟩

section

variable {α β : Type} {peeks : Bool} {read : Reader α}

theorem Steady.weaken (steady : Steady false read) (peeks : Bool) : Steady peeks read :=
  ⟨steady.nothing, fun reads _ => steady.append reads nofun⟩

/-- What is made of a value plays no part in where it ends. -/
theorem Steady.map (steady : Steady peeks read) (make : α → β) :
    Steady peeks fun bytes => read bytes >>= fun taken => .ok (make taken.1, taken.2) where
  nothing result done := by
    obtain ⟨taken, reads, -⟩ := of_bind_eq_ok done
    exact steady.nothing taken reads
  append := by
    intro bytes value rest done left more
    obtain ⟨⟨middle, behind⟩, reads, later⟩ := of_bind_eq_ok done
    obtain ⟨rfl, rfl⟩ := Prod.mk.inj (Except.ok.inj later)
    show read (bytes ++ more) >>= _ = _
    rw [steady.append reads left more]
    rfl

/-! ### Blanks and words -/

/-- Blanks end in front of the first byte that is none. -/
theorem skipBlanks_append {bytes later : Bytes} {byte : UInt8}
    (start : skipBlanks bytes = byte :: later) (more : Bytes) :
    skipBlanks (bytes ++ more) = byte :: (later ++ more) := by
  rw [skipBlanks] at start ⊢
  rw [List.dropWhile_append, start, if_neg (by simp), List.cons_append]

theorem visible_of_skipBlanks {bytes rest : Bytes} {byte : UInt8}
    (shown : skipBlanks bytes = byte :: rest) : isBlankByte byte = false := by
  have head := List.head?_dropWhile_not isBlankByte bytes
  rw [← skipBlanks, shown] at head
  simpa using head

/-- **A reader that passes over blanks first** is steady if it is on bytes that start with none. -/
theorem Steady.of_shown (behind : ∀ bytes, read bytes = read (skipBlanks bytes))
    (nothing : ∀ result, read [] ≠ .ok result)
    (shown : ∀ {byte bytes value rest}, isBlankByte byte = false →
      read (byte :: bytes) = .ok (value, rest) → (peeks = true → rest ≠ []) →
      ∀ more, read (byte :: (bytes ++ more)) = .ok (value, rest ++ more)) :
    Steady peeks read where
  nothing := nothing
  append := by
    intro bytes value rest reads left more
    rw [behind] at reads
    cases start : skipBlanks bytes with
    | nil =>
      rw [start] at reads
      exact absurd reads (nothing _)
    | cons byte later =>
      rw [start] at reads
      rw [behind, skipBlanks_append start]
      exact shown (visible_of_skipBlanks start) reads left more

theorem skipBlanks_skipBlanks (bytes : Bytes) : skipBlanks (skipBlanks bytes) = skipBlanks bytes := by
  cases start : skipBlanks bytes with
  | nil => rfl
  | cons byte rest => exact skipBlanks_cons (visible_of_skipBlanks start) rest

theorem eq_append_of_literal {expected bytes rest : Bytes}
    (same : literal expected bytes = .ok rest) : bytes = expected ++ rest := by
  induction expected generalizing bytes with
  | nil => exact Except.ok.inj same
  | cons byte expected ih =>
    cases bytes with
    | nil => cases same
    | cons first bytes =>
      rw [literal] at same
      split at same
      · rename_i equal
        rw [equal, List.cons_append, ih same]
      · cases same

theorem word_more {text : String} {meant value : α} {bytes rest : Bytes}
    (reads : word text meant bytes = .ok (value, rest)) (more : Bytes) :
    word text meant (bytes ++ more) = .ok (value, rest ++ more) := by
  obtain ⟨behind, isWord, given⟩ := of_bind_eq_ok reads
  obtain ⟨rfl, rfl⟩ := Prod.mk.inj (Except.ok.inj given)
  rw [word, eq_append_of_literal isWord, List.append_assoc, literal_append]
  rfl

theorem boolean_steady : Steady false boolean := by
  refine .of_shown (fun bytes => ?_) nofun fun visible reads _ more => ?_
  · rw [boolean, boolean, skipBlanks_skipBlanks]
  · rw [boolean, skipBlanks_cons visible] at reads ⊢
    split at reads
    · rename_i same
      obtain ⟨rfl, rfl⟩ := List.cons.inj same
      exact word_more reads more
    · rename_i same
      obtain ⟨rfl, rfl⟩ := List.cons.inj same
      exact word_more reads more
    · cases reads

/-! ### Quotations -/

/-- A quotation is over with its closing quote. -/
theorem Quotation.readFrom_append {place : Place} {done bytes rest : Bytes} {text : String}
    (reads : readFrom place done bytes = .ok (text, rest)) (more : Bytes) :
    readFrom place done (bytes ++ more) = .ok (text, rest ++ more) := by
  induction bytes generalizing place done with
  | nil => cases reads
  | cons byte bytes ih =>
    rw [List.cons_append]
    unfold readFrom at reads ⊢
    cases moves : step place byte with
    | on next added =>
      rw [moves] at reads
      exact ih reads
    | close =>
      rw [moves] at reads
      dsimp only at reads ⊢
      cases decoded : Text.Utf8.decode? done.reverse with
      | none =>
        rw [decoded] at reads
        cases reads
      | some given =>
        rw [decoded] at reads
        obtain ⟨rfl, rfl⟩ := Prod.mk.inj (Except.ok.inj reads)
        rfl
    | fail =>
      rw [moves] at reads
      cases reads

theorem text_steady : Steady false text := by
  refine .of_shown (fun bytes => ?_) nofun fun visible reads _ more => ?_
  · rw [text, text, skipBlanks_skipBlanks]
  · rw [text, skipBlanks_cons visible] at reads ⊢
    split at reads
    · rename_i same
      obtain ⟨rfl, rfl⟩ := List.cons.inj same
      exact Quotation.readFrom_append reads more
    · cases reads

theorem key_steady : Steady false key := by
  refine .of_shown (fun bytes => ?_) nofun fun {byte} _ _ _ visible reads _ more => ?_
  · rw [key, key, skipBlanks_skipBlanks]
  · rw [key, skipBlanks_cons visible] at reads ⊢
    dsimp only at reads ⊢
    by_cases isQuote : byte = 0x22
    · rw [if_pos isQuote] at reads ⊢
      exact Quotation.readFrom_append reads more
    · rw [if_neg isQuote] at reads
      cases reads

end

/-! ### Numbers -/

namespace Number

variable {bytes rest : Bytes} {number : Number}

/-- Digits end in front of a byte that is none. -/
theorem digits_append (left : bytes.dropWhile isDigitByte ≠ []) (more : Bytes) :
    (bytes ++ more).takeWhile isDigitByte = bytes.takeWhile isDigitByte ∧
      (bytes ++ more).dropWhile isDigitByte = bytes.dropWhile isDigitByte ++ more := by
  constructor
  · rw [List.takeWhile_append, if_neg]
    intro all
    apply left
    have parts := congrArg List.length (List.takeWhile_append_dropWhile (p := isDigitByte) (l := bytes))
    rw [List.length_append, all] at parts
    exact List.length_eq_zero_iff.mp (by omega)
  · rw [List.dropWhile_append, if_neg (mt List.isEmpty_iff.mp left)]

/-- What is made of a number does not depend on what is left behind it. -/
def IgnoresRest (verdict : Bytes → Except Fault (Number × Bytes)) : Prop :=
  ∀ rest, verdict rest = (verdict []).map fun taken => (taken.1, rest)

theorem IgnoresRest.append {verdict : Bytes → Except Fault (Number × Bytes)}
    (ignores : IgnoresRest verdict) (reads : verdict bytes = .ok (number, rest)) :
    bytes = rest ∧ ∀ more, verdict (bytes ++ more) = .ok (number, rest ++ more) := by
  rw [ignores] at reads
  cases given : verdict [] with
  | error fault =>
    rw [given] at reads
    cases reads
  | ok taken =>
    rw [given] at reads
    obtain ⟨rfl, rfl⟩ := Prod.mk.inj (Except.ok.inj reads)
    exact ⟨rfl, fun more => by rw [ignores, given]; rfl⟩

theorem real?_ignores (significand : Nat) (exponent : Int) :
    IgnoresRest (real? significand exponent) := by
  intro rest
  unfold real?
  split <;> rfl

theorem whole_ignores (negative : Bool) (gathered : Gathered) :
    IgnoresRest (whole negative gathered) := by
  intro rest
  unfold whole
  split
  · exact real?_ignores _ _ rest
  · split
    · split <;> rfl
    · rfl

/-- The sign of an exponent, and the bytes behind it. -/
def exponentSign (bytes : Bytes) : Bool × Bytes :=
  match bytes with
  | 0x2B :: rest => (false, rest)
  | 0x2D :: rest => (true, rest)
  | _ => (false, bytes)

/-- Reads the digits of an exponent behind its sign. -/
def readSigned (significand : Nat) (scale : Int) (signed : Bool × Bytes) :
    Except Fault (Number × Bytes) :=
  match signed.2 with
  | [] => .error .endOfInput
  | byte :: _ =>
    if isDigitByte byte then
      let size : Int := exponentOf (signed.2.takeWhile isDigitByte)
      real? significand (if signed.1 then scale - size else scale + size)
        (signed.2.dropWhile isDigitByte)
    else .error .malformed

theorem readExponent_eq (significand : Nat) (scale : Int) (bytes : Bytes) :
    readExponent significand scale bytes = readSigned significand scale (exponentSign bytes) := by
  rfl

theorem exponentSign_append (left : (exponentSign bytes).2 ≠ []) (more : Bytes) :
    exponentSign (bytes ++ more) = ((exponentSign bytes).1, (exponentSign bytes).2 ++ more) := by
  rcases bytes with _ | ⟨byte, bytes⟩
  · exact absurd rfl left
  · by_cases plus : byte = 0x2B
    · subst plus
      rfl
    · by_cases minus : byte = 0x2D
      · subst minus
        rfl
      · have unsigned (rest : Bytes) : exponentSign (byte :: rest) = (false, byte :: rest) := by
          unfold exponentSign
          split <;> simp_all
        rw [List.cons_append, unsigned, unsigned]
        rfl

theorem readExponent_append {significand : Nat} {scale : Int}
    (reads : readExponent significand scale bytes = .ok (number, rest)) (left : rest ≠ [])
    (more : Bytes) :
    readExponent significand scale (bytes ++ more) = .ok (number, rest ++ more) := by
  rw [readExponent_eq] at reads ⊢
  have nonempty : (exponentSign bytes).2 ≠ [] := by
    intro empty
    rw [readSigned, empty] at reads
    cases reads
  rw [exponentSign_append nonempty more]
  generalize exponentSign bytes = signed at reads nonempty ⊢
  obtain ⟨negative, bytes⟩ := signed
  obtain ⟨byte, bytes, rfl⟩ := List.exists_cons_of_ne_nil nonempty
  unfold readSigned at reads ⊢
  dsimp only [List.cons_append] at reads ⊢
  by_cases isDigit : isDigitByte byte = true
  · rw [if_pos isDigit] at reads ⊢
    obtain ⟨behind, goesOn⟩ := (real?_ignores _ _).append reads
    have stops : (byte :: bytes).dropWhile isDigitByte ≠ [] := behind ▸ left
    obtain ⟨taken, dropped⟩ := digits_append stops more
    rw [← List.cons_append, taken, dropped]
    exact goesOn more
  · rw [if_neg isDigit] at reads
    cases reads

theorem readAfterFraction_append {significand : Nat} {scale : Int}
    (reads : readAfterFraction significand scale bytes = .ok (number, rest)) (left : rest ≠ [])
    (more : Bytes) :
    readAfterFraction significand scale (bytes ++ more) = .ok (number, rest ++ more) := by
  unfold readAfterFraction at reads
  split at reads
  · exact readExponent_append reads left more
  · exact readExponent_append reads left more
  · rename_i noMark noCapital
    obtain ⟨rfl, goesOn⟩ := (real?_ignores _ _).append reads
    obtain ⟨byte, bytes, rfl⟩ := List.exists_cons_of_ne_nil left
    have other : readAfterFraction significand scale (byte :: bytes ++ more) =
        real? significand scale (byte :: bytes ++ more) := by
      unfold readAfterFraction
      rw [List.cons_append]
      split <;> simp_all
    rw [other]
    exact goesOn more

/-- Nothing is left behind digits with which the bytes end. -/
theorem readAfterFraction_nil {significand : Nat} {scale : Int}
    (reads : readAfterFraction significand scale [] = .ok (number, rest)) : rest = [] :=
  ((real?_ignores _ _).append reads).1.symm

theorem readFraction_append {significand : Nat} {scale : Int}
    (reads : readFraction significand scale bytes = .ok (number, rest)) (left : rest ≠ [])
    (more : Bytes) :
    readFraction significand scale (bytes ++ more) = .ok (number, rest ++ more) := by
  rcases bytes with _ | ⟨byte, bytes⟩
  · cases reads
  · unfold readFraction at reads ⊢
    dsimp only [List.cons_append] at reads ⊢
    by_cases isDigit : isDigitByte byte = true
    · rw [if_pos isDigit] at reads ⊢
      have stops : (byte :: bytes).dropWhile isDigitByte ≠ [] := by
        intro empty
        rw [empty] at reads
        exact left (readAfterFraction_nil reads)
      obtain ⟨taken, dropped⟩ := digits_append stops more
      rw [← List.cons_append, taken, dropped]
      exact readAfterFraction_append reads left more
    · rw [if_neg isDigit] at reads
      cases reads

theorem readAfterWhole_append {negative : Bool} {gathered : Gathered}
    (reads : readAfterWhole negative gathered bytes = .ok (number, rest)) (left : rest ≠ [])
    (more : Bytes) :
    readAfterWhole negative gathered (bytes ++ more) = .ok (number, rest ++ more) := by
  unfold readAfterWhole at reads
  split at reads
  · exact readFraction_append reads left more
  · exact readExponent_append reads left more
  · exact readExponent_append reads left more
  · rename_i noPoint noMark noCapital
    obtain ⟨rfl, goesOn⟩ := (whole_ignores _ _).append reads
    obtain ⟨byte, bytes, rfl⟩ := List.exists_cons_of_ne_nil left
    have other : readAfterWhole negative gathered (byte :: bytes ++ more) =
        whole negative gathered (byte :: bytes ++ more) := by
      unfold readAfterWhole
      rw [List.cons_append]
      split <;> simp_all
    rw [other]
    exact goesOn more

theorem readAfterWhole_nil {negative : Bool} {gathered : Gathered}
    (reads : readAfterWhole negative gathered [] = .ok (number, rest)) : rest = [] :=
  ((whole_ignores _ _).append reads).1.symm

theorem readMagnitude_append {negative : Bool}
    (reads : readMagnitude negative bytes = .ok (number, rest)) (left : rest ≠ []) (more : Bytes) :
    readMagnitude negative (bytes ++ more) = .ok (number, rest ++ more) := by
  rcases bytes with _ | ⟨byte, bytes⟩
  · cases reads
  · unfold readMagnitude at reads ⊢
    dsimp only [List.cons_append] at reads ⊢
    by_cases isZero : byte = 0x30
    · rw [if_pos isZero] at reads ⊢
      rcases bytes with _ | ⟨next, bytes⟩
      · exact absurd (readAfterWhole_nil reads) left
      · dsimp only [List.cons_append] at reads ⊢
        by_cases isDigit : isDigitByte next = true
        · rw [if_pos isDigit] at reads
          cases reads
        · rw [if_neg isDigit] at reads ⊢
          exact readAfterWhole_append reads left more
    · rw [if_neg isZero] at reads ⊢
      by_cases isDigit : isDigitByte byte = true
      · rw [if_pos isDigit] at reads ⊢
        have stops : (byte :: bytes).dropWhile isDigitByte ≠ [] := by
          intro empty
          rw [empty] at reads
          exact left (readAfterWhole_nil reads)
        obtain ⟨taken, dropped⟩ := digits_append stops more
        rw [← List.cons_append, taken, dropped]
        exact readAfterWhole_append reads left more
      · rw [if_neg isDigit] at reads
        cases reads

/-- **A number is over** as soon as a byte follows that cannot belong to it. -/
theorem read_append (reads : read bytes = .ok (number, rest)) (left : rest ≠ []) (more : Bytes) :
    read (bytes ++ more) = .ok (number, rest ++ more) := by
  rcases bytes with _ | ⟨byte, bytes⟩
  · cases reads
  · by_cases minus : byte = 0x2D
    · subst minus
      have readsRest : readMagnitude true bytes = .ok (number, rest) := reads
      exact readMagnitude_append readsRest left more
    · have unsigned (later : Bytes) :
          read (byte :: later) = readMagnitude false (byte :: later) := by
        unfold read
        split <;> simp_all
      rw [unsigned] at reads
      rw [List.cons_append, unsigned]
      exact readMagnitude_append reads left more

end Number

section

variable {α β : Type} {peeks : Bool} {read : Reader α}

theorem integer_steady (low high : Int) : Steady true (integer low high) := by
  refine .of_shown (fun bytes => ?_) nofun fun {byte _ _ _} visible reads left more => ?_
  · unfold integer
    dsimp only
    rw [skipBlanks_skipBlanks]
  · unfold integer at reads ⊢
    dsimp only at reads ⊢
    rw [skipBlanks_cons visible] at reads ⊢
    dsimp only at reads ⊢
    by_cases starts : byte = 0x2D ∨ isDigitByte byte = true
    · rw [if_pos starts] at reads ⊢
      obtain ⟨⟨number, behind⟩, isNumber, given⟩ := of_bind_eq_ok reads
      cases number with
      | integer found =>
        dsimp only at given
        by_cases inRange : low ≤ found ∧ found ≤ high
        · rw [if_pos inRange] at given
          obtain ⟨rfl, rfl⟩ := Prod.mk.inj (Except.ok.inj given)
          rw [← List.cons_append, Number.read_append isNumber (left rfl) more]
          exact if_pos inRange
        · rw [if_neg inRange] at given
          cases given
      | real => cases given
    · rw [if_neg starts] at reads
      cases reads

/-! ### Values that may be null -/

theorem nullable_of_visible {byte : UInt8} (visible : isBlankByte byte = false) (bytes : Bytes) :
    nullable read (byte :: bytes) = if byte = 0x6E then word "ull" none bytes
      else read (byte :: bytes) >>= fun taken => .ok (some taken.1, taken.2) := by
  rw [nullable, skipBlanks_cons visible]
  split
  · rename_i same
    obtain ⟨rfl, rfl⟩ := List.cons.inj same
    rfl
  · rename_i noNull
    rw [if_neg fun same => noNull bytes (by rw [same])]
    rfl

theorem nullable_steady (steady : Steady peeks read) : Steady peeks (nullable read) := by
  refine .of_shown (fun bytes => ?_) (fun result done => ?_) fun {byte _ _ _} visible reads left more => ?_
  · rw [nullable, nullable, skipBlanks_skipBlanks]
  · obtain ⟨taken, reads, -⟩ := of_bind_eq_ok done
    exact steady.nothing _ reads
  · rw [nullable_of_visible visible] at reads ⊢
    by_cases isNull : byte = 0x6E
    · rw [if_pos isNull] at reads ⊢
      exact word_more reads more
    · rw [if_neg isNull] at reads ⊢
      exact (steady.map some).append reads left more

theorem orNull_steady (steady : Steady peeks read) (missing : α) :
    Steady peeks (orNull read missing) :=
  (nullable_steady steady).map fun value => value.getD missing

theorem ofReader_steady {σ : Type} (steady : Steady peeks read) (name : String) (required : Bool)
    (put : α → σ → σ) : Steady peeks (Member.ofReader name required read put).read :=
  steady.map put

/-! ### Values passed over -/

/-- Nothing is left where the bytes end. -/
theorem Skip.eq_nil_of_ending {place : Place} {stack : List Frame} {rest : Bytes}
    (ends : ending place stack = .ok rest) : rest = [] := by
  unfold ending at ends
  split at ends
  case h_5 | h_6 => cases ends
  all_goals
    split at ends
    · exact (Except.ok.inj ends).symm
    · cases ends

/-- **A value that is passed over** is over as soon as a byte follows that cannot belong to it. One that
ended with the bytes, as a number may, has left nothing. -/
theorem Skip.skipFrom_append {place : Place} {stack : List Frame} {bytes rest : Bytes}
    (skips : skipFrom place stack bytes = .ok rest) (left : rest ≠ []) (more : Bytes) :
    skipFrom place stack (bytes ++ more) = .ok (rest ++ more) := by
  induction bytes generalizing place stack with
  | nil => exact absurd (eq_nil_of_ending skips) left
  | cons byte bytes ih =>
    rw [List.cons_append]
    unfold skipFrom at skips ⊢
    cases moves : move place stack byte with
    | go next stillOpen =>
      rw [moves] at skips
      exact ih skips
    | last | past =>
      rw [moves] at skips
      obtain rfl := Except.ok.inj skips
      rfl
    | fail =>
      rw [moves] at skips
      cases skips

theorem colon_append {bytes rest : Bytes} (reads : colon bytes = .ok rest) (more : Bytes) :
    colon (bytes ++ more) = .ok (rest ++ more) := by
  unfold colon at reads
  cases start : skipBlanks bytes with
  | nil =>
    rw [start] at reads
    cases reads
  | cons byte later =>
    rw [start] at reads
    dsimp only at reads
    by_cases isColon : byte = 0x3A
    · rw [if_pos isColon] at reads
      obtain rfl := Except.ok.inj reads
      rw [colon, skipBlanks_append start]
      exact if_pos isColon
    · rw [if_neg isColon] at reads
      cases reads

/-! ### Lists -/

theorem nextItem_steady (isFirst : Bool) : Steady false (nextItem isFirst) := by
  refine .of_shown (fun bytes => ?_) nofun fun {byte bytes _ _} visible reads _ more => ?_
  · rw [nextItem, nextItem, skipBlanks_skipBlanks]
  · rw [nextItem, skipBlanks_cons visible] at reads ⊢
    dsimp only at reads ⊢
    split_ifs at reads ⊢
    · obtain ⟨rfl, rfl⟩ := Prod.mk.inj (Except.ok.inj reads)
      rfl
    · obtain ⟨rfl, rfl⟩ := Prod.mk.inj (Except.ok.inj reads)
      rfl
    · cases start : skipBlanks bytes with
      | nil =>
        rw [start] at reads
        cases reads
      | cons next later =>
        rw [start] at reads
        rw [skipBlanks_append start]
        dsimp only at reads ⊢
        split_ifs at reads ⊢
        obtain ⟨rfl, rfl⟩ := Prod.mk.inj (Except.ok.inj reads)
        rfl

/-- **The items of an array** go on to its closing bracket, so that each of them is seen to be over. -/
theorem itemsFrom_append (steady : Steady true read) {rounds bytes rest : Bytes} {isFirst : Bool}
    {done values : List α} (reads : itemsFrom read rounds isFirst done bytes = .ok (values, rest))
    (later more : Bytes) :
    itemsFrom read (rounds ++ later) isFirst done (bytes ++ more) = .ok (values, rest ++ more) := by
  induction rounds generalizing isFirst done bytes with
  | nil => cases reads
  | cons round rounds ih =>
    obtain ⟨⟨another, behind⟩, isNext, goesOn⟩ := of_bind_eq_ok reads
    show nextItem isFirst (bytes ++ more) >>= _ = _
    rw [(nextItem_steady isFirst).append isNext nofun more]
    dsimp only at goesOn
    cases another with
    | true =>
      obtain ⟨⟨value, left⟩, isItem, itemsLeft⟩ := of_bind_eq_ok goesOn
      have nonempty : left ≠ [] := by
        rintro rfl
        cases rounds with
        | nil => cases itemsLeft
        | cons round rounds =>
          obtain ⟨next, isNext, -⟩ := of_bind_eq_ok itemsLeft
          exact (nextItem_steady false).nothing _ isNext
      show read (behind ++ more) >>= _ = _
      rw [steady.append isItem (fun _ => nonempty) more]
      exact ih itemsLeft
    | false =>
      obtain ⟨rfl, rfl⟩ := Prod.mk.inj (Except.ok.inj goesOn)
      rfl

theorem items_steady (steady : Steady true read) : Steady false (items read) := by
  refine .of_shown (fun bytes => ?_) nofun fun visible reads _ more => ?_
  · rw [items, items, skipBlanks_skipBlanks]
  · rw [items, skipBlanks_cons visible] at reads ⊢
    split at reads
    · rename_i same
      obtain ⟨rfl, rfl⟩ := List.cons.inj same
      exact itemsFrom_append steady reads more more
    · cases reads

/-! ### Records -/

theorem nextKey_steady (isFirst : Bool) : Steady false (nextKey isFirst) := by
  refine .of_shown (fun bytes => ?_) nofun fun {byte bytes _ _} visible reads _ more => ?_
  · rw [nextKey, nextKey, skipBlanks_skipBlanks]
  · rw [nextKey, skipBlanks_cons visible] at reads ⊢
    dsimp only at reads ⊢
    split_ifs at reads ⊢
    · obtain ⟨rfl, rfl⟩ := Prod.mk.inj (Except.ok.inj reads)
      rfl
    · exact (key_steady.map some).append reads nofun more
    · exact (key_steady.map some).append reads nofun more

section

variable {σ : Type} {members : List (Member σ)}

/-- A member of an object goes on to a comma or to the brace that closes the object. -/
theorem ne_nil_of_membersFrom {rounds bytes : Bytes} {isFirst : Bool} {seen : List String}
    {draft : σ} {result : σ × Bytes}
    (reads : membersFrom members rounds isFirst seen draft bytes = .ok result) : bytes ≠ [] := by
  rintro rfl
  cases rounds with
  | nil => cases reads
  | cons round rounds =>
    obtain ⟨next, isNext, -⟩ := of_bind_eq_ok reads
    exact (nextKey_steady isFirst).nothing _ isNext

variable (steady : ∀ member ∈ members, Steady true member.read)

include steady

/-- **The members of an object** go on to its closing brace, so that the value of each of them is seen
to be over, also where nobody asked for it. -/
theorem membersFrom_append {rounds bytes rest : Bytes} {isFirst : Bool} {seen : List String}
    {draft value : σ}
    (reads : membersFrom members rounds isFirst seen draft bytes = .ok (value, rest))
    (later more : Bytes) :
    membersFrom members (rounds ++ later) isFirst seen draft (bytes ++ more) =
      .ok (value, rest ++ more) := by
  induction rounds generalizing isFirst seen draft bytes with
  | nil => cases reads
  | cons round rounds ih =>
    obtain ⟨⟨key?, behind⟩, isNext, goesOn⟩ := of_bind_eq_ok reads
    show nextKey isFirst (bytes ++ more) >>= _ = _
    rw [(nextKey_steady isFirst).append isNext nofun more]
    cases key? with
    | none =>
      dsimp only at goesOn
      split at goesOn
      · rename_i complete
        obtain ⟨rfl, rfl⟩ := Prod.mk.inj (Except.ok.inj goesOn)
        exact if_pos complete
      · cases goesOn
    | some key =>
      dsimp only [bind, Except.bind]
      dsimp only at goesOn
      cases found : members.find? fun member => member.name == key with
      | some member =>
        rw [found] at goesOn
        dsimp only at goesOn ⊢
        split at goesOn
        · cases goesOn
        · rename_i fresh
          obtain ⟨behindColon, isColon, goesOn⟩ := of_bind_eq_ok goesOn
          obtain ⟨⟨put, left⟩, isMember, membersLeft⟩ := of_bind_eq_ok goesOn
          have nonempty := ne_nil_of_membersFrom membersLeft
          have isSteady := steady member (List.mem_of_find?_eq_some found)
          rw [if_neg fresh]
          show colon (behind ++ more) >>= _ = _
          rw [colon_append isColon more]
          show member.read (behindColon ++ more) >>= _ = _
          rw [isSteady.append isMember (fun _ => nonempty) more]
          exact ih membersLeft
      | none =>
        rw [found] at goesOn
        obtain ⟨behindColon, isColon, goesOn⟩ := of_bind_eq_ok goesOn
        obtain ⟨left, isSkipped, membersLeft⟩ := of_bind_eq_ok goesOn
        have nonempty := ne_nil_of_membersFrom membersLeft
        show colon (behind ++ more) >>= _ = _
        rw [colon_append isColon more]
        show skip (behindColon ++ more) >>= _ = _
        rw [skip, Skip.skipFrom_append isSkipped nonempty more]
        exact ih membersLeft

/-- **The members of an array** go on to its closing bracket. -/
theorem membersInOrder_append {bytes rest : Bytes} {isFirst : Bool} {draft value : σ}
    (reads : membersInOrder isFirst draft members bytes = .ok (value, rest)) (more : Bytes) :
    membersInOrder isFirst draft members (bytes ++ more) = .ok (value, rest ++ more) := by
  induction members generalizing isFirst draft bytes with
  | nil =>
    unfold membersInOrder at reads ⊢
    cases start : skipBlanks bytes with
    | nil =>
      rw [start] at reads
      cases reads
    | cons byte behind =>
      rw [start] at reads
      rw [skipBlanks_append start]
      dsimp only at reads ⊢
      split_ifs at reads ⊢
      obtain ⟨rfl, rfl⟩ := Prod.mk.inj (Except.ok.inj reads)
      rfl
  | cons member later ih =>
    obtain ⟨⟨another, behind⟩, isNext, goesOn⟩ := of_bind_eq_ok reads
    show nextItem isFirst (bytes ++ more) >>= _ = _
    rw [(nextItem_steady isFirst).append isNext nofun more]
    dsimp only at goesOn
    cases another with
    | true =>
      obtain ⟨⟨put, left⟩, isMember, membersLeft⟩ := of_bind_eq_ok goesOn
      have nonempty : left ≠ [] := by
        rintro rfl
        cases later with
        | nil => cases membersLeft
        | cons next later =>
          obtain ⟨item, isNext, -⟩ := of_bind_eq_ok membersLeft
          exact (nextItem_steady false).nothing _ isNext
      show member.read (behind ++ more) >>= _ = _
      rw [(steady member List.mem_cons_self).append isMember (fun _ => nonempty) more]
      exact ih (fun member inLater => steady member (List.mem_cons_of_mem _ inLater)) membersLeft
    | false =>
      rw [if_neg Bool.false_ne_true] at goesOn
      split at goesOn
      · cases goesOn
      · rename_i complete
        obtain ⟨rfl, rfl⟩ := Prod.mk.inj (Except.ok.inj goesOn)
        exact if_neg complete

theorem record_steady (draft : σ) : Steady false (record members draft) := by
  refine .of_shown (fun bytes => ?_) nofun fun visible reads _ more => ?_
  · rw [record, record, skipBlanks_skipBlanks]
  · rw [record, skipBlanks_cons visible] at reads ⊢
    split at reads
    · rename_i same
      obtain ⟨rfl, rfl⟩ := List.cons.inj same
      exact membersFrom_append steady reads more more
    · rename_i same
      obtain ⟨rfl, rfl⟩ := List.cons.inj same
      exact membersInOrder_append steady reads more
    · cases reads

end

/-! ### Values that take up all the bytes -/

theorem skipBlanks_eq_nil_iff {bytes : Bytes} : skipBlanks bytes = [] ↔ IsBlanks bytes := by
  rw [skipBlanks, List.dropWhile_eq_nil_iff]
  exact forall_congr' fun byte => forall_congr' fun _ => isBlankByte_iff

/-- **More bytes behind a value that takes up all the bytes:** blanks change nothing, and anything else
is no such value. -/
theorem whole_append (steady : Steady false read) {bytes : Bytes} {value : α}
    (reads : whole read bytes = .ok value) (more : Bytes) :
    whole read (bytes ++ more) = if IsBlanks more then .ok value else .error .malformed := by
  obtain ⟨⟨found, rest⟩, isValue, goesOn⟩ := of_bind_eq_ok reads
  dsimp only at goesOn
  cases left : skipBlanks rest with
  | cons byte behind =>
    rw [left] at goesOn
    cases goesOn
  | nil =>
    rw [left] at goesOn
    obtain rfl := Except.ok.inj goesOn
    have blanks := skipBlanks_eq_nil_iff.mp left
    show read (bytes ++ more) >>= _ = _
    rw [steady.append isValue nofun more]
    show (match skipBlanks (rest ++ more) with
      | [] => _
      | _ :: _ => _) = _
    rw [blanks.skipBlanks_append]
    by_cases isBlanks : IsBlanks more
    · rw [if_pos isBlanks, skipBlanks_eq_nil_iff.mpr isBlanks]
      rfl
    · rw [if_neg isBlanks]
      obtain ⟨byte, behind, shown⟩ :=
        List.exists_cons_of_ne_nil (mt skipBlanks_eq_nil_iff.mp isBlanks)
      rw [shown]

end

end MediaTrail.Json
