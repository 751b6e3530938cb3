/-
**What single values are read as.** A reader gives a value for a text, or refuses it, wherever the text
stands: behind blanks, and in front of anything that may follow a value.

* `Gives`: what a reader makes of a text;
* `text_gives`, `boolean_gives`, `integer_gives`: values of the kind that is asked for;
* `text_refuses`, `boolean_refuses`: values of another kind;
* `orNull_null`, `orNull_gives`: values that may be null.
-/

import Mathlib.Data.List.TakeWhile
import MediaTrail.Json.Kind
import MediaTrail.Proofs.JsonSkip

namespace MediaTrail.Json

open Text (Bytes)

/-- Reading ends with this outcome, which is nothing if it stops at a fault. -/
def Ends {β : Type} (result : Except Fault β) (outcome : Option β) : Prop :=
  match outcome with
  | some value => result = .ok value
  | none => ∃ fault, result = .error fault

/-- **What a reader makes of a text, wherever it stands:** a value, or nothing if it stops there. -/
def Gives {α : Type} (read : Reader α) (text : Bytes) (outcome : Option α) : Prop :=
  ∀ blanks rest, IsBlanks blanks → Stops rest →
    Ends (read (blanks ++ (text ++ rest))) (outcome.map fun value => (value, rest))

/-- What goes on behind a value ends as it does behind that value. -/
theorem Ends.bind {β γ : Type} {result : Except Fault β} {value : β} {next : β → Except Fault γ}
    {outcome : Option γ} (first : Ends result (some value)) (later : Ends (next value) outcome) :
    Ends (result >>= next) outcome := by
  rw [show result = .ok value from first]
  exact later

theorem Ends.bind_none {β γ : Type} {result : Except Fault β} (refused : Ends result none)
    (next : β → Except Fault γ) : Ends (result >>= next) none := by
  obtain ⟨fault, stopped⟩ := refused
  rw [stopped]
  exact ⟨fault, rfl⟩

/-- A reader makes of a text only one thing. -/
theorem Gives.unique {α : Type} {read : Reader α} {text : Bytes} {outcome other : Option α}
    (gives : Gives read text outcome) (givesToo : Gives read text other) : outcome = other := by
  have one := gives [] [] isBlanks_nil stops_nil
  have two := givesToo [] [] isBlanks_nil stops_nil
  cases outcome with
  | some value =>
    have reads : read ([] ++ (text ++ [])) = .ok (value, []) := one
    cases other with
    | some otherValue =>
      have readsToo : read ([] ++ (text ++ [])) = .ok (otherValue, []) := two
      rw [reads] at readsToo
      rw [(Prod.mk.inj (Except.ok.inj readsToo)).1]
    | none =>
      obtain ⟨fault, refuses⟩ := two
      rw [reads] at refuses
      cases refuses
  | none =>
    obtain ⟨fault, refuses⟩ := one
    cases other with
    | some otherValue =>
      have readsToo : read ([] ++ (text ++ [])) = .ok (otherValue, []) := two
      rw [refuses] at readsToo
      cases readsToo
    | none => rfl

theorem skipBlanks_shown {blanks more : Bytes} {byte : UInt8} (isBlanks : IsBlanks blanks)
    (visible : isBlankByte byte = false) : skipBlanks (blanks ++ byte :: more) = byte :: more := by
  rw [isBlanks.skipBlanks_append, skipBlanks_cons visible]

/-! ### Texts and truth values -/

theorem text_gives {text : String} {bytes : Bytes} (isText : IsText text bytes) :
    Gives Json.text bytes (some text) := by
  obtain ⟨body, spells, rfl⟩ := isText
  intro blanks rest isBlanks _
  show Json.text _ = _
  rw [Json.text, quote, List.cons_append, skipBlanks_shown isBlanks (by decide), List.append_assoc]
  exact Quotation.read_of_spells spells rest

theorem text_refuses {value : Bytes} (isValue : IsValue value) (noText : ∀ body, value ≠ quote body) :
    Gives Json.text value none := by
  obtain ⟨byte, more, parts, shows⟩ := isValue.shows
  intro blanks rest isBlanks _
  show ∃ fault, Json.text _ = _
  rw [Json.text, parts, List.cons_append, skipBlanks_shown isBlanks shows.visible]
  split
  · rename_i same
    obtain ⟨body, -, isQuotation⟩ := shows.isQuotation (List.cons.inj same).1
    exact absurd isQuotation (noText body)
  · exact ⟨_, rfl⟩

/-- Of any value it is certain what is made of it where a text is asked for. -/
theorem text_settled {value : Bytes} (isValue : IsValue value) :
    ∃ outcome, Gives Json.text value outcome := by
  by_cases isQuotation : ∃ body, IsQuoted body ∧ value = quote body
  · obtain ⟨body, isQuoted, rfl⟩ := isQuotation
    have opened : ∀ {blanks rest : Bytes}, IsBlanks blanks →
        Json.text (blanks ++ (quote body ++ rest)) = Quotation.read (body ++ 0x22 :: rest) := by
      intro blanks rest isBlanks
      rw [Json.text, quote, List.cons_append, skipBlanks_shown isBlanks (by decide),
        List.append_assoc]
      rfl
    rcases (Quotation.decides_of_isQuoted isQuoted).1 [] with ⟨text, reads⟩ | ⟨fault, refuses⟩
    · exact ⟨some text, fun blanks rest isBlanks _ => (opened isBlanks).trans (reads rest)⟩
    · exact ⟨none, fun blanks rest isBlanks _ => ⟨fault, (opened isBlanks).trans (refuses rest)⟩⟩
  · refine ⟨none, text_refuses isValue fun body same => isQuotation ?_⟩
    obtain ⟨byte, more, parts, shows⟩ := isValue.shows
    exact shows.isQuotation (List.cons.inj (parts.symm.trans same)).1

theorem word_append {α : Type} {more : String} {bytes : Bytes} (value : α)
    (same : ascii more = bytes) (rest : Bytes) : word more value (bytes ++ rest) = .ok (value, rest) := by
  rw [word, same, literal_append]
  rfl

theorem boolean_gives (value : Bool) : Gives boolean (truthText value) (some value) := by
  intro blanks rest isBlanks _
  show boolean _ = _
  cases value with
  | true =>
    rw [boolean, truthText, if_pos rfl, List.cons_append, skipBlanks_shown isBlanks (by decide)]
    exact word_append true rfl rest
  | false =>
    rw [boolean, truthText, if_neg Bool.false_ne_true, List.cons_append,
      skipBlanks_shown isBlanks (by decide)]
    exact word_append false rfl rest

theorem boolean_refuses {value : Bytes} (isValue : IsValue value)
    (noTruth : ∀ truth, value ≠ truthText truth) : Gives boolean value none := by
  obtain ⟨byte, more, parts, shows⟩ := isValue.shows
  intro blanks rest isBlanks _
  show ∃ fault, boolean _ = _
  rw [boolean, parts, List.cons_append, skipBlanks_shown isBlanks shows.visible]
  split
  · rename_i same
    obtain ⟨truth, isTruth⟩ := shows.isTruth (Or.inl (List.cons.inj same).1)
    exact absurd isTruth (noTruth truth)
  · rename_i same
    obtain ⟨truth, isTruth⟩ := shows.isTruth (Or.inr (List.cons.inj same).1)
    exact absurd isTruth (noTruth truth)
  · exact ⟨_, rfl⟩

theorem boolean_settled {value : Bytes} (isValue : IsValue value) :
    ∃ outcome, Gives boolean value outcome := by
  by_cases isTruth : ∃ truth, value = truthText truth
  · obtain ⟨truth, rfl⟩ := isTruth
    exact ⟨some truth, boolean_gives truth⟩
  · exact ⟨none, boolean_refuses isValue fun truth same => isTruth ⟨truth, same⟩⟩

/-! ### Integers -/

theorem takeWhile_digits {digits rest : Bytes} (isDigits : IsDigits digits) (stops : Stops rest) :
    (digits ++ rest).takeWhile isDigitByte = digits ∧
      (digits ++ rest).dropWhile isDigitByte = rest := by
  have all := isDigitByte_of_mem isDigits
  rw [List.takeWhile_append_of_pos all, List.dropWhile_append_of_pos all]
  cases rest with
  | nil => exact ⟨List.append_nil digits, rfl⟩
  | cons byte rest =>
    have noDigit := Bool.eq_false_iff.mp (not_number_of_stops (stops byte rfl)).1
    rw [List.takeWhile_cons_of_neg noDigit, List.dropWhile_cons_of_neg noDigit]
    exact ⟨List.append_nil digits, rfl⟩

theorem le_foldl_digits (digits : Bytes) (value : Nat) :
    value ≤ digits.foldl (fun value digit => value * 10 + (digit.toNat - 0x30)) value := by
  induction digits generalizing value with
  | nil => exact Nat.le_refl value
  | cons digit digits ih =>
    refine Nat.le_trans ?_ (ih _)
    show value ≤ value * 10 + _
    omega

/-- Digits of a number of 64 bits are all taken. -/
theorem gather_of_lt {digits : Bytes} {value taken : Nat}
    (fits : digits.foldl (fun value digit => value * 10 + (digit.toNat - 0x30)) value < UInt64.size) :
    Number.gather value taken digits =
      ⟨digits.foldl (fun value digit => value * 10 + (digit.toNat - 0x30)) value,
        taken + digits.length, 0⟩ := by
  induction digits generalizing value taken with
  | nil => rfl
  | cons digit digits ih =>
    have longer : value * 10 + Number.digitValue digit < UInt64.size :=
      Nat.lt_of_le_of_lt (le_foldl_digits digits _) fits
    rw [Number.gather, if_pos longer, List.foldl_cons, List.length_cons]
    rw [Number.digitValue, ih fits]
    congr 1
    omega

/-- A number without fraction and exponent ends where its digits do. -/
theorem readAfterWhole_of_stops (negative : Bool) (gathered : Number.Gathered) {rest : Bytes}
    (stops : Stops rest) :
    Number.readAfterWhole negative gathered rest = Number.whole negative gathered rest := by
  unfold Number.readAfterWhole
  split
  · exact absurd rfl (not_number_of_stops (stops _ rfl)).2.1
  · exact absurd (Or.inl rfl) (not_number_of_stops (stops _ rfl)).2.2
  · exact absurd (Or.inr rfl) (not_number_of_stops (stops _ rfl)).2.2
  · rfl

/-- An integer part is read as its digits are gathered. -/
theorem readMagnitude_whole {whole rest : Bytes} (isWhole : IsWhole whole) (stops : Stops rest)
    (negative : Bool) : Number.readMagnitude negative (whole ++ rest) =
      Number.whole negative (Number.gather 0 0 whole) rest := by
  cases isWhole with
  | zero =>
    cases rest with
    | nil => rfl
    | cons byte rest =>
      have isZero : Number.readMagnitude negative (0x30 :: byte :: rest) =
          if isDigitByte byte = true then .error .malformed
          else Number.readAfterWhole negative ⟨0, 1, 0⟩ (byte :: rest) := rfl
      have noDigit := Bool.eq_false_iff.mp (not_number_of_stops (stops byte rfl)).1
      rw [List.singleton_append, isZero, if_neg noDigit]
      exact readAfterWhole_of_stops negative _ stops
  | @other first more nonzero isDigits =>
    obtain ⟨taken, dropped⟩ := takeWhile_digits isDigits stops
    have isDigit := isDigitByte_of_mem isDigits first List.mem_cons_self
    rw [List.cons_append] at taken dropped ⊢
    show (if first = 0x30 then _ else if isDigitByte first = true then _ else _) = _
    rw [if_neg nonzero, if_pos isDigit, taken, dropped, readAfterWhole_of_stops negative _ stops]

/-- The integer part of a number of 64 bits is read with its value. -/
theorem readMagnitude_of_isWhole {whole rest : Bytes} (isWhole : IsWhole whole)
    (fits : digitsValue whole < UInt64.size) (stops : Stops rest) (negative : Bool) :
    ∃ taken, Number.readMagnitude negative (whole ++ rest) =
      Number.whole negative ⟨digitsValue whole, taken, 0⟩ rest := by
  refine ⟨0 + whole.length, ?_⟩
  rw [readMagnitude_whole isWhole stops, gather_of_lt fits]
  rfl

/-- What is made of a number where an integer is asked for. -/
def ofNumber (low high : Int) (number : Number) (rest : Bytes) : Except Fault (Int × Bytes) :=
  match number with
  | .integer value => if low ≤ value ∧ value ≤ high then .ok (value, rest) else .error .mismatched
  | .real => .error .mismatched

/-- Where an integer is asked for, whatever starts as a number is read as one. -/
theorem integer_eq_bind {low high : Int} {blanks bytes : Bytes} {byte : UInt8}
    (isBlanks : IsBlanks blanks) (starts : byte = 0x2D ∨ 0x30 ≤ byte ∧ byte ≤ 0x39) :
    integer low high (blanks ++ byte :: bytes) = (Number.read (byte :: bytes) >>= fun given =>
      ofNumber low high given.1 given.2) := by
  have shows : Shows [] byte := by
    refine shows_of_other ?_
    rcases starts with minus | digit
    · exact Or.inl minus
    · exact Or.inr (Or.inr (Or.inr digit))
  have isStart : byte = 0x2D ∨ isDigitByte byte = true := by
    rw [isDigitByte, Bool.and_eq_true, decide_eq_true_eq, decide_eq_true_eq]
    exact starts
  rw [integer, skipBlanks_shown isBlanks shows.visible]
  show (if byte = 0x2D ∨ isDigitByte byte = true then Number.read (byte :: bytes) >>= _ else _) = _
  rw [if_pos isStart]
  rfl

theorem integer_of_read {low high : Int} {blanks bytes rest : Bytes} {byte : UInt8} {number : Number}
    (isBlanks : IsBlanks blanks) (starts : byte = 0x2D ∨ 0x30 ≤ byte ∧ byte ≤ 0x39)
    (reads : Number.read (byte :: bytes) = .ok (number, rest)) :
    integer low high (blanks ++ byte :: bytes) = ofNumber low high number rest := by
  rw [integer_eq_bind isBlanks starts, reads]
  rfl

theorem read_of_digit {byte : UInt8} (digit : 0x30 ≤ byte ∧ byte ≤ 0x39) (bytes : Bytes) :
    Number.read (byte :: bytes) = Number.readMagnitude false (byte :: bytes) := by
  unfold Number.read
  split
  · rename_i same
    rw [(List.cons.inj same).1] at digit
    exact absurd digit (by decide)
  · rfl

/-- A number without a minus sign, and one behind it. -/
theorem read_of_isWhole {whole rest : Bytes} (isWhole : IsWhole whole)
    (fits : digitsValue whole < UInt64.size) (stops : Stops rest) :
    Number.read (whole ++ rest) = .ok (.integer (digitsValue whole), rest) := by
  obtain ⟨taken, magnitude⟩ := readMagnitude_of_isWhole isWhole fits stops false
  have unsigned : Number.read (whole ++ rest) = Number.readMagnitude false (whole ++ rest) := by
    obtain ⟨first, more, rfl⟩ := List.exists_cons_of_ne_nil isWhole.isDigits.1
    exact read_of_digit (isWhole.isDigits.2 first List.mem_cons_self) _
  rw [unsigned, magnitude]
  rfl

theorem read_of_minus {whole rest : Bytes} (isWhole : IsWhole whole)
    (fits : digitsValue whole ≤ 9223372036854775808) (stops : Stops rest) :
    Number.read (0x2D :: (whole ++ rest)) = .ok (if digitsValue whole = 0 then .real
      else .integer (-digitsValue whole), rest) := by
  have small : digitsValue whole < UInt64.size := Nat.lt_of_le_of_lt fits (by decide)
  obtain ⟨taken, magnitude⟩ := readMagnitude_of_isWhole isWhole small stops true
  have signed : Number.read (0x2D :: (whole ++ rest)) = Number.readMagnitude true (whole ++ rest) := rfl
  rw [signed, magnitude]
  unfold Number.whole
  show (if digitsValue whole = 0 ∨ 9223372036854775808 < digitsValue whole then _ else _) = _
  by_cases isZero : digitsValue whole = 0
  · rw [if_pos (Or.inl isZero), if_pos isZero]
  · have inRange : ¬ (digitsValue whole = 0 ∨ 9223372036854775808 < digitsValue whole) := by omega
    rw [if_neg inRange, if_neg isZero]

/-- A number without sign, fraction and exponent is read as what it is, up to the greatest of 64 bits. -/
theorem integer_gives_of_isWhole {low high : Int} {whole : Bytes} (isWhole : IsWhole whole)
    (fits : digitsValue whole < UInt64.size)
    (inRange : low ≤ digitsValue whole ∧ (digitsValue whole : Int) ≤ high) :
    Gives (integer low high) whole (some (digitsValue whole : Int)) := by
  intro blanks rest isBlanks stops
  have reads := read_of_isWhole isWhole fits stops
  obtain ⟨first, more, rfl⟩ := List.exists_cons_of_ne_nil isWhole.isDigits.1
  have digit := isWhole.isDigits.2 first List.mem_cons_self
  refine (integer_of_read isBlanks (Or.inr digit) reads).trans ?_
  rw [ofNumber, if_pos inRange]

/-- **An integer within the bounds is read as what it is,** but for a zero with a minus sign, which is
refused. -/
theorem integer_gives {value low high : Int} {text : Bytes} (isInteger : IsInteger value text)
    (least : -9223372036854775808 ≤ low) (most : high ≤ 9223372036854775807)
    (inRange : low ≤ value ∧ value ≤ high) :
    Gives (integer low high) text (some value) ∨ value = 0 ∧ Gives (integer low high) text none := by
  obtain ⟨whole, isWhole, ⟨rfl, rfl⟩ | ⟨rfl, rfl⟩⟩ := isInteger
  · have fits : digitsValue text < UInt64.size := by
      have below : (digitsValue text : Int) ≤ 9223372036854775807 := Int.le_trans inRange.2 most
      have size : UInt64.size = 18446744073709551616 := rfl
      omega
    exact Or.inl (integer_gives_of_isWhole isWhole fits inRange)
  · have fits : digitsValue whole ≤ 9223372036854775808 := by
      have above := Int.le_trans least inRange.1
      omega
    by_cases isZero : digitsValue whole = 0
    · refine Or.inr ⟨by rw [isZero]; rfl, fun blanks rest isBlanks stops => ⟨.mismatched, ?_⟩⟩
      have reads := read_of_minus isWhole fits stops
      rw [if_pos isZero] at reads
      exact integer_of_read isBlanks (Or.inl rfl) reads
    · refine Or.inl fun blanks rest isBlanks stops => ?_
      have reads := read_of_minus isWhole fits stops
      rw [if_neg isZero] at reads
      refine (integer_of_read isBlanks (Or.inl rfl) reads).trans ?_
      rw [ofNumber, if_pos inRange]

/-! ### Values that may be null -/

variable {α : Type} {read : Reader α}

theorem orNull_null (read : Reader α) (missing : α) :
    Gives (orNull read missing) nullText (some missing) := by
  intro blanks rest isBlanks _
  have isNull : word "ull" (none : Option α) ([0x75, 0x6C, 0x6C] ++ rest) = .ok (none, rest) :=
    word_append none rfl rest
  show orNull read missing _ = _
  rw [orNull, nullable, nullText, List.cons_append, skipBlanks_shown isBlanks (by decide)]
  show (word "ull" none ([0x75, 0x6C, 0x6C] ++ rest) >>= _) = _
  rw [isNull]
  rfl

/-- Any other value is read as if it could not be null. -/
theorem orNull_gives {value : Bytes} {outcome : Option α} (isValue : IsValue value)
    (notNull : value ≠ nullText) (gives : Gives read value outcome) (missing : α) :
    Gives (orNull read missing) value outcome := by
  obtain ⟨byte, more, parts, shows⟩ := isValue.shows
  intro blanks rest isBlanks stops
  have noN : byte ≠ 0x6E := fun same => notNull (shows.isNull same)
  have passed : orNull read missing (blanks ++ (value ++ rest)) =
      (read (value ++ rest) >>= fun given => .ok ((some given.1).getD missing, given.2)) := by
    rw [orNull, nullable, parts, List.cons_append, skipBlanks_shown isBlanks shows.visible]
    split
    · rename_i same
      exact absurd (List.cons.inj same).1 noN
    · cases read (byte :: (more ++ rest)) <;> rfl
  have here := gives [] rest isBlanks_nil stops
  rw [List.nil_append] at here
  cases outcome with
  | some result =>
    show orNull read missing _ = _
    rw [passed, show read (value ++ rest) = .ok (result, rest) from here]
    rfl
  | none =>
    obtain ⟨fault, refused⟩ := here
    refine ⟨fault, ?_⟩
    rw [passed, refused]
    rfl

/-- Of a value that may be null it is certain what is made of it, if it is of any other value. -/
theorem orNull_settled {value : Bytes} (isValue : IsValue value)
    (settled : ∃ outcome, Gives read value outcome) (missing : α) :
    ∃ outcome, Gives (orNull read missing) value outcome := by
  by_cases isNull : value = nullText
  · exact ⟨some missing, isNull ▸ orNull_null read missing⟩
  · obtain ⟨outcome, gives⟩ := settled
    exact ⟨outcome, orNull_gives isValue isNull gives missing⟩

end MediaTrail.Json
