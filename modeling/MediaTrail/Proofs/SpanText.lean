/-
**Texts of spans.** The text of a span is a sum of decimal numbers, each with its unit. Whoever reads
it back gets the very nanoseconds, so that no two spans have the same text.

Reading knows nothing of how spans are written: it takes any sum, with zeros in front or at the end,
units in any order and more than sixty of each. Writing is taken apart on its own: a span has one of
four forms (`written_amounts`), and each of them makes up the span.

* `read?_amounts`: a sum of amounts is read as the sum of what they stand for;
* `chars_eq_amounts`, `sum_amounts`: a span is written as its amounts, and they make up the span;
* `isCanonical_amounts`: they are in canonical form;
* `text_loses_nothing`: the text of a span says what the span is.
-/

import Mathlib.Data.List.TakeWhile
import Mathlib.Data.Rat.Cast.Order
import Mathlib.Tactic.NormNum
import Mathlib.Algebra.BigOperators.Group.List.Basic
import MediaTrail.Proofs.ColumnTexts

namespace MediaTrail

open Text

namespace Span

/-! ### Sums of amounts -/

/-- What spans are counted in. -/
inductive TimeUnit where
  | hour
  | minute
  | second
  | millisecond
  | microsecond
  | nanosecond
deriving DecidableEq

namespace TimeUnit

/-- How many nanoseconds there are in a unit. -/
def size : TimeUnit → Nat
  | hour => 3600000000000
  | minute => 60000000000
  | second => 1000000000
  | millisecond => 1000000
  | microsecond => 1000
  | nanosecond => 1

def symbol : TimeUnit → String
  | hour => "h"
  | minute => "m"
  | second => "s"
  | millisecond => "ms"
  | microsecond => "µs"
  | nanosecond => "ns"

def all : List TimeUnit := [hour, minute, second, millisecond, microsecond, nanosecond]

theorem size_le_hour (unit : TimeUnit) : unit.size ≤ hour.size := by
  cases unit <;> decide

theorem hour_le_of_minute_lt {unit : TimeUnit} (larger : minute.size < unit.size) :
    hour.size ≤ unit.size := by
  cases unit with
  | hour => exact Nat.le_refl _
  | minute | second | millisecond | microsecond | nanosecond => revert larger; decide

/-- The unit with a symbol. -/
def named? (symbol : List Char) : Option TimeUnit :=
  all.find? fun unit => unit.symbol.toList == symbol

end TimeUnit

/-- What digits behind a point stand for. -/
def fractionOf (digits : List Char) : ℚ := Nat.ofDigitChars 10 digits 0 / 10 ^ digits.length

/-- A number of units: whole ones, and the digits behind the point. -/
structure Amount where
  whole : Nat
  fraction : List Char
  unit : TimeUnit

namespace Amount

/-- The text of an amount, without a point if no digits stand behind it. -/
def text (amount : Amount) : List Char :=
  decimal amount.whole ++ (if amount.fraction.isEmpty then [] else '.' :: amount.fraction) ++
    amount.unit.symbol.toList

/-- The nanoseconds that an amount stands for. -/
def value (amount : Amount) : ℚ :=
  (amount.whole + fractionOf amount.fraction) * amount.unit.size

end Amount

/-! ### Reading -/

/-- The digits behind a point, and what follows them. -/
def readFraction : List Char → List Char × List Char
  | '.' :: text => (text.takeWhile Char.isDigit, text.dropWhile Char.isDigit)
  | text => ([], text)

/-- Whether a character can belong to the symbol of a unit, which ends where a number begins. -/
def isSymbolChar (char : Char) : Bool := !char.isDigit && char != '.'

/-- Reads a decimal number with its unit. -/
def readAmount? (text : List Char) : Option (ℚ × List Char) :=
  let whole := text.takeWhile Char.isDigit
  let (fraction, behind) := readFraction (text.dropWhile Char.isDigit)
  if whole.isEmpty && fraction.isEmpty then none
  else (TimeUnit.named? (behind.takeWhile isSymbolChar)).map fun unit =>
    ((Nat.ofDigitChars 10 whole 0 + fractionOf fraction) * unit.size,
      behind.dropWhile isSymbolChar)

theorem length_readFraction (text : List Char) :
    (readFraction text).1.length + (readFraction text).2.length ≤ text.length := by
  unfold readFraction
  split
  · rename_i rest
    have parts : (rest.takeWhile Char.isDigit ++ rest.dropWhile Char.isDigit).length = rest.length :=
      congrArg List.length List.takeWhile_append_dropWhile
    rw [List.length_append] at parts
    simp only [List.length_cons]
    omega
  · simp

/-- An amount is not empty. -/
theorem length_of_readAmount? {text rest : List Char} {value : ℚ}
    (read : readAmount? text = some (value, rest)) : rest.length < text.length := by
  unfold readAmount? at read
  dsimp only at read
  split at read
  · cases read
  · rename_i digits
    obtain ⟨unit, -, same⟩ := Option.map_eq_some_iff.mp read
    obtain ⟨-, rfl⟩ := Prod.mk.inj same
    have whole : (text.takeWhile Char.isDigit ++ text.dropWhile Char.isDigit).length = text.length :=
      congrArg List.length List.takeWhile_append_dropWhile
    rw [List.length_append] at whole
    have fraction := length_readFraction (text.dropWhile Char.isDigit)
    have behind :=
      ((readFraction (text.dropWhile Char.isDigit)).2.dropWhile_sublist isSymbolChar).length_le
    have anyDigit : (text.takeWhile Char.isDigit).length ≠ 0 ∨
        (readFraction (text.dropWhile Char.isDigit)).1.length ≠ 0 := by
      rw [Bool.and_eq_true, not_and_or] at digits
      simpa only [List.isEmpty_iff, ne_eq, List.length_eq_zero_iff] using digits
    omega

/-- Reads a sum of one or more amounts, in nanoseconds. -/
def read? (text : List Char) : Option ℚ :=
  match _taken : readAmount? text with
  | none => none
  | some (value, rest) => if rest.isEmpty then some value else (read? rest).map (value + ·)
termination_by text.length
decreasing_by exact length_of_readAmount? _taken

/-! ### Reading what was written -/

theorem isDigit_decimal (value : Nat) : ∀ char ∈ decimal value, char.isDigit = true :=
  fun _ member => Nat.isDigit_of_mem_toDigits (by decide) (by decide) member

theorem decimal_ne_nil (value : Nat) : decimal value ≠ [] :=
  Nat.toDigits_ne_nil

theorem ofDigitChars_decimal (value : Nat) : Nat.ofDigitChars 10 (decimal value) 0 = value :=
  Nat.ofDigitChars_ten_toDigits

theorem TimeUnit.named?_symbol (unit : TimeUnit) : named? unit.symbol.toList = some unit := by
  cases unit <;> decide

/-- A text that goes on with a number, or not at all. -/
def StartsNumber (text : List Char) : Prop :=
  ∀ char, text.head? = some char → char.isDigit = true

theorem takeWhile_append_stop {α : Type} {keep : α → Bool} {first : List α} (rest : List α)
    (all : ∀ item ∈ first, keep item = true)
    (stop : ∀ item, rest.head? = some item → keep item = false) :
    (first ++ rest).takeWhile keep = first ∧ (first ++ rest).dropWhile keep = rest := by
  rw [List.takeWhile_append_of_pos all, List.dropWhile_append_of_pos all]
  cases rest with
  | nil => simp
  | cons item rest => simp [stop item rfl]

/-- The symbol of a unit is neither a digit nor a point, so that a number ends in front of it. -/
theorem TimeUnit.head?_symbol (unit : TimeUnit) (rest : List Char) :
    ∀ char, (unit.symbol.toList ++ rest).head? = some char → char.isDigit = false ∧ char ≠ '.' := by
  cases unit <;> simp [TimeUnit.symbol]

theorem readFraction_text {fraction rest : List Char}
    (digits : ∀ char ∈ fraction, char.isDigit = true)
    (stop : ∀ char, rest.head? = some char → char.isDigit = false ∧ char ≠ '.') :
    readFraction ((if fraction.isEmpty then [] else '.' :: fraction) ++ rest) =
      (fraction, rest) := by
  cases fraction with
  | nil =>
    show readFraction rest = _
    unfold readFraction
    split
    · exact absurd rfl (stop '.' rfl).2
    · rfl
  | cons digit more =>
    obtain ⟨taken, dropped⟩ := takeWhile_append_stop rest digits fun char isFirst =>
      (stop char isFirst).1
    show (List.takeWhile _ (digit :: more ++ rest), List.dropWhile _ (digit :: more ++ rest)) = _
    rw [taken, dropped]

/-- **An amount is read as what it stands for**, in front of a number or of nothing. -/
theorem readAmount?_text {amount : Amount}
    (digits : ∀ char ∈ amount.fraction, char.isDigit = true) {rest : List Char}
    (next : StartsNumber rest) :
    readAmount? (amount.text ++ rest) = some (amount.value, rest) := by
  obtain ⟨whole, fraction, unit⟩ := amount
  have symbols : ∀ char ∈ unit.symbol.toList, isSymbolChar char = true := by
    cases unit <;> exact List.all_eq_true.mp (by decide)
  have symbolEnds := takeWhile_append_stop rest symbols fun char isFirst => by
    simp [isSymbolChar, next char isFirst]
  have stop := unit.head?_symbol rest
  have fractionEnds := readFraction_text digits stop
  have wholeEnds := takeWhile_append_stop
    ((if fraction.isEmpty then [] else '.' :: fraction) ++ (unit.symbol.toList ++ rest))
    (isDigit_decimal whole) fun char isFirst => by
      cases fraction with
      | nil => exact (stop char isFirst).1
      | cons digit more =>
        obtain rfl := Option.some.inj isFirst
        rfl
  have nonempty : (decimal whole).isEmpty = false :=
    List.isEmpty_eq_false_iff.mpr (decimal_ne_nil whole)
  unfold readAmount?
  simp only [Amount.text, List.append_assoc, wholeEnds.1, wholeEnds.2, fractionEnds, symbolEnds.1,
    symbolEnds.2, nonempty, Bool.false_and, Bool.false_eq_true, if_false,
    TimeUnit.named?_symbol, Option.map_some, ofDigitChars_decimal]
  rfl

theorem startsNumber_text (amount : Amount) (rest : List Char) :
    StartsNumber (amount.text ++ rest) := by
  intro char isFirst
  rw [Amount.text, List.append_assoc, List.append_assoc,
    List.head?_append_of_ne_nil _ (decimal_ne_nil _)] at isFirst
  exact isDigit_decimal _ char (List.mem_of_mem_head? isFirst)

theorem read?_of_readAmount? {text rest : List Char} {value : ℚ}
    (read : readAmount? text = some (value, rest)) :
    read? text = if rest.isEmpty then some value else (read? rest).map (value + ·) := by
  rw [read?]
  split
  · rename_i unread
    cases unread.symm.trans read
  · rename_i same
    obtain ⟨rfl, rfl⟩ := Prod.mk.inj (Option.some.inj (same.symm.trans read))
    rfl

/-- **A sum of amounts is read as the sum** of what they stand for. -/
theorem read?_amounts {amounts : List Amount} (nonempty : amounts ≠ [])
    (digits : ∀ amount ∈ amounts, ∀ char ∈ amount.fraction, char.isDigit = true) :
    read? (amounts.flatMap Amount.text) = some (amounts.map Amount.value).sum := by
  induction amounts with
  | nil => exact absurd rfl nonempty
  | cons amount later ih =>
    have here := digits amount List.mem_cons_self
    have there := fun other member => digits other (List.mem_cons_of_mem _ member)
    rw [List.flatMap_cons, List.map_cons, List.sum_cons]
    cases later with
    | nil =>
      have next : StartsNumber [] := fun _ isFirst => nomatch isFirst
      rw [List.flatMap_nil, read?_of_readAmount? (readAmount?_text here next), List.map_nil,
        List.sum_nil, add_zero]
      rfl
    | cons second rest =>
      have next := startsNumber_text second (rest.flatMap Amount.text)
      rw [← List.flatMap_cons] at next
      have goesOn : ((second :: rest).flatMap Amount.text).isEmpty = false := by
        simp [Amount.text, decimal_ne_nil]
      rw [read?_of_readAmount? (readAmount?_text here next), goesOn, if_neg Bool.false_ne_true,
        ih (List.cons_ne_nil _ _) there, Option.map_some]

/-! ### How spans are written -/

/-- Only zeros are cut off. -/
theorem exists_trimEndWhere_append (digits : List Char) : ∃ zeros,
    trimEndWhere (· == '0') digits ++ List.replicate zeros '0' = digits := by
  have zeros : ∀ char ∈ digits.reverse.takeWhile (· == '0'), char = '0' := by
    intro char member
    have same : (char == '0') = true := List.mem_takeWhile_imp (p := (· == '0')) member
    exact beq_iff_eq.mp same
  refine ⟨(digits.reverse.takeWhile (· == '0')).length, ?_⟩
  rw [← List.reverse_replicate, ← List.eq_replicate_of_mem zeros, trimEndWhere,
    ← List.reverse_append, List.takeWhile_append_dropWhile, List.reverse_reverse]

theorem getLast?_trimEndWhere_ne (digits : List Char) :
    (trimEndWhere (· == '0') digits).getLast? ≠ some '0' := by
  rw [trimEndWhere, List.getLast?_reverse]
  intro isFirst
  have kept := List.head?_dropWhile_not (· == '0') digits.reverse
  rw [isFirst] at kept
  cases kept

/-- Zeros at the end of a fraction count for nothing. -/
theorem fractionOf_append_zeros (digits : List Char) (zeros : Nat) :
    fractionOf (digits ++ List.replicate zeros '0') = fractionOf digits := by
  have ten : (10 : ℚ) ^ zeros ≠ 0 := pow_ne_zero _ (by norm_num)
  rw [fractionOf, fractionOf, Nat.ofDigitChars_append, Nat.ofDigitChars_replicate_zero,
    List.length_append, List.length_replicate, pow_add, mul_comm ((10 : ℚ) ^ digits.length)]
  push_cast
  exact mul_div_mul_left _ _ ten

theorem fractionOf_trimEndWhere (digits : List Char) :
    fractionOf (trimEndWhere (· == '0') digits) = fractionOf digits := by
  obtain ⟨zeros, parts⟩ := exists_trimEndWhere_append digits
  conv_rhs => rw [← parts]
  exact (fractionOf_append_zeros _ zeros).symm

/-- A number below a unit of so many parts, with zeros in front, is its fraction of the unit. -/
theorem fractionOf_zeroPadded {places value : Nat} (positive : 0 < places)
    (below : value < 10 ^ places) : fractionOf (zeroPadded places value) = value / 10 ^ places := by
  have fits : (decimal value).length ≤ places :=
    (Nat.length_toDigits_le_iff (by decide) positive).mpr below
  have width : (zeroPadded places value).length = places := by
    rw [zeroPadded, List.length_leftpad, Nat.max_eq_left fits]
  rw [fractionOf, width, zeroPadded, List.leftpad, Nat.ofDigitChars_append,
    Nat.ofDigitChars_replicate_zero, Nat.mul_zero, ofDigitChars_decimal]

/-- The amount of so many parts of a unit, which has `places` zeros. -/
def Amount.ofParts (parts places : Nat) (unit : TimeUnit) : Amount where
  whole := parts / 10 ^ places
  fraction :=
    if parts % 10 ^ places = 0 then []
    else trimEndWhere (· == '0') (zeroPadded places (parts % 10 ^ places))
  unit := unit

section

variable (parts places : Nat) (unit : TimeUnit)

/-- The fraction of an amount is what is left of its parts. -/
theorem fractionOf_ofParts : fractionOf (Amount.ofParts parts places unit).fraction =
    (parts % 10 ^ places : Nat) / 10 ^ places := by
  simp only [Amount.ofParts]
  split
  · rename_i whole
    rw [whole]
    simp [fractionOf]
  · rename_i leftOver
    have positive : 0 < places := by
      rcases Nat.eq_zero_or_pos places with rfl | positive
      · rw [pow_zero, Nat.mod_one] at leftOver
        exact absurd rfl leftOver
      · exact positive
    have below : parts % 10 ^ places < 10 ^ places := Nat.mod_lt _ (Nat.pow_pos (by decide))
    rw [fractionOf_trimEndWhere, fractionOf_zeroPadded positive below]

theorem isEmpty_fraction_ofParts :
    (Amount.ofParts parts places unit).fraction.isEmpty = true ↔ parts % 10 ^ places = 0 := by
  rw [List.isEmpty_iff]
  constructor
  · intro empty
    have fraction := fractionOf_ofParts parts places unit
    have ten : (10 : ℚ) ^ places ≠ 0 := pow_ne_zero _ (by norm_num)
    rw [empty, eq_div_iff ten] at fraction
    have zero : ((parts % 10 ^ places : Nat) : ℚ) = 0 := by
      simpa [fractionOf] using fraction.symm
    exact_mod_cast zero
  · intro zero
    simp [Amount.ofParts, zero]

theorem isDigit_fraction_ofParts :
    ∀ char ∈ (Amount.ofParts parts places unit).fraction, char.isDigit = true := by
  intro char member
  simp only [Amount.ofParts] at member
  split at member
  · cases member
  · have inPadded := mem_of_mem_trimEndWhere member
    rw [zeroPadded, List.leftpad, List.mem_append] at inPadded
    rcases inPadded with zero | digit
    · rw [List.eq_of_mem_replicate zero]
      rfl
    · exact isDigit_decimal _ char digit

theorem getLast?_fraction_ofParts :
    (Amount.ofParts parts places unit).fraction.getLast? ≠ some '0' := by
  simp only [Amount.ofParts]
  split
  · nofun
  · exact getLast?_trimEndWhere_ne _

theorem inUnits_eq_text :
    inUnits parts places unit.symbol = (Amount.ofParts parts places unit).text := by
  have empty := isEmpty_fraction_ofParts parts places unit
  simp only [inUnits, Amount.text, empty]
  by_cases whole : parts % 10 ^ places = 0
  · simp only [whole, Amount.ofParts, Nat.pow_eq, if_true]
  · simp only [whole, Amount.ofParts, Nat.pow_eq, if_false]

/-- An amount stands for as many nanoseconds as it has parts. -/
theorem value_ofParts (sized : unit.size = 10 ^ places) :
    (Amount.ofParts parts places unit).value = parts := by
  have ten : (10 : ℚ) ^ places ≠ 0 := pow_ne_zero _ (by norm_num)
  have whole : ((parts / 10 ^ places : Nat) : ℚ) * 10 ^ places + (parts % 10 ^ places : Nat) =
      parts := by
    exact_mod_cast Nat.div_add_mod' parts (10 ^ places)
  have size : ((Amount.ofParts parts places unit).unit.size : ℚ) = 10 ^ places := by
    exact_mod_cast sized
  rw [Amount.value, fractionOf_ofParts, size, add_mul, div_mul_cancel₀ _ ten]
  exact whole

end

/-- The amounts of a span: the largest unit that goes into it, and those below it down to the
second. Below the second one unit is enough. -/
def amounts (span : Span) : List Amount :=
  let parts := span.nanoseconds
  let seconds := Amount.ofParts (parts % TimeUnit.minute.size) 9 .second
  if parts = 0 then [⟨0, [], .second⟩]
  else if parts < TimeUnit.microsecond.size then [.ofParts parts 0 .nanosecond]
  else if parts < TimeUnit.millisecond.size then [.ofParts parts 3 .microsecond]
  else if parts < TimeUnit.second.size then [.ofParts parts 6 .millisecond]
  else if parts < TimeUnit.minute.size then [.ofParts parts 9 .second]
  else if parts < TimeUnit.hour.size then [⟨parts / TimeUnit.minute.size, [], .minute⟩, seconds]
  else [⟨parts / TimeUnit.hour.size, [], .hour⟩,
    ⟨parts % TimeUnit.hour.size / TimeUnit.minute.size, [], .minute⟩, seconds]

/-- From a second on, a span is written as its amounts. -/
theorem clockText_eq_amounts {span : Span} (atLeast : TimeUnit.second.size ≤ span.nanoseconds) :
    span.clockText = span.amounts.flatMap Amount.text := by
  obtain ⟨parts⟩ := span
  have rest := inUnits_eq_text (parts % (60 * perSecond)) 9 .second
  simp only [TimeUnit.symbol, TimeUnit.size, perSecond] at rest atLeast
  have hours : parts / 1000000000 / 3600 = parts / 3600000000000 := by omega
  have minutes : parts / 1000000000 % 3600 / 60 = parts % 3600000000000 / 60000000000 := by omega
  have notBelow : ¬ parts = 0 ∧ ¬ parts < 1000 ∧ ¬ parts < 1000000 ∧ ¬ parts < 1000000000 := by
    omega
  simp only [clockText, amounts, seconds, perSecond, TimeUnit.size, rest, hours, minutes, notBelow,
    if_false]
  by_cases belowHour : parts < 3600000000000
  · have noHour : ¬ 0 < parts / 3600000000000 := by omega
    have inHour : parts % 3600000000000 = parts := Nat.mod_eq_of_lt belowHour
    simp only [belowHour, noHour, inHour, if_true, if_false]
    by_cases belowMinute : parts < 60000000000
    · have noMinute : ¬ 0 < parts / 60000000000 := by omega
      have inMinute : parts % 60000000000 = parts := Nat.mod_eq_of_lt belowMinute
      simp [belowMinute, noMinute, inMinute]
    · have someMinute : 0 < parts / 60000000000 := by omega
      simp [belowMinute, someMinute, Amount.text, TimeUnit.symbol]
  · have someHour : 0 < parts / 3600000000000 := by omega
    have notMinute : ¬ parts < 60000000000 := by omega
    simp [belowHour, someHour, notMinute, Amount.text, TimeUnit.symbol]

/-- **A span is written as its amounts.** -/
theorem chars_eq_amounts (span : Span) : span.chars = span.amounts.flatMap Amount.text := by
  have nanoseconds := inUnits_eq_text span.nanoseconds 0 .nanosecond
  have microseconds := inUnits_eq_text span.nanoseconds 3 .microsecond
  have milliseconds := inUnits_eq_text span.nanoseconds 6 .millisecond
  simp only [TimeUnit.symbol] at nanoseconds microseconds milliseconds
  by_cases atLeast : TimeUnit.second.size ≤ span.nanoseconds
  · rw [← clockText_eq_amounts atLeast]
    simp only [TimeUnit.size] at atLeast
    unfold chars
    rw [if_neg (by omega), if_neg (by omega), if_neg (by omega), if_neg (by omega)]
  · simp only [TimeUnit.size, Nat.not_le] at atLeast
    simp only [chars, amounts, TimeUnit.size, nanoseconds, microseconds, milliseconds, atLeast,
      if_true]
    split
    · rfl
    split
    · simp
    split
    · simp
    · simp

/-- What the amounts of a span can be: none to speak of, parts of one unit, which is the largest that
goes into it, or minutes and hours with what is left of them. -/
inductive Written (span : Span) : List Amount → Prop
  | zero (zero : span.nanoseconds = 0) : Written span [⟨0, [], .second⟩]
  | single (places : Nat) (unit : TimeUnit) (sized : unit.size = 10 ^ places)
    (fits : unit.size ≤ span.nanoseconds)
    (largest : ∀ larger : TimeUnit, unit.size < larger.size → span.nanoseconds < larger.size) :
    Written span [.ofParts span.nanoseconds places unit]
  | minutes (atLeast : TimeUnit.minute.size ≤ span.nanoseconds)
    (below : span.nanoseconds < TimeUnit.hour.size) :
    Written span [⟨span.nanoseconds / TimeUnit.minute.size, [], .minute⟩,
      .ofParts (span.nanoseconds % TimeUnit.minute.size) 9 .second]
  | hours (atLeast : TimeUnit.hour.size ≤ span.nanoseconds) :
    Written span [⟨span.nanoseconds / TimeUnit.hour.size, [], .hour⟩,
      ⟨span.nanoseconds % TimeUnit.hour.size / TimeUnit.minute.size, [], .minute⟩,
      .ofParts (span.nanoseconds % TimeUnit.minute.size) 9 .second]

theorem written_amounts (span : Span) : span.Written span.amounts := by
  obtain ⟨parts⟩ := span
  have largest {unit : TimeUnit} (next : Nat) (below : parts < next)
      (above : ∀ larger : TimeUnit, unit.size < larger.size → next ≤ larger.size) :
      ∀ larger : TimeUnit, unit.size < larger.size → parts < larger.size :=
    fun larger isLarger => Nat.lt_of_lt_of_le below (above larger isLarger)
  unfold amounts
  dsimp only
  split
  · exact .zero ‹_›
  · split
    · rename_i zero below
      refine .single 0 .nanosecond rfl (Nat.pos_of_ne_zero zero) (largest _ below fun larger => ?_)
      cases larger <;> decide
    split
    · rename_i atLeast below
      refine .single 3 .microsecond rfl (Nat.not_lt.mp atLeast) (largest _ below fun larger => ?_)
      cases larger <;> decide
    split
    · rename_i atLeast below
      refine .single 6 .millisecond rfl (Nat.not_lt.mp atLeast) (largest _ below fun larger => ?_)
      cases larger <;> decide
    split
    · rename_i atLeast below
      refine .single 9 .second rfl (Nat.not_lt.mp atLeast) (largest _ below fun larger => ?_)
      cases larger <;> decide
    split
    · rename_i atLeast below
      exact .minutes (Nat.not_lt.mp atLeast) below
    · rename_i atLeast
      exact .hours (Nat.not_lt.mp atLeast)

/-- **The amounts of a span make up the span.** -/
theorem sum_amounts (span : Span) : (span.amounts.map Amount.value).sum = span.nanoseconds := by
  have written := span.written_amounts
  generalize span.amounts = amounts at written ⊢
  have second := value_ofParts (span.nanoseconds % TimeUnit.minute.size) 9 .second rfl
  cases written with
  | zero zero =>
    rw [zero]
    simp [Amount.value, fractionOf]
  | single places unit sized fits largest => simp [value_ofParts _ _ _ sized]
  | minutes atLeast below =>
    rw [List.map_cons, List.map_singleton, List.sum_cons, List.sum_singleton, second]
    have sum := Nat.div_add_mod' span.nanoseconds TimeUnit.minute.size
    simp only [Amount.value, fractionOf, Nat.ofDigitChars_nil]
    simp
    exact_mod_cast sum
  | hours atLeast =>
    rw [List.map_cons, List.map_cons, List.map_singleton, List.sum_cons, List.sum_cons,
      List.sum_singleton, second]
    have sum : span.nanoseconds / TimeUnit.hour.size * TimeUnit.hour.size +
        (span.nanoseconds % TimeUnit.hour.size / TimeUnit.minute.size * TimeUnit.minute.size +
          span.nanoseconds % TimeUnit.minute.size) = span.nanoseconds := by
      simp only [TimeUnit.size]
      omega
    simp only [Amount.value, fractionOf, Nat.ofDigitChars_nil]
    simp
    exact_mod_cast sum

/-! ### One form only -/

/-- How a span has to be written: digits behind the point do not end with a zero, what stands behind a
larger unit is less than sixty of the next, the first unit is the largest of which there is at least
a whole one, and a unit below the second stands alone. -/
structure IsCanonical (span : Span) (amounts : List Amount) : Prop where
  digits : ∀ amount ∈ amounts, ∀ char ∈ amount.fraction, char.isDigit = true
  trimmed : ∀ amount ∈ amounts, amount.fraction.getLast? ≠ some '0'
  carried : amounts.Pairwise fun larger smaller =>
    smaller.unit.size < larger.unit.size ∧ smaller.whole < 60
  largest : span.nanoseconds ≠ 0 → ∀ first, amounts.head? = some first →
    1 ≤ first.whole ∧ ∀ unit : TimeUnit, first.unit.size < unit.size →
      span.nanoseconds / unit.size = 0
  alone : ∀ amount ∈ amounts, amount.unit.size < TimeUnit.second.size → amounts = [amount]

/-- The amounts of a span are written so: the only fraction is that of the last amount, and the others are
whole numbers. -/
theorem isCanonical_amounts (span : Span) : span.IsCanonical span.amounts := by
  have written := span.written_amounts
  generalize span.amounts = amounts at written ⊢
  have digits := isDigit_fraction_ofParts
  have trimmed := getLast?_fraction_ofParts
  have seconds : span.nanoseconds % TimeUnit.minute.size / 10 ^ 9 < 60 := by
    simp only [TimeUnit.size]
    omega
  cases written with
  | zero zero =>
    exact ⟨by simp, by simp, by simp, fun nonzero => absurd zero nonzero, by simp [TimeUnit.size]⟩
  | single places unit sized fits largest =>
    refine ⟨by simpa using digits _ _ _, by simpa using trimmed _ _ _, by simp,
      fun _ first same => ?_, by simp⟩
    obtain rfl := Option.some.inj same
    refine ⟨?_, fun larger isLarger => Nat.div_eq_of_lt (largest larger isLarger)⟩
    show 1 ≤ span.nanoseconds / 10 ^ places
    rw [← sized]
    exact (Nat.one_le_div_iff (by cases unit <;> decide)).mpr fits
  | minutes atLeast below =>
    refine ⟨by simpa using digits _ _ _, by simpa using trimmed _ _ _, ?_,
      fun _ first same => ?_, ?_⟩
    · simpa [TimeUnit.size, Amount.ofParts] using seconds
    · obtain rfl := Option.some.inj same
      refine ⟨(Nat.one_le_div_iff (by decide)).mpr atLeast, fun larger isLarger => ?_⟩
      exact Nat.div_eq_of_lt (Nat.lt_of_lt_of_le below (TimeUnit.hour_le_of_minute_lt isLarger))
    · simp [TimeUnit.size, Amount.ofParts]
  | hours atLeast =>
    refine ⟨by simpa using digits _ _ _, by simpa using trimmed _ _ _, ?_,
      fun _ first same => ?_, ?_⟩
    · have minutes : span.nanoseconds % TimeUnit.hour.size / TimeUnit.minute.size < 60 := by
        simp only [TimeUnit.size]
        omega
      simpa [TimeUnit.size, Amount.ofParts, minutes] using ⟨minutes, seconds⟩
    · obtain rfl := Option.some.inj same
      refine ⟨(Nat.one_le_div_iff (by decide)).mpr atLeast, fun larger isLarger => ?_⟩
      exact absurd isLarger (Nat.not_lt.mpr (TimeUnit.size_le_hour larger))
    · simp [TimeUnit.size, Amount.ofParts]

/-- **The text of a span loses nothing.** Different spans have different texts. Read as a sum of decimal
numbers with their units, the text says the very nanoseconds. It is written in canonical form. -/
theorem text_loses_nothing (span : Span) :
    Function.Injective Span.text ∧ read? span.text.toList = some (span.nanoseconds : ℚ) ∧
      ∃ amounts, span.IsCanonical amounts ∧
        span.text = String.ofList (amounts.flatMap Amount.text) := by
  have reads (span : Span) : read? span.text.toList = some (span.nanoseconds : ℚ) := by
    have written : span.amounts ≠ [] := by
      have written := span.written_amounts
      generalize span.amounts = amounts at written ⊢
      cases written <;> nofun
    rw [text, String.toList_ofList, chars_eq_amounts,
      read?_amounts written span.isCanonical_amounts.digits, sum_amounts]
  refine ⟨fun first second same => ?_, reads span, span.amounts, span.isCanonical_amounts, ?_⟩
  · have sameNumber := (reads first).symm.trans ((congrArg (read? ∘ String.toList) same).trans
      (reads second))
    obtain ⟨parts⟩ := first
    obtain ⟨parts'⟩ := second
    exact congrArg Span.mk (by exact_mod_cast Option.some.inj sameNumber)
  · rw [text, chars_eq_amounts]

example : Span.text ⟨3661005000000⟩ = "1h1m1.005s" := by decide

end Span

end MediaTrail
