/-
**Every value is passed over.** The machine that walks over a value nobody asked for accepts the whole
grammar: from any place in front of a value it gets behind it, with any stack below and anything after
the value that cannot belong to it.

The proof is an induction on the value. What is open around it stays on the stack untouched, so that
`resume` says where the machine goes on once a value has ended.

* `skipFrom_number`, `skipFrom_quote`, `skipFrom_row`: the parts of values;
* `skip_of_isValue`: a value in front of anything is passed over.
-/

import MediaTrail.Json.Skip
import MediaTrail.Proofs.JsonQuotation

namespace MediaTrail.Json

open Text (Bytes)

namespace Skip

variable {place : Place} {stack : List Frame}

/-! ### Single steps -/

/-- Where the machine goes on behind a value. -/
def resume (stack : List Frame) (rest : Bytes) : Except Fault Bytes :=
  match stack with
  | [] => .ok rest
  | frame :: outer => skipFrom .after (frame :: outer) rest

theorem skipFrom_close {outer : List Frame} {byte : UInt8} (rest : Bytes)
    (closes : move place stack byte = close outer) :
    skipFrom place stack (byte :: rest) = resume outer rest := by
  rw [skipFrom, closes]
  cases outer <;> rfl

/-- Bytes that keep the machine where it is. -/
theorem skipFrom_stays {bytes : Bytes} (rest : Bytes)
    (stays : ∀ byte ∈ bytes, move place stack byte = .go place stack) :
    skipFrom place stack (bytes ++ rest) = skipFrom place stack rest := by
  induction bytes with
  | nil => rfl
  | cons byte bytes ih =>
    rw [List.cons_append, skipFrom_go _ (stays byte List.mem_cons_self)]
    exact ih fun other member => stays other (List.mem_cons_of_mem _ member)

/-- The machine waits at a place for the first byte that is not blank. -/
def Waits (place : Place) (stack : List Frame) : Prop :=
  ∀ byte, isBlankByte byte = true → move place stack byte = .go place stack

theorem skipFrom_blanks {blanks : Bytes} (isBlanks : IsBlanks blanks) (waits : Waits place stack)
    (rest : Bytes) : skipFrom place stack (blanks ++ rest) = skipFrom place stack rest :=
  skipFrom_stays rest fun byte member => waits byte (isBlankByte_iff.mpr (isBlanks byte member))

theorem waits_value : Waits .value stack := by
  intro byte blank
  rw [move, valueMove, if_pos blank]

theorem waits_firstItem : Waits .firstItem stack := by
  intro byte blank
  rw [move, if_pos blank]

theorem waits_firstKey : Waits .firstKey stack := by
  intro byte blank
  rw [move, if_pos blank]

theorem waits_key : Waits .key stack := by
  intro byte blank
  rw [move, if_pos blank]

theorem waits_colon : Waits .colon stack := by
  intro byte blank
  rw [move, if_pos blank]

theorem waits_after (frame : Frame) (outer : List Frame) : Waits .after (frame :: outer) := by
  intro byte blank
  show (if isBlankByte byte = true then Move.go .after (frame :: outer) else _) = _
  rw [if_pos blank]

/-! ### Words -/

theorem skipFrom_word (byte : UInt8) (more rest : Bytes) :
    skipFrom (.word (byte :: more)) stack (byte :: more ++ rest) = resume stack rest := by
  induction more generalizing byte with
  | nil =>
    refine skipFrom_close rest ?_
    rw [move, if_pos rfl, if_pos rfl]
  | cons next more ih =>
    have goes : move (.word (byte :: next :: more)) stack byte = .go (.word (next :: more)) stack := by
      rw [move, if_pos rfl, if_neg (List.cons_ne_nil _ _)]
    rw [List.cons_append, skipFrom_go _ goes]
    exact ih next

theorem skipFrom_null (rest : Bytes) :
    skipFrom .value stack (nullText ++ rest) = resume stack rest := by
  have goes : move .value stack 0x6E = .go (.word [0x75, 0x6C, 0x6C]) stack := rfl
  rw [nullText, List.cons_append, skipFrom_go _ goes]
  exact skipFrom_word _ _ rest

theorem skipFrom_truth (value : Bool) (rest : Bytes) :
    skipFrom .value stack (truthText value ++ rest) = resume stack rest := by
  cases value with
  | true =>
    have goes : move .value stack 0x74 = .go (.word [0x72, 0x75, 0x65]) stack := rfl
    rw [truthText, if_pos rfl, List.cons_append, skipFrom_go _ goes]
    exact skipFrom_word _ _ rest
  | false =>
    have goes : move .value stack 0x66 = .go (.word [0x61, 0x6C, 0x73, 0x65]) stack := rfl
    rw [truthText, if_neg Bool.false_ne_true, List.cons_append, skipFrom_go _ goes]
    exact skipFrom_word _ _ rest

/-! ### Quotations -/

/-- Where the machine goes on behind a quotation, which is a key or a value. -/
def resumeQuoted (isKey : Bool) (stack : List Frame) (rest : Bytes) : Except Fault Bytes :=
  if isKey then skipFrom .colon stack rest else resume stack rest

theorem move_digit {isKey : Bool} {left value : Nat} {byte : UInt8}
    (isDigit : IsHexDigit byte value) : move (.quoted isKey (.unit true (left + 1))) stack byte =
      .go (.quoted isKey (.unit true left)) stack := by
  rw [move, quotedMove, Quotation.hexValue?_of_isHexDigit isDigit]
  rfl

theorem move_lastDigit {isKey : Bool} {value : Nat} {byte : UInt8} (isDigit : IsHexDigit byte value) :
    move (.quoted isKey (.unit true 0)) stack byte = .go (.quoted isKey .plain) stack := by
  rw [move, quotedMove, Quotation.hexValue?_of_isHexDigit isDigit]
  rfl

theorem move_short {isKey : Bool} {mark : UInt8} {meant : Char}
    (isShort : (mark, meant) ∈ shortEscapes) :
    move (.quoted isKey .escape) stack mark = .go (.quoted isKey .plain) stack := by
  simp only [shortEscapes, List.mem_cons, List.not_mem_nil, or_false, Prod.mk.injEq] at isShort
  rcases isShort with ⟨rfl, rfl⟩ | ⟨rfl, rfl⟩ | ⟨rfl, rfl⟩ | ⟨rfl, rfl⟩ | ⟨rfl, rfl⟩ | ⟨rfl, rfl⟩ |
    ⟨rfl, rfl⟩ | ⟨rfl, rfl⟩ <;> rfl

/-- What may stand between quotes is passed over, with the quote behind it. -/
theorem skipFrom_body {isKey : Bool} {body : Bytes} (isQuoted : IsQuoted body) (rest : Bytes) :
    skipFrom (.quoted isKey .plain) stack (body ++ 0x22 :: rest) = resumeQuoted isKey stack rest := by
  have escape : move (.quoted isKey .plain) stack 0x5C = .go (.quoted isKey .escape) stack := rfl
  have mark : move (.quoted isKey .escape) stack 0x75 = .go (.quoted isKey (.unit true 3)) stack := rfl
  induction isQuoted with
  | nil =>
    cases isKey with
    | true => exact skipFrom_go rest rfl
    | false => exact skipFrom_close rest rfl
  | plain visible noQuote noEscape later ih =>
    rw [List.cons_append, skipFrom_go _ ?_]
    · exact ih
    · rw [move, quotedMove, if_neg noQuote, if_neg noEscape, if_neg (UInt8.not_lt.mpr visible)]
  | short isShort later ih =>
    rw [List.cons_append, List.cons_append, skipFrom_go _ escape, skipFrom_go _ (move_short isShort)]
    exact ih
  | unit isUnit later ih =>
    cases isUnit with
    | digits one two three four =>
      simp only [List.cons_append, List.nil_append]
      rw [skipFrom_go _ escape, skipFrom_go _ mark, skipFrom_go _ (move_digit one),
        skipFrom_go _ (move_digit two), skipFrom_go _ (move_digit three),
        skipFrom_go _ (move_lastDigit four)]
      exact ih

theorem skipFrom_quote {body : Bytes} (isQuoted : IsQuoted body) (rest : Bytes) :
    skipFrom .value stack (quote body ++ rest) = resume stack rest := by
  have opens : move .value stack 0x22 = .go (.quoted false .plain) stack := rfl
  rw [quote, List.cons_append, skipFrom_go _ opens, List.append_assoc]
  exact skipFrom_body isQuoted rest

/-! ### Numbers -/

/-- The places at which a number may end. -/
def EndsNumber (place : Numeral) : Prop :=
  place = .zero ∨ place = .whole ∨ place = .fraction ∨ place = .exponent

/-- A number ends in front of what may follow a value. -/
theorem skipFrom_numberEnd {place : Numeral} (ends : EndsNumber place) {rest : Bytes}
    (stops : Stops rest) : skipFrom (.number place) stack rest = resume stack rest := by
  cases rest with
  | nil =>
    rcases ends with rfl | rfl | rfl | rfl <;> cases stack <;> rfl
  | cons byte rest =>
    obtain ⟨noDigit, noPoint, noMark⟩ := not_number_of_stops (stops byte rfl)
    have leaves : move (.number place) stack byte = afterMove stack byte := by
      rw [move]
      rcases ends with rfl | rfl | rfl | rfl <;> simp [numberMove, noDigit, noPoint, noMark]
    rw [skipFrom, leaves]
    cases stack with
    | nil => rfl
    | cons frame outer =>
      rw [resume, skipFrom, move]

/-- A number's digits, behind a first one in the same part. -/
theorem skipFrom_digits {place : Numeral}
    (among : place = .whole ∨ place = .fraction ∨ place = .exponent) {digits : Bytes}
    (areDigits : ∀ byte ∈ digits, isDigitByte byte = true) (rest : Bytes) :
    skipFrom (.number place) stack (digits ++ rest) = skipFrom (.number place) stack rest := by
  refine skipFrom_stays rest fun byte member => ?_
  rcases among with rfl | rfl | rfl
  all_goals
    show (if isDigitByte byte = true then _ else _) = _
    rw [if_pos (areDigits byte member)]

/-- The exponent of a number, if there is one. -/
theorem skipFrom_exponent {place : Numeral}
    (before : place = .zero ∨ place = .whole ∨ place = .fraction) {exponent : Bytes}
    (isExponent : IsExponent exponent) {rest : Bytes} (stops : Stops rest) :
    skipFrom (.number place) stack (exponent ++ rest) = resume stack rest := by
  cases isExponent with
  | none =>
    refine skipFrom_numberEnd ?_ stops
    rcases before with rfl | rfl | rfl
    · exact Or.inl rfl
    · exact Or.inr (Or.inl rfl)
    · exact Or.inr (Or.inr (Or.inl rfl))
  | @some mark sign digits isMark isSign isDigits =>
    have toMark : move (.number place) stack mark = .go (.number .mark) stack := by
      rcases before with rfl | rfl | rfl <;> rcases isMark with rfl | rfl <;> rfl
    have digitsEnd : ∀ place : Numeral, place = .mark ∨ place = .sign →
        skipFrom (.number place) stack (digits ++ rest) = resume stack rest := by
      intro place behind
      obtain ⟨first, more, rfl⟩ := List.exists_cons_of_ne_nil isDigits.1
      obtain ⟨firstDigit, moreDigits⟩ := List.forall_mem_cons.mp (isDigitByte_of_mem isDigits)
      have noSign : ¬ (first = 0x2B ∨ first = 0x2D) := by
        rintro (rfl | rfl) <;> exact absurd firstDigit (by decide)
      have toExponent : move (.number place) stack first = .go (.number .exponent) stack := by
        rcases behind with rfl | rfl
        · show (if first = 0x2B ∨ first = 0x2D then _ else if isDigitByte first = true then _ else _) = _
          rw [if_neg noSign, if_pos firstDigit]
        · show (if isDigitByte first = true then _ else _) = _
          rw [if_pos firstDigit]
      rw [List.cons_append, skipFrom_go _ toExponent,
        skipFrom_digits (Or.inr (Or.inr rfl)) moreDigits]
      exact skipFrom_numberEnd (Or.inr (Or.inr (Or.inr rfl))) stops
    rw [List.cons_append, List.cons_append, skipFrom_go _ toMark, List.append_assoc]
    rcases isSign with rfl | rfl | rfl
    · exact digitsEnd .mark (Or.inl rfl)
    · refine (skipFrom_go _ ?_).trans (digitsEnd .sign (Or.inr rfl))
      rfl
    · refine (skipFrom_go _ ?_).trans (digitsEnd .sign (Or.inr rfl))
      rfl

/-- The fraction of a number, if there is one, and its exponent. -/
theorem skipFrom_fraction {place : Numeral} (before : place = .zero ∨ place = .whole)
    {fraction exponent : Bytes} (isFraction : IsFraction fraction) (isExponent : IsExponent exponent)
    {rest : Bytes} (stops : Stops rest) :
    skipFrom (.number place) stack (fraction ++ (exponent ++ rest)) = resume stack rest := by
  cases isFraction with
  | none =>
    refine skipFrom_exponent ?_ isExponent stops
    rcases before with rfl | rfl
    · exact Or.inl rfl
    · exact Or.inr (Or.inl rfl)
  | @some digits isDigits =>
    obtain ⟨first, more, rfl⟩ := List.exists_cons_of_ne_nil isDigits.1
    obtain ⟨firstDigit, moreDigits⟩ := List.forall_mem_cons.mp (isDigitByte_of_mem isDigits)
    have toPoint : move (.number place) stack 0x2E = .go (.number .point) stack := by
      rcases before with rfl | rfl <;> rfl
    have toFraction : move (.number .point) stack first = .go (.number .fraction) stack := by
      show (if isDigitByte first = true then _ else _) = _
      rw [if_pos firstDigit]
    rw [List.cons_append, List.cons_append, skipFrom_go _ toPoint, skipFrom_go _ toFraction,
      skipFrom_digits (Or.inr (Or.inl rfl)) moreDigits]
    exact skipFrom_exponent (Or.inr (Or.inr rfl)) isExponent stops

/-- In front of a digit that is no zero, whether or not there was a minus sign, a number starts. -/
theorem move_digit_of_nonzero {place : Place} (before : place = .value ∨ place = .number .minus)
    {byte : UInt8} (nonzero : byte ≠ 0x30) (digit : 0x30 ≤ byte ∧ byte ≤ 0x39) :
    move place stack byte = .go (.number .whole) stack := by
  have above : 0x30 ≤ byte.toNat := UInt8.le_iff_toNat_le.mp digit.1
  have below : byte.toNat ≤ 0x39 := UInt8.le_iff_toNat_le.mp digit.2
  have other : byte.toNat ≠ 0x30 := fun same => nonzero (UInt8.toNat_inj.mp same)
  have codes : byte = 0x31 ∨ byte = 0x32 ∨ byte = 0x33 ∨ byte = 0x34 ∨ byte = 0x35 ∨ byte = 0x36 ∨
      byte = 0x37 ∨ byte = 0x38 ∨ byte = 0x39 := by
    simp only [← UInt8.toNat_inj, UInt8.toNat_ofNat]
    omega
  rcases before with rfl | rfl <;>
    rcases codes with rfl | rfl | rfl | rfl | rfl | rfl | rfl | rfl | rfl <;> rfl

/-- The integer part of a number, and what follows it. -/
theorem skipFrom_whole {place : Place} (before : place = .value ∨ place = .number .minus)
    {whole fraction exponent : Bytes} (isWhole : IsWhole whole) (isFraction : IsFraction fraction)
    (isExponent : IsExponent exponent) {rest : Bytes} (stops : Stops rest) :
    skipFrom place stack (whole ++ (fraction ++ (exponent ++ rest))) = resume stack rest := by
  cases isWhole with
  | zero =>
    have toZero : move place stack 0x30 = .go (.number .zero) stack := by
      rcases before with rfl | rfl <;> rfl
    rw [List.cons_append, skipFrom_go _ toZero]
    exact skipFrom_fraction (Or.inl rfl) isFraction isExponent stops
  | @other first more nonzero isDigits =>
    have toWhole : move place stack first = .go (.number .whole) stack :=
      move_digit_of_nonzero before nonzero (isDigits.2 first List.mem_cons_self)
    have moreDigits := (List.forall_mem_cons.mp (isDigitByte_of_mem isDigits)).2
    rw [List.cons_append, skipFrom_go _ toWhole, skipFrom_digits (Or.inl rfl) moreDigits]
    exact skipFrom_fraction (Or.inr rfl) isFraction isExponent stops

/-- **A number is passed over.** -/
theorem skipFrom_number {text : Bytes} (isNumber : IsNumber text) {rest : Bytes}
    (stops : Stops rest) : skipFrom .value stack (text ++ rest) = resume stack rest := by
  cases isNumber with
  | parts isSign isWhole isFraction isExponent =>
    rw [List.append_assoc, List.append_assoc, List.append_assoc]
    rcases isSign with rfl | rfl
    · exact skipFrom_whole (Or.inl rfl) isWhole isFraction isExponent stops
    · have toMinus : move .value stack 0x2D = .go (.number .minus) stack := rfl
      rw [List.cons_append, skipFrom_go _ toMinus]
      exact skipFrom_whole (Or.inr rfl) isWhole isFraction isExponent stops

/-! ### Arrays and objects -/

/-- Where the machine stands behind the bracket that opens something. -/
def Frame.first : Frame → Place
  | .array => .firstItem
  | .object => .firstKey

/-- Where the machine stands behind a comma. -/
def Frame.next : Frame → Place
  | .array => .value
  | .object => .key

def Frame.closing : Frame → UInt8
  | .array => 0x5D
  | .object => 0x7D

theorem waits_first (frame : Frame) : Waits frame.first stack := by
  cases frame with
  | array => exact waits_firstItem
  | object => exact waits_firstKey

theorem waits_next (frame : Frame) : Waits frame.next stack := by
  cases frame with
  | array => exact waits_value
  | object => exact waits_key

theorem skipFrom_comma (frame : Frame) (rest : Bytes) :
    skipFrom .after (frame :: stack) (0x2C :: rest) = skipFrom frame.next (frame :: stack) rest := by
  cases frame <;> exact skipFrom_go rest rfl

theorem skipFrom_closing (frame : Frame) (rest : Bytes) :
    skipFrom .after (frame :: stack) (frame.closing :: rest) = resume stack rest := by
  cases frame <;> exact skipFrom_close rest rfl

theorem skipFrom_nothing (frame : Frame) (rest : Bytes) :
    skipFrom frame.first (frame :: stack) (frame.closing :: rest) = resume stack rest := by
  cases frame <;> exact skipFrom_close rest rfl

theorem stops_closing (frame : Frame) (rest : Bytes) : Stops (frame.closing :: rest) := by
  cases frame with
  | array => exact stops_cons (Or.inr (Or.inl rfl)) rest
  | object => exact stops_cons (Or.inr (Or.inr rfl)) rest

/-- **A row of pieces is passed over, with the bracket behind it,** if each piece is. It may be empty
only behind the bracket that opens. -/
theorem skipFrom_row {κ : Type} {isPiece : κ → Bytes → Prop} {frame : Frame} {pieces : List κ}
    {row : Bytes} (isRow : IsRow isPiece pieces row)
    (passes : ∀ piece ∈ pieces, ∀ text, isPiece piece text → ∀ place,
      place = frame.first ∨ place = frame.next → ∀ rest, Stops rest →
        skipFrom place (frame :: stack) (text ++ rest) = skipFrom .after (frame :: stack) rest)
    {place : Place} (before : place = frame.first ∨ place = frame.next)
    (behindComma : pieces = [] → place = frame.first) (rest : Bytes) :
    skipFrom place (frame :: stack) (row ++ frame.closing :: rest) = resume stack rest := by
  have waits : ∀ place, place = frame.first ∨ place = frame.next → Waits place (frame :: stack) := by
    rintro place (rfl | rfl)
    · exact waits_first frame
    · exact waits_next frame
  induction isRow generalizing place with
  | none isBlanks =>
    rw [skipFrom_blanks isBlanks (waits place before), behindComma rfl]
    exact skipFrom_nothing frame rest
  | last blanksBefore here blanksAfter =>
    rw [List.append_assoc, List.append_assoc, skipFrom_blanks blanksBefore (waits place before),
      passes _ List.mem_cons_self _ here place before _
        (blanksAfter.stops_append (stops_closing frame rest)),
      skipFrom_blanks blanksAfter (waits_after frame stack)]
    exact skipFrom_closing frame rest
  | more blanksBefore here blanksAfter another later ih =>
    rw [List.append_assoc, List.append_assoc, List.append_assoc, List.cons_append,
      skipFrom_blanks blanksBefore (waits place before),
      passes _ List.mem_cons_self _ here place before _
        (blanksAfter.stops_append (stops_cons (Or.inl rfl) _)),
      skipFrom_blanks blanksAfter (waits_after frame stack), skipFrom_comma]
    refine ih (fun piece member => passes piece (List.mem_cons_of_mem _ member)) (Or.inr rfl) ?_
    exact fun noMore => absurd noMore another

/-- In front of an item the machine does as in front of any value. -/
theorem skipFrom_firstItem {item : Bytes} (isValue : IsValue item) (rest : Bytes) :
    skipFrom .firstItem stack (item ++ rest) = skipFrom .value stack (item ++ rest) := by
  obtain ⟨byte, more, rfl, shows⟩ := isValue.shows
  have same : move .firstItem stack byte = move .value stack byte := by
    rw [move, move, shows.visible, if_neg Bool.false_ne_true, if_neg shows.noBracket]
  rw [List.cons_append, skipFrom, skipFrom, same]

/-- **Every value is passed over,** up to anything that may follow it. The pieces of an array or object are
walked over above its frame, so that the induction is for every stack. -/
theorem skipFrom_of_isValue {text : Bytes} (isValue : IsValue text) (stack : List Frame)
    {rest : Bytes} (stops : Stops rest) :
    skipFrom .value stack (text ++ rest) = resume stack rest := by
  induction isValue generalizing stack rest with
  | null => exact skipFrom_null rest
  | truth value => exact skipFrom_truth value rest
  | number isNumber => exact skipFrom_number isNumber stops
  | quotation isQuoted => exact skipFrom_quote isQuoted rest
  | array each isRow ih =>
    have opens : move .value stack 0x5B = .go Frame.array.first (.array :: stack) := rfl
    rw [List.cons_append, skipFrom_go _ opens, List.append_assoc]
    refine skipFrom_row isRow ?_ (Or.inl rfl) (fun _ => rfl) rest
    rintro item member _ rfl place (rfl | rfl) after stopsAfter
    · exact (skipFrom_firstItem (each item member) after).trans (ih item member _ stopsAfter)
    · exact ih item member _ stopsAfter
  | object keys each isRow ih =>
    have opens : move .value stack 0x7B = .go Frame.object.first (.object :: stack) := rfl
    rw [List.cons_append, skipFrom_go _ opens, List.append_assoc]
    refine skipFrom_row isRow ?_ (Or.inl rfl) (fun _ => rfl) rest
    rintro ⟨body, value⟩ member text ⟨rfl, blanksBefore, blanksAfter⟩ place before after stopsAfter
    have toKey : move place (.object :: stack) 0x22 = .go (.quoted true .plain) (.object :: stack) := by
      rcases before with rfl | rfl <;> rfl
    have toValue : move .colon (.object :: stack) 0x3A = .go .value (.object :: stack) := rfl
    rw [quote, List.append_assoc, List.cons_append, skipFrom_go _ toKey, List.append_assoc,
      List.singleton_append, skipFrom_body (keys _ member), resumeQuoted, if_pos rfl,
      List.append_assoc, skipFrom_blanks blanksBefore waits_colon, List.cons_append,
      skipFrom_go _ toValue, List.append_assoc, skipFrom_blanks blanksAfter waits_value]
    exact ih _ member _ stopsAfter

end Skip

/-- **A value of any kind is read off the front of anything that may follow it.** -/
theorem skip_of_isValue {blanks text rest : Bytes} (isBlanks : IsBlanks blanks)
    (isValue : IsValue text) (stops : Stops rest) : skip (blanks ++ (text ++ rest)) = .ok rest := by
  rw [skip, Skip.skipFrom_blanks isBlanks Skip.waits_value, Skip.skipFrom_of_isValue isValue [] stops]
  rfl

end MediaTrail.Json
