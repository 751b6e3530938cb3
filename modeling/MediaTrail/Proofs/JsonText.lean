/-
**JSON texts.** The grammar of JSON over bytes, told apart from every reader: where blanks may stand,
how numbers and quotations are formed, and how values lie in each other. A text may stand in a
quotation in many ways, since each of its characters has several forms.

* `IsValue`: the texts of values of any kind;
* `IsText`, `IsInteger`: the quotations that stand for a text, and the forms of an integer;
* `IsArray`, `IsObject`: the texts of arrays and objects, with the texts of the values in them;
* `IsValue.shows`: the first byte of a value shows of which kind it is.
-/

import MediaTrail.Json.Reader

namespace MediaTrail.Json

open Text (Bytes)

/-! ### Tokens -/

/-- Nothing but spaces, tabs and line ends. -/
def IsBlanks (bytes : Bytes) : Prop :=
  ∀ byte ∈ bytes, byte ∈ ([0x20, 0x09, 0x0A, 0x0D] : Bytes)

instance (bytes : Bytes) : Decidable (IsBlanks bytes) :=
  decidable_of_iff (bytes.all (fun byte => [0x20, 0x09, 0x0A, 0x0D].contains byte) = true) (by
    simp only [IsBlanks, List.all_eq_true, List.contains_iff_mem])

/-- At least one decimal digit, and nothing else. -/
def IsDigits (bytes : Bytes) : Prop :=
  bytes ≠ [] ∧ ∀ byte ∈ bytes, 0x30 ≤ byte ∧ byte ≤ 0x39

instance (bytes : Bytes) : Decidable (IsDigits bytes) :=
  decidable_of_iff (bytes ≠ [] ∧ bytes.all (fun byte => 0x30 ≤ byte && byte ≤ 0x39) = true) (by
    simp only [IsDigits, List.all_eq_true, Bool.and_eq_true, decide_eq_true_eq])

/-- The number that some digits stand for. -/
def digitsValue (digits : Bytes) : Nat :=
  digits.foldl (fun value digit => value * 10 + (digit.toNat - 0x30)) 0

/-- The integer part of a number. A zero in front stands alone. -/
inductive IsWhole : Bytes → Prop
  | zero : IsWhole [0x30]
  | other {first : UInt8} {more : Bytes} (nonzero : first ≠ 0x30) (digits : IsDigits (first :: more)) :
      IsWhole (first :: more)

/-- A minus sign or nothing. -/
def IsMinus (bytes : Bytes) : Prop :=
  bytes = [] ∨ bytes = [0x2D]

inductive IsFraction : Bytes → Prop
  | none : IsFraction []
  | some {digits : Bytes} (isDigits : IsDigits digits) : IsFraction (0x2E :: digits)

inductive IsExponent : Bytes → Prop
  | none : IsExponent []
  | some {mark : UInt8} {sign digits : Bytes} (isMark : mark = 0x65 ∨ mark = 0x45)
      (isSign : sign = [] ∨ sign = [0x2B] ∨ sign = [0x2D]) (isDigits : IsDigits digits) :
      IsExponent (mark :: sign ++ digits)

inductive IsNumber : Bytes → Prop
  | parts {sign whole fraction exponent : Bytes} (isSign : IsMinus sign) (isWhole : IsWhole whole)
      (isFraction : IsFraction fraction) (isExponent : IsExponent exponent) :
      IsNumber (sign ++ (whole ++ (fraction ++ exponent)))

/-- The texts of an integer, without fraction and exponent. Zero may have a minus sign. -/
def IsInteger (value : Int) (text : Bytes) : Prop :=
  ∃ whole, IsWhole whole ∧ (text = whole ∧ value = digitsValue whole ∨
    text = 0x2D :: whole ∧ value = -digitsValue whole)

/-! ### Quotations -/

/-- Bytes between quotes. -/
def quote (body : Bytes) : Bytes :=
  0x22 :: (body ++ [0x22])

/-- The characters that have a short escape, with the byte behind the backslash. -/
def shortEscapes : List (UInt8 × Char) :=
  [(0x22, '"'), (0x5C, '\\'), (0x2F, '/'), (0x62, '\x08'), (0x66, '\x0C'), (0x6E, '\n'), (0x72, '\r'),
    (0x74, '\t')]

/-- A hexadecimal digit in either case, and its value. -/
def IsHexDigit (byte : UInt8) (value : Nat) : Prop :=
  value < 0x10 ∧ (value < 10 ∧ byte.toNat = value + 0x30 ∨
    10 ≤ value ∧ (byte.toNat = value + 0x37 ∨ byte.toNat = value + 0x57))

/-- Four hexadecimal digits, and the code unit that they stand for. -/
inductive IsUnit : Bytes → Nat → Prop
  | digits {first second third fourth : UInt8} {a b c d : Nat} (one : IsHexDigit first a)
      (two : IsHexDigit second b) (three : IsHexDigit third c) (four : IsHexDigit fourth d) :
      IsUnit [first, second, third, fourth] (((a * 0x10 + b) * 0x10 + c) * 0x10 + d)

/-- What may stand between quotes, whether or not it stands for a text. -/
inductive IsQuoted : Bytes → Prop
  | nil : IsQuoted []
  | plain {byte : UInt8} {rest : Bytes} (visible : 0x20 ≤ byte) (noQuote : byte ≠ 0x22)
      (noEscape : byte ≠ 0x5C) (later : IsQuoted rest) : IsQuoted (byte :: rest)
  | short {mark : UInt8} {meant : Char} {rest : Bytes} (isShort : (mark, meant) ∈ shortEscapes)
      (later : IsQuoted rest) : IsQuoted (0x5C :: mark :: rest)
  | unit {digits rest : Bytes} {code : Nat} (isUnit : IsUnit digits code) (later : IsQuoted rest) :
      IsQuoted (0x5C :: 0x75 :: (digits ++ rest))

/-- The forms of some characters between quotes: as they are, by a short escape, by their code unit,
or by two units for a character beyond the first 65536. -/
inductive Spells : List Char → Bytes → Prop
  | nil : Spells [] []
  | plain {char : Char} {chars : List Char} {rest : Bytes} (visible : 0x20 ≤ char.toNat)
      (noQuote : char ≠ '"') (noEscape : char ≠ '\\') (later : Spells chars rest) :
      Spells (char :: chars) (String.utf8EncodeChar char ++ rest)
  | short {mark : UInt8} {char : Char} {chars : List Char} {rest : Bytes}
      (isShort : (mark, char) ∈ shortEscapes) (later : Spells chars rest) :
      Spells (char :: chars) (0x5C :: mark :: rest)
  | unit {digits rest : Bytes} {char : Char} {chars : List Char} (isUnit : IsUnit digits char.toNat)
      (later : Spells chars rest) : Spells (char :: chars) (0x5C :: 0x75 :: (digits ++ rest))
  | pair {leading trailing rest : Bytes} {lead trail : Nat} {char : Char} {chars : List Char}
      (isLead : 0xD800 ≤ lead ∧ lead < 0xDC00) (isTrail : 0xDC00 ≤ trail ∧ trail < 0xE000)
      (first : IsUnit leading lead) (second : IsUnit trailing trail)
      (stands : char.toNat = 0x10000 + (lead - 0xD800) * 0x400 + (trail - 0xDC00))
      (later : Spells chars rest) :
      Spells (char :: chars) (0x5C :: 0x75 :: (leading ++ 0x5C :: 0x75 :: (trailing ++ rest)))

/-- The quotations that stand for a text. -/
def IsText (text : String) (bytes : Bytes) : Prop :=
  ∃ body, Spells text.toList body ∧ bytes = quote body

/-! ### Values -/

/-- Pieces with commas between them, and blanks wherever they may stand. -/
inductive IsRow {κ : Type} (isPiece : κ → Bytes → Prop) : List κ → Bytes → Prop
  | none {blanks : Bytes} (isBlanks : IsBlanks blanks) : IsRow isPiece [] blanks
  | last {piece : κ} {before text after : Bytes} (blanksBefore : IsBlanks before)
      (here : isPiece piece text) (blanksAfter : IsBlanks after) :
      IsRow isPiece [piece] (before ++ (text ++ after))
  | more {piece : κ} {pieces : List κ} {before text after row : Bytes}
      (blanksBefore : IsBlanks before) (here : isPiece piece text) (blanksAfter : IsBlanks after)
      (another : pieces ≠ []) (later : IsRow isPiece pieces row) :
      IsRow isPiece (piece :: pieces) (before ++ (text ++ (after ++ 0x2C :: row)))

/-- A key and the text of its value, with a colon between them. -/
inductive IsMember {κ : Type} (isKey : κ → Bytes → Prop) : κ × Bytes → Bytes → Prop
  | parts {key : κ} {keyText before after value : Bytes} (here : isKey key keyText)
      (blanksBefore : IsBlanks before) (blanksAfter : IsBlanks after) :
      IsMember isKey (key, value) (keyText ++ (before ++ 0x3A :: (after ++ value)))

/-- The texts of null, and of the truth values. -/
def nullText : Bytes := [0x6E, 0x75, 0x6C, 0x6C]

def truthText (value : Bool) : Bytes :=
  if value then [0x74, 0x72, 0x75, 0x65] else [0x66, 0x61, 0x6C, 0x73, 0x65]

/-- **The texts of values of any kind.** The keys of an object need not stand for texts, nor differ. -/
inductive IsValue : Bytes → Prop
  | null : IsValue nullText
  | truth (value : Bool) : IsValue (truthText value)
  | number {text : Bytes} (isNumber : IsNumber text) : IsValue text
  | quotation {body : Bytes} (isQuoted : IsQuoted body) : IsValue (quote body)
  | array {items : List Bytes} {row : Bytes} (each : ∀ item ∈ items, IsValue item)
      (isRow : IsRow Eq items row) : IsValue (0x5B :: (row ++ [0x5D]))
  | object {members : List (Bytes × Bytes)} {row : Bytes}
      (keys : ∀ member ∈ members, IsQuoted member.1) (each : ∀ member ∈ members, IsValue member.2)
      (isRow : IsRow (IsMember fun body text => text = quote body) members row) :
      IsValue (0x7B :: (row ++ [0x7D]))

/-- The texts of arrays of values that have these texts. -/
def IsArray (items : List Bytes) (text : Bytes) : Prop :=
  (∀ item ∈ items, IsValue item) ∧ ∃ row, IsRow Eq items row ∧ text = 0x5B :: (row ++ [0x5D])

/-- The texts of objects with these keys, whose values have these texts. -/
def IsObject (members : List (String × Bytes)) (text : Bytes) : Prop :=
  (∀ member ∈ members, IsValue member.2) ∧
    ∃ row, IsRow (IsMember IsText) members row ∧ text = 0x7B :: (row ++ [0x7D])

/-- What a member of an object stands for that may be left out or null. -/
def Holds {α : Type} (isForm : α → Bytes → Prop) (missing value : α) (given : Option Bytes) : Prop :=
  match given with
  | none => value = missing
  | some text => text = nullText ∧ value = missing ∨ isForm value text

/-- The key of a member stands between quotes. -/
theorem IsMember.spelled {member : String × Bytes} {text : Bytes}
    (isMember : IsMember IsText member text) : ∃ body, Spells member.1.toList body ∧
      IsMember (fun body text => text = quote body) (body, member.2) text := by
  cases isMember with
  | parts isText blanksBefore blanksAfter =>
    obtain ⟨body, spells, rfl⟩ := isText
    exact ⟨body, spells, .parts rfl blanksBefore blanksAfter⟩

/-! ### Blanks and first bytes -/

theorem isBlankByte_iff {byte : UInt8} :
    isBlankByte byte = true ↔ byte ∈ ([0x20, 0x09, 0x0A, 0x0D] : Bytes) := by
  simp only [isBlankByte, Bool.or_eq_true, beq_iff_eq, List.mem_cons, List.not_mem_nil]
  constructor
  · rintro (((space | feed) | tab) | line)
    · exact Or.inl space
    · exact Or.inr (Or.inr (Or.inl feed))
    · exact Or.inr (Or.inl tab)
    · exact Or.inr (Or.inr (Or.inr (Or.inl line)))
  · rintro (space | tab | feed | line | never)
    · exact Or.inl (Or.inl (Or.inl space))
    · exact Or.inl (Or.inr tab)
    · exact Or.inl (Or.inl (Or.inr feed))
    · exact Or.inr line
    · exact never.elim

theorem isBlanks_nil : IsBlanks [] :=
  fun _ member => by cases member

theorem IsBlanks.skipBlanks_append {blanks : Bytes} (isBlanks : IsBlanks blanks) (rest : Bytes) :
    skipBlanks (blanks ++ rest) = skipBlanks rest :=
  skipBlanks_of_blank blanks rest fun byte member => isBlankByte_iff.mpr (isBlanks byte member)

theorem skipBlanks_cons {byte : UInt8} (visible : isBlankByte byte = false) (rest : Bytes) :
    skipBlanks (byte :: rest) = byte :: rest := by
  rw [skipBlanks, List.dropWhile_cons_of_neg]
  rw [visible]
  exact Bool.false_ne_true

/-- What may follow a value: nothing, a blank, a comma or a closing bracket. -/
def Stops (rest : Bytes) : Prop :=
  ∀ byte ∈ rest.head?, isBlankByte byte = true ∨ byte = 0x2C ∨ byte = 0x5D ∨ byte = 0x7D

theorem stops_nil : Stops [] :=
  fun _ member => by cases member

theorem stops_cons {byte : UInt8} (ends : byte = 0x2C ∨ byte = 0x5D ∨ byte = 0x7D) (rest : Bytes) :
    Stops (byte :: rest) := by
  intro other atHead
  obtain rfl := Option.some.inj atHead
  exact Or.inr ends

theorem IsBlanks.stops_append {blanks rest : Bytes} (isBlanks : IsBlanks blanks)
    (stops : Stops rest) : Stops (blanks ++ rest) := by
  cases blanks with
  | nil => exact stops
  | cons blank blanks =>
    intro other atHead
    obtain rfl := Option.some.inj atHead
    exact Or.inl (isBlankByte_iff.mpr (isBlanks _ List.mem_cons_self))

theorem IsWhole.isDigits {whole : Bytes} (isWhole : IsWhole whole) : IsDigits whole := by
  cases isWhole with
  | zero => decide
  | other nonzero digits => exact digits

/-- A number starts with a minus sign or a digit. -/
theorem IsNumber.first {text : Bytes} (isNumber : IsNumber text) : ∃ byte more,
    text = byte :: more ∧ (byte = 0x2D ∨ 0x30 ≤ byte ∧ byte ≤ 0x39) := by
  cases isNumber with
  | parts isSign isWhole isFraction isExponent =>
    obtain ⟨nonempty, digits⟩ := isWhole.isDigits
    obtain ⟨first, more, rfl⟩ := List.exists_cons_of_ne_nil nonempty
    rcases isSign with rfl | rfl
    · exact ⟨first, _, rfl, Or.inr (digits first List.mem_cons_self)⟩
    · exact ⟨0x2D, _, rfl, Or.inl rfl⟩

theorem isDigitByte_of_mem {digits : Bytes} (isDigits : IsDigits digits) :
    ∀ byte ∈ digits, isDigitByte byte = true := by
  intro byte member
  rw [isDigitByte, Bool.and_eq_true, decide_eq_true_eq, decide_eq_true_eq]
  exact isDigits.2 byte member

/-- What may follow a value is no part of a number. -/
theorem not_number_of_stops {byte : UInt8}
    (stops : isBlankByte byte = true ∨ byte = 0x2C ∨ byte = 0x5D ∨ byte = 0x7D) :
    isDigitByte byte = false ∧ byte ≠ 0x2E ∧ ¬ (byte = 0x65 ∨ byte = 0x45) := by
  have blank : isBlankByte byte = true ↔ byte = 0x20 ∨ byte = 0x09 ∨ byte = 0x0A ∨ byte = 0x0D := by
    rw [isBlankByte_iff]
    simp
  rw [blank] at stops
  rcases stops with (rfl | rfl | rfl | rfl) | rfl | rfl | rfl <;> decide

/-- What the first byte of a value shows: it cannot stand between two values, and tells words and
quotations from other values. -/
structure Shows (text : Bytes) (byte : UInt8) : Prop where
  visible : isBlankByte byte = false
  noBracket : byte ≠ 0x5D
  isNull : byte = 0x6E → text = nullText
  isTruth : byte = 0x74 ∨ byte = 0x66 → ∃ value, text = truthText value
  isQuotation : byte = 0x22 → ∃ body, IsQuoted body ∧ text = quote body

/-- A first byte that only numbers, arrays and objects have. -/
theorem shows_of_other {text : Bytes} {byte : UInt8}
    (other : byte = 0x2D ∨ byte = 0x5B ∨ byte = 0x7B ∨ 0x30 ≤ byte ∧ byte ≤ 0x39) :
    Shows text byte := by
  have noWord : byte ≠ 0x6E ∧ ¬ (byte = 0x74 ∨ byte = 0x66) ∧ byte ≠ 0x22 ∧ byte ≠ 0x5D := by
    refine ⟨?_, ?_, ?_, ?_⟩
    · rintro rfl
      exact absurd other (by decide)
    · rintro (rfl | rfl) <;> exact absurd other (by decide)
    · rintro rfl
      exact absurd other (by decide)
    · rintro rfl
      exact absurd other (by decide)
  have visible : isBlankByte byte = false := by
    rw [Bool.eq_false_iff]
    intro blank
    have member := isBlankByte_iff.mp blank
    simp only [List.mem_cons, List.not_mem_nil, or_false] at member
    rcases member with rfl | rfl | rfl | rfl <;> exact absurd other (by decide)
  obtain ⟨noNull, noTruth, noQuotation, noBracket⟩ := noWord
  exact ⟨visible, noBracket, fun same => absurd same noNull, fun same => absurd same noTruth,
    fun same => absurd same noQuotation⟩

/-- **The first byte of a value shows of which kind it is.** -/
theorem IsValue.shows {text : Bytes} (isValue : IsValue text) : ∃ byte more,
    text = byte :: more ∧ Shows text byte := by
  cases isValue with
  | null =>
    exact ⟨0x6E, _, rfl, by decide, by decide, fun _ => rfl, fun same => absurd same (by decide),
      fun same => absurd same (by decide)⟩
  | truth value =>
    cases value with
    | false =>
      exact ⟨0x66, _, rfl, by decide, by decide, fun same => absurd same (by decide),
        fun _ => ⟨false, rfl⟩, fun same => absurd same (by decide)⟩
    | true =>
      exact ⟨0x74, _, rfl, by decide, by decide, fun same => absurd same (by decide),
        fun _ => ⟨true, rfl⟩, fun same => absurd same (by decide)⟩
  | number isNumber =>
    obtain ⟨byte, more, parts, minus | digit⟩ := isNumber.first
    · exact ⟨byte, more, parts, shows_of_other (Or.inl minus)⟩
    · exact ⟨byte, more, parts, shows_of_other (Or.inr (Or.inr (Or.inr digit)))⟩
  | quotation isQuoted =>
    exact ⟨0x22, _, rfl, by decide, by decide, fun same => absurd same (by decide),
      fun same => absurd same (by decide), fun _ => ⟨_, isQuoted, rfl⟩⟩
  | array each isRow => exact ⟨0x5B, _, rfl, shows_of_other (Or.inr (Or.inl rfl))⟩
  | object keys each isRow => exact ⟨0x7B, _, rfl, shows_of_other (Or.inr (Or.inr (Or.inl rfl)))⟩

end MediaTrail.Json
