/-
**Texts that fit into a column.** A line in columns is taken apart at its column marks and blanks, so
what counts of the text in a column is that it holds neither. Numbers, dates, spans of time and network
addresses do not; what a client says of its address need not be so well-behaved.

* `isColumnChar_decimal`, `isColumnChar_shown`: numbers and spans of time fit into a column;
* `isColumnChar_date`, `isColumnChar_clock`: so does the time in front of the columns;
* `isColumnChar_address`: so does the address of the other end of a connection.
-/

import MediaTrail.Address
import MediaTrail.Record

namespace MediaTrail

open Text

/-- Whether a character can belong to the text of a column: neither blank nor the mark between
columns. -/
def isColumnChar (char : Char) : Bool := !isBlank char && char != '|'

/-! ### Characters -/

/-- What is dropped from the start of a text, and where dropping stops. -/
theorem dropWhile_append_of_head? {drop : Char → Bool} {dropped rest : List Char}
    (all : ∀ char ∈ dropped, drop char = true) (stays : ∀ char ∈ rest.head?, drop char = false) :
    (dropped ++ rest).dropWhile drop = rest := by
  rw [List.dropWhile_append_of_pos all]
  cases rest with
  | nil => rfl
  | cons char rest => rw [List.dropWhile_cons_of_neg (by simp [stays char rfl])]

theorem isBlank_of_visible {char : Char} (low : 0x20 < char.toNat) (high : char.toNat < 0x7F) :
    isBlank char = false := by
  simp only [isBlank, covers, blankRanges, CodeRange.holds, List.any_cons, List.any_nil,
    Bool.or_false, Bool.or_eq_false_iff, Bool.and_eq_false_iff, decide_eq_false_iff_not]
  omega

theorem toNat_of_isDigit {char : Char} (digit : char.isDigit = true) :
    0x30 ≤ char.toNat ∧ char.toNat ≤ 0x39 := by
  rw [Char.isDigit, Bool.and_eq_true, decide_eq_true_eq, decide_eq_true_eq] at digit
  exact ⟨UInt32.le_iff_toNat_le.mp digit.1, UInt32.le_iff_toNat_le.mp digit.2⟩

theorem isColumnChar_of_isDigit {char : Char} (digit : char.isDigit = true) :
    isColumnChar char = true := by
  obtain ⟨low, high⟩ := toNat_of_isDigit digit
  have notMark : char ≠ '|' := by
    rintro rfl
    revert high
    decide
  have notBlank : isBlank char = false := isBlank_of_visible (by omega) (by omega)
  simp [isColumnChar, notBlank, notMark]

/-! ### Numbers -/

theorem isColumnChar_decimal (value : Nat) : ∀ char ∈ decimal value, isColumnChar char = true :=
  fun _ member =>
    isColumnChar_of_isDigit (Nat.isDigit_of_mem_toDigits (by decide) (by decide) member)

theorem isColumnChar_zeroPadded (width value : Nat) :
    ∀ char ∈ zeroPadded width value, isColumnChar char = true := by
  intro char member
  rw [zeroPadded, List.leftpad, List.mem_append] at member
  rcases member with zero | digit
  · rw [List.eq_of_mem_replicate zero]
    decide
  · exact isColumnChar_decimal value char digit

/-! ### Spans of time -/

theorem mem_of_mem_trimEndWhere {drop : Char → Bool} {text : List Char} {char : Char}
    (member : char ∈ trimEndWhere drop text) : char ∈ text := by
  rw [trimEndWhere, List.mem_reverse] at member
  exact List.mem_reverse.mp ((List.dropWhile_sublist drop).subset member)

theorem isColumnChar_inUnits (parts places : Nat) (unit : String)
    (fits : ∀ char ∈ unit.toList, isColumnChar char = true) :
    ∀ char ∈ Span.inUnits parts places unit, isColumnChar char = true := by
  intro char member
  simp only [Span.inUnits, List.mem_append] at member
  rcases member with (whole | fraction) | inUnit
  · exact isColumnChar_decimal _ char whole
  · split at fraction
    · cases fraction
    · rcases List.mem_cons.mp fraction with point | digit
      · subst point
        decide
      · exact isColumnChar_zeroPadded _ _ char (mem_of_mem_trimEndWhere digit)
  · exact fits char inUnit

theorem isColumnChar_clockText (span : Span) :
    ∀ char ∈ span.clockText, isColumnChar char = true := by
  have rest := isColumnChar_inUnits (span.nanoseconds % (60 * Span.perSecond)) 9 "s"
    (List.all_eq_true.mp (by decide))
  intro char member
  simp only [Span.clockText] at member
  split at member
  · simp only [List.mem_append, List.mem_cons] at member
    rcases member with (hours | rfl | minutes) | rfl | seconds
    · exact isColumnChar_decimal _ char hours
    · decide
    · exact isColumnChar_decimal _ char minutes
    · decide
    · exact rest char seconds
  · split at member
    · simp only [List.mem_append, List.mem_cons] at member
      rcases member with minutes | rfl | seconds
      · exact isColumnChar_decimal _ char minutes
      · decide
      · exact rest char seconds
    · exact rest char member

/-- The text of a span of time fits into a column. -/
theorem isColumnChar_shown (span : Span) :
    ∀ char ∈ span.shown.toList, isColumnChar char = true := by
  intro char member
  rw [Span.shown, Span.text, String.toList_ofList, Span.chars] at member
  split at member
  · exact List.all_eq_true.mp (by decide) char member
  split at member
  · exact isColumnChar_inUnits _ _ _ (List.all_eq_true.mp (by decide)) char member
  split at member
  · exact isColumnChar_inUnits _ _ _ (List.all_eq_true.mp (by decide)) char member
  split at member
  · exact isColumnChar_inUnits _ _ _ (List.all_eq_true.mp (by decide)) char member
  · exact isColumnChar_clockText _ char member

/-! ### The time in front of the columns -/

theorem isColumnChar_yearText (year : Int) :
    ∀ char ∈ Timestamp.yearText year, isColumnChar char = true := by
  have digits := isColumnChar_zeroPadded 4 year.natAbs
  intro char member
  rw [Timestamp.yearText] at member
  split at member
  · rcases List.mem_cons.mp member with rfl | digit
    · decide
    · exact digits char digit
  · split at member
    · exact digits char member
    · rcases List.mem_cons.mp member with rfl | digit
      · decide
      · exact digits char digit

theorem isColumnChar_date (time : Timestamp) (mark : Char) (fits : isColumnChar mark = true) :
    ∀ char ∈ time.date mark, isColumnChar char = true := by
  intro char member
  simp only [Timestamp.date, List.mem_append, List.mem_cons] at member
  rcases member with (year | rfl | month) | rfl | day
  · exact isColumnChar_yearText _ char year
  · exact fits
  · exact isColumnChar_zeroPadded _ _ char month
  · exact fits
  · exact isColumnChar_zeroPadded _ _ char day

theorem isColumnChar_clock (time : Timestamp) : ∀ char ∈ time.clock, isColumnChar char = true := by
  intro char member
  simp only [Timestamp.clock, List.mem_append, List.mem_cons] at member
  rcases member with (hour | rfl | minute) | rfl | second
  · exact isColumnChar_zeroPadded _ _ char hour
  · decide
  · exact isColumnChar_zeroPadded _ _ char minute
  · decide
  · exact isColumnChar_zeroPadded _ _ char second

theorem mark_not_mem_date (time : Timestamp) (mark : Char) (fits : isColumnChar mark = true) :
    '|' ∉ time.date mark :=
  fun member => absurd (isColumnChar_date time mark fits '|' member) (by decide)

theorem mark_not_mem_clock (time : Timestamp) : '|' ∉ time.clock :=
  fun member => absurd (isColumnChar_clock time '|' member) (by decide)

/-! ### Network addresses -/

theorem isColumnChar_hexadecimal (value : Nat) :
    ∀ char ∈ Nat.toDigits 16 value, isColumnChar char = true := by
  have digit : ∀ value : Fin 16, isColumnChar value.val.digitChar = true := by decide
  induction value using Nat.strongRecOn with
  | ind value ih =>
    rw [Nat.toDigits_eq_if (by decide)]
    split
    · rename_i small
      exact List.forall_mem_singleton.mpr (digit ⟨value, small⟩)
    · exact List.forall_mem_append.mpr ⟨ih (value / 16) (by omega),
        List.forall_mem_singleton.mpr (digit ⟨value % 16, Nat.mod_lt _ (by decide)⟩)⟩

namespace Address

theorem isColumnChar_separated {mark : Char} (fits : isColumnChar mark = true)
    {parts : List (List Char)} (each : ∀ part ∈ parts, ∀ char ∈ part, isColumnChar char = true) :
    ∀ char ∈ separated mark parts, isColumnChar char = true := by
  induction parts with
  | nil => exact fun _ member => nomatch member
  | cons first rest ih =>
    obtain ⟨here, later⟩ := List.forall_mem_cons.mp each
    cases rest with
    | nil => exact here
    | cons second rest =>
      exact List.forall_mem_append.mpr ⟨here, List.forall_mem_cons.mpr ⟨fits, ih later⟩⟩

theorem isColumnChar_octets (parts : List UInt8) :
    ∀ char ∈ octets parts, isColumnChar char = true :=
  isColumnChar_separated (by decide) <| List.forall_mem_map.mpr fun part _ =>
    isColumnChar_decimal part.toNat

theorem isColumnChar_groups (parts : List UInt16) :
    ∀ char ∈ groups parts, isColumnChar char = true :=
  isColumnChar_separated (by decide) <| List.forall_mem_map.mpr fun part _ =>
    isColumnChar_hexadecimal part.toNat

theorem isColumnChar_compressed (parts : List UInt16) :
    ∀ char ∈ compressed parts, isColumnChar char = true := by
  have colon : isColumnChar ':' = true := by decide
  simp only [compressed]
  split
  · exact List.forall_mem_append.mpr ⟨isColumnChar_groups _,
      List.forall_mem_cons.mpr ⟨colon, List.forall_mem_cons.mpr ⟨colon, isColumnChar_groups _⟩⟩⟩
  · exact isColumnChar_groups _

end Address

/-- The text of an address fits into a column. -/
theorem isColumnChar_address (address : Address) :
    ∀ char ∈ address.chars, isColumnChar char = true := by
  cases address with
  | v4 a b c d => exact Address.isColumnChar_octets _
  | v6 a b c d e f g h =>
    simp only [Address.chars]
    split
    · exact List.forall_mem_append.mpr
        ⟨List.all_eq_true.mp (by decide), Address.isColumnChar_octets _⟩
    · exact Address.isColumnChar_compressed _

end MediaTrail
