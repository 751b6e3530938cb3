/-
**Aligned columns.** The columns of a line have fixed widths, but a text that is too long for its column
is kept whole and pushes the others to the right. A year of four digits, a status of three characters,
an address of fifteen and a latency of less than a million hours do not: then each column mark and the
method stand at the same places in every line.

The width for latencies leaves nothing to spare. A span of less than a minute may have two digits in
front of the point and nine behind it; a longer one is shown in whole seconds, so that six digits are
left for its hours.

* `length_decimal_le`, `length_inUnits_le`: how long a number gets;
* `Span.length_shown_le`: a latency fits into its column;
* `drop_column`: where a column of known width ends, the next one starts;
* `columns_aligned`: where the columns of a line stand.
-/

import Mathlib.Data.List.Basic
import MediaTrail.Proofs.ColumnTexts
import MediaTrail.Proofs.RequestColumn

namespace MediaTrail

open Text

/-! ### Numbers -/

theorem length_decimal_le {value digits : Nat} (positive : 0 < digits)
    (small : value < Nat.pow 10 digits) : (decimal value).length ≤ digits :=
  (Nat.length_toDigits_le_iff (by decide) positive).mpr small

theorem length_zeroPadded {width value : Nat} (positive : 0 < width)
    (small : value < Nat.pow 10 width) : (zeroPadded width value).length = width := by
  rw [zeroPadded, List.length_leftpad]
  exact Nat.max_eq_left (length_decimal_le positive small)

theorem length_trimEndWhere_le (drop : Char → Bool) (text : List Char) :
    (trimEndWhere drop text).length ≤ text.length := by
  rw [trimEndWhere, List.length_reverse]
  exact (List.dropWhile_sublist drop).length_le.trans_eq List.length_reverse

theorem length_toRight_of_le {width : Nat} {text : List Char} (fits : text.length ≤ width) :
    (toRight width text).length = width :=
  (length_toRight width text).trans (Nat.max_eq_left fits)

/-! ### Spans of time -/

namespace Span

/-- Whole units, a point and all decimal places. -/
theorem length_inUnits_le {parts : Nat} (places digits : Nat) (unit : String) (positive : 0 < digits)
    (small : parts / Nat.pow 10 places < Nat.pow 10 digits) :
    (inUnits parts places unit).length ≤ digits + (1 + places) + unit.toList.length := by
  have whole := length_decimal_le positive small
  simp only [inUnits, List.length_append]
  split
  · simp only [List.length_nil]
    omega
  · rename_i fraction
    have somePlace : 0 < places := by
      refine Nat.pos_of_ne_zero fun zero => fraction ?_
      rw [zero]
      exact Nat.mod_one parts
    have padded : (zeroPadded places (parts % Nat.pow 10 places)).length = places :=
      length_zeroPadded somePlace (Nat.mod_lt _ (Nat.pow_pos (by decide)))
    have trimmed := length_trimEndWhere_le (· == '0') (zeroPadded places (parts % Nat.pow 10 places))
    rw [padded] at trimmed
    rw [List.length_cons]
    omega

/-- Whole units alone, if there are no parts left over. -/
theorem length_inUnits_of_whole {parts : Nat} (places digits : Nat) (unit : String) (positive : 0 < digits)
    (small : parts / Nat.pow 10 places < Nat.pow 10 digits)
    (whole : parts % Nat.pow 10 places = 0) :
    (inUnits parts places unit).length ≤ digits + unit.toList.length := by
  simp only [inUnits, List.length_append, if_pos whole, List.length_nil]
  exact Nat.add_le_add_right (length_decimal_le positive small) _

/-- A span of at least a minute is shown in whole seconds, which leaves room for its hours. -/
theorem length_clockText_of_whole {span : Span} (whole : span.nanoseconds % perSecond = 0)
    (short : span.nanoseconds < 1000000 * 3600 * perSecond) : span.clockText.length ≤ 13 := by
  simp only [perSecond, Nat.reduceMul] at whole short
  have seconds : (inUnits (span.nanoseconds % (60 * perSecond)) 9 "s").length ≤ 2 + 1 :=
    length_inUnits_of_whole 9 2 "s" (by decide)
      (show span.nanoseconds % 60000000000 / 1000000000 < 100 by omega)
      (show span.nanoseconds % 60000000000 % 1000000000 = 0 by omega)
  have minutes : (decimal (span.seconds % 3600 / 60)).length ≤ 2 :=
    length_decimal_le (by decide) (show _ < 100 by omega)
  have hours : (decimal (span.seconds / 3600)).length ≤ 6 :=
    length_decimal_le (by decide)
      (show span.nanoseconds / 1000000000 / 3600 < 1000000 by omega)
  simp only [clockText]
  split
  · simp only [List.length_append, List.length_cons]
    omega
  · split
    · simp only [List.length_append, List.length_cons]
      omega
    · omega

/-- A span of less than a minute has seconds alone, with up to nine decimal places. -/
theorem length_clockText_of_lt {span : Span} (short : span.nanoseconds < 60 * perSecond) :
    span.clockText.length ≤ 13 := by
  simp only [perSecond, Nat.reduceMul] at short
  have noHours : ¬0 < span.seconds / 3600 := by
    show ¬0 < span.nanoseconds / 1000000000 / 3600
    omega
  have noMinutes : ¬0 < span.seconds % 3600 / 60 := by
    show ¬0 < span.nanoseconds / 1000000000 % 3600 / 60
    omega
  simp only [clockText, if_neg noHours, if_neg noMinutes]
  exact length_inUnits_le 9 2 "s" (by decide)
    (show span.nanoseconds % 60000000000 / 1000000000 < 100 by omega)

/-- Spans of less than a second need less room than clock times. -/
theorem length_chars_le {span : Span} (clock : span.clockText.length ≤ 13) :
    span.chars.length ≤ 13 := by
  rw [chars]
  split
  · decide
  split
  · rename_i below
    have fits := length_inUnits_le 0 3 "ns" (by decide)
      (show span.nanoseconds / 1 < 1000 by omega)
    exact fits.trans (by decide)
  split
  · rename_i below
    have fits := length_inUnits_le 3 3 "µs" (by decide)
      (show span.nanoseconds / 1000 < 1000 by omega)
    exact fits.trans (by decide)
  split
  · rename_i below
    have fits := length_inUnits_le 6 3 "ms" (by decide)
      (show span.nanoseconds / 1000000 < 1000 by omega)
    exact fits.trans (by decide)
  · exact clock

/-- **A latency of less than a million hours fits into its column.** -/
theorem length_shown_le {latency : Span} (short : latency.nanoseconds < 1000000 * 3600 * perSecond) :
    latency.shown.length ≤ 13 := by
  rw [shown, text, String.length_ofList]
  refine length_chars_le ?_
  rw [truncated]
  split
  · have kept : (ofSeconds latency.seconds 0).nanoseconds =
        latency.nanoseconds / perSecond * perSecond := Nat.add_zero _
    refine length_clockText_of_whole ?_ ?_
    · rw [kept, Nat.mul_mod_left]
    · rw [kept]
      exact Nat.lt_of_le_of_lt (Nat.div_mul_le_self _ _) short
  · rename_i atMost
    rcases Nat.lt_or_eq_of_le (Nat.not_lt.mp atMost) with below | minute
    · exact length_clockText_of_lt below
    · exact length_clockText_of_whole (by rw [minute, Nat.mul_mod_left]) short

end Span

/-! ### What fits into the columns -/

/-- A moment of a year with four digits, as a calendar and a clock give it. -/
structure Timestamp.HasFourDigitYear (time : Timestamp) : Prop where
  year : 0 ≤ time.year ∧ time.year ≤ 9999
  month : time.month < 100
  day : time.day < 100
  hour : time.hour < 100
  minute : time.minute < 100
  second : time.second < 100

/-- A record none of whose texts is too long for its column. -/
structure Record.FitsColumns (record : Record) : Prop where
  time : record.time.HasFourDigitYear
  status : ∀ status ∈ record.status, (decimal status).length ≤ 3
  latency : ∀ latency ∈ record.latency, latency.nanoseconds < 1000000 * 3600 * Span.perSecond
  address : record.clientAddress.length ≤ 15

theorem Timestamp.HasFourDigitYear.length_date {time : Timestamp} (short : time.HasFourDigitYear)
    (mark : Char) : (time.date mark).length = 10 := by
  obtain ⟨notBefore, notBehind⟩ := short.year
  have year : (yearText time.year).length = 4 := by
    rw [yearText, if_neg (by omega), if_pos (by omega)]
    exact length_zeroPadded (by decide) (show time.year.natAbs < 10000 by omega)
  simp only [date, List.length_append, List.length_cons, year,
    length_zeroPadded (by decide) (show time.month < Nat.pow 10 2 from short.month),
    length_zeroPadded (by decide) (show time.day < Nat.pow 10 2 from short.day)]

theorem Timestamp.HasFourDigitYear.length_clock {time : Timestamp}
    (short : time.HasFourDigitYear) : time.clock.length = 8 := by
  simp only [clock, List.length_append, List.length_cons,
    length_zeroPadded (by decide) (show time.hour < Nat.pow 10 2 from short.hour),
    length_zeroPadded (by decide) (show time.minute < Nat.pow 10 2 from short.minute),
    length_zeroPadded (by decide) (show time.second < Nat.pow 10 2 from short.second)]

namespace Record.FitsColumns

variable {record : Record}

theorem length_statusColumn (fits : record.FitsColumns) : record.statusColumn.length = 3 := by
  rw [statusColumn]
  apply length_toRight_of_le
  cases known : record.status with
  | some status => exact fits.status status known
  | none => decide

theorem length_latencyColumn (fits : record.FitsColumns) : record.latencyColumn.length = 13 := by
  rw [latencyColumn]
  apply length_toRight_of_le
  cases known : record.latency with
  | some latency => exact Span.length_shown_le (fits.latency latency known)
  | none => decide

theorem length_addressColumn (fits : record.FitsColumns) :
    (toRight 15 record.clientAddress.toList).length = 15 :=
  length_toRight_of_le fits.address

end Record.FitsColumns

/-! ### Where columns stand -/

/-- A column that starts with its mark: where the mark stands, where the text of the column starts,
and what follows where it ends. -/
theorem drop_column {text column rest : List Char} {place : Nat}
    (here : text.drop place = '|' :: ' ' :: (column ++ ' ' :: rest)) :
    text[place]? = some '|' ∧ text.drop (place + 2) = column ++ ' ' :: rest ∧
      text.drop (place + (column.length + 3)) = rest := by
  refine ⟨?_, ?_, ?_⟩
  · have first : (text.drop place)[0]? = some '|' := by rw [here]; rfl
    rwa [List.getElem?_drop] at first
  · rw [← List.drop_drop, here]
    rfl
  · have parts : '|' :: ' ' :: (column ++ ' ' :: rest) = ('|' :: ' ' :: column ++ [' ']) ++ rest := by
      simp
    rw [← List.drop_drop, here, parts]
    exact List.drop_left' (by simp)

/-- A line whose columns stand at the places that they have in every line. -/
structure IsAligned (record : Record) (text : List Char) : Prop where
  time : text.take 27 =
    "[GIN] ".toList ++ record.time.date '/' ++ " - ".toList ++ record.time.clock
  marks : ∀ place ∈ [28, 34, 50, 68], text[place]? = some '|'
  status : (text.drop 30).take 3 = record.statusColumn
  latency : (text.drop 36).take 13 = record.latencyColumn
  address : (text.drop 52).take 15 = toRight 15 record.clientAddress.toList
  method : record.method.toList <+: text.drop 70

theorem Record.FitsColumns.isAligned {record : Record} (fits : record.FitsColumns) :
    IsAligned record (Layout.columns.render record).toList := by
  have time : ("[GIN] ".toList ++ record.time.date '/' ++ " - ".toList ++
      record.time.clock).length = 27 := by
    simp [fits.time.length_date, fits.time.length_clock]
  have rendered : (Layout.columns.render record).toList = record.inColumns := String.toList_ofList
  rw [inColumns_eq] at rendered
  generalize (Layout.columns.render record).toList = text at rendered
  have first := (congrArg (List.drop 28) rendered).trans
    (List.drop_left' (by rw [List.length_append, time, List.length_singleton]))
  obtain ⟨statusMark, status, second⟩ := drop_column first
  rw [fits.length_statusColumn] at second
  obtain ⟨latencyMark, latency, third⟩ := drop_column second
  rw [fits.length_latencyColumn] at third
  obtain ⟨addressMark, address, fourth⟩ := drop_column third
  rw [fits.length_addressColumn] at fourth
  obtain ⟨methodMark, method, -⟩ := drop_column fourth
  exact {
    time := by rw [rendered, List.append_assoc, List.take_left' time]
    marks := by simp [statusMark, latencyMark, addressMark, methodMark]
    status := (congrArg (List.take 3) status).trans (List.take_left' fits.length_statusColumn)
    latency := (congrArg (List.take 13) latency).trans (List.take_left' fits.length_latencyColumn)
    address := (congrArg (List.take 15) address).trans (List.take_left' fits.length_addressColumn)
    method := by
      rw [method, toLeft, List.rightpad, List.append_assoc]
      exact List.prefix_append _ _ }

/-- **Columns stand at the same places in every line.** The text of a latency of less than a million
hours has at most thirteen characters, and neither a blank nor a column mark among them. So in the line
of a record whose texts are not too long, the four column marks behind the time and the first
character of the method stand at places that do not depend on the record. -/
theorem columns_aligned (record : Record) (fits : record.FitsColumns) :
    (∀ latency : Span, latency.nanoseconds < 1000000 * 3600 * Span.perSecond →
      latency.shown.length ≤ 13 ∧
        ∀ char ∈ latency.shown.toList, isBlank char = false ∧ char ≠ '|') ∧
    IsAligned record (Layout.columns.render record).toList := by
  refine ⟨fun latency short => ⟨Span.length_shown_le short, fun char member => ?_⟩, fits.isAligned⟩
  have inColumn := isColumnChar_shown latency char member
  rw [isColumnChar, Bool.and_eq_true, Bool.not_eq_true', bne_iff_ne] at inColumn
  exact inColumn

/-- Records whose latencies take all the places there are, in two ways. -/
theorem columns_aligned_at_full_width :
    let time : Timestamp := ⟨9999, 12, 31, 23, 59, 60⟩
    let record (latency : Span) : Record :=
      ⟨time, "255.255.255.255", "OPTIONS", "/a|b.mp4", "ann", some 503, some latency, "x | y"⟩
    let brief := Span.ofSeconds 59 999999999
    let long := Span.ofSeconds 3599999999 999999999
    brief.shown = "59.999999999s" ∧ long.shown = "999999h59m59s" ∧
      (record brief).FitsColumns ∧ (record long).FitsColumns ∧
      IsAligned (record brief) (Layout.columns.render (record brief)).toList ∧
      IsAligned (record long) (Layout.columns.render (record long)).toList := by
  intro time record brief long
  have dated : time.HasFourDigitYear :=
    ⟨by decide, by decide, by decide, by decide, by decide, by decide⟩
  have fits (latency : Span) (short : latency.nanoseconds < 1000000 * 3600 * Span.perSecond) :
      (record latency).FitsColumns := {
    time := dated
    status := fun status same => by obtain rfl := Option.some.inj same; decide
    latency := fun other same => by obtain rfl := Option.some.inj same; exact short
    address := show "255.255.255.255".length ≤ 15 by decide }
  have briefFits := fits brief (by decide)
  have longFits := fits long (by decide)
  exact ⟨by decide, by decide, briefFits, longFits, (columns_aligned _ briefFits).2,
    (columns_aligned _ longFits).2⟩

end MediaTrail
