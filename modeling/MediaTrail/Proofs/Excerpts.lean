/-
**Excerpts of texts.** A body is cut after so many bytes, and a text has characters of one to four. What
is shown of a text that is too long is the longest beginning of whole characters that fits; a character
that the cut goes through is one replacement character, however many of its bytes are left.

* `eq_nil_of_silent`: reading that ends between characters without a piece has read nothing;
* `scan_cut`: the beginning of the bytes of a character is one ill-formed piece;
* `exists_cut`: where a cut lies in a text;
* `excerpt_of_text`: the excerpt of any text at any limit, and what that of any body depends on.
-/

import MediaTrail.Excerpt
import MediaTrail.Proofs.Encoding

namespace MediaTrail

open Text (Bytes)

namespace Text.Utf8

/-! ### Characters that are cut -/

theorem run_append (under : Option Partial) (left right : Bytes) :
    run under (left ++ right) =
      ((run under left).1 ++ (run (run under left).2 right).1, (run (run under left).2 right).2) := by
  induction left generalizing under with
  | nil => rfl
  | cons byte rest ih => simp only [List.cons_append, run, ih, List.append_assoc]

/-- Reading is over with the pieces so far and what is under way. -/
theorem scanFrom_eq_run (under : Option Partial) (bytes : Bytes) :
    scanFrom [] under bytes = (run under bytes).1 ++ ending (run under bytes).2 := by
  have parts := scanFrom_append under bytes []
  rw [List.append_nil] at parts
  rw [parts]
  rfl

/-- A first byte that is no piece starts a character. -/
theorem exists_under_of_silent_first {byte : UInt8} (silent : (first byte).1 = []) :
    ∃ later, (first byte).2 = some later := by
  by_cases short : byte < 0x80
  · rw [first, if_pos short] at silent
    cases silent
  · rw [first, if_neg short] at silent ⊢
    cases started : start? byte with
    | none =>
      rw [started] at silent
      cases silent
    | some later => exact ⟨later, rfl⟩

/-- A byte that completes no piece is part of a character under way. -/
theorem exists_under_of_silent {under : Option Partial} {byte : UInt8}
    (silent : (next under byte).1 = []) : ∃ later, (next under byte).2 = some later := by
  match under with
  | none => exact exists_under_of_silent_first silent
  | some ⟨bits, low, high, more⟩ =>
    by_cases fits : (low ≤ byte && byte ≤ high) = true
    · rw [next, if_pos fits] at silent ⊢
      cases more with
      | zero => cases silent
      | succ more => exact ⟨_, rfl⟩
    · rw [next, if_neg fits] at silent
      cases silent

/-- Reading that ends between characters without a piece has read nothing. -/
theorem eq_nil_of_silent {under : Option Partial} {bytes : Bytes}
    (silent : run under bytes = ([], none)) : bytes = [] ∧ under = none := by
  induction bytes generalizing under with
  | nil => exact ⟨rfl, congrArg Prod.snd silent⟩
  | cons byte rest ih =>
    obtain ⟨pieces, ended⟩ := Prod.mk.inj silent
    obtain ⟨noneHere, noneLater⟩ := List.append_eq_nil_iff.mp pieces
    obtain ⟨later, isUnder⟩ := exists_under_of_silent noneHere
    obtain ⟨-, between⟩ := ih (Prod.ext noneLater ended)
    rw [isUnder] at between
    cases between

/-- **The beginning of the bytes of a character** is one ill-formed piece: the one piece of the character
is completed by its last byte, which lies behind the cut. -/
theorem scan_cut {char : Char} {left right : Bytes} (parts : String.utf8EncodeChar char = left ++ right)
    (begun : left ≠ []) (cut : right ≠ []) : scan left = [none] := by
  have whole := run_encodeChar char
  rw [parts, run_append] at whole
  obtain ⟨pieces, ended⟩ := Prod.mk.inj whole
  rw [scan, scanFrom_eq_run]
  cases before : (run none left).1 with
  | nil =>
    cases under : (run none left).2 with
    | none => exact absurd (eq_nil_of_silent (Prod.ext before under)).1 begun
    | some later => rfl
  | cons piece more =>
    rw [before, List.cons_append] at pieces
    have noneLater := (List.append_eq_nil_iff.mp (List.cons.inj pieces).2).2
    exact absurd (eq_nil_of_silent (Prod.ext noneLater ended)).1 cut

/-- Each character in front is a piece of its own. -/
theorem scan_encode_append (chars : List Char) (rest : Bytes) :
    scan (chars.flatMap String.utf8EncodeChar ++ rest) = chars.map some ++ scan rest := by
  induction chars with
  | nil => rfl
  | cons char later ih =>
    have parts := scanFrom_append none (String.utf8EncodeChar char)
      (later.flatMap String.utf8EncodeChar ++ rest)
    rw [run_encodeChar] at parts
    rw [List.flatMap_cons, List.append_assoc, scan, parts, ← scan, ih]
    rfl

theorem lossy_encode_append (text : String) (rest : Bytes) :
    lossy (encode text ++ rest) = text ++ lossy rest := by
  rw [lossy, encode, scan_encode_append, lossy, List.map_append, List.map_map, String.ofList_append]
  simp [Function.comp_def]

/-! ### Cuts in a text -/

/-- A beginning of a text that fits into so many bytes, and contains every other one that does. -/
structure LongestWithin (limit : Nat) (text front : String) : Prop where
  start : front.toList <+: text.toList
  fits : (encode front).length ≤ limit
  longest : ∀ other : String, other.toList <+: text.toList → (encode other).length ≤ limit →
    other.toList <+: front.toList

/-- So many bytes of a text end inside one of its characters. -/
def EndsInside (text : String) (count : Nat) : Prop :=
  ∃ (front : String) (char : Char), (front.push char).toList <+: text.toList ∧
    (encode front).length < count ∧ count < (encode (front.push char)).length

theorem encode_push (text : String) (char : Char) :
    encode (text.push char) = encode text ++ String.utf8EncodeChar char := by
  simp [encode]

/-- A beginning of a text has no more bytes than the text. -/
theorem length_encode_le {front text : String} (start : front.toList <+: text.toList) :
    (encode front).length ≤ (encode text).length := by
  obtain ⟨rest, parts⟩ := start
  rw [encode, encode, ← parts, List.flatMap_append, List.length_append]
  exact Nat.le_add_right _ _

/-- A cut in a text goes through a character, or lies right in front of it: through the first that does
not fit whole. -/
theorem exists_cut {text : String} {limit : Nat} (long : limit < (encode text).length) :
    ∃ (front : String) (char : Char) (rest : List Char),
      text.toList = front.toList ++ char :: rest ∧ (encode front).length ≤ limit ∧
      limit < (encode (front.push char)).length := by
  have general : ∀ (later : List Char) (front : String), text.toList = front.toList ++ later →
      (encode front).length ≤ limit → ∃ (front : String) (char : Char) (rest : List Char),
        text.toList = front.toList ++ char :: rest ∧ (encode front).length ≤ limit ∧
        limit < (encode (front.push char)).length := by
    intro later
    induction later with
    | nil =>
      intro front parts fits
      have whole : text = front := String.toList_injective (parts.trans (List.append_nil _))
      rw [whole] at long
      exact absurd long (Nat.not_lt.mpr fits)
    | cons char rest ih =>
      intro front parts fits
      by_cases goesOn : (encode (front.push char)).length ≤ limit
      · refine ih (front.push char) ?_ goesOn
        rw [parts, String.toList_push, List.append_assoc, List.singleton_append]
      · exact ⟨front, char, rest, parts, fits, Nat.lt_of_not_le goesOn⟩
  exact general text.toList "" rfl (Nat.zero_le limit)

section Cut

variable {text front : String} {char : Char} {rest : List Char} {limit : Nat}
  (parts : text.toList = front.toList ++ char :: rest)
  (fits : (encode front).length ≤ limit) (beyond : limit < (encode (front.push char)).length)

include parts in
theorem push_start : (front.push char).toList <+: text.toList :=
  ⟨rest, by rw [parts, String.toList_push, List.append_assoc, List.singleton_append]⟩

include parts fits beyond in
/-- The characters in front of a cut are the longest beginning that fits. A longer one has the character
behind the cut as well. -/
theorem longestWithin_of_cut : LongestWithin limit text front where
  start := ⟨char :: rest, parts.symm⟩
  fits := fits
  longest := by
    intro other start within
    by_cases short : other.toList.length ≤ front.toList.length
    · exact List.prefix_of_prefix_length_le start ⟨char :: rest, parts.symm⟩ short
    · have contains : (front.push char).toList <+: other.toList := by
        refine List.prefix_of_prefix_length_le (push_start parts) start ?_
        rw [String.toList_push, List.length_append, List.length_singleton]
        exact Nat.lt_of_not_le short
      have more := length_encode_le contains
      omega

include parts fits beyond in
/-- A cut goes through a character exactly if bytes are left behind the characters that fit. No other
beginning ends there: it would be shorter, and would fit with its next character. -/
theorem endsInside_iff_of_cut : EndsInside text limit ↔ (encode front).length < limit := by
  constructor
  · rintro ⟨other, inside, start, before, behind⟩
    have isBegun : other.toList <+: text.toList := by
      refine List.IsPrefix.trans ⟨[inside], ?_⟩ start
      rw [String.toList_push]
    have isFront := (longestWithin_of_cut parts fits beyond).longest other isBegun
      (Nat.le_of_lt before)
    by_cases same : other.toList.length = front.toList.length
    · have equal : other = front := String.toList_injective (isFront.eq_of_length same)
      rwa [equal] at before
    · have contained : (other.push inside).toList <+: front.toList := by
        refine List.prefix_of_prefix_length_le start ⟨char :: rest, parts.symm⟩ ?_
        have shorter := isFront.length_le
        rw [String.toList_push, List.length_append, List.length_singleton]
        omega
      have less := length_encode_le contained
      omega
  · exact fun before => ⟨front, char, push_start parts, before, beyond⟩

include parts fits beyond in
/-- The bytes in front of a cut are those of the characters that fit, and the first ones of the next
character. -/
theorem take_encode_of_cut : (encode text).take limit =
    encode front ++ (String.utf8EncodeChar char).take (limit - (encode front).length) := by
  have bytes : encode text =
      encode front ++ (String.utf8EncodeChar char ++ rest.flatMap String.utf8EncodeChar) := by
    rw [encode, encode, parts, List.flatMap_append, List.flatMap_cons]
  have within : limit - (encode front).length ≤ (String.utf8EncodeChar char).length := by
    rw [encode_push, List.length_append] at beyond
    omega
  rw [bytes, List.take_append, List.take_of_length_le fits, List.take_append_of_le_length within]

include parts fits beyond in
/-- **What is read in front of a cut:** the characters that fit, and one replacement character for one
that the cut goes through. -/
theorem lossy_take_of_cut : lossy ((encode text).take limit) =
    front ++ if (encode front).length < limit then "\uFFFD" else "" := by
  rw [take_encode_of_cut parts fits beyond, lossy_encode_append]
  congr 1
  by_cases inside : (encode front).length < limit
  · rw [if_pos inside]
    rw [encode_push, List.length_append] at beyond
    have halves := (List.take_append_drop (limit - (encode front).length)
      (String.utf8EncodeChar char)).symm
    have cut := scan_cut halves (by rw [Ne, List.take_eq_nil_iff, ← List.length_eq_zero_iff]; omega)
      (by rw [Ne, List.drop_eq_nil_iff]; omega)
    rw [lossy, cut]
    rfl
  · rw [if_neg inside, Nat.sub_eq_zero_of_le (Nat.le_of_not_lt inside)]
    rfl

end Cut

end Text.Utf8

/-! ### Excerpts -/

open Text.Utf8

/-- **The excerpt of a text** is the whole text if it fits. Otherwise it is the longest beginning of
whole characters that fits, one replacement character exactly if the limit lies inside a character, and
the note of the whole size. In front of the note, the excerpt of any body depends on nothing but the
bytes up to the limit. -/
theorem excerpt_of_text :
    (∀ (text : String) (limit : Nat),
      ((encode text).length ≤ limit → excerpt (encode text) limit = text) ∧
      (limit < (encode text).length → ∃ front mark, LongestWithin limit text front ∧
        (EndsInside text limit → mark = "\uFFFD") ∧ (¬ EndsInside text limit → mark = "") ∧
        excerpt (encode text) limit = front ++ mark ++ excerptNote (encode text).length)) ∧
    ∃ shown : Bytes → String, ∀ (body : Bytes) (limit : Nat), excerpt body limit =
      shown (body.take limit) ++ if body.length ≤ limit then "" else excerptNote body.length := by
  refine ⟨fun text limit => ⟨fun short => ?_, fun long => ?_⟩, lossy, fun body limit => ?_⟩
  · rw [excerpt, if_pos short, lossy_encode]
  · obtain ⟨front, char, rest, parts, fits, beyond⟩ := exists_cut long
    have inside := endsInside_iff_of_cut parts fits beyond
    refine ⟨front, if (encode front).length < limit then "\uFFFD" else "",
      longestWithin_of_cut parts fits beyond, fun isInside => if_pos (inside.mp isInside),
      fun notInside => if_neg (mt inside.mpr notInside), ?_⟩
    rw [excerpt, if_neg (Nat.not_le.mpr long), lossy_take_of_cut parts fits beyond]
  · rw [excerpt]
    by_cases short : body.length ≤ limit
    · rw [if_pos short, if_pos short, List.take_of_length_le short, String.append_empty]
    · rw [if_neg short, if_neg short]

/-- A character of three bytes, cut behind its second one: one replacement character is left of it. -/
theorem excerpt_of_cut_sign :
    let text := "a€b"
    3 < (encode text).length ∧ EndsInside text 3 ∧
      (∃ front, LongestWithin 3 text front ∧
        excerpt (encode text) 3 = front ++ "\uFFFD" ++ excerptNote 5) ∧
      excerpt (encode text) 3 = "a\uFFFD...(已截断, 共 5 字节)" ∧ excerpt (encode text) 5 = text := by
  intro text
  have inside : EndsInside text 3 := ⟨"a", '€', ⟨['b'], by decide⟩, by decide, by decide⟩
  obtain ⟨front, mark, longest, isMark, -, shown⟩ := (excerpt_of_text.1 text 3).2 (by decide)
  refine ⟨by decide, inside, ⟨front, longest, ?_⟩, by decide +kernel,
    (excerpt_of_text.1 text 5).1 (by decide)⟩
  have size : (encode text).length = 5 := by decide
  rw [isMark inside, size] at shown
  exact shown

end MediaTrail
